import MaCore.Base.Map
import MaCore.Base.Prog

open rust

namespace ma_core.kubo

/-- The functions that send one request to a Kubo daemon. -/
inductive Rpc where
  | list_named_recursive_pins (kubo_url name : String)
  | pin_add_named (kubo_url cid name : String)
  | pin_rm (kubo_url cid : String)
  | list_named_remote_pins (kubo_url service name : String)
  | remote_pin_add_named (kubo_url service cid name : String)
  | remote_pin_rm_named (kubo_url service cid name : String)
deriving DecidableEq, Repr

abbrev Rpc.Value : Rpc → Type
  | list_named_recursive_pins .. | list_named_remote_pins .. => List String
  | pin_add_named .. | pin_rm .. | remote_pin_add_named .. | remote_pin_rm_named .. => Unit

/-- What each returns: its value, or the text of an error. -/
abbrev Rpc.Reply (rpc : Rpc) : Type := Except String rpc.Value

/-- Code that sends requests to Kubo. -/
abbrev Io := Prog Rpc Rpc.Reply

def list_named_recursive_pins (kubo_url name : String) : Io (Except String (List String)) :=
  .issue (Rpc.list_named_recursive_pins kubo_url name)

def pin_add_named (kubo_url cid name : String) : Io (Except String Unit) :=
  .issue (Rpc.pin_add_named kubo_url cid name)

def pin_rm (kubo_url cid : String) : Io (Except String Unit) := .issue (Rpc.pin_rm kubo_url cid)

def list_named_remote_pins (kubo_url service name : String) : Io (Except String (List String)) :=
  .issue (Rpc.list_named_remote_pins kubo_url service name)

def remote_pin_add_named (kubo_url service cid name : String) : Io (Except String Unit) :=
  .issue (Rpc.remote_pin_add_named kubo_url service cid name)

def remote_pin_rm_named (kubo_url service cid name : String) : Io (Except String Unit) :=
  .issue (Rpc.remote_pin_rm_named kubo_url service cid name)

/-- The local pins of each Kubo: the name of every recursively pinned CID. -/
abbrev Pins := String → Map String String

/-- The pins of one Kubo replaced. -/
def Pins.set (self : Pins) (kubo_url : String) (pins : Map String String) : Pins :=
  fun url => if url = kubo_url then pins else self url

/-- How Kubo may reply, and the local pins then. A request that fails may have
    taken effect before; what a remote service has pinned is left open. -/
inductive Pins.Replies (pins : Pins) : (rpc : Rpc) → rpc.Reply → Pins → Prop
  | listed (kubo_url name : String) (cids : List String)
    (hcids : ∀ cid, cid ∈ cids ↔ (pins kubo_url).get cid = some name) :
    Replies pins (.list_named_recursive_pins kubo_url name) (.ok cids) pins
  | added (kubo_url cid name : String) :
    Replies pins (.pin_add_named kubo_url cid name) (.ok ())
      (pins.set kubo_url ((pins kubo_url).insert cid name))
  | removed (kubo_url cid : String) :
    Replies pins (.pin_rm kubo_url cid) (.ok ()) (pins.set kubo_url ((pins kubo_url).remove cid))
  | remote_listed (kubo_url service name : String) (cids : List String) :
    Replies pins (.list_named_remote_pins kubo_url service name) (.ok cids) pins
  | remote_added (kubo_url service cid name : String) :
    Replies pins (.remote_pin_add_named kubo_url service cid name) (.ok ()) pins
  | remote_removed (kubo_url service cid name : String) :
    Replies pins (.remote_pin_rm_named kubo_url service cid name) (.ok ()) pins
  | failed (rpc : Rpc) (text : String) : Replies pins rpc (.error text) pins
  | failed_late (rpc : Rpc) (value : rpc.Value) (text : String) (pins' : Pins)
    (hdone : Replies pins rpc (.ok value) pins') : Replies pins rpc (.error text) pins'

/-- The CID is pinned on this Kubo. -/
def Pins.Pinned (self : Pins) (kubo_url cid : String) : Prop := (self kubo_url).contains_key cid = true

section
variable {pins pins' : Pins} {kubo_url cid : String}

theorem Pins.pinned_add_iff {added_url added_cid name : String} :
    (pins.set added_url ((pins added_url).insert added_cid name)).Pinned kubo_url cid ↔
      (kubo_url = added_url ∧ cid = added_cid) ∨ pins.Pinned kubo_url cid := by
  unfold Pinned set
  by_cases hurl : kubo_url = added_url
  · subst hurl
    rw [if_pos rfl, Map.contains_key_insert_iff]
    simp
  · rw [if_neg hurl]
    simp [hurl]

theorem Pins.pinned_remove_iff {removed_url removed_cid : String} :
    (pins.set removed_url ((pins removed_url).remove removed_cid)).Pinned kubo_url cid ↔
      ¬ (kubo_url = removed_url ∧ cid = removed_cid) ∧ pins.Pinned kubo_url cid := by
  unfold Pinned set
  by_cases hurl : kubo_url = removed_url
  · subst hurl
    rw [if_pos rfl, Map.contains_key_remove_iff]
    simp
  · rw [if_neg hurl]
    simp [hurl]

/-- Only `pin_rm` of a CID unpins it. -/
theorem Pins.Replies.pinned {rpc : Rpc} {reply : rpc.Reply} (hreply : pins.Replies rpc reply pins')
    (hpinned : pins.Pinned kubo_url cid) (hother : rpc ≠ .pin_rm kubo_url cid) :
    pins'.Pinned kubo_url cid := by
  induction hreply with
  | added => exact pinned_add_iff.mpr (.inr hpinned)
  | removed removed_url removed_cid =>
    refine pinned_remove_iff.mpr ⟨?_, hpinned⟩
    rintro ⟨rfl, rfl⟩
    exact hother rfl
  | failed_late _ _ _ _ _ ih => exact ih hother
  | listed | remote_listed | remote_added | remote_removed | failed => exact hpinned

end

end ma_core.kubo

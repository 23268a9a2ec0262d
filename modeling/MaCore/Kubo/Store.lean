import Mathlib.Data.Finset.Basic
import Mathlib.Data.Set.Finite.Basic
import MaCore.Kubo.Pinning

open rust

namespace ma_core.kubo

/-- What the Kubo daemons and their remote services have pinned: locally one name for a CID,
    remotely records of a CID and a name. -/
structure PinStore where
  local_pins : Pins
  remote_pins : String → String → Finset (String × String)
  finite : ∀ kubo_url, {cid | ∃ name, (local_pins kubo_url).get cid = some name}.Finite

namespace PinStore

/-- The local pins of one Kubo replaced, with at most one CID more. -/
def set_local (self : PinStore) (kubo_url : String) (pins : Map String String)
    (hpins : ∃ added, ∀ cid name, pins.get cid = some name →
      cid = added ∨ ∃ name, (self.local_pins kubo_url).get cid = some name) : PinStore :=
  { self with
    local_pins := self.local_pins.set kubo_url pins
    finite := by
      intro url
      by_cases hurl : url = kubo_url
      · obtain ⟨added, hpins⟩ := hpins
        refine ((self.finite kubo_url).insert added).subset ?_
        rintro cid ⟨name, hname⟩
        rw [Pins.set, if_pos hurl] at hname
        exact hpins cid name hname
      · simp only [Pins.set, if_neg hurl]
        exact self.finite url }

def pin (self : PinStore) (kubo_url cid name : String) : PinStore :=
  self.set_local kubo_url ((self.local_pins kubo_url).insert cid name) ⟨cid, by
    intro k stored hstored
    rw [Map.get_insert] at hstored
    split at hstored
    · exact .inl ‹_›
    · exact .inr ⟨stored, hstored⟩⟩

def unpin (self : PinStore) (kubo_url cid : String) : PinStore :=
  self.set_local kubo_url ((self.local_pins kubo_url).remove cid) ⟨cid, by
    intro k stored hstored
    rw [Map.get_remove] at hstored
    split at hstored
    · exact .inl ‹_›
    · exact .inr ⟨stored, hstored⟩⟩

/-- The records of one remote service replaced. -/
def set_remote (self : PinStore) (kubo_url service : String) (records : Finset (String × String)) :
    PinStore :=
  { self with
    remote_pins := fun url s => if url = kubo_url ∧ s = service then records else self.remote_pins url s }

def remote_pin (self : PinStore) (kubo_url service cid name : String) : PinStore :=
  self.set_remote kubo_url service (insert (cid, name) (self.remote_pins kubo_url service))

def remote_unpin (self : PinStore) (kubo_url service cid name : String) : PinStore :=
  self.set_remote kubo_url service ((self.remote_pins kubo_url service).erase (cid, name))

/-- How the requests are answered when nothing else changes the pins: with what is pinned, or where
    failures are possible with an error and no effect. -/
inductive Replies (failing : Prop) (store : PinStore) : (rpc : Rpc) → rpc.Reply → PinStore → Prop
  | listed (kubo_url name : String) (cids : List String)
    (hcids : ∀ cid, cid ∈ cids ↔ (store.local_pins kubo_url).get cid = some name) :
    Replies failing store (.list_named_recursive_pins kubo_url name) (.ok cids) store
  | added (kubo_url cid name : String) :
    Replies failing store (.pin_add_named kubo_url cid name) (.ok ()) (store.pin kubo_url cid name)
  | removed (kubo_url cid : String) :
    Replies failing store (.pin_rm kubo_url cid) (.ok ()) (store.unpin kubo_url cid)
  | remote_listed (kubo_url service name : String) (cids : List String)
    (hcids : ∀ cid, cid ∈ cids ↔ (cid, name) ∈ store.remote_pins kubo_url service) :
    Replies failing store (.list_named_remote_pins kubo_url service name) (.ok cids) store
  | remote_added (kubo_url service cid name : String) :
    Replies failing store (.remote_pin_add_named kubo_url service cid name) (.ok ())
      (store.remote_pin kubo_url service cid name)
  | remote_removed (kubo_url service cid name : String) :
    Replies failing store (.remote_pin_rm_named kubo_url service cid name) (.ok ())
      (store.remote_unpin kubo_url service cid name)
  | failed (hfailing : failing) (rpc : Rpc) (text : String) :
    Replies failing store rpc (.error text) store

section
variable {store : PinStore} {kubo_url url cid k name service s : String} {record : String × String}

theorem get_pin : ((store.pin kubo_url cid name).local_pins url).get k =
    if url = kubo_url ∧ k = cid then some name else (store.local_pins url).get k := by
  simp only [pin, set_local, Pins.set]
  by_cases hurl : url = kubo_url
  · subst hurl
    rw [if_pos rfl, Map.get_insert]
    simp
  · simp [hurl]

theorem get_unpin : ((store.unpin kubo_url cid).local_pins url).get k =
    if url = kubo_url ∧ k = cid then none else (store.local_pins url).get k := by
  simp only [unpin, set_local, Pins.set]
  by_cases hurl : url = kubo_url
  · subst hurl
    rw [if_pos rfl, Map.get_remove]
    simp
  · simp [hurl]

theorem mem_remote_pin : record ∈ (store.remote_pin kubo_url service cid name).remote_pins url s ↔
    (url = kubo_url ∧ s = service ∧ record = (cid, name)) ∨ record ∈ store.remote_pins url s := by
  simp only [remote_pin, set_remote]
  by_cases hservice : url = kubo_url ∧ s = service
  · obtain ⟨rfl, rfl⟩ := hservice
    simp
  · rw [if_neg hservice]
    tauto

theorem mem_remote_unpin : record ∈ (store.remote_unpin kubo_url service cid name).remote_pins url s ↔
    ¬ (url = kubo_url ∧ s = service ∧ record = (cid, name)) ∧ record ∈ store.remote_pins url s := by
  simp only [remote_unpin, set_remote]
  by_cases hservice : url = kubo_url ∧ s = service
  · obtain ⟨rfl, rfl⟩ := hservice
    simp
  · rw [if_neg hservice]
    tauto

@[simp] theorem remote_pins_pin : (store.pin kubo_url cid name).remote_pins = store.remote_pins := rfl

@[simp] theorem remote_pins_unpin : (store.unpin kubo_url cid).remote_pins = store.remote_pins := rfl

@[simp] theorem local_pins_remote_pin :
    (store.remote_pin kubo_url service cid name).local_pins = store.local_pins := rfl

@[simp] theorem local_pins_remote_unpin :
    (store.remote_unpin kubo_url service cid name).local_pins = store.local_pins := rfl

theorem exists_remote_listing (store : PinStore) (kubo_url service name : String) :
    ∃ cids : List String, ∀ cid, cid ∈ cids ↔ (cid, name) ∈ store.remote_pins kubo_url service :=
  ⟨(((store.remote_pins kubo_url service).filter (·.2 = name)).image Prod.fst).toList,
    fun cid => by simp⟩

/-- Every request can be answered. -/
theorem exists_reply (failing : Prop) (store : PinStore) (rpc : Rpc) :
    ∃ reply store', store.Replies failing rpc reply store' := by
  cases rpc with
  | list_named_recursive_pins kubo_url name =>
    have hfinite : {cid | (store.local_pins kubo_url).get cid = some name}.Finite :=
      (store.finite kubo_url).subset fun cid hcid => ⟨name, hcid⟩
    refine ⟨_, _, .listed kubo_url name hfinite.toFinset.toList fun cid => ?_⟩
    simp
  | pin_add_named kubo_url cid name => exact ⟨_, _, .added kubo_url cid name⟩
  | pin_rm kubo_url cid => exact ⟨_, _, .removed kubo_url cid⟩
  | list_named_remote_pins kubo_url service name =>
    obtain ⟨cids, hcids⟩ := store.exists_remote_listing kubo_url service name
    exact ⟨_, _, .remote_listed kubo_url service name cids hcids⟩
  | remote_pin_add_named kubo_url service cid name => exact ⟨_, _, .remote_added kubo_url service cid name⟩
  | remote_pin_rm_named kubo_url service cid name => exact ⟨_, _, .remote_removed kubo_url service cid name⟩

end

end PinStore

/-! What one cleanup may do to the pins. -/

namespace PinCleanupRequest

/-- The name is one of the two a cleanup is about. -/
def Owns (self : PinCleanupRequest) (name : String) : Prop :=
  name = self.name ∨ name = in_flight_pin_name self.name

/-- The protected CID is pinned locally under one of the names. -/
def HeldLocally (self : PinCleanupRequest) (store : PinStore) : Prop :=
  ∃ name, self.Owns name ∧ (store.local_pins self.kubo_url).get self.protected_cid = some name

/-- The protected CID is recorded at the remote service under one of the names. -/
def HeldRemotely (self : PinCleanupRequest) (service : String) (store : PinStore) : Prop :=
  ∃ name, self.Owns name ∧ (self.protected_cid, name) ∈ store.remote_pins self.kubo_url service

/-- The requests that leave alone what is not under the two names, and remove the protected CID
    nowhere but under the in-flight name of the remote service. -/
def Careful (self : PinCleanupRequest) (store : PinStore) : Rpc → Prop
  | .list_named_recursive_pins .. | .list_named_remote_pins .. => True
  | .pin_rm kubo_url cid => kubo_url = self.kubo_url ∧ cid ≠ self.protected_cid ∧
    ∀ name, (store.local_pins kubo_url).get cid = some name → self.Owns name
  | .pin_add_named kubo_url cid name =>
    kubo_url = self.kubo_url ∧ cid = self.protected_cid ∧ name = self.name
  | .remote_pin_rm_named kubo_url service cid name =>
    kubo_url = self.kubo_url ∧ self.remote_service = some service ∧ self.Owns name ∧
      (cid = self.protected_cid → name = in_flight_pin_name self.name)
  | .remote_pin_add_named kubo_url service cid name =>
    kubo_url = self.kubo_url ∧ self.remote_service = some service ∧ cid = self.protected_cid ∧
      name = self.name

/-- The pins as the environment of a cleanup that is to keep to such requests. -/
def env (self : PinCleanupRequest) (failing : Prop) : Prog.Env Rpc Rpc.Reply PinStore where
  allowed store rpc := self.Careful store rpc
  replies store rpc reply store' := store.Replies failing rpc reply store'

/-- What such requests keep of the pins. -/
structure Kept (request : PinCleanupRequest) (before after : PinStore) : Prop where
  local_others : ∀ kubo_url cid name, (before.local_pins kubo_url).get cid = some name →
    ¬ (kubo_url = request.kubo_url ∧ (cid = request.protected_cid ∨ request.Owns name)) →
      (after.local_pins kubo_url).get cid = some name
  protected_pin : ∀ name, (before.local_pins request.kubo_url).get request.protected_cid = some name →
    (after.local_pins request.kubo_url).get request.protected_cid = some name ∨
      (after.local_pins request.kubo_url).get request.protected_cid = some request.name
  remote_others : ∀ kubo_url service record, record ∈ before.remote_pins kubo_url service →
    ¬ request.Owns record.2 → record ∈ after.remote_pins kubo_url service
  protected_record : ∀ kubo_url service,
    (request.protected_cid, request.name) ∈ before.remote_pins kubo_url service →
      (request.protected_cid, request.name) ∈ after.remote_pins kubo_url service

section
variable {request : PinCleanupRequest} {failing : Prop} {store store' before after : PinStore}

theorem Kept.refl : request.Kept store store where
  local_others _ _ _ hpin _ := hpin
  protected_pin _ hpin := .inl hpin
  remote_others _ _ _ hrecord _ := hrecord
  protected_record _ _ hrecord := hrecord

theorem in_flight_pin_name_ne (name : String) : in_flight_pin_name name ≠ name := by
  intro heq
  have hlength := congrArg (·.toList.length) heq
  simp [in_flight_pin_name, IN_FLIGHT_SUFFIX] at hlength

/-- One more careful request keeps as much. -/
theorem Kept.step {rpc : Rpc} {reply : rpc.Reply} (hkept : request.Kept before store)
    (hcareful : request.Careful store rpc) (hreply : store.Replies failing rpc reply store') :
    request.Kept before store' := by
  obtain ⟨hlocal, hprotected, hremote, hrecord⟩ := hkept
  cases hreply with
  | listed | remote_listed | failed => exact ⟨hlocal, hprotected, hremote, hrecord⟩
  | added kubo_url cid name =>
    obtain ⟨rfl, rfl, rfl⟩ := hcareful
    refine ⟨fun url cid name hpin hother => ?_, fun name _ => ?_, hremote, hrecord⟩
    · rw [PinStore.get_pin, if_neg fun hsame => hother ⟨hsame.1, .inl hsame.2⟩]
      exact hlocal url cid name hpin hother
    · right
      rw [PinStore.get_pin, if_pos ⟨rfl, rfl⟩]
  | removed kubo_url cid =>
    obtain ⟨rfl, hne, howned⟩ := hcareful
    refine ⟨fun url k name hpin hother => ?_, fun name hpin => ?_, hremote, hrecord⟩
    · have hkept := hlocal url k name hpin hother
      rw [PinStore.get_unpin, if_neg]
      · exact hkept
      · rintro ⟨rfl, rfl⟩
        exact hother ⟨rfl, .inr (howned name hkept)⟩
    · rw [PinStore.get_unpin, if_neg fun hsame => hne hsame.2.symm]
      exact hprotected name hpin
  | remote_added kubo_url service cid name =>
    refine ⟨hlocal, hprotected, fun url s record hmem hother => ?_, fun url s hmem => ?_⟩
    · exact PinStore.mem_remote_pin.mpr (.inr (hremote url s record hmem hother))
    · exact PinStore.mem_remote_pin.mpr (.inr (hrecord url s hmem))
  | remote_removed kubo_url service cid name =>
    obtain ⟨rfl, _, howned, htemp⟩ := hcareful
    refine ⟨hlocal, hprotected, fun url s record hmem hother => ?_, fun url s hmem => ?_⟩
    · refine PinStore.mem_remote_unpin.mpr ⟨?_, hremote url s record hmem hother⟩
      rintro ⟨_, _, rfl⟩
      exact hother howned
    · refine PinStore.mem_remote_unpin.mpr ⟨?_, hrecord url s hmem⟩
      rintro ⟨_, _, hsame⟩
      obtain ⟨rfl, rfl⟩ := Prod.mk.inj hsame
      exact in_flight_pin_name_ne request.name (htemp rfl).symm

/-- What is held locally stays held, -/
theorem Kept.held_locally (hkept : request.Kept before after) (hheld : request.HeldLocally before) :
    request.HeldLocally after := by
  obtain ⟨name, howned, hpin⟩ := hheld
  rcases hkept.protected_pin name hpin with hsame | hfinal
  · exact ⟨name, howned, hsame⟩
  · exact ⟨request.name, .inl rfl, hfinal⟩

end

end PinCleanupRequest

end ma_core.kubo

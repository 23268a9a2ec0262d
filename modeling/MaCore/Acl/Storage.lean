import Mathlib.Data.Finset.Sort
import Mathlib.Data.String.Basic
import MaCore.Acl.Precedence
import MaCore.Base.DataModel
import MaCore.Base.Entries

open rust
open serde (Data Format)

namespace ma_core.acl

namespace CapabilityEntry

/-- `Serialize`: a `BTreeSet` is walked in the order of its strings. -/
def serialize : CapabilityEntry → Data
  | Deny => .Null
  | Allow caps => .Seq (caps.sort.map .Str)

inductive Raw where
  | Str (s : String)
  | Seq (v : List String)

/-- An untagged enum is what the first variant to read it makes of it. -/
def Raw.deserialize (data : Data) : Except String Raw :=
  match data.read_str with
  | .ok s => .ok (Str s)
  | .error _ =>
    match data.read_seq Data.read_str with
    | .ok v => .ok (Seq v)
    | .error _ => .error "data did not match any variant of untagged enum Raw"

def deserialize (data : Data) : Except String CapabilityEntry := do
  match ← data.read_option Raw.deserialize with
  | none => return Deny
  | some (.Seq v) => if v.isEmpty then return Deny else return Allow v.toFinset
  | some (.Str _) => .error "invalid ACL entry: use a YAML sequence for Allow or null for Deny"

/-- What an entry is when it was stored: one that allows nothing is a deny. -/
def stored : CapabilityEntry → CapabilityEntry
  | Deny => Deny
  | Allow caps => if caps = ∅ then Deny else Allow caps

end CapabilityEntry

namespace AclMap

/-- `HashMap::new`. -/
def new : AclMap := ⟨[], List.nodup_nil⟩

def serialize (self : AclMap) : Data :=
  .Map (self.entries.map fun entry => (.Str entry.1, entry.2.serialize))

/-- The map with one more of the entries it is read from. -/
def insert_read (acl : AclMap) (entry : Data × Data) : Except String AclMap := do
  let key ← entry.1.read_str
  let value ← CapabilityEntry.deserialize entry.2
  return acl.insert key value

def deserialize : Data → Except String AclMap
  | .Map entries => entries.foldlM insert_read new
  | _ => .error "invalid type: expected a map"

/-- `==`: the same entry under each key, or none. -/
def Equal (self other : AclMap) : Prop := ∀ key, self.get key = other.get key

end AclMap

section
variable {T : Type} {format : Format T} {acl restored : AclMap} {entry : CapabilityEntry} {key caller cap : String}
  {bytes : T}

namespace CapabilityEntry

theorem stored_eq_iff : entry.stored = entry ↔ entry ≠ Allow ∅ := by
  cases entry with
  | Deny => simp [stored]
  | Allow caps =>
    rw [stored]
    split
    · rename_i hempty
      simp [hempty]
    · rename_i hne
      simp [hne]

/-- It grants what it did. -/
theorem has_stored (entry : CapabilityEntry) (cap : String) : entry.stored.has cap = entry.has cap := by
  cases entry with
  | Deny => rfl
  | Allow caps =>
    rw [stored]
    split
    · rename_i hempty
      simp [has, hempty]
    · rfl

theorem deserialize_serialize (entry : CapabilityEntry) : deserialize entry.serialize = .ok entry.stored := by
  cases entry with
  | Deny => rfl
  | Allow caps =>
    have hraw : (Data.Seq (caps.sort.map .Str)).read_option Raw.deserialize = .ok (some (.Seq caps.sort)) := by
      simp only [Data.read_option, Raw.deserialize, Data.read_str, Data.read_strings]
      rfl
    have hempty : caps.sort.isEmpty = true ↔ caps = ∅ := by
      rw [List.isEmpty_iff_length_eq_zero, Finset.length_sort, Finset.card_eq_zero]
    rw [deserialize, serialize, hraw, ok_bind, stored]
    dsimp only
    rw [Finset.sort_toFinset]
    by_cases hcaps : caps = ∅
    · rw [if_pos (hempty.mpr hcaps), if_pos hcaps]
      rfl
    · rw [if_neg fun h => hcaps (hempty.mp h), if_neg hcaps]
      rfl

end CapabilityEntry

namespace AclMap

theorem insert_read_serialize (acl : AclMap) (key : String) (entry : CapabilityEntry) :
    insert_read acl (.Str key, entry.serialize) = .ok (acl.insert key entry.stored) := by
  rw [insert_read, CapabilityEntry.deserialize_serialize]
  rfl

/-- The entries are read one after the other, over those that were there. -/
theorem foldlM_insert_read {items : List (String × CapabilityEntry)} (hnodup : (items.map Prod.fst).Nodup)
    (acl : AclMap) : ∃ restored,
      (items.map fun entry => (Data.Str entry.1, entry.2.serialize)).foldlM insert_read acl = .ok restored ∧
      ∀ key, restored.get key = ((items.lookup key).map CapabilityEntry.stored).or (acl.get key) := by
  induction items generalizing acl with
  | nil => exact ⟨acl, rfl, fun _ => rfl⟩
  | cons entry items ih =>
    obtain ⟨name, entry⟩ := entry
    rw [List.map_cons, List.nodup_cons] at hnodup
    obtain ⟨restored, hrestored, hget⟩ := ih hnodup.2 (acl.insert name entry.stored)
    refine ⟨restored, ?_, ?_⟩
    · rw [List.map_cons, List.foldlM_cons, insert_read_serialize, ok_bind]
      exact hrestored
    · intro key
      rw [hget, get_insert, List.lookup_cons]
      by_cases hkey : key = name
      · subst hkey
        have habsent : items.lookup key = none := entries.lookup_eq_none_iff.mpr hnodup.1
        simp [habsent]
      · have hother : (key == name) = false := beq_eq_false_iff_ne.mpr hkey
        rw [if_neg hkey, hother]

/-- A map is read as it was written, but that what allows nothing is a deny. -/
theorem deserialize_serialize (acl : AclMap) : ∃ restored, deserialize acl.serialize = .ok restored ∧
    ∀ key, restored.get key = (acl.get key).map CapabilityEntry.stored := by
  obtain ⟨restored, hrestored, hget⟩ := foldlM_insert_read acl.nodup new
  refine ⟨restored, hrestored, ?_⟩
  intro key
  rw [hget]
  exact Option.or_none

end AclMap

/-- Whoever may do something may do it after the map was stored. -/
theorem check_cap_restored (hrestored : ∀ key, restored.get key = (acl.get key).map CapabilityEntry.stored) :
    check_cap restored caller cap = .ok () ↔ check_cap acl caller cap = .ok () := by
  have hdeciding : deciding_entry restored caller = (deciding_entry acl caller).map CapabilityEntry.stored := by
    unfold deciding_entry
    generalize matching_keys caller = keys
    induction keys with
    | nil => rfl
    | cons key keys ih =>
      rw [List.findSome?_cons, List.findSome?_cons, hrestored]
      cases acl.get key with
      | some entry => rfl
      | none => exact ih
  rw [check_cap_eq, check_cap_eq, hdeciding]
  cases deciding_entry acl caller with
  | none => exact iff_of_false (fun h => by cases h) fun h => by cases h
  | some entry =>
    refine apply_entry_eq_ok_iff.trans ?_
    rw [CapabilityEntry.has_stored]
    exact apply_entry_eq_ok_iff.symm

/-- A map comes back as it was stored, but that what allows nothing is a deny: it is equal exactly if there is no
    such entry. -/
theorem storage_round_trip (hformat : format.RoundTrips) (acl : AclMap)
    (hwritten : format.write acl.serialize = .ok bytes) :
    ∃ restored, (format.read bytes >>= AclMap.deserialize) = .ok restored ∧
      (∀ key, restored.get key = (acl.get key).map CapabilityEntry.stored) ∧
      (restored.Equal acl ↔ ∀ key, acl.get key ≠ some (.Allow ∅)) := by
  obtain ⟨restored, hrestored, hget⟩ := acl.deserialize_serialize
  refine ⟨restored, ?_, hget, ?_⟩
  · rw [hformat _ _ hwritten, ok_bind]
    exact hrestored
  · unfold AclMap.Equal
    refine forall_congr' ?_
    intro key
    rw [hget]
    cases acl.get key with
    | none => simp
    | some entry =>
      rw [Option.map_some, Option.some_inj, CapabilityEntry.stored_eq_iff, ne_eq, ne_eq, Option.some_inj]

end

/-- Anyone may deliver messages and use `crud`, but one, and another may do nothing. -/
def inbox_acl : AclMap :=
  (AclMap.new.insert "*" (.from_caps [CAP_INBOX, "crud"])).insert "did:ma:bandit" .Deny

theorem storage_round_trip_in_memory :
    ∃ restored, (serde.in_memory.read inbox_acl.serialize >>= AclMap.deserialize) = .ok restored ∧
      (∀ key, restored.get key = (inbox_acl.get key).map CapabilityEntry.stored) ∧
      (restored.Equal inbox_acl ↔ ∀ key, inbox_acl.get key ≠ some (.Allow ∅)) :=
  storage_round_trip serde.in_memory_roundTrips inbox_acl rfl

/-- Nothing is allowed to anyone, and read as a deny. -/
theorem allow_nothing_is_deny :
    ∃ acl restored, acl = AclMap.new.insert "*" (.from_caps []) ∧
      (serde.in_memory.read acl.serialize >>= AclMap.deserialize) = .ok restored ∧
      restored.get "*" = some .Deny ∧ acl.get "*" = some (.Allow ∅) ∧ ¬ restored.Equal acl := by
  have hread : AclMap.deserialize (AclMap.new.insert "*" (.from_caps [])).serialize =
      .ok (AclMap.new.insert "*" .Deny) := by
    have hempty : (CapabilityEntry.from_caps []).stored = .Deny := rfl
    show [(Data.Str "*", (CapabilityEntry.from_caps []).serialize)].foldlM AclMap.insert_read AclMap.new = _
    rw [List.foldlM_cons, AclMap.insert_read_serialize, hempty]
    rfl
  refine ⟨AclMap.new.insert "*" (.from_caps []), AclMap.new.insert "*" .Deny, rfl, hread, rfl, rfl, ?_⟩
  intro hequal
  cases hequal "*"

end ma_core.acl

import MaCore.Base.Entries
import Mathlib.Data.List.Perm.Basic

/-! YAML values, as `serde_yaml` has them. -/

namespace serde_yaml

inductive Number where
  | PosInt (n : UInt64)
  | NegInt (n : Int64)
  | Float (bits : UInt64)

def Number.as_u64 : Number → Option UInt64
  | PosInt n => some n
  | _ => none

/-- A value as it is written, where a key may stand twice in a mapping. -/
inductive Node where
  | Null
  | Bool (b : Bool)
  | Number (n : Number)
  | String (s : String)
  | Sequence (items : List Node)
  | Mapping (entries : List (Node × Node))
  | Tagged (tag : String) (value : Node)

mutual

/-- Each mapping in it has each of its keys once. -/
def Unique : Node → Prop
  | .Sequence items => itemsUnique items
  | .Mapping entries => (entries.map Prod.fst).Nodup ∧ entriesUnique entries
  | .Tagged _ value => Unique value
  | _ => True

def itemsUnique : List Node → Prop
  | [] => True
  | item :: items => Unique item ∧ itemsUnique items

def entriesUnique : List (Node × Node) → Prop
  | [] => True
  | (key, value) :: entries => (Unique key ∧ Unique value) ∧ entriesUnique entries

end

theorem entriesUnique_iff {entries : List (Node × Node)} :
    entriesUnique entries ↔ ∀ entry ∈ entries, Unique entry.1 ∧ Unique entry.2 := by
  induction entries with
  | nil => simp [entriesUnique]
  | cons entry entries ih => rw [entriesUnique, ih, List.forall_mem_cons]

/-- `Value::as_str`, which looks through tags. -/
def as_str : Node → Option String
  | .String s => some s
  | .Tagged _ value => as_str value
  | _ => none

/-- Whether it is this string, which is how a key is looked up. -/
def is_key (key : String) : Node → Bool
  | .String s => s == key
  | _ => false

theorem is_key_iff {key : String} {node : Node} : is_key key node = true ↔ node = .String key := by
  cases node <;> simp [is_key]

/-- `serde_yaml::Mapping`: its entries, in their order. -/
structure Mapping where
  entries : List (Node × Node)
  unique : Unique (.Mapping entries)

/-- `serde_yaml::Value`. -/
def Value : Type := { node : Node // Unique node }

namespace Value

def bool (b : Bool) : Value := ⟨.Bool b, trivial⟩

def number (n : Number) : Value := ⟨.Number n, trivial⟩

def string (s : String) : Value := ⟨.String s, trivial⟩

def mapping (m : Mapping) : Value := ⟨.Mapping m.entries, m.unique⟩

def as_mapping : Value → Option Mapping
  | ⟨.Mapping entries, unique⟩ => some ⟨entries, unique⟩
  | _ => none

theorem as_mapping_mapping (m : Mapping) : (mapping m).as_mapping = some m := rfl

theorem as_mapping_eq_some_iff {value : Value} {m : Mapping} : value.as_mapping = some m ↔ value = mapping m := by
  constructor
  · intro hmapping
    obtain ⟨node, unique⟩ := value
    cases node with
    | Mapping entries =>
      cases hmapping
      rfl
    | Null | Bool | Number | String | Sequence | Tagged => cases hmapping
  · rintro rfl
    exact as_mapping_mapping m

theorem mapping_injective {m m' : Mapping} (hsame : mapping m = mapping m') : m = m' := by
  have hmapping := congrArg as_mapping hsame
  rwa [as_mapping_mapping, as_mapping_mapping, Option.some.injEq] at hmapping

end Value

/-! The one item of a list with a property. -/

section
variable {α : Type} {p : α → Bool} {l : List α} {a : α}

theorem find?_eq_some_iff_mem (hone : l.Pairwise fun a b => ¬ (p a = true ∧ p b = true)) :
    l.find? p = some a ↔ a ∈ l ∧ p a = true := by
  constructor
  · intro hfind
    exact ⟨List.mem_of_find?_eq_some hfind, List.find?_some hfind⟩
  · rintro ⟨hmem, ha⟩
    induction l with
    | nil => cases hmem
    | cons b l ih =>
      obtain ⟨hother, hrest⟩ := List.pairwise_cons.mp hone
      rcases List.mem_cons.mp hmem with rfl | hmem
      · rw [List.find?_cons, ha]
      · have hb : p b = false := Bool.eq_false_iff.mpr fun hb => hother a hmem ⟨hb, ha⟩
        rw [List.find?_cons, hb]
        exact ih hrest hmem

theorem eraseP_eq_filter (hone : l.Pairwise fun a b => ¬ (p a = true ∧ p b = true)) :
    l.eraseP p = l.filter fun a => !p a := by
  induction l with
  | nil => rfl
  | cons b l ih =>
    obtain ⟨hother, hrest⟩ := List.pairwise_cons.mp hone
    cases hb : p b with
    | false => rw [List.eraseP_cons_of_neg (by simp [hb]), ih hrest, List.filter_cons_of_pos (by simp [hb])]
    | true =>
      have hkeep : l.filter (fun a => !p a) = l := by
        rw [List.filter_eq_self]
        intro a ha
        simpa using fun hpa => hother a ha ⟨hb, hpa⟩
      rw [List.eraseP_cons_of_pos hb, List.filter_cons_of_neg (by simp [hb]), hkeep]

/-- What `swap_remove` does at a position: the last item takes the place of the one removed. -/
def swap_remove (l : List α) (i : Nat) : List α :=
  match l.getLast? with
  | some last => (l.set i last).dropLast
  | none => []

theorem swap_remove_perm {i : Nat} (hi : i < l.length) : (swap_remove l i).Perm (l.eraseIdx i) := by
  obtain rfl | ⟨front, last, rfl⟩ := List.eq_nil_or_concat l
  · simp at hi
  · rw [List.concat_eq_append] at hi ⊢
    rw [swap_remove, List.getLast?_concat]
    dsimp only
    rw [List.length_append, List.length_singleton] at hi
    by_cases hlast : i = front.length
    · subst hlast
      rw [List.set_append_right _ _ (Nat.le_refl _), Nat.sub_self, List.eraseIdx_append_of_length_le (Nat.le_refl _)]
      simp
    · have hfront : i < front.length := by omega
      rw [List.set_append_left _ _ hfront, List.dropLast_concat, List.eraseIdx_append_of_lt_length hfront]
      have hset := List.set_perm_cons_eraseIdx hfront last
      exact hset.trans (List.perm_append_singleton _ _).symm

end

namespace Mapping

def new : Mapping := ⟨[], List.nodup_nil, trivial⟩

def get (self : Mapping) (key : String) : Option Node :=
  (self.entries.find? fun entry => is_key key entry.1).map Prod.snd

/-- The entries after an `insert`: a key that is there keeps its place. -/
def insert_entries (entries : List (Node × Node)) (key : String) (value : Node) : List (Node × Node) :=
  if entries.any fun entry => is_key key entry.1 then
    entries.map fun entry => if is_key key entry.1 then (entry.1, value) else entry
  else entries ++ [(.String key, value)]

/-- The entries after a `remove`, which is `swap_remove`. -/
def remove_entries (entries : List (Node × Node)) (key : String) : List (Node × Node) :=
  match entries.findIdx? fun entry => is_key key entry.1 with
  | some i => swap_remove entries i
  | none => entries

variable {m : Mapping} {key name : String} {value : Value} {node : Node} {keys : List String}

theorem one_entry (m : Mapping) (key : String) :
    m.entries.Pairwise fun a b => ¬ (is_key key a.1 = true ∧ is_key key b.1 = true) := by
  have hnodup := List.pairwise_map.mp m.unique.1
  refine hnodup.imp ?_
  rintro a b hne ⟨ha, hb⟩
  exact hne ((is_key_iff.mp ha).trans (is_key_iff.mp hb).symm)

theorem get_eq_some_iff : m.get key = some node ↔ (Node.String key, node) ∈ m.entries := by
  rw [get, Option.map_eq_some_iff]
  constructor
  · rintro ⟨⟨k, v⟩, hfind, rfl⟩
    obtain ⟨hmem, hkey⟩ := (find?_eq_some_iff_mem (m.one_entry key)).mp hfind
    rwa [← is_key_iff.mp hkey]
  · intro hmem
    exact ⟨_, (find?_eq_some_iff_mem (m.one_entry key)).mpr ⟨hmem, is_key_iff.mpr rfl⟩, rfl⟩

theorem remove_entries_perm (m : Mapping) (key : String) :
    (remove_entries m.entries key).Perm (m.entries.filter fun entry => !is_key key entry.1) := by
  rw [← eraseP_eq_filter (m.one_entry key), List.eraseP_eq_eraseIdx, remove_entries]
  cases hfind : m.entries.findIdx? fun entry => is_key key entry.1 with
  | none => exact .refl _
  | some i => exact swap_remove_perm (List.findIdx?_eq_some_iff_findIdx_eq.mp hfind).1

theorem unique_entry (m : Mapping) {entry : Node × Node} (hentry : entry ∈ m.entries) :
    Unique entry.1 ∧ Unique entry.2 :=
  entriesUnique_iff.mp m.unique.2 entry hentry

theorem remove_unique (m : Mapping) (key : String) : Unique (.Mapping (remove_entries m.entries key)) := by
  have hperm := m.remove_entries_perm key
  constructor
  · rw [(hperm.map Prod.fst).nodup_iff]
    exact m.unique.1.sublist (List.filter_sublist.map Prod.fst)
  · rw [entriesUnique_iff]
    intro entry hentry
    exact m.unique_entry (List.mem_filter.mp (hperm.mem_iff.mp hentry)).1

theorem not_any_key (habsent : ¬ m.entries.any (fun entry => is_key key entry.1) = true) :
    Node.String key ∉ m.entries.map Prod.fst := by
  intro hmem
  obtain ⟨entry, hentry, hkey⟩ := List.mem_map.mp hmem
  exact habsent (List.any_eq_true.mpr ⟨entry, hentry, is_key_iff.mpr hkey⟩)

theorem insert_unique (m : Mapping) (key : String) (value : Value) :
    Unique (.Mapping (insert_entries m.entries key value.val)) := by
  unfold insert_entries
  split
  · have hkeys : (m.entries.map fun entry => if is_key key entry.1 then (entry.1, value.val) else entry).map
        Prod.fst = m.entries.map Prod.fst := by
      rw [List.map_map]
      apply List.map_congr_left
      intro entry _
      dsimp only [Function.comp]
      split <;> rfl
    constructor
    · rw [hkeys]
      exact m.unique.1
    · rw [entriesUnique_iff]
      intro entry hentry
      obtain ⟨old, hold, rfl⟩ := List.mem_map.mp hentry
      split
      · exact ⟨(m.unique_entry hold).1, value.property⟩
      · exact m.unique_entry hold
  · rename_i habsent
    constructor
    · rw [List.map_append, List.map_singleton, ← List.concat_eq_append, List.nodup_concat]
      exact ⟨not_any_key habsent, m.unique.1⟩
    · rw [entriesUnique_iff]
      intro entry hentry
      obtain hold | hnew := List.mem_append.mp hentry
      · exact m.unique_entry hold
      · obtain rfl := List.mem_singleton.mp hnew
        exact ⟨trivial, value.property⟩

def insert (self : Mapping) (key : String) (value : Value) : Mapping :=
  ⟨insert_entries self.entries key value.val, self.insert_unique key value⟩

def remove (self : Mapping) (key : String) : Mapping :=
  ⟨remove_entries self.entries key, self.remove_unique key⟩

theorem get_remove : (m.remove key).get name = if name = key then none else m.get name := by
  apply Option.ext
  intro node
  rw [get_eq_some_iff, remove, (m.remove_entries_perm key).mem_iff, List.mem_filter]
  by_cases hname : name = key
  · simp [hname, is_key]
  · simp [hname, is_key, get_eq_some_iff]

theorem get_insert : (m.insert key value).get name = if name = key then some value.val else m.get name := by
  apply Option.ext
  intro node
  rw [get_eq_some_iff, insert]
  dsimp only [insert_entries]
  split
  · rename_i hpresent
    obtain ⟨⟨k, old⟩, hold, hkey⟩ := List.any_eq_true.mp hpresent
    obtain rfl := is_key_iff.mp hkey
    by_cases hname : name = key
    · subst hname
      simp only [if_true, Option.some.injEq, List.mem_map]
      constructor
      · rintro ⟨⟨k', v⟩, hentry, heq⟩
        by_cases hk' : is_key name k' = true
        · rw [if_pos hk'] at heq
          exact (Prod.ext_iff.mp heq).2
        · rw [if_neg hk'] at heq
          cases heq
          exact absurd (is_key_iff.mpr rfl) hk'
      · rintro rfl
        exact ⟨_, hold, by rw [if_pos hkey]⟩
    · rw [if_neg hname, get_eq_some_iff, List.mem_map]
      constructor
      · rintro ⟨⟨k', v⟩, hentry, heq⟩
        by_cases hk' : is_key key k' = true
        · rw [if_pos hk'] at heq
          obtain rfl := is_key_iff.mp hk'
          cases heq
          exact absurd rfl hname
        · rw [if_neg hk'] at heq
          cases heq
          exact hentry
      · intro hentry
        exact ⟨_, hentry, if_neg fun hk' => hname (Node.String.inj (is_key_iff.mp hk'))⟩
  · rename_i habsent
    rw [List.mem_append, List.mem_singleton, Prod.mk.injEq, ← get_eq_some_iff]
    by_cases hname : name = key
    · subst hname
      have hnone : m.get name ≠ some node := by
        intro hget
        exact not_any_key habsent (List.mem_map.mpr ⟨_, get_eq_some_iff.mp hget, rfl⟩)
      simp [hnone, eq_comm]
    · simp [hname]

/-! The entries under other keys. -/

/-- The entries under none of these keys. -/
def others (self : Mapping) (keys : List String) : List (Node × Node) :=
  self.entries.filter fun entry => !keys.any fun key => is_key key entry.1

theorem others_insert (hkey : key ∈ keys) : (m.insert key value).others keys = m.others keys := by
  have hany {node : Node} (hnode : is_key key node = true) : (keys.any fun key => is_key key node) = true :=
    List.any_eq_true.mpr ⟨key, hkey, hnode⟩
  rw [others, others, insert]
  dsimp only [insert_entries]
  split
  · generalize m.entries = entries
    induction entries with
    | nil => rfl
    | cons entry entries ih =>
      rw [List.map_cons, List.filter_cons, List.filter_cons, ih]
      by_cases hentry : is_key key entry.1 = true
      · rw [if_pos hentry, hany hentry]
        rfl
      · rw [if_neg hentry]
  · rw [List.filter_append]
    have hnew := @hany (.String key) (is_key_iff.mpr rfl)
    simp [hnew]

/-- The order in which keys are given is not seen. -/
theorem others_perm {keys' : List String} (hperm : keys.Perm keys') : m.others keys = m.others keys' := by
  have hany (node : Node) : (keys.any fun key => is_key key node) = keys'.any fun key => is_key key node :=
    hperm.any_eq
  simp only [others, hany]

/-- Removing the keys one after the other. -/
def remove_all (self : Mapping) (keys : List String) : Mapping := keys.foldl remove self

theorem get_remove_all (hname : name ∉ keys) : (m.remove_all keys).get name = m.get name := by
  induction keys generalizing m with
  | nil => rfl
  | cons key keys ih =>
    rw [List.mem_cons, not_or] at hname
    rw [remove_all, List.foldl_cons]
    exact (ih hname.2).trans (get_remove.trans (if_neg hname.1))

theorem get_remove_all_of_mem (hname : name ∈ keys) : (m.remove_all keys).get name = none := by
  induction keys generalizing m with
  | nil => cases hname
  | cons key keys ih =>
    rw [remove_all, List.foldl_cons]
    by_cases hrest : name ∈ keys
    · exact ih hrest
    · have hkey : name = key := (List.mem_cons.mp hname).resolve_right hrest
      exact (get_remove_all hrest).trans (get_remove.trans (if_pos hkey))

/-- What is left is, in some order, what stands under other keys. -/
theorem remove_all_perm (m : Mapping) (keys : List String) :
    (m.remove_all keys).entries.Perm (m.others keys) := by
  induction keys generalizing m with
  | nil => simp [remove_all, others]
  | cons key keys ih =>
    have hrest := ih (m.remove key)
    have hremove : ((m.remove key).others keys).Perm
        ((m.entries.filter fun entry => !is_key key entry.1).filter fun entry =>
          !keys.any fun key => is_key key entry.1) := (m.remove_entries_perm key).filter _
    have hothers : m.others (key :: keys) = (m.entries.filter fun entry => !is_key key entry.1).filter fun entry =>
        !keys.any fun key => is_key key entry.1 := by
      rw [others, List.filter_filter]
      congr 1
      funext entry
      rw [List.any_cons, Bool.not_or, Bool.and_comm]
    rw [hothers]
    exact hrest.trans hremove

end Mapping

end serde_yaml

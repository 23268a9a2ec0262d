import Mathlib.Data.List.Nodup

/-! Maps as the lists of their entries. -/

namespace entries

variable {K V : Type} [DecidableEq K] {items others : List (K × V)} {key : K} {value : V}

/-- Where no key is twice, an entry is found under its key. -/
theorem lookup_eq_some_iff (hnodup : (items.map Prod.fst).Nodup) :
    items.lookup key = some value ↔ (key, value) ∈ items := by
  induction items with
  | nil => simp
  | cons entry items ih =>
    obtain ⟨name, v⟩ := entry
    rw [List.map_cons, List.nodup_cons] at hnodup
    by_cases hkey : key = name
    · subst hkey
      have habsent : (key, value) ∉ items := fun hmem => hnodup.1 (List.mem_map.mpr ⟨_, hmem, rfl⟩)
      simp [habsent, eq_comm]
    · have hother : (key == name) = false := beq_eq_false_iff_ne.mpr hkey
      rw [List.lookup_cons, hother, List.mem_cons]
      simp [ih hnodup.2, hkey]

theorem lookup_eq_none_iff : items.lookup key = none ↔ key ∉ items.map Prod.fst := by
  rw [List.lookup_eq_none_iff]
  constructor
  · intro hnone hmem
    obtain ⟨entry, hentry, rfl⟩ := List.mem_map.mp hmem
    simpa using hnone entry hentry
  · intro habsent entry hentry
    rw [bne_iff_ne]
    rintro rfl
    exact habsent (List.mem_map_of_mem hentry)

/-- The order of the entries is not seen by a lookup. -/
theorem lookup_perm (hnodup : (items.map Prod.fst).Nodup) (hperm : others.Perm items) :
    others.lookup key = items.lookup key := by
  have hnodup' : (others.map Prod.fst).Nodup := (hperm.map Prod.fst).nodup_iff.mpr hnodup
  apply Option.ext
  intro value
  rw [lookup_eq_some_iff hnodup', lookup_eq_some_iff hnodup, hperm.mem_iff]

end entries

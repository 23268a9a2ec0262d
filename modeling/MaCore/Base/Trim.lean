import Mathlib.Data.List.TakeWhile
import MaCore.Base.Strings

namespace rust

/-- A text with no white space at its ends. -/
structure Trimmed (l : List Char) : Prop where
  head : ∀ c ∈ l.head?, is_whitespace c = false
  last : ∀ c ∈ l.getLast?, is_whitespace c = false

theorem dropWhile_head {p : Char → Bool} {l : List Char} : ∀ c ∈ (l.dropWhile p).head?, p c = false := by
  intro c hc
  have hhead := List.head?_dropWhile_not p l
  rw [Option.mem_def.mp hc] at hhead
  exact hhead

/-- Trimming leaves a trimmed text, -/
theorem trimList_trimmed (l : List Char) : Trimmed (trimList is_whitespace l) := by
  constructor
  · intro c hc
    have hprefix : trimList is_whitespace l <+: l.dropWhile is_whitespace := by
      rw [trimList, ← List.reverse_suffix, List.reverse_reverse]
      exact List.dropWhile_suffix _
    obtain ⟨rest, hrest⟩ := hprefix
    apply dropWhile_head (l := l)
    rw [← hrest, List.head?_append, Option.mem_def.mp hc]
    rfl
  · intro c hc
    rw [trimList, List.getLast?_reverse] at hc
    exact dropWhile_head c hc

/-- and a trimmed text as it is. -/
theorem Trimmed.trimList_eq {l : List Char} (htrimmed : Trimmed l) : trimList is_whitespace l = l := by
  have hreverse : ∀ c ∈ l.reverse.head?, is_whitespace c = false := by
    rw [List.head?_reverse]
    exact htrimmed.last
  rw [trimList, dropWhile_eq_self htrimmed.head, dropWhile_eq_self hreverse, List.reverse_reverse]

/-- White space around it goes. -/
theorem Trimmed.trimList_surrounded {l before after : List Char} (htrimmed : Trimmed l)
    (hbefore : ∀ c ∈ before, is_whitespace c = true) (hafter : ∀ c ∈ after, is_whitespace c = true) :
    trimList is_whitespace (before ++ l ++ after) = l := by
  have hreverse : ∀ c ∈ after.reverse, is_whitespace c = true := fun c hc => hafter c (List.mem_reverse.mp hc)
  rw [trimList, List.append_assoc, List.dropWhile_append_of_pos hbefore]
  by_cases hempty : l = []
  · rw [hempty, List.nil_append, List.dropWhile_eq_nil_iff.mpr hafter]
    rfl
  · have hhead : ∀ c ∈ (l ++ after).head?, is_whitespace c = false := by
      rw [List.head?_append_of_ne_nil _ hempty]
      exact htrimmed.head
    have hlast : ∀ c ∈ l.reverse.head?, is_whitespace c = false := by
      rw [List.head?_reverse]
      exact htrimmed.last
    rw [dropWhile_eq_self hhead, List.reverse_append, List.dropWhile_append_of_pos hreverse,
      dropWhile_eq_self hlast, List.reverse_reverse]

theorem Trimmed.trim_eq {s : String} (htrimmed : Trimmed s.toList) : trim s = s := by
  rw [trim, htrimmed.trimList_eq, String.ofList_toList]

/-- What is put before a trimmed text has to be trimmed at its own start only. -/
theorem Trimmed.append {l m : List Char} (htrimmed : Trimmed m) (hm : m ≠ [])
    (hhead : ∀ c ∈ l.head?, is_whitespace c = false) : Trimmed (l ++ m) := by
  constructor
  · intro c hc
    rw [List.head?_append] at hc
    cases hl : l.head? with
    | none =>
      rw [hl] at hc
      exact htrimmed.head c hc
    | some first =>
      rw [hl] at hc
      cases hc
      exact hhead c hl
  · intro c hc
    rw [List.getLast?_append_of_ne_nil _ hm] at hc
    exact htrimmed.last c hc

/-- The rest of a trimmed text, after a character that is no white space. -/
theorem Trimmed.cons_dropWhile {first : Char} {l : List Char} (htrimmed : Trimmed l)
    (hfirst : is_whitespace first = false) (p : Char → Bool) : Trimmed (first :: l.dropWhile p) := by
  constructor
  · intro c hc
    cases hc
    exact hfirst
  · intro c hc
    obtain ⟨dropped, hdropped⟩ := List.dropWhile_suffix p (l := l)
    by_cases hempty : l.dropWhile p = []
    · rw [hempty] at hc
      cases hc
      exact hfirst
    · apply htrimmed.last c
      rw [← hdropped, List.getLast?_append_of_ne_nil _ hempty]
      rwa [List.getLast?_cons_of_ne_nil hempty] at hc

end rust

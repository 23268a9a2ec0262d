import Mathlib.Data.List.Basic

/-! Words with one separator between each two of them. -/

/-- One word or more, none of them empty, with a separator after each but the last. -/
inductive Separated {α : Type} (letter separator : α → Prop) : List α → Prop
  | word {word : List α} (hne : word ≠ []) (hletters : ∀ a ∈ word, letter a) : Separated letter separator word
  | cons {word rest : List α} {sep : α} (hne : word ≠ []) (hletters : ∀ a ∈ word, letter a)
    (hsep : separator sep) (hrest : Separated letter separator rest) :
    Separated letter separator (word ++ sep :: rest)

namespace Separated

variable {α : Type} {letter separator : α → Prop} {l m : List α} {a : α}

theorem ne_nil (hl : Separated letter separator l) : l ≠ [] := by
  cases hl with
  | word hne hletters => exact hne
  | cons hne hletters hsep hrest => exact List.append_ne_nil_of_left_ne_nil hne _

theorem mem (hl : Separated letter separator l) : ∀ a ∈ l, letter a ∨ separator a := by
  induction hl with
  | word hne hletters =>
    intro a ha
    exact .inl (hletters a ha)
  | cons hne hletters hsep hrest ih =>
    intro a ha
    rw [List.mem_append, List.mem_cons] at ha
    obtain hword | rfl | hmem := ha
    · exact .inl (hletters a hword)
    · exact .inr hsep
    · exact ih a hmem

/-- What is separated ends with a letter, -/
theorem last (hl : Separated letter separator l) : ∀ a ∈ l.getLast?, letter a := by
  induction hl with
  | word hne hletters =>
    intro a ha
    exact hletters a (List.mem_of_mem_getLast? ha)
  | cons hne hletters hsep hrest ih =>
    intro a ha
    rw [List.getLast?_append_of_ne_nil _ (List.cons_ne_nil _ _), List.getLast?_cons_of_ne_nil hrest.ne_nil] at ha
    exact ih a ha

/-- which a letter may follow, -/
theorem append_letter (hl : Separated letter separator l) (ha : letter a) :
    Separated letter separator (l ++ [a]) := by
  induction hl with
  | word hne hletters =>
    refine .word (List.append_ne_nil_of_left_ne_nil hne _) ?_
    intro b hb
    obtain hold | hnew := List.mem_append.mp hb
    · exact hletters b hold
    · rw [List.mem_singleton.mp hnew]
      exact ha
  | cons hne hletters hsep hrest ih =>
    rw [List.append_assoc, List.cons_append]
    exact .cons hne hletters hsep ih

/-- or more words, after a separator. -/
theorem append (hl : Separated letter separator l) {sep : α} (hsep : separator sep)
    (hm : Separated letter separator m) : Separated letter separator (l ++ sep :: m) := by
  induction hl with
  | word hne hletters => exact .cons hne hletters hsep hm
  | cons hne hletters hsep' hrest ih =>
    rw [List.append_assoc, List.cons_append]
    exact .cons hne hletters hsep' ih

end Separated

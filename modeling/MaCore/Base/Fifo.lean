import Mathlib.Data.List.Basic

/-! Queues that are filled at the back and emptied at the front. -/

namespace fifo

variable {α : Type}

/-- `put` went in at the back and `taken` came out at the front. -/
def Moves (before put taken after : List α) : Prop := before ++ put = taken ++ after

section
variable {before middle after put put' taken taken' : List α}

theorem Moves.none (contents : List α) : Moves contents [] [] contents :=
  List.append_nil contents

theorem Moves.trans (hfirst : Moves before put taken middle) (hsecond : Moves middle put' taken' after) :
    Moves before (put ++ put') (taken ++ taken') after := by
  unfold Moves at *
  rw [← List.append_assoc, hfirst, List.append_assoc, hsecond, List.append_assoc]

/-- What was put into an empty queue and not taken is still there, in order. -/
theorem Moves.of_empty (hmoves : Moves [] put taken after) : put = taken ++ after := hmoves

theorem Moves.taken_sublist (hmoves : Moves [] put taken after) : taken.Sublist put := by
  rw [hmoves.of_empty]
  exact List.sublist_append_left taken after

end

section
variable {p : α → Bool} {l : List α}

/-- The first item that stays is the first that is not to be dropped. -/
theorem head?_dropWhile (p : α → Bool) (l : List α) :
    (l.dropWhile p).head? = (l.filter fun a => !p a).head? := by
  induction l with
  | nil => rfl
  | cons a l ih =>
    by_cases ha : p a = true
    · simp [ha, ih]
    · simp [ha]

theorem filter_sublist_dropWhile (p : α → Bool) (l : List α) :
    (l.filter fun a => !p a).Sublist (l.dropWhile p) := by
  induction l with
  | nil => exact .slnil
  | cons a l ih =>
    by_cases ha : p a = true
    · simpa [ha] using ih
    · simp only [Bool.not_eq_true] at ha
      simp [ha, List.filter_sublist]

/-- Dropping a front leaves exactly what is not to be dropped if none of what
    is to be dropped stands behind the rest. -/
theorem dropWhile_eq_filter_iff :
    l.dropWhile p = l.filter (fun a => !p a) ↔ l.Pairwise fun a b => p b = true → p a = true := by
  induction l with
  | nil => simp
  | cons a l ih =>
    rw [List.pairwise_cons]
    by_cases ha : p a = true
    · simp [ha, ih]
    · simp only [Bool.not_eq_true] at ha
      have hall : l.filter (fun b => !p b) = l ↔ ∀ b ∈ l, p b = false := by
        simp [List.filter_eq_self]
      simp only [ha, List.dropWhile_cons, List.filter_cons, Bool.false_eq_true, if_false, Bool.not_false,
        if_true, List.cons.injEq, true_and, eq_comm, imp_false]
      rw [eq_comm, hall]
      constructor
      · intro hkept
        refine ⟨fun b hmem => ?_, ?_⟩
        · simpa using hkept b hmem
        · exact List.pairwise_of_forall_mem_list fun b hb c hc hdrop => by simp [hkept c hc] at hdrop
      · rintro ⟨hkept, _⟩ b hmem
        simpa using hkept b hmem

end

end fifo

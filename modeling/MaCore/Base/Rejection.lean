import Mathlib.Data.Set.Card
import Mathlib.Data.List.Nodup
import Mathlib.Algebra.BigOperators.Group.List.Basic
import Mathlib.Tactic.Ring

/-! Sampling with rejection: symbols that decode to nothing are passed over. -/

namespace rejection

variable {α β : Type}

/-- The sequences of a length, over these symbols. -/
def sequences (symbols : List α) : Nat → List (List α)
  | 0 => [[]]
  | n + 1 => symbols.flatMap fun a => (sequences symbols n).map (a :: ·)

section
variable {symbols : List α} {n : Nat}

theorem mem_sequences (hsymbols : ∀ a, a ∈ symbols) {l : List α} : l ∈ sequences symbols n ↔ l.length = n := by
  induction n generalizing l with
  | zero => rw [sequences, List.mem_singleton, List.length_eq_zero_iff]
  | succ n ih =>
    simp only [sequences, List.mem_flatMap, List.mem_map, ih]
    constructor
    · rintro ⟨a, _, rest, hrest, rfl⟩
      rw [List.length_cons, hrest]
    · intro hlength
      cases l with
      | nil => cases hlength
      | cons a rest => exact ⟨a, hsymbols a, rest, Nat.succ.inj hlength, rfl⟩

theorem nodup_sequences (hsymbols : symbols.Nodup) : (sequences symbols n).Nodup := by
  induction n with
  | zero => exact List.nodup_singleton []
  | succ n ih =>
    rw [sequences, List.nodup_flatMap]
    refine ⟨fun a _ => ih.map (List.cons_injective), ?_⟩
    refine hsymbols.imp fun {a b} hne l hleft hright => ?_
    obtain ⟨left, _, rfl⟩ := List.mem_map.mp hleft
    obtain ⟨right, _, heq⟩ := List.mem_map.mp hright
    exact hne (List.cons.inj heq).1.symm

/-- Counting them counts all sequences of the length. -/
theorem ncard_eq_countP (hall : ∀ a, a ∈ symbols) (hsymbols : symbols.Nodup) (P : List α → Bool) :
    Set.ncard { l : List α | l.length = n ∧ P l = true } = (sequences symbols n).countP P := by
  classical
  have hset : { l : List α | l.length = n ∧ P l = true } = ↑((sequences symbols n).filter P).toFinset := by
    ext l
    simp [mem_sequences hall]
  rw [hset, Set.ncard_coe_finset, List.toFinset_card_of_nodup ((nodup_sequences hsymbols).filter P),
    List.countP_eq_length_filter]

end

section
variable [DecidableEq β] (decode : α → Option β)

/-- What a sequence decodes to begins with these. -/
def begins (w : List β) (l : List α) : Bool := w.isPrefixOf (l.filterMap decode)

/-- How many sequences do, by their first symbol. -/
theorem countP_begins_cons (symbols : List α) (n : Nat) (b : β) (w : List β) :
    (sequences symbols (n + 1)).countP (begins decode (b :: w)) =
      symbols.countP (decode · = none) * (sequences symbols n).countP (begins decode (b :: w)) +
        symbols.countP (decode · = some b) * (sequences symbols n).countP (begins decode w) := by
  rw [sequences, List.countP_flatMap]
  generalize sequences symbols n = rest
  induction symbols with
  | nil => simp
  | cons a symbols ih =>
    rw [List.map_cons, List.sum_cons, ih, Function.comp_apply, List.countP_map, List.countP_cons, List.countP_cons]
    cases hdecode : decode a with
    | none =>
      have hfirst : begins decode (b :: w) ∘ (a :: ·) = begins decode (b :: w) := by
        funext l
        rw [Function.comp_apply, begins, begins, List.filterMap_cons_none hdecode]
      simp only [hfirst, decide_true, if_true, reduceCtorEq, decide_false, Bool.false_eq_true, if_false]
      ring
    | some c =>
      have hfirst : begins decode (b :: w) ∘ (a :: ·) = fun l => b == c && begins decode w l := by
        funext l
        rw [Function.comp_apply, begins, begins, List.filterMap_cons_some hdecode, List.isPrefixOf_cons_cons]
      rw [hfirst]
      by_cases hsame : b = c
      · subst hsame
        simp
        ring
      · have hother : ¬ c = b := fun h => hsame h.symm
        simp [hsame, hother]

/-- If each of these is decoded from as many symbols, as many sequences begin with them in any order. -/
theorem countP_begins_eq {symbols : List α} {fair : List β} {k : Nat}
    (hfair : ∀ b ∈ fair, symbols.countP (decode · = some b) = k) (n : Nat) {v w : List β}
    (hv : ∀ b ∈ v, b ∈ fair) (hw : ∀ b ∈ w, b ∈ fair) (hlength : v.length = w.length) :
    (sequences symbols n).countP (begins decode v) = (sequences symbols n).countP (begins decode w) := by
  induction n generalizing v w with
  | zero =>
    cases v with
    | nil => rw [List.length_eq_zero_iff.mp hlength.symm]
    | cons b v =>
      cases w with
      | nil => cases hlength
      | cons c w => rfl
  | succ n ih =>
    cases v with
    | nil => rw [List.length_eq_zero_iff.mp hlength.symm]
    | cons b v =>
      cases w with
      | nil => cases hlength
      | cons c w =>
        obtain ⟨hb, hv'⟩ := List.forall_mem_cons.mp hv
        obtain ⟨hc, hw'⟩ := List.forall_mem_cons.mp hw
        rw [countP_begins_cons, countP_begins_cons, hfair b hb, hfair c hc, ih hv hw hlength,
          ih hv' hw' (Nat.succ.inj hlength)]

end

end rejection

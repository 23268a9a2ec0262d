import Mathlib.Algebra.Ring.Nat
import Mathlib.Logic.Basic

namespace rust

/-- How a call that returns a `Result` ends without a value: with the `Err`
    of its type, or by unwinding. A panic is not an error the caller can match. -/
inductive Failure (ε : Type) where
  | err (e : ε)
  | panic
deriving DecidableEq, Repr

/-- The outcome of a Rust call whose return type is `Result<α, ε>`. -/
abbrev Result (ε α : Type) := Except (Failure ε) α

@[match_pattern] abbrev Err {ε α : Type} (e : ε) : Result ε α := .error (.err e)

@[match_pattern] abbrev Panic {ε α : Type} : Result ε α := .error .panic

/-- `Result::map_err`; a panic passes through unchanged. -/
def map_err {ε ε' α : Type} (f : ε → ε') : Result ε α → Result ε' α
  | .ok a => .ok a
  | Err e => Err (f e)
  | Panic => Panic

/-- `Option::ok_or`. -/
def ok_or {ε α : Type} (e : ε) : Option α → Result ε α
  | some a => .ok a
  | none => Err e

/-- The `Result` of a library call, which does not panic. -/
def of_library {ε ε' α : Type} (f : ε → ε') : Except ε α → Result ε' α
  | .ok a => .ok a
  | .error e => Err (f e)

/-- An `if condition { return Err(e); }` statement. -/
def reject_if {ε : Type} (condition : Bool) (e : ε) : Result ε Unit :=
  if condition then Err e else .ok ()

section
variable {ε ε' α β : Type}

/-- A sequence of calls returns a value exactly when each of them does. -/
theorem bind_eq_ok_iff {x : Result ε α} {f : α → Result ε β} {y : β} :
    (x >>= f) = .ok y ↔ ∃ a, x = .ok a ∧ f a = .ok y := by
  cases x <;> simp [bind, Except.bind]

/-- A sequence of calls fails where the first failing one does. -/
theorem bind_eq_err_iff {x : Result ε α} {f : α → Result ε β} {e : ε} :
    (x >>= f) = Err e ↔ x = Err e ∨ ∃ a, x = .ok a ∧ f a = Err e := by
  cases x <;> simp [bind, Except.bind]

@[simp] theorem ok_bind (a : α) (f : α → Except ε β) : ((.ok a : Except ε α) >>= f) = f a := rfl

@[simp] theorem error_bind (e : ε) (f : α → Except ε β) :
    ((.error e : Except ε α) >>= f) = .error e := rfl

@[simp] theorem map_err_eq_ok_iff {f : ε → ε'} {x : Result ε α} {a : α} :
    map_err f x = .ok a ↔ x = .ok a := by
  rcases x with (_ | _) | _ <;> simp [map_err]

/-- Converting the error type keeps the error that was returned. -/
theorem map_err_eq_err_iff {f : ε → ε'} {x : Result ε α} {e : ε'} :
    map_err f x = Err e ↔ ∃ cause, x = Err cause ∧ f cause = e := by
  rcases x with (_ | _) | _ <;> simp [map_err]

@[simp] theorem ok_or_eq_ok_iff {e : ε} {x : Option α} {a : α} :
    ok_or e x = .ok a ↔ x = some a := by
  cases x <;> simp [ok_or]

@[simp] theorem of_library_eq_ok_iff {f : ε → ε'} {x : Except ε α} {a : α} :
    of_library f x = .ok a ↔ x = .ok a := by
  cases x <;> simp [of_library]

theorem of_library_eq_err_iff {f : ε → ε'} {x : Except ε α} {e : ε'} :
    of_library f x = Err e ↔ ∃ cause, x = .error cause ∧ f cause = e := by
  cases x <;> simp [of_library]

@[simp] theorem reject_if_eq_ok_iff {condition : Bool} {e : ε} {u : Unit} :
    reject_if condition e = .ok u ↔ condition = false := by
  cases condition <;> simp [reject_if]

@[simp] theorem reject_if_eq_err_iff {condition : Bool} {e e' : ε} :
    reject_if condition e = Err e' ↔ condition = true ∧ e = e' := by
  cases condition <;> simp [reject_if]

@[simp] theorem ok_or_eq_err_iff {e e' : ε} {x : Option α} :
    ok_or e x = Err e' ↔ x = none ∧ e = e' := by
  cases x <;> simp [ok_or]

theorem exists_unit {p : Unit → Prop} : (∃ u, p u) ↔ p () :=
  ⟨fun ⟨_, h⟩ => h, fun h => ⟨(), h⟩⟩

/-- A loop of fallible calls completes exactly when every call does. -/
theorem forM_eq_ok_iff {check : α → Result ε Unit} {items : List α} :
    forM items check = .ok () ↔ ∀ item ∈ items, check item = .ok () := by
  induction items with
  | nil => simp [pure, Except.pure]
  | cons item items ih =>
    rw [List.forM_cons, bind_eq_ok_iff, List.forall_mem_cons, ← ih]
    constructor
    · rintro ⟨⟨⟩, hitem, hitems⟩
      exact ⟨hitem, hitems⟩
    · rintro ⟨hitem, hitems⟩
      exact ⟨(), hitem, hitems⟩

end

/-! Calls that do not panic. -/

/-- The call comes back, with a value or with an error of its type. -/
def Returns {ε α : Type} (x : Result ε α) : Prop := x ≠ Panic

section
variable {ε ε' α β : Type}

theorem returns_ok (a : α) : Returns (.ok a : Result ε α) := by
  rintro ⟨⟩

theorem returns_err (e : ε) : Returns (Err e : Result ε α) := by
  rintro ⟨⟩

theorem reject_if_returns (condition : Bool) (e : ε) : Returns (reject_if condition e) := by
  cases condition
  · exact returns_ok ()
  · exact returns_err e

theorem ok_or_returns (e : ε) (x : Option α) : Returns (ok_or e x) := by
  cases x with
  | none => exact returns_err e
  | some a => exact returns_ok a

theorem map_err_returns {f : ε → ε'} {x : Result ε α} (hx : Returns x) : Returns (map_err f x) := by
  rcases x with (e | _) | a
  · exact returns_err (f e)
  · exact absurd rfl hx
  · exact returns_ok a

/-- A sequence of calls comes back if each call does that is reached. -/
theorem bind_returns {x : Result ε α} {f : α → Result ε β} (hx : Returns x)
    (hf : ∀ a, x = .ok a → Returns (f a)) : Returns (x >>= f) := by
  rcases x with (e | _) | a
  · exact returns_err e
  · exact absurd rfl hx
  · exact hf a rfl

theorem forM_returns {check : α → Result ε Unit} {items : List α} (hcheck : ∀ item ∈ items, Returns (check item)) :
    Returns (forM items check) := by
  induction items with
  | nil => exact returns_ok ()
  | cons item items ih =>
    rw [List.forM_cons]
    exact bind_returns (hcheck item List.mem_cons_self)
      fun _ _ => ih fun other hother => hcheck other (List.mem_cons_of_mem item hother)

end

/-! Machine arithmetic. -/

/-- `a + b` on `u64`: it panics on overflow in a build with overflow checks
    and wraps in one without them. -/
def u64_add {ε : Type} (overflow_checks : Bool) (a b : UInt64) : Result ε UInt64 :=
  if overflow_checks && decide (2 ^ 64 ≤ a.toNat + b.toNat) then Panic else .ok (a + b)

/-- `u64::saturating_sub`. -/
def saturating_sub (a b : UInt64) : UInt64 :=
  if b ≤ a then a - b else 0

theorem saturating_sub_toNat (a b : UInt64) :
    (saturating_sub a b).toNat = a.toNat - b.toNat := by
  unfold saturating_sub
  by_cases h : b ≤ a
  · rw [if_pos h, UInt64.toNat_sub_of_le a b h]
  · rw [if_neg h]
    rw [UInt64.le_iff_toNat_le] at h
    rw [UInt64.toNat_zero]
    omega

/-- A returned sum is at most the mathematical one, in either kind of build. -/
theorem u64_add_le {ε : Type} {overflow_checks : Bool} {a b sum : UInt64}
    (hsum : u64_add (ε := ε) overflow_checks a b = .ok sum) :
    sum.toNat ≤ a.toNat + b.toNat := by
  unfold u64_add at hsum
  split at hsum
  · cases hsum
  · cases hsum
    rw [UInt64.toNat_add]
    exact Nat.mod_le _ _

/-- Without overflow the sum is returned and exact. -/
theorem u64_add_of_lt {ε : Type} {overflow_checks : Bool} {a b : UInt64}
    (hfits : a.toNat + b.toNat < 2 ^ 64) :
    u64_add (ε := ε) overflow_checks a b = .ok (a + b) ∧ (a + b).toNat = a.toNat + b.toNat := by
  constructor
  · have hnot : ¬ 2 ^ 64 ≤ a.toNat + b.toNat := by omega
    simp only [u64_add, hnot, decide_false, Bool.and_false, Bool.false_eq_true, if_false]
  · rw [UInt64.toNat_add, Nat.mod_eq_of_lt hfits]

/-- A build with overflow checks adds exactly or not at all. -/
theorem u64_add_checked_returns_iff {ε : Type} {a b : UInt64} :
    Returns (u64_add (ε := ε) true a b) ↔ a.toNat + b.toNat < 2 ^ 64 := by
  unfold u64_add
  by_cases hoverflow : 2 ^ 64 ≤ a.toNat + b.toNat
  · rw [Bool.true_and, if_pos (decide_eq_true hoverflow)]
    exact ⟨fun hreturns => absurd rfl hreturns, fun hlt => absurd hoverflow (by omega)⟩
  · rw [Bool.true_and, if_neg (by simpa using hoverflow)]
    exact ⟨fun _ => by omega, fun _ => returns_ok (a + b)⟩

/-- `core::time::Duration`, in nanoseconds. -/
abbrev Duration := Nat

namespace Duration

def MAX : Duration := (2 ^ 64 - 1) * 10 ^ 9 + 999999999

def from_secs (secs : Nat) : Duration := secs * 10 ^ 9

def from_millis (millis : Nat) : Duration := millis * 10 ^ 6

def as_millis (self : Duration) : Nat := self / 10 ^ 6

def saturating_add (self other : Duration) : Duration := min (self + other) MAX

end Duration

end rust

import Mathlib.Logic.Basic

namespace rust

/-- The contents of a `HashMap`: what each key is mapped to. -/
def Map (K V : Type) : Type := K → Option V

namespace Map

variable {K V : Type}

/-- `HashMap::new`. -/
def empty : Map K V := fun _ => none

def get (self : Map K V) (key : K) : Option V := self key

def contains_key (self : Map K V) (key : K) : Bool := (self key).isSome

/-- `HashMap::insert`: a value already stored under the key is replaced. -/
def insert [DecidableEq K] (self : Map K V) (key : K) (value : V) : Map K V :=
  fun k => if k = key then some value else self k

/-- The map `HashMap::remove` leaves. -/
def remove [DecidableEq K] (self : Map K V) (key : K) : Map K V :=
  fun k => if k = key then none else self k

/-- `HashMap::retain` with a predicate on the stored values. -/
def retain (self : Map K V) (keep : V → Bool) : Map K V :=
  fun k => (self k).filter keep

@[ext] theorem ext {a b : Map K V} (h : ∀ k, a.get k = b.get k) : a = b := funext h

@[simp] theorem get_empty (k : K) : (empty : Map K V).get k = none := rfl

@[simp] theorem get_insert_self [DecidableEq K] (self : Map K V) (key : K) (value : V) :
    (self.insert key value).get key = some value := if_pos rfl

theorem get_insert [DecidableEq K] (self : Map K V) (key k : K) (value : V) :
    (self.insert key value).get k = if k = key then some value else self.get k := rfl

@[simp] theorem get_remove_self [DecidableEq K] (self : Map K V) (key : K) :
    (self.remove key).get key = none := if_pos rfl

theorem get_remove [DecidableEq K] (self : Map K V) (key k : K) :
    (self.remove key).get k = if k = key then none else self.get k := rfl

theorem get_retain_eq_some_iff (self : Map K V) (keep : V → Bool) (k : K) (value : V) :
    (self.retain keep).get k = some value ↔ self.get k = some value ∧ keep value = true := by
  simp [retain, get, Option.filter_eq_some_iff]

theorem contains_key_iff (self : Map K V) (k : K) :
    self.contains_key k = true ↔ ∃ value, self.get k = some value :=
  Option.isSome_iff_exists

theorem contains_key_insert_iff [DecidableEq K] (self : Map K V) (key k : K) (value : V) :
    (self.insert key value).contains_key k = true ↔ k = key ∨ self.contains_key k = true := by
  by_cases hkey : k = key <;> simp [contains_key, insert, hkey]

theorem contains_key_remove_iff [DecidableEq K] (self : Map K V) (key k : K) :
    (self.remove key).contains_key k = true ↔ k ≠ key ∧ self.contains_key k = true := by
  by_cases hkey : k = key <;> simp [contains_key, remove, hkey]

theorem contains_key_eq_false_iff (self : Map K V) (k : K) :
    self.contains_key k = false ↔ self.get k = none := by
  cases h : self k <;> simp [contains_key, get, h]

end Map

end rust

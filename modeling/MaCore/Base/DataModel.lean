import MaCore.Base.Result

/-! Values as `serde` hands them to a data format. -/

namespace serde

open rust

/-- The kinds of values a format has, but for numbers, booleans and bytes. -/
inductive Data where
  | Null
  | Str (s : String)
  | Seq (items : List Data)
  | Map (entries : List (Data × Data))

/-- A data format, with what it stores values as. -/
structure Format (T : Type) where
  write : Data → Except String T
  read : T → Except String Data

/-- What was written is read. -/
def Format.RoundTrips {T : Type} (format : Format T) : Prop :=
  ∀ data stored, format.write data = .ok stored → format.read stored = .ok data

/-- The format of values that are kept as they are. -/
def in_memory : Format Data where
  write := .ok
  read := .ok

theorem in_memory_roundTrips : in_memory.RoundTrips := by
  intro data stored hstored
  cases hstored
  rfl

namespace Data

variable {α : Type}

def read_str : Data → Except String String
  | Str s => .ok s
  | _ => .error "invalid type: expected a string"

/-- A `Vec`. -/
def read_seq (read : Data → Except String α) : Data → Except String (List α)
  | Seq items => items.mapM read
  | _ => .error "invalid type: expected a sequence"

/-- An `Option`, which is none where there is null. -/
def read_option (read : Data → Except String α) : Data → Except String (Option α)
  | Null => .ok none
  | data => some <$> read data

theorem read_strings (strings : List String) : read_seq read_str (Seq (strings.map Str)) = .ok strings := by
  rw [read_seq]
  induction strings with
  | nil => rfl
  | cons s strings ih =>
    rw [List.map_cons, List.mapM_cons, ih]
    rfl

end Data

end serde

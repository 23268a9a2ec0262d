import MaCore.Base.Bytes

/-! Paths, which on Unix are bytes, and need not be UTF-8. -/

namespace rust

theorem from_utf8_eq_some_iff {bytes : Bytes} {s : String} : from_utf8 bytes = some s ↔ bytes = utf8 s := by
  constructor
  · intro hdecoded
    unfold from_utf8 String.fromUTF8? at hdecoded
    split at hdecoded
    · cases hdecoded
      rfl
    · cases hdecoded
  · rintro rfl
    exact from_utf8_utf8 s

/-- The ranges of the bytes that follow the first one of a character. -/
def utf8_ranges (first : UInt8) : Option (List (UInt8 × UInt8)) :=
  if first < 0x80 then some []
  else if first < 0xc2 then none
  else if first < 0xe0 then some [(0x80, 0xbf)]
  else if first = 0xe0 then some [(0xa0, 0xbf), (0x80, 0xbf)]
  else if first = 0xed then some [(0x80, 0x9f), (0x80, 0xbf)]
  else if first < 0xf0 then some [(0x80, 0xbf), (0x80, 0xbf)]
  else if first = 0xf0 then some [(0x90, 0xbf), (0x80, 0xbf), (0x80, 0xbf)]
  else if first < 0xf4 then some [(0x80, 0xbf), (0x80, 0xbf), (0x80, 0xbf)]
  else if first = 0xf4 then some [(0x80, 0x8f), (0x80, 0xbf), (0x80, 0xbf)]
  else none

/-- How many bytes are in these ranges, one after the other. -/
def matching : List (UInt8 × UInt8) → Bytes → Nat
  | (low, high) :: ranges, b :: bytes => if low ≤ b ∧ b ≤ high then matching ranges bytes + 1 else 0
  | _, _ => 0

/-- The characters of some bytes, where each part that begins none is replaced. -/
def replace_invalid : Nat → Bytes → List Char
  | fuel + 1, first :: bytes =>
    match utf8_ranges first with
    | none => '\uFFFD' :: replace_invalid fuel bytes
    | some ranges =>
      let n := matching ranges bytes
      if n = ranges.length then
        ((from_utf8 (first :: bytes.take n)).getD "").toList ++ replace_invalid fuel (bytes.drop n)
      else '\uFFFD' :: replace_invalid fuel (bytes.drop n)
  | _, _ => []

/-- `String::from_utf8_lossy`. -/
def from_utf8_lossy (bytes : Bytes) : String :=
  match from_utf8 bytes with
  | some s => s
  | none => String.ofList (replace_invalid bytes.length bytes)

theorem from_utf8_lossy_utf8 (s : String) : from_utf8_lossy (utf8 s) = s := by
  rw [from_utf8_lossy, from_utf8_utf8]

/-- The lossy text gives the bytes again exactly if there is nothing to replace. -/
theorem utf8_from_utf8_lossy_iff {bytes : Bytes} :
    utf8 (from_utf8_lossy bytes) = bytes ↔ ∃ s, from_utf8 bytes = some s := by
  constructor
  · intro hbytes
    exact ⟨_, from_utf8_eq_some_iff.mpr hbytes.symm⟩
  · rintro ⟨s, hs⟩
    rw [from_utf8_eq_some_iff.mp hs, from_utf8_lossy_utf8]

/-- `std::path::PathBuf`. -/
structure PathBuf where
  bytes : Bytes
deriving DecidableEq

namespace PathBuf

def SEPARATOR : UInt8 := 0x2f

/-- `PathBuf::from` on a string. -/
def from_string (s : String) : PathBuf := ⟨utf8 s⟩

def to_str (self : PathBuf) : Option String := from_utf8 self.bytes

def to_string_lossy (self : PathBuf) : String := from_utf8_lossy self.bytes

/-- What `Path::display` prints. -/
def display (self : PathBuf) : String := self.to_string_lossy

def is_absolute (self : PathBuf) : Bool := self.bytes.head? == some SEPARATOR

def join (self path : PathBuf) : PathBuf :=
  if path.is_absolute then path
  else if self.bytes.getLast?.all (· == SEPARATOR) then ⟨self.bytes ++ path.bytes⟩
  else ⟨self.bytes ++ SEPARATOR :: path.bytes⟩

/-- A path from its end, without the separators and single dots it ends in. -/
def strip_end : Bytes → Bytes
  | 0x2f :: b :: rest => strip_end (b :: rest)
  | 0x2e :: 0x2f :: rest => strip_end (0x2f :: rest)
  | bytes => bytes

def parent (self : PathBuf) : Option PathBuf :=
  match strip_end self.bytes.reverse with
  | [] => none
  | [0x2f] => none
  | bytes => some ⟨(strip_end (bytes.dropWhile (· != SEPARATOR))).reverse⟩

theorem to_string_lossy_from_string (s : String) : (from_string s).to_string_lossy = s := from_utf8_lossy_utf8 s

/-- A path is read from its text exactly if it has one. -/
theorem from_to_string_lossy_iff {path : PathBuf} :
    from_string path.to_string_lossy = path ↔ ∃ s, path.to_str = some s := by
  obtain ⟨bytes⟩ := path
  rw [from_string, PathBuf.mk.injEq]
  exact utf8_from_utf8_lossy_iff

end PathBuf

end rust

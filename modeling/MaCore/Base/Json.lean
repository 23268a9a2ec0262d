import MaCore.Base.Bytes
import Mathlib.Tactic.FinCases

/-- `serde_json::Value`. An object is its entries. -/
inductive serde_json.Value where
  | Null
  | Bool (b : Bool)
  | Number (text : String)
  | String (s : String)
  | Array (items : List serde_json.Value)
  | Object (entries : List (String × serde_json.Value))

/-! The compact JSON text of strings and objects, and a reader of it. -/

namespace json

open rust serde_json

def hexDigits : List Char := "0123456789abcdef".toList

/-- A character inside a string. -/
def escape (c : Char) : List Char :=
  if c = '"' || c = '\\' then ['\\', c]
  else if c = '\n' then ['\\', 'n']
  else if c = '\r' then ['\\', 'r']
  else if c = '\t' then ['\\', 't']
  else if c.toNat = 8 then ['\\', 'b']
  else if c.toNat = 12 then ['\\', 'f']
  else if c.toNat < 32 then
    ['\\', 'u', '0', '0', hexDigits.getD (c.toNat / 16) '0', hexDigits.getD (c.toNat % 16) '0']
  else [c]

def quote (s : String) : List Char := '"' :: (s.toList.flatMap escape ++ ['"'])

/-- What stands before an entry. -/
def separator (first : Bool) : List Char := if first then [] else [',']

mutual

/-- Only strings and objects have a text here. -/
def write : Value → List Char
  | .String s => quote s
  | .Object entries => '{' :: writeEntries true entries
  | _ => []

def writeEntries (first : Bool) : List (String × Value) → List Char
  | [] => ['}']
  | (name, value) :: entries =>
    separator first ++ (quote name ++ ':' :: (write value ++ writeEntries false entries))

end

def encode (value : Value) : Bytes := utf8 (String.ofList (write value))

/-- The character an escape stands for, and the text after it. -/
def unescape : List Char → Option (Char × List Char)
  | 'u' :: '0' :: '0' :: high :: low :: rest => do
    let high ← hexDigits.idxOf? high
    let low ← hexDigits.idxOf? low
    return (Char.ofNat (16 * high + low), rest)
  | 'n' :: rest => some ('\n', rest)
  | 'r' :: rest => some ('\r', rest)
  | 't' :: rest => some ('\t', rest)
  | 'b' :: rest => some (Char.ofNat 8, rest)
  | 'f' :: rest => some (Char.ofNat 12, rest)
  | c :: rest => if c = '"' || c = '\\' then some (c, rest) else none
  | [] => none

/-- The characters before the closing quote, and the text after it. -/
def readString : Nat → List Char → Option (List Char × List Char)
  | 0, _ => none
  | _ + 1, [] => none
  | fuel + 1, c :: rest =>
    if c = '"' then some ([], rest)
    else do
      let (c, rest) ← if c = '\\' then unescape rest else if c.toNat < 32 then none else some (c, rest)
      let (s, rest) ← readString fuel rest
      return (c :: s, rest)

/-- The text after this character. -/
def expect (c : Char) : List Char → Option (List Char)
  | [] => none
  | d :: rest => if d = c then some rest else none

mutual

def read : Nat → List Char → Option (Value × List Char)
  | fuel + 1, '"' :: rest => do
    let (s, rest) ← readString fuel rest
    return (.String (String.ofList s), rest)
  | fuel + 1, '{' :: rest => do
    let (entries, rest) ← readEntries fuel true rest
    return (.Object entries, rest)
  | _, _ => none

def readEntries : Nat → Bool → List Char → Option (List (String × Value) × List Char)
  | 0, _, _ => none
  | _ + 1, _, '}' :: rest => some ([], rest)
  | fuel + 1, first, text => do
    let rest ← if first then some text else expect ',' text
    let rest ← expect '"' rest
    let (name, rest) ← readString fuel rest
    let rest ← expect ':' rest
    let (value, rest) ← read fuel rest
    let (entries, rest) ← readEntries fuel false rest
    return ((String.ofList name, value) :: entries, rest)

end

/-- The one value of a whole text. -/
def decode (bytes : Bytes) : Option Value := do
  let text ← from_utf8 bytes
  let (value, rest) ← read text.toList.length text.toList
  if rest.isEmpty then some value else none

mutual

/-- The value is made of strings and objects. -/
def textual : Value → Bool
  | .String _ => true
  | .Object entries => entriesTextual entries
  | _ => false

def entriesTextual : List (String × Value) → Bool
  | [] => true
  | (_, value) :: entries => textual value && entriesTextual entries

end

section
variable {c : Char} {fuel : Nat}

theorem escape_length (c : Char) : 1 ≤ (escape c).length := by
  unfold escape
  repeat' split
  all_goals simp

/-- A character that is not written as itself is written as an escape. -/
theorem escape_eq_cons (hescaped : c = '"' ∨ c = '\\' ∨ c.toNat < 32) (rest : List Char) :
    ∃ tail, escape c = '\\' :: tail ∧ unescape (tail ++ rest) = some (c, rest) := by
  rcases hescaped with rfl | rfl | hcontrol
  · exact ⟨['"'], rfl, rfl⟩
  · exact ⟨['\\'], rfl, rfl⟩
  · have hcode : ∀ n : Fin 32, ∃ tail, escape (Char.ofNat n) = '\\' :: tail ∧
        ∀ rest, unescape (tail ++ rest) = some (Char.ofNat n, rest) := by
      intro n
      fin_cases n <;> exact ⟨_, rfl, fun _ => rfl⟩
    obtain ⟨tail, hescape, hunescape⟩ := hcode ⟨c.toNat, hcontrol⟩
    rw [Char.ofNat_toNat] at hescape hunescape
    exact ⟨tail, hescape, hunescape rest⟩

/-- A written character is read back. -/
theorem readString_escape (c : Char) (rest : List Char) :
    readString (fuel + 1) (escape c ++ rest) = (readString fuel rest).map fun (s, rest) => (c :: s, rest) := by
  by_cases hescaped : c = '"' ∨ c = '\\' ∨ c.toNat < 32
  · obtain ⟨tail, hescape, hunescape⟩ := escape_eq_cons hescaped rest
    have hquote : ('\\' : Char) ≠ '"' := by decide
    rw [hescape, List.cons_append, readString, if_neg hquote, if_pos rfl, hunescape,
      Option.map_eq_bind]
    rfl
  · rw [not_or, not_or] at hescaped
    obtain ⟨hquote, hbackslash, hcontrol⟩ := hescaped
    have hescape : escape c = [c] := by
      have hplain {d : Char} (hd : d.toNat < 32) : c ≠ d := by
        rintro rfl
        exact hcontrol hd
      have hcode {n : Nat} (hn : n < 32) : c.toNat ≠ n := by omega
      have hspecial : ¬ (c = '"' || c = '\\') = true := by simpa using ⟨hquote, hbackslash⟩
      rw [escape, if_neg hspecial, if_neg (hplain (by decide)), if_neg (hplain (by decide)),
        if_neg (hplain (by decide)), if_neg (hcode (by decide)), if_neg (hcode (by decide)), if_neg hcontrol]
    rw [hescape, List.singleton_append, readString, if_neg hquote, if_neg hbackslash, if_neg hcontrol,
      Option.map_eq_bind]
    rfl

/-- So is a written string. -/
theorem readString_flatMap {s : List Char} (hfuel : s.length < fuel) (rest : List Char) :
    readString fuel (s.flatMap escape ++ '"' :: rest) = some (s, rest) := by
  induction s generalizing fuel with
  | nil =>
    obtain ⟨fuel, rfl⟩ := Nat.exists_eq_add_one_of_ne_zero (Nat.ne_of_gt hfuel)
    rw [List.flatMap_nil, List.nil_append, readString, if_pos rfl]
  | cons c s ih =>
    obtain ⟨fuel, rfl⟩ := Nat.exists_eq_add_one_of_ne_zero (Nat.ne_of_gt (Nat.zero_lt_of_lt hfuel))
    rw [List.flatMap_cons, List.append_assoc, readString_escape, ih (Nat.lt_of_succ_lt_succ hfuel)]
    rfl

theorem flatMap_escape_length (s : List Char) : s.length ≤ (s.flatMap escape).length := by
  induction s with
  | nil => exact Nat.le_refl _
  | cons c s ih =>
    have hlength := escape_length c
    rw [List.flatMap_cons, List.length_append, List.length_cons]
    omega

theorem quote_length (s : String) : s.toList.length + 2 ≤ (quote s).length := by
  have hlength := flatMap_escape_length s.toList
  rw [quote, List.length_cons, List.length_append, List.length_singleton]
  omega

/-- Values and entries of strings and objects are read back, whatever follows them. -/
theorem read_write (fuel : Nat) :
    (∀ value rest, textual value = true → (write value).length ≤ fuel →
      read fuel (write value ++ rest) = some (value, rest)) ∧
    ∀ first entries rest, entriesTextual entries = true → (writeEntries first entries).length ≤ fuel →
      readEntries fuel first (writeEntries first entries ++ rest) = some (entries, rest) := by
  induction fuel with
  | zero =>
    constructor
    · intro value rest htextual hlength
      cases value with
      | String s => simp [write, quote] at hlength
      | Object entries => simp [write] at hlength
      | _ => cases htextual
    · intro first entries rest htextual hlength
      cases entries <;> simp [writeEntries, quote] at hlength
  | succ fuel ih =>
    obtain ⟨hread, hentries⟩ := ih
    constructor
    · intro value rest htextual hlength
      cases value with
      | String s =>
        rw [write] at hlength ⊢
        have hquote := quote_length s
        have hstring := @readString_flatMap fuel s.toList (by omega) rest
        simp only [quote, List.cons_append, List.append_assoc, List.nil_append, read, hstring]
        simp
      | Object entries =>
        rw [write] at hlength ⊢
        rw [textual] at htextual
        rw [List.length_cons] at hlength
        rw [List.cons_append, read, hentries true entries rest htextual (by omega)]
        rfl
      | _ => cases htextual
    · intro first entries rest htextual hlength
      cases entries with
      | nil => rfl
      | cons entry entries =>
        obtain ⟨name, value⟩ := entry
        rw [entriesTextual, Bool.and_eq_true] at htextual
        obtain ⟨hvalue, hrest⟩ := htextual
        rw [writeEntries] at hlength ⊢
        have hquote := quote_length name
        simp only [List.length_append, List.length_cons] at hlength
        have hname := @readString_flatMap fuel name.toList (by omega)
          (':' :: (write value ++ (writeEntries false entries ++ rest)))
        have hvalue := hread value (writeEntries false entries ++ rest) hvalue (by omega)
        have hrest := hentries false entries rest hrest (by omega)
        cases first <;>
          simp [separator, quote, readEntries, expect, hname, hvalue, hrest]

/-- A value of strings and objects is decoded from its encoding. -/
theorem decode_encode {value : Value} (htextual : textual value = true) :
    decode (encode value) = some value := by
  have hread := (read_write (write value).length).1 value [] htextual (Nat.le_refl _)
  rw [List.append_nil] at hread
  simp [decode, encode, hread]

end

end json

import MaCore.Base.Json

/-! The compact JSON text of an object of strings and natural numbers, and a reader of it. -/

namespace json

open serde_json

/-- The digits of a natural number, without zeros before them. -/
def natural (digits : List Char) : Bool := Nat.toDigits 10 (Nat.ofDigitChars 10 digits 0) == digits

def scalar : Value → Bool
  | .String _ => true
  | .Number text => natural text.toList
  | _ => false

def writeScalar : Value → List Char
  | .String s => quote s
  | .Number text => text.toList
  | _ => []

def writeFields (first : Bool) : List (String × Value) → List Char
  | [] => ['}']
  | (name, value) :: fields =>
    separator first ++ (quote name ++ ':' :: (writeScalar value ++ writeFields false fields))

/-- The text of an object of scalars. -/
def writeFlat : Value → Option (List Char)
  | .Object fields => if fields.all fun field => scalar field.2 then some ('{' :: writeFields true fields) else none
  | _ => none

def readScalar : List Char → Option (Value × List Char)
  | [] => none
  | c :: rest =>
    if c = '"' then do
      let (s, rest) ← readString rest.length rest
      return (.String (String.ofList s), rest)
    else
      let digits := (c :: rest).takeWhile Char.isDigit
      if natural digits then some (.Number (String.ofList digits), (c :: rest).dropWhile Char.isDigit) else none

/-- The text of an entry, after what stands before it. -/
def skipSeparator (first : Bool) (text : List Char) : Option (List Char) :=
  if first then some text else expect ',' text

def readFields : Nat → Bool → List Char → Option (List (String × Value) × List Char)
  | 0, _, _ => none
  | fuel + 1, first, text =>
    match expect '}' text with
    | some rest => some ([], rest)
    | none => do
      let rest ← skipSeparator first text
      let rest ← expect '"' rest
      let (name, rest) ← readString rest.length rest
      let rest ← expect ':' rest
      let (value, rest) ← readScalar rest
      let (fields, rest) ← readFields fuel false rest
      return ((String.ofList name, value) :: fields, rest)

/-- The object of scalars that a whole text is of. -/
def readFlat (text : List Char) : Option Value := do
  let rest ← expect '{' text
  let (fields, rest) ← readFields rest.length true rest
  if rest.isEmpty then some (.Object fields) else none

section
variable {value : Value} {fields : List (String × Value)} {digits text rest : List Char} {first : Bool} {fuel : Nat}

theorem natural_toDigits (n : Nat) : natural (Nat.toDigits 10 n) = true := by
  rw [natural, Nat.ofDigitChars_ten_toDigits]
  exact beq_self_eq_true _

theorem natural_digits (hnatural : natural digits = true) : digits ≠ [] ∧ ∀ c ∈ digits, c.isDigit = true := by
  rw [← beq_iff_eq.mp hnatural]
  exact ⟨Nat.toDigits_ne_nil, fun c hc => Nat.isDigit_of_mem_toDigits (by decide) (by decide) hc⟩

theorem expect_self (c : Char) (rest : List Char) : expect c (c :: rest) = some rest := if_pos rfl

/-- A written name or text is read back. -/
theorem readString_quote (s : String) (rest : List Char) :
    ∃ text, quote s ++ rest = '"' :: text ∧ readString text.length text = some (s.toList, rest) := by
  refine ⟨s.toList.flatMap escape ++ '"' :: rest, by simp [quote], ?_⟩
  have hlength := flatMap_escape_length s.toList
  apply readString_flatMap
  rw [List.length_append, List.length_cons]
  omega

/-- What follows a number does not go on with it. -/
theorem readScalar_write (hscalar : scalar value = true) (hrest : ∀ c ∈ rest.head?, c.isDigit = false) :
    readScalar (writeScalar value ++ rest) = some (value, rest) := by
  cases value with
  | String s =>
    obtain ⟨text, htext, hread⟩ := readString_quote s rest
    rw [writeScalar, htext, readScalar, if_pos rfl, hread]
    simp
  | Number text =>
    obtain ⟨hne, hdigits⟩ := natural_digits hscalar
    obtain ⟨c, digits, hcons⟩ := List.exists_cons_of_ne_nil hne
    have hquote : c ≠ '"' := by
      rintro rfl
      exact absurd (hdigits '"' (hcons ▸ List.mem_cons_self)) (by decide)
    have htake : (text.toList ++ rest).takeWhile Char.isDigit = text.toList := by
      rw [List.takeWhile_append_of_pos hdigits]
      cases rest with
      | nil => simp
      | cons d rest => simp [hrest d rfl]
    have hdrop : (text.toList ++ rest).dropWhile Char.isDigit = rest := by
      rw [List.dropWhile_append_of_pos hdigits]
      cases rest with
      | nil => rfl
      | cons d rest => simp [hrest d rfl]
    rw [scalar] at hscalar
    rw [writeScalar]
    rw [hcons, List.cons_append] at htake hdrop ⊢
    rw [readScalar, if_neg hquote, htake, hdrop]
    dsimp only
    rw [← hcons, if_pos hscalar, String.ofList_toList]
  | _ => cases hscalar

theorem writeFields_head (fields : List (String × Value)) :
    ∀ c ∈ (writeFields false fields).head?, c.isDigit = false := by
  intro c hc
  cases fields with
  | nil =>
    cases hc
    decide
  | cons field fields =>
    cases hc
    decide

/-- Fields that were written are read back, whatever follows them. -/
theorem readFields_write (hscalar : ∀ field ∈ fields, scalar field.2 = true) (hfuel : fields.length < fuel)
    (rest : List Char) : readFields fuel first (writeFields first fields ++ rest) = some (fields, rest) := by
  induction fields generalizing fuel first with
  | nil =>
    obtain ⟨fuel, rfl⟩ := Nat.exists_eq_add_one_of_ne_zero (Nat.ne_of_gt hfuel)
    rw [writeFields, readFields, List.cons_append, expect_self]
    rfl
  | cons field fields ih =>
    obtain ⟨name, value⟩ := field
    obtain ⟨fuel, rfl⟩ := Nat.exists_eq_add_one_of_ne_zero (Nat.ne_of_gt (Nat.zero_lt_of_lt hfuel))
    have hvalue : scalar value = true := hscalar _ List.mem_cons_self
    have hrest := @ih false fuel (fun field hfield => hscalar field (List.mem_cons_of_mem _ hfield))
      (Nat.lt_of_succ_lt_succ hfuel)
    obtain ⟨text, htext, hname⟩ := readString_quote name
      (':' :: (writeScalar value ++ (writeFields false fields ++ rest)))
    have hhead : ∀ c ∈ (writeFields false fields ++ rest).head?, c.isDigit = false := by
      intro c hc
      apply writeFields_head fields c
      cases fields <;> exact hc
    have hwritten : writeFields first ((name, value) :: fields) ++ rest = separator first ++ '"' :: text := by
      rw [writeFields, List.append_assoc, List.append_assoc, List.cons_append, List.append_assoc, htext]
    have hbrace : expect '}' (separator first ++ '"' :: text) = none := by cases first <;> rfl
    have hskip : skipSeparator first (separator first ++ '"' :: text) = some ('"' :: text) := by cases first <;> rfl
    rw [hwritten, readFields, hbrace]
    simp [hskip, expect_self, hname, readScalar_write hvalue hhead, hrest]

theorem writeFields_length (first : Bool) (fields : List (String × Value)) :
    fields.length < (writeFields first fields).length := by
  induction fields generalizing first with
  | nil => exact Nat.zero_lt_one
  | cons field fields ih =>
    have hrest := ih false
    simp only [writeFields, List.length_append, List.length_cons]
    omega

/-- An object of scalars is read from its text. -/
theorem readFlat_write (hwrite : writeFlat value = some text) : readFlat text = some value := by
  cases value with
  | Object fields =>
    rw [writeFlat] at hwrite
    split at hwrite
    · rename_i hscalar
      cases hwrite
      have hread := @readFields_write fields true _ (List.all_eq_true.mp hscalar) (writeFields_length true fields) []
      rw [List.append_nil] at hread
      simp [readFlat, expect_self, hread]
    · cases hwrite
  | _ => cases hwrite

end

end json

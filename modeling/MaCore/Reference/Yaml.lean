import MaCore.Config

open rust serde_yaml

/-! A YAML library for mappings of plain keys to plain strings, numbers and booleans, a line each. -/

namespace ma_core.reference

open config

/-- Words that are not strings, or not to every reader. -/
def RESERVED_WORDS : List (List Char) :=
  ["true", "false", "null", "yes", "no", "on", "off", "y", "n"].map String.toList

def plain_char (c : Char) : Bool := c.isAlphanum || "_-./:".toList.contains c

def plain_start (c : Char) : Bool := c.isAlpha || c == '/'

/-- A string that needs no quotes. -/
def plain (text : List Char) : Bool :=
  text.head?.any plain_start && text.all plain_char && text.getLast? != some ':' &&
    !RESERVED_WORDS.contains (text.map Char.toLower)

def plain_key (text : List Char) : Bool := plain text && !text.contains ':'

def write_scalar : Node → Option (List Char)
  | .String s => if plain s.toList then some s.toList else none
  | .Number (.PosInt n) => some (Nat.toDigits 10 n.toNat)
  | .Bool true => some "true".toList
  | .Bool false => some "false".toList
  | _ => none

def read_scalar (text : List Char) : Option Value :=
  if text = "true".toList then some (.bool true)
  else if text = "false".toList then some (.bool false)
  else if plain text then some (.string (String.ofList text))
  else
    match parse_u64 (String.ofList text) with
    | some n => if text = Nat.toDigits 10 n.toNat then some (.number (.PosInt n)) else none
    | none => none

def write_entry : Node × Node → Option (List Char)
  | (.String name, value) => do
    let text ← write_scalar value
    if plain_key name.toList then some (name.toList ++ ':' :: ' ' :: text) else none
  | _ => none

def read_entry (line : List Char) : Option (String × Value) :=
  match line.dropWhile (· != ':') with
  | ':' :: ' ' :: text => do
    let value ← read_scalar text
    return (String.ofList (line.takeWhile (· != ':')), value)
  | _ => none

def write_lines (lines : List (List Char)) : List Char := lines.flatMap (· ++ ['\n'])

def read_lines (text : List Char) : List (List Char) := (text.splitOn '\n').dropLast

theorem of_strings_unique {entries : List (String × Value)} (hnodup : (entries.map Prod.fst).Nodup) :
    Unique (.Mapping (entries.map fun entry => (.String entry.1, entry.2.val))) := by
  constructor
  · rw [List.map_map]
    have hkeys : (entries.map (Prod.fst ∘ fun entry => (Node.String entry.1, entry.2.val))) =
        (entries.map Prod.fst).map Node.String := by simp [Function.comp_def]
    rw [hkeys]
    exact hnodup.map fun a b hab => Node.String.inj hab
  · rw [entriesUnique_iff]
    intro entry hentry
    obtain ⟨⟨name, value⟩, _, rfl⟩ := List.mem_map.mp hentry
    exact ⟨trivial, value.property⟩

def yaml : YamlLib where
  to_string value :=
    match value.as_mapping with
    | none => .error "not supported"
    | some m =>
      if m.entries = [] then .ok "{}\n"
      else
        match m.entries.mapM write_entry with
        | some lines => .ok (String.ofList (write_lines lines))
        | none => .error "not supported"
  from_str text :=
    if text = "{}\n" then .ok (.mapping Mapping.new)
    else
      match (read_lines text.toList).mapM read_entry with
      | none => .error "not supported"
      | some entries =>
        if hnodup : (entries.map Prod.fst).Nodup then .ok ⟨_, of_strings_unique hnodup⟩
        else .error "duplicate entry"

theorem parse_u64_toDigits (n : UInt64) : parse_u64 (String.ofList (Nat.toDigits 10 n.toNat)) = some n := by
  have hdigit : ∀ c ∈ Nat.toDigits 10 n.toNat, c.isDigit = true := fun c hc =>
    Nat.isDigit_of_mem_toDigits (by decide) (by decide) hc
  have hne : Nat.toDigits 10 n.toNat ≠ [] := Nat.toDigits_ne_nil
  have hdigits : without_plus (Nat.toDigits 10 n.toNat) = Nat.toDigits 10 n.toNat := by
    unfold without_plus
    split
    · rename_i hplus
      exact absurd (hdigit '+' (by rw [hplus]; exact List.mem_cons_self)) (by decide)
    · rfl
  have hall : (Nat.toDigits 10 n.toNat).all Char.isDigit = true := List.all_eq_true.mpr hdigit
  have hlt : ¬ 2 ^ 64 ≤ n.toNat := Nat.not_le_of_lt n.toNat_lt
  rw [parse_u64, String.toList_ofList, hdigits, Nat.ofDigitChars_ten_toDigits, hall,
    if_neg (by simpa [hne] using hlt), Nat.toUInt64_eq, UInt64.ofNat_toNat]

theorem plain_ne_word {text word : List Char} (hplain : plain text = true) (hword : word ∈ RESERVED_WORDS)
    (hlower : word.map Char.toLower = word) : text ≠ word := by
  rintro rfl
  simp only [plain, hlower, List.contains_iff_mem.mpr hword, Bool.not_true, Bool.and_false] at hplain
  cases hplain

/-- A number does not begin like a word. -/
theorem toDigits_head (n : Nat) : (Nat.toDigits 10 n).head?.any plain_start = false := by
  cases hdigits : Nat.toDigits 10 n with
  | nil => rfl
  | cons c rest =>
    have hmem : c ∈ Nat.toDigits 10 n := by
      rw [hdigits]
      exact List.mem_cons_self
    have hc : c.isDigit = true := Nat.isDigit_of_mem_toDigits (by decide) (by decide) hmem
    have hslash : c ≠ '/' := by
      rintro rfl
      exact absurd hc (by decide)
    have hnine : c.val ≤ '9'.val := of_decide_eq_true (Bool.and_eq_true_iff.mp hc).2
    have hupper : c.isUpper = false := by
      refine decide_eq_false ?_
      intro hletter
      exact absurd (UInt32.le_trans hletter.1 hnine) (by decide)
    have hlower : c.isLower = false := by
      refine Bool.and_eq_false_iff.mpr (.inl (decide_eq_false ?_))
      intro hletter
      exact absurd (UInt32.le_trans hletter hnine) (by decide)
    have halpha : c.isAlpha = false := Bool.or_eq_false_iff.mpr ⟨hupper, hlower⟩
    simp [plain_start, halpha, hslash]

/-- A scalar is read as it was written. -/
theorem read_scalar_write {node : Node} {text : List Char} (hwrite : write_scalar node = some text) :
    ∃ value : Value, read_scalar text = some value ∧ value.val = node := by
  cases node with
  | String s =>
    rw [write_scalar] at hwrite
    split at hwrite
    · rename_i hplain
      cases hwrite
      refine ⟨.string s, ?_, rfl⟩
      rw [read_scalar, if_neg (plain_ne_word hplain (by decide) (by decide)),
        if_neg (plain_ne_word hplain (by decide) (by decide)), if_pos hplain, String.ofList_toList]
    · cases hwrite
  | Number n =>
    cases n with
    | PosInt n =>
      cases hwrite
      have hhead := toDigits_head n.toNat
      have hword {word : List Char} (hword : word.head?.any plain_start = true) : Nat.toDigits 10 n.toNat ≠ word := by
        rintro rfl
        rw [hhead] at hword
        cases hword
      have hplain : ¬ plain (Nat.toDigits 10 n.toNat) = true := by
        rw [plain, hhead]
        exact Bool.false_ne_true
      refine ⟨.number (.PosInt n), ?_, rfl⟩
      rw [read_scalar, if_neg (hword rfl), if_neg (hword rfl), if_neg hplain, parse_u64_toDigits]
      exact if_pos rfl
    | NegInt _ | Float _ => cases hwrite
  | Bool b =>
    cases b with
    | true =>
      cases hwrite
      exact ⟨.bool true, rfl, rfl⟩
    | false =>
      cases hwrite
      exact ⟨.bool false, rfl, rfl⟩
  | Null | Sequence | Mapping | Tagged => cases hwrite

theorem plain_no_newline {text : List Char} (hplain : plain text = true) : '\n' ∉ text := by
  intro hmem
  simp only [plain, Bool.and_eq_true, List.all_eq_true] at hplain
  exact absurd (hplain.1.1.2 '\n' hmem) (by decide)

theorem write_scalar_no_newline {node : Node} {text : List Char} (hwrite : write_scalar node = some text) :
    '\n' ∉ text := by
  cases node with
  | String s =>
    rw [write_scalar] at hwrite
    split at hwrite
    · rename_i hplain
      cases hwrite
      exact plain_no_newline hplain
    · cases hwrite
  | Number n =>
    cases n with
    | PosInt n =>
      cases hwrite
      intro hmem
      exact absurd (Nat.isDigit_of_mem_toDigits (by decide) (by decide) hmem) (by decide)
    | NegInt _ | Float _ => cases hwrite
  | Bool b =>
    cases b with
    | true =>
      cases hwrite
      decide
    | false =>
      cases hwrite
      decide
  | Null | Sequence | Mapping | Tagged => cases hwrite

/-- An entry is read as it was written. -/
theorem read_entry_write {entry : Node × Node} {line : List Char} (hwrite : write_entry entry = some line) :
    '\n' ∉ line ∧ ∃ (name : String) (value : Value), read_entry line = some (name, value) ∧
      entry = (.String name, value.val) := by
  obtain ⟨key, node⟩ := entry
  cases key with
  | String name =>
    obtain ⟨text, htext, hline⟩ := Option.bind_eq_some_iff.mp hwrite
    split at hline
    · rename_i hkey
      cases hline
      simp only [plain_key, Bool.and_eq_true, Bool.not_eq_true', List.contains_eq_mem,
        decide_eq_false_iff_not] at hkey
      obtain ⟨value, hread, hvalue⟩ := read_scalar_write htext
      have hbefore : ∀ c ∈ name.toList, (c != ':') = true := by
        intro c hc
        rw [bne_iff_ne]
        rintro rfl
        exact hkey.2 hc
      constructor
      · intro hmem
        rcases List.mem_append.mp hmem with hname | hrest
        · exact plain_no_newline hkey.1 hname
        · simp only [List.mem_cons, Char.reduceEq, false_or] at hrest
          exact write_scalar_no_newline htext hrest
      · refine ⟨name, value, ?_, by rw [hvalue]⟩
        rw [read_entry, List.dropWhile_append_of_pos hbefore, List.takeWhile_append_of_pos hbefore]
        simp [hread]
    · cases hline
  | Null | Bool | Number | Sequence | Mapping | Tagged => cases hwrite

theorem read_entries_write {entries : List (Node × Node)} {lines : List (List Char)}
    (hwrite : entries.mapM write_entry = some lines) :
    (∀ line ∈ lines, '\n' ∉ line) ∧ ∃ read : List (String × Value), lines.mapM read_entry = some read ∧
      entries = read.map fun entry => (.String entry.1, entry.2.val) := by
  induction entries generalizing lines with
  | nil =>
    cases hwrite
    exact ⟨fun line hline => absurd hline List.not_mem_nil, [], rfl, rfl⟩
  | cons entry entries ih =>
    rw [List.mapM_cons] at hwrite
    obtain ⟨line, hline, hwrite⟩ := Option.bind_eq_some_iff.mp hwrite
    obtain ⟨rest, hrest, hlines⟩ := Option.bind_eq_some_iff.mp hwrite
    cases hlines
    obtain ⟨hnewline, name, value, hread, rfl⟩ := read_entry_write hline
    obtain ⟨hnewlines, read, hreads, rfl⟩ := ih hrest
    refine ⟨List.forall_mem_cons.mpr ⟨hnewline, hnewlines⟩, (name, value) :: read, ?_, rfl⟩
    rw [List.mapM_cons, hread, hreads]
    rfl

theorem read_lines_write {lines : List (List Char)} (hlines : ∀ line ∈ lines, '\n' ∉ line) :
    read_lines (write_lines lines) = lines := by
  have hsplit : (write_lines lines).splitOn '\n' = lines ++ [[]] := by
    induction lines with
    | nil => rfl
    | cons line lines ih =>
      obtain ⟨hline, hrest⟩ := List.forall_mem_cons.mp hlines
      have hwrite : write_lines (line :: lines) = line ++ '\n' :: write_lines lines := by simp [write_lines]
      rw [hwrite, List.splitOn_append_cons_self_of_not_mem hline, ih hrest, List.cons_append]
  rw [read_lines, hsplit, List.dropLast_concat]

/-- The text of an empty mapping is no line of an entry. -/
theorem write_lines_ne_empty {entries : List (Node × Node)} {lines : List (List Char)}
    (hwrite : entries.mapM write_entry = some lines) : String.ofList (write_lines lines) ≠ "{}\n" := by
  obtain ⟨hnewlines, read, hread, _⟩ := read_entries_write hwrite
  intro hempty
  have hlines := read_lines_write hnewlines
  have htext : write_lines lines = "{}\n".toList := by rw [← hempty, String.toList_ofList]
  rw [htext] at hlines
  rw [← hlines] at hread
  cases hread

theorem yaml_roundTrips : yaml.RoundTrips := by
  intro value text hwrite
  cases hmapping : value.as_mapping with
  | none =>
    simp only [yaml, hmapping] at hwrite
    cases hwrite
  | some m =>
    obtain rfl := Value.as_mapping_eq_some_iff.mp hmapping
    simp only [yaml, hmapping] at hwrite
    by_cases hempty : m.entries = []
    · rw [if_pos hempty] at hwrite
      cases hwrite
      obtain ⟨entries, unique⟩ := m
      cases hempty
      rfl
    · rw [if_neg hempty] at hwrite
      split at hwrite
      · rename_i lines hlines
        cases hwrite
        obtain ⟨hnewlines, read, hread, hentries⟩ := read_entries_write hlines
        obtain ⟨entries, unique⟩ := m
        cases hentries
        have hnodup : (read.map Prod.fst).Nodup := by
          have hkeys := unique.1
          rw [List.map_map] at hkeys
          exact List.Nodup.of_map Node.String (by simpa [Function.comp_def] using hkeys)
        simp only [yaml, write_lines_ne_empty hlines, String.toList_ofList, read_lines_write hnewlines, hread,
          if_false]
        rw [dif_pos hnodup]
        rfl
      · cases hwrite

end ma_core.reference

import MaCore.Base.Separated
import MaCore.Ipfs.Publish

open rust
open ma_core.did

namespace ma_core.ipfs

/-- `[a-z0-9]`. -/
def is_key_letter (c : Char) : Prop := ('a' ≤ c ∧ c ≤ 'z') ∨ ('0' ≤ c ∧ c ≤ '9')

/-- `[-_]`. -/
def is_key_separator (c : Char) : Prop := c = '-' ∨ c = '_'

/-- `[a-z0-9]+([-_][a-z0-9]+)*`. -/
abbrev KeyChars : List Char → Prop := Separated is_key_letter is_key_separator

def IsKeyPart (part : String) : Prop := KeyChars part.toList

/-- What the loop has written: nothing yet, a part, or a part with a separator after it. -/
def Written : List Char × Bool → Prop
  | (sanitized, false) => sanitized = [] ∨ KeyChars sanitized
  | (sanitized, true) => ∃ front sep, sanitized = front ++ [sep] ∧ KeyChars front ∧ is_key_separator sep

section
variable {c : Char} {part : String} {l : List Char}

theorem is_key_letter_iff :
    is_key_letter c ↔ (97 ≤ c.toNat ∧ c.toNat ≤ 122) ∨ (48 ≤ c.toNat ∧ c.toNat ≤ 57) := by
  simp only [is_key_letter, Char.le_def, UInt32.le_iff_toNat_le]
  rfl

theorem is_ascii_alphanumeric_iff : is_ascii_alphanumeric c = true ↔
    (48 ≤ c.toNat ∧ c.toNat ≤ 57) ∨ (65 ≤ c.toNat ∧ c.toNat ≤ 90) ∨ (97 ≤ c.toNat ∧ c.toNat ≤ 122) := by
  simp only [is_ascii_alphanumeric, Char.le_def, UInt32.le_iff_toNat_le, Bool.or_eq_true, Bool.and_eq_true,
    decide_eq_true_eq, or_assoc]
  rfl

theorem to_ascii_lowercase_eq (c : Char) :
    to_ascii_lowercase c = if 65 ≤ c.toNat ∧ c.toNat ≤ 90 then Char.ofNat (c.toNat + 32) else c := by
  simp only [to_ascii_lowercase, Char.le_def, UInt32.le_iff_toNat_le, Bool.and_eq_true, decide_eq_true_eq]
  rfl

theorem toNat_ofNat_ascii {n : Nat} (hascii : n < 128) : (Char.ofNat n).toNat = n := by
  have hvalid : n.isValidChar := .inl (by omega)
  rw [Char.ofNat, dif_pos hvalid]
  rfl

/-- Letters and digits become letters of a part, -/
theorem to_ascii_lowercase_letter (hc : is_ascii_alphanumeric c = true) : is_key_letter (to_ascii_lowercase c) := by
  rw [is_ascii_alphanumeric_iff] at hc
  rw [to_ascii_lowercase_eq]
  split
  · rename_i hupper
    rw [is_key_letter_iff, toNat_ofNat_ascii (by omega)]
    omega
  · rw [is_key_letter_iff]
    omega

/-- which stay as they are. -/
theorem to_ascii_lowercase_of_letter (hc : is_key_letter c) : to_ascii_lowercase c = c := by
  rw [is_key_letter_iff] at hc
  rw [to_ascii_lowercase_eq, if_neg]
  omega

theorem may_separate_iff {sanitized : List Char} {last_was_separator : Bool} :
    (!last_was_separator && !sanitized.isEmpty) = true ↔ last_was_separator = false ∧ sanitized ≠ [] := by
  simp

/-- A byte adds a letter, or a separator where there can be one, or nothing. -/
theorem sanitize_byte_cases (sanitized : List Char) (last_was_separator : Bool) (byte : UInt8) :
    (∃ c, is_key_letter c ∧ sanitize_byte (sanitized, last_was_separator) byte = (sanitized ++ [c], false)) ∨
    (∃ sep, is_key_separator sep ∧ last_was_separator = false ∧ sanitized ≠ [] ∧
      sanitize_byte (sanitized, last_was_separator) byte = (sanitized ++ [sep], true)) ∨
    sanitize_byte (sanitized, last_was_separator) byte = (sanitized, last_was_separator) := by
  unfold sanitize_byte
  dsimp only
  split
  · rename_i halphanumeric
    exact .inl ⟨_, to_ascii_lowercase_letter halphanumeric, rfl⟩
  · split
    · rename_i hsep
      split
      · rename_i hmay
        obtain ⟨hlast, hne⟩ := may_separate_iff.mp hmay
        refine .inr (.inl ⟨_, ?_, hlast, hne, rfl⟩)
        simpa [is_key_separator] using hsep
      · exact .inr (.inr rfl)
    · split
      · rename_i hmay
        obtain ⟨hlast, hne⟩ := may_separate_iff.mp hmay
        exact .inr (.inl ⟨'-', .inl rfl, hlast, hne, rfl⟩)
      · exact .inr (.inr rfl)

/-- A byte after a part, or after a part and its separator, leaves one of these. -/
theorem Written.sanitize_byte {state : List Char × Bool} (hwritten : Written state) (byte : UInt8) :
    Written (sanitize_byte state byte) := by
  obtain ⟨sanitized, last_was_separator⟩ := state
  obtain ⟨c, hc, hbyte⟩ | ⟨sep, hsep, rfl, hne, hbyte⟩ | hbyte :=
    sanitize_byte_cases sanitized last_was_separator byte
  · rw [hbyte]
    have hword : KeyChars [c] := by
      refine .word (List.cons_ne_nil _ _) ?_
      intro a ha
      rw [List.mem_singleton.mp ha]
      exact hc
    cases last_was_separator with
    | false =>
      obtain rfl | hpart := hwritten
      · exact .inr hword
      · exact .inr (hpart.append_letter hc)
    | true =>
      obtain ⟨front, sep, rfl, hfront, hsep⟩ := hwritten
      rw [List.append_assoc]
      exact .inr (hfront.append hsep hword)
  · rw [hbyte]
    obtain rfl | hpart := hwritten
    · exact absurd rfl hne
    · exact ⟨sanitized, sep, rfl, hpart, hsep⟩
  · rw [hbyte]
    exact hwritten

theorem written_foldl (bytes : Bytes) : Written (bytes.foldl ipfs.sanitize_byte ([], false)) := by
  induction bytes using List.reverseRecOn with
  | nil => exact .inl rfl
  | append_singleton bytes byte ih =>
    rw [List.foldl_append]
    exact ih.sanitize_byte byte

/-- What the loop that pops separators leaves. -/
def without_last_separators (sanitized : List Char) : List Char :=
  (sanitized.reverse.dropWhile fun c => c == '-' || c == '_').reverse

theorem sanitize_key_part_eq (part : String) : sanitize_key_part part =
    if (without_last_separators ((utf8 part).foldl sanitize_byte ([], false)).1).isEmpty then "unknown"
    else String.ofList (without_last_separators ((utf8 part).foldl sanitize_byte ([], false)).1) := rfl

theorem is_key_letter_not_separator (hc : is_key_letter c) : (c == '-' || c == '_') = false := by
  rw [is_key_letter_iff] at hc
  rw [Bool.or_eq_false_iff, beq_eq_false_iff_ne, beq_eq_false_iff_ne]
  constructor
  · rintro rfl
    revert hc
    decide
  · rintro rfl
    revert hc
    decide

theorem without_last_separators_eq_self (hpart : KeyChars l) :
    without_last_separators l = l := by
  rw [without_last_separators, dropWhile_eq_self, List.reverse_reverse]
  intro c hc
  rw [List.head?_reverse] at hc
  exact is_key_letter_not_separator (hpart.last c hc)

theorem without_last_separators_append (hc : is_key_separator c) :
    without_last_separators (l ++ [c]) = without_last_separators l := by
  have hsep : (c == '-' || c == '_') = true := by
    obtain rfl | rfl := hc
    · rfl
    · rfl
  rw [without_last_separators, List.reverse_append, List.reverse_singleton, List.singleton_append,
    List.dropWhile_cons, if_pos hsep]
  rfl

theorem isKeyPart_unknown : IsKeyPart "unknown" := by
  refine .word (by decide) ?_
  intro c hc
  have hall : "unknown".toList.all (fun c => decide (97 ≤ c.toNat ∧ c.toNat ≤ 122)) = true := by decide
  exact is_key_letter_iff.mpr (.inl (of_decide_eq_true (List.all_eq_true.mp hall c hc)))

/-- What the second loop takes off is the separator after a part. -/
theorem Written.trimmed {state : List Char × Bool} (hwritten : Written state) :
    without_last_separators state.1 = [] ∨ KeyChars (without_last_separators state.1) := by
  obtain ⟨sanitized, last_was_separator⟩ := state
  cases last_was_separator with
  | false =>
    obtain rfl | hpart := hwritten
    · exact .inl rfl
    · refine .inr ?_
      rw [without_last_separators_eq_self hpart]
      exact hpart
  | true =>
    obtain ⟨front, sep, rfl, hfront, hsep⟩ := hwritten
    refine .inr ?_
    rw [without_last_separators_append hsep, without_last_separators_eq_self hfront]
    exact hfront

theorem sanitize_key_part_isKeyPart (part : String) : IsKeyPart (sanitize_key_part part) := by
  rw [sanitize_key_part_eq]
  split
  · exact isKeyPart_unknown
  · rename_i hne
    rw [IsKeyPart, String.toList_ofList]
    exact (written_foldl (utf8 part)).trimmed.resolve_left fun hempty => hne (List.isEmpty_iff.mpr hempty)

/-! What the loop leaves as it is. -/

theorem letter_byte (hc : c.toNat < 128) : Char.ofNat c.val.toUInt8.toNat = c := by
  have hbyte : c.val.toUInt8.toNat = c.toNat := by
    rw [UInt32.toNat_toUInt8]
    exact Nat.mod_eq_of_lt (Nat.lt_trans hc (by decide))
  rw [hbyte, Char.ofNat_toNat]

theorem sanitize_byte_letter (hc : is_key_letter c) (sanitized : List Char) (last_was_separator : Bool) :
    sanitize_byte (sanitized, last_was_separator) c.val.toUInt8 = (sanitized ++ [c], false) := by
  have hbounds := is_key_letter_iff.mp hc
  have halphanumeric : is_ascii_alphanumeric c = true := is_ascii_alphanumeric_iff.mpr (by omega)
  unfold sanitize_byte
  dsimp only
  rw [letter_byte (by omega), if_pos halphanumeric, to_ascii_lowercase_of_letter hc]

theorem sanitize_byte_separator (hc : is_key_separator c) {sanitized : List Char} (hne : sanitized ≠ []) :
    sanitize_byte (sanitized, false) c.val.toUInt8 = (sanitized ++ [c], true) := by
  have hmay := may_separate_iff.mpr ⟨rfl, hne⟩
  obtain rfl | rfl := hc
  · exact if_pos hmay
  · exact if_pos hmay

theorem foldl_letters (hletters : ∀ c ∈ l, is_key_letter c) (sanitized : List Char) (last_was_separator : Bool) :
    (l.map fun c => c.val.toUInt8).foldl sanitize_byte (sanitized, last_was_separator) =
      (sanitized ++ l, last_was_separator && l.isEmpty) := by
  induction l generalizing sanitized last_was_separator with
  | nil => simp
  | cons c l ih =>
    rw [List.map_cons, List.foldl_cons, sanitize_byte_letter (hletters c List.mem_cons_self),
      ih fun c hc => hletters c (List.mem_cons_of_mem _ hc)]
    simp

/-- Each word and each separator of a part is written as it is. -/
theorem foldl_separated (hpart : KeyChars l) (sanitized : List Char)
    (last_was_separator : Bool) :
    (l.map fun c => c.val.toUInt8).foldl sanitize_byte (sanitized, last_was_separator) = (sanitized ++ l, false) := by
  induction hpart generalizing sanitized last_was_separator with
  | @word word hne hletters => rw [foldl_letters hletters, List.isEmpty_eq_false_iff.mpr hne, Bool.and_false]
  | @cons word rest sep hne hletters hsep hrest ih =>
    rw [List.map_append, List.foldl_append, foldl_letters hletters, List.isEmpty_eq_false_iff.mpr hne, Bool.and_false,
      List.map_cons, List.foldl_cons, sanitize_byte_separator hsep (List.append_ne_nil_of_right_ne_nil _ hne), ih,
      List.append_assoc, List.append_assoc, List.singleton_append]

theorem IsKeyPart.ascii (hpart : IsKeyPart part) : ∀ c ∈ part.toList, c.toNat < 128 := by
  intro c hc
  obtain hletter | rfl | rfl := hpart.mem c hc
  · rw [is_key_letter_iff] at hletter
    omega
  · decide
  · decide

/-- A part stays as it is. -/
theorem IsKeyPart.sanitize_key_part_eq (hpart : IsKeyPart part) : sanitize_key_part part = part := by
  have hloop := foldl_separated hpart [] false
  have hne : part.toList.isEmpty = false := List.isEmpty_eq_false_iff.mpr hpart.ne_nil
  rw [ipfs.sanitize_key_part_eq, utf8_ascii hpart.ascii, hloop, List.nil_append,
    without_last_separators_eq_self hpart, hne, if_neg Bool.false_ne_true, String.ofList_toList]

theorem to_hex_length (bytes : Bytes) : (to_hex bytes).length = 2 * bytes.length := by
  induction bytes with
  | nil => rfl
  | cons byte bytes ih =>
    rw [to_hex, List.flatMap_cons, List.length_append, List.length_cons]
    rw [to_hex] at ih
    simp only [ih, List.length_cons, List.length_nil]
    omega

theorem mem_to_hex {bytes : Bytes} (hc : c ∈ to_hex bytes) : c ∈ HEX_LOWER := by
  obtain ⟨byte, _, hdigit⟩ := List.mem_flatMap.mp hc
  have hbyte := byte.toNat_lt
  have hget {n : Nat} (hn : n < 16) : HEX_LOWER.getD n '0' ∈ HEX_LOWER := by
    have hlt : n < HEX_LOWER.length := hn
    rw [List.getD_eq_getElem?_getD, List.getElem?_eq_getElem hlt, Option.getD_some]
    exact List.getElem_mem hlt
  rw [List.mem_cons, List.mem_singleton] at hdigit
  obtain rfl | rfl := hdigit
  · exact hget (by omega)
  · exact hget (by omega)

/-- A part of the name of a key is brought into one form and stays there, and the name is made of the
    parts in that form and of the hash of the identifier. -/
theorem sanitize_key_part_canonical (lib : Lib) :
    (∀ part, IsKeyPart (sanitize_key_part part)) ∧ (∀ part, IsKeyPart part → sanitize_key_part part = part) ∧
    (∀ part, sanitize_key_part (sanitize_key_part part) = sanitize_key_part part) ∧
    ∀ parts ipns_id, ∃ name_parts suffix,
      name_parts = (if parts.isEmpty then ["unknown"] else parts.map sanitize_key_part) ∧
      suffix = String.ofList ((to_hex (lib.blake3_hash (utf8 ipns_id)).val).take 16) ∧
      name_parts ≠ [] ∧ (∀ part ∈ name_parts, IsKeyPart part) ∧
      suffix.toList.length = 16 ∧ (∀ c ∈ suffix.toList, c ∈ HEX_LOWER) ∧
      ipns_key_name_for_parts lib parts ipns_id =
        MA_IPNS_ALIAS_HASH_PREFIX ++ "-".intercalate name_parts ++ "-" ++ suffix := by
  refine ⟨sanitize_key_part_isKeyPart, fun part => IsKeyPart.sanitize_key_part_eq, ?_, ?_⟩
  · intro part
    exact (sanitize_key_part_isKeyPart part).sanitize_key_part_eq
  · intro parts ipns_id
    have hhash : (lib.blake3_hash (utf8 ipns_id)).val.length = 32 := (lib.blake3_hash (utf8 ipns_id)).length_val
    refine ⟨_, _, rfl, rfl, ?_, ?_, ?_, ?_, rfl⟩
    · split
      · exact List.cons_ne_nil _ _
      · rename_i hparts
        intro hempty
        exact hparts (List.isEmpty_iff.mpr (List.map_eq_nil_iff.mp hempty))
    · intro part hpart
      split at hpart
      · rw [List.mem_singleton.mp hpart]
        exact isKeyPart_unknown
      · obtain ⟨raw, _, rfl⟩ := List.mem_map.mp hpart
        exact sanitize_key_part_isKeyPart raw
    · rw [String.toList_ofList, List.length_take, to_hex_length, hhash]
      rfl
    · intro c hc
      rw [String.toList_ofList] at hc
      exact mem_to_hex (List.mem_of_mem_take hc)

end

end ma_core.ipfs

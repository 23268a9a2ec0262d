import MaCore.Base.Bytes
import MaCore.Base.Rejection

open rust rejection

namespace ma_core.config

def CHARSET : List Char := "ABCDEFGHIJKLMNOPQRSTUVWXYZabcdefghijklmnopqrstuvwxyz0123456789".toList

def ACCEPT_BELOW : UInt8 := 248

/-- The loop over a buffer: the result so far, or the passphrase. -/
def push_accepted : Bytes → List Char → List Char ⊕ String
  | [], result => .inl result
  | b :: buf, result =>
    if b < ACCEPT_BELOW then
      let result := result ++ [CHARSET.getD (b.toNat % 62) 'A']
      if result.length = 43 then .inr (String.ofList result) else push_accepted buf result
    else push_accepted buf result

/-- The outer loop, which fills a buffer of 64 bytes from what the generator yields. -/
def generate_from : Nat → Bytes → List Char → Option String
  | 0, _, _ => none
  | blocks + 1, random, result =>
    match push_accepted (random.take 64) result with
    | .inr passphrase => some passphrase
    | .inl result => generate_from blocks (random.drop 64) result

/-- `SecretBundle::generate_passphrase`, if it is done once that many buffers were filled. -/
def generate_passphrase (blocks : Nat) (random : Bytes) : Option String := generate_from blocks random []

/-- The character that a byte is taken for. -/
def accepted (b : UInt8) : Option Char := if b < ACCEPT_BELOW then CHARSET[b.toNat % 62]? else none

theorem accepted_of_lt {b : UInt8} (hb : b < ACCEPT_BELOW) : accepted b = some (CHARSET.getD (b.toNat % 62) 'A') := by
  have hlength : CHARSET.length = 62 := by decide
  have hlt : b.toNat % 62 < CHARSET.length := by
    rw [hlength]
    exact Nat.mod_lt _ (by decide)
  rw [accepted, if_pos hb, List.getD_eq_getElem?_getD, List.getElem?_eq_getElem hlt, Option.getD_some]

theorem mem_charset_of_accepted {b : UInt8} {c : Char} (haccepted : accepted b = some c) : c ∈ CHARSET := by
  unfold accepted at haccepted
  split at haccepted
  · exact List.mem_of_getElem? haccepted
  · cases haccepted

/-- What there is after a buffer: the first 43 of the characters, or all of them. -/
theorem push_accepted_eq (buf : Bytes) {result : List Char} (hresult : result.length < 43) :
    push_accepted buf result =
      if 43 ≤ (result ++ buf.filterMap accepted).length then
        .inr (String.ofList ((result ++ buf.filterMap accepted).take 43))
      else .inl (result ++ buf.filterMap accepted) := by
  induction buf generalizing result with
  | nil =>
    rw [push_accepted, List.filterMap_nil, List.append_nil, if_neg (Nat.not_le_of_lt hresult)]
  | cons b buf ih =>
    rw [push_accepted]
    by_cases hb : b < ACCEPT_BELOW
    · rw [if_pos hb, List.filterMap_cons_some (accepted_of_lt hb), List.append_cons result _ (buf.filterMap accepted)]
      dsimp only
      generalize hnext : result ++ [CHARSET.getD (b.toNat % 62) 'A'] = next
      have hlength : next.length = result.length + 1 := by rw [← hnext, List.length_append, List.length_singleton]
      split
      · rename_i hfull
        rw [if_pos, List.take_left' hfull]
        rw [List.length_append]
        omega
      · exact ih (by omega)
    · have hrejected : accepted b = none := if_neg hb
      rw [if_neg hb, List.filterMap_cons_none hrejected]
      exact ih hresult

theorem generate_from_eq (blocks : Nat) (random : Bytes) {result : List Char} (hresult : result.length < 43) :
    generate_from blocks random result =
      if 43 ≤ (result ++ (random.take (64 * blocks)).filterMap accepted).length then
        some (String.ofList ((result ++ (random.take (64 * blocks)).filterMap accepted).take 43))
      else none := by
  induction blocks generalizing random result with
  | zero =>
    rw [generate_from, Nat.mul_zero, List.take_zero, List.filterMap_nil, List.append_nil,
      if_neg (Nat.not_le_of_lt hresult)]
  | succ blocks ih =>
    have htake : random.take (64 * (blocks + 1)) = random.take 64 ++ (random.drop 64).take (64 * blocks) := by
      rw [show 64 * (blocks + 1) = 64 + 64 * blocks by omega, List.take_add]
    rw [generate_from, push_accepted_eq _ hresult, htake, List.filterMap_append, ← List.append_assoc]
    generalize result ++ (random.take 64).filterMap accepted = next
    by_cases hfull : 43 ≤ next.length
    · rw [if_pos hfull, if_pos, List.take_append_of_le_length hfull]
      rw [List.length_append]
      omega
    · rw [if_neg hfull]
      exact ih _ (Nat.lt_of_not_le hfull)

/-- A passphrase of 43 characters is generated exactly if they are the first that are accepted. -/
theorem generate_passphrase_eq_some_iff {blocks : Nat} {random : Bytes} {passphrase : String} :
    generate_passphrase blocks random = some passphrase ↔
      passphrase.toList.length = 43 ∧ begins accepted passphrase.toList (random.take (64 * blocks)) = true := by
  rw [generate_passphrase, generate_from_eq _ _ (by decide), List.nil_append, begins, List.isPrefixOf_iff_prefix]
  generalize (random.take (64 * blocks)).filterMap accepted = characters
  constructor
  · intro hgenerate
    split at hgenerate
    · rename_i hfull
      cases hgenerate
      rw [String.toList_ofList]
      exact ⟨List.length_take_of_le hfull, List.take_prefix _ _⟩
    · cases hgenerate
  · rintro ⟨hlength, hprefix⟩
    have hfull := hprefix.length_le
    rw [hlength] at hfull
    rw [if_pos hfull, ← hlength, ← List.prefix_iff_eq_take.mp hprefix, String.ofList_toList]

/-- The bytes there are, each once. -/
def symbols : List UInt8 := (List.finRange 256).map UInt8.ofFin

theorem mem_symbols (b : UInt8) : b ∈ symbols := List.mem_map.mpr ⟨b.toFin, List.mem_finRange _, rfl⟩

theorem nodup_symbols : symbols.Nodup := (List.nodup_finRange 256).map fun _ _ hsame => congrArg UInt8.toFin hsame

theorem map_toNat_symbols : symbols.map UInt8.toNat = List.range 256 := by
  rw [symbols, List.map_map]
  exact List.map_coe_finRange_eq_range

theorem charset_nodup : CHARSET.Nodup := by decide +kernel

theorem accepted_eq_some_iff {b : UInt8} {i : Nat} (hi : i < CHARSET.length) :
    accepted b = some CHARSET[i] ↔ b.toNat < 248 ∧ b.toNat % 62 = i := by
  have hlength : CHARSET.length = 62 := by decide
  have hlt : b.toNat % 62 < CHARSET.length := by
    rw [hlength]
    exact Nat.mod_lt _ (by decide)
  unfold accepted
  split
  · rename_i hb
    rw [List.getElem?_eq_getElem hlt, Option.some_inj, charset_nodup.getElem_inj_iff]
    exact (and_iff_right hb).symm
  · rename_i hb
    exact iff_of_false nofun fun h => hb h.1

/-- Four bytes are taken for each character. -/
theorem symbols_fair (c : Char) (hc : c ∈ CHARSET) : symbols.countP (accepted · = some c) = 4 := by
  obtain ⟨i, hi, rfl⟩ := List.getElem_of_mem hc
  have hfour : ∀ i < 62, (List.range 256).countP (fun n => n < 248 ∧ n % 62 = i) = 4 := by decide +kernel
  rw [← hfour i hi, ← map_toNat_symbols, List.countP_map]
  refine List.countP_congr fun b _ => ?_
  rw [decide_eq_true_iff, accepted_eq_some_iff hi, Function.comp_apply, decide_eq_true_iff]

/-- All texts of these characters come from bytes. -/
theorem exists_accepted {characters : List Char} (hcharacters : ∀ c ∈ characters, c ∈ CHARSET) :
    ∃ random : Bytes, random.length = characters.length ∧ random.filterMap accepted = characters := by
  induction characters with
  | nil => exact ⟨[], rfl, rfl⟩
  | cons c characters ih =>
    obtain ⟨hc, hrest⟩ := List.forall_mem_cons.mp hcharacters
    obtain ⟨random, hlength, haccepted⟩ := ih hrest
    have hpositive : 0 < symbols.countP (accepted · = some c) := by
      rw [symbols_fair c hc]
      decide
    obtain ⟨b, _, hb⟩ := List.countP_pos_iff.mp hpositive
    refine ⟨b :: random, congrArg (· + 1) hlength, ?_⟩
    rw [List.filterMap_cons_some (of_decide_eq_true hb), haccepted]

/-- Only characters of the set are generated, 43 of them, and any of them; and of the sequences of
    random bytes as many lead to one such passphrase as to any other, however many buffers are filled. -/
theorem passphrase_uniform (blocks : Nat) :
    (∀ random passphrase, generate_passphrase blocks random = some passphrase →
      passphrase.toList.length = 43 ∧ ∀ c ∈ passphrase.toList, c ∈ CHARSET) ∧
    (1 ≤ blocks → ∀ passphrase : String, passphrase.toList.length = 43 → (∀ c ∈ passphrase.toList, c ∈ CHARSET) →
      ∃ random : Bytes, random.length = 64 * blocks ∧ generate_passphrase blocks random = some passphrase) ∧
    ∀ left right : String, left.toList.length = 43 → (∀ c ∈ left.toList, c ∈ CHARSET) →
      right.toList.length = 43 → (∀ c ∈ right.toList, c ∈ CHARSET) →
      Set.ncard { random : Bytes | random.length = 64 * blocks ∧ generate_passphrase blocks random = some left } =
        Set.ncard { random : Bytes | random.length = 64 * blocks ∧
          generate_passphrase blocks random = some right } := by
  refine ⟨?_, ?_, ?_⟩
  · intro random passphrase hgenerate
    obtain ⟨hlength, hbegins⟩ := generate_passphrase_eq_some_iff.mp hgenerate
    refine ⟨hlength, fun c hc => ?_⟩
    have hmem := (List.isPrefixOf_iff_prefix.mp hbegins).subset hc
    obtain ⟨b, _, haccepted⟩ := List.mem_filterMap.mp hmem
    exact mem_charset_of_accepted haccepted
  · intro hblocks passphrase hlength hcharacters
    obtain ⟨random, hrandom, haccepted⟩ := exists_accepted hcharacters
    have hpadded : (random ++ List.replicate (64 * blocks - 43) 255).length = 64 * blocks := by
      rw [List.length_append, List.length_replicate, hrandom, hlength]
      omega
    refine ⟨_, hpadded, generate_passphrase_eq_some_iff.mpr ⟨hlength, ?_⟩⟩
    rw [List.take_of_length_le hpadded.le, begins, List.isPrefixOf_iff_prefix, List.filterMap_append, haccepted]
    exact List.prefix_append _ _
  · intro left right hleft hleft_chars hright hright_chars
    have hcount {passphrase : String} (hlength : passphrase.toList.length = 43) :
        Set.ncard { random : Bytes | random.length = 64 * blocks ∧
          generate_passphrase blocks random = some passphrase } =
          (sequences symbols (64 * blocks)).countP (begins accepted passphrase.toList) := by
      rw [← ncard_eq_countP mem_symbols nodup_symbols]
      congr 1
      ext random
      refine and_congr_right fun hrandom => ?_
      rw [generate_passphrase_eq_some_iff, ← hrandom, List.take_length]
      exact and_iff_right hlength
    rw [hcount hleft, hcount hright]
    exact countP_begins_eq accepted symbols_fair _ hleft_chars hright_chars (hleft.trans hright.symm)

def first_passphrase : String := String.ofList (List.replicate 43 'A')

def last_passphrase : String := String.ofList (List.replicate 43 '9')

theorem passphrase_uniform_extremes :
    Set.ncard { random : Bytes | random.length = 64 ∧ generate_passphrase 1 random = some first_passphrase } =
      Set.ncard { random : Bytes | random.length = 64 ∧ generate_passphrase 1 random = some last_passphrase } := by
  have hfirst : first_passphrase.toList = List.replicate 43 'A' := String.toList_ofList
  have hlast : last_passphrase.toList = List.replicate 43 '9' := String.toList_ofList
  refine (passphrase_uniform 1).2.2 first_passphrase last_passphrase ?_ ?_ ?_ ?_
  · rw [hfirst, List.length_replicate]
  · intro c hc
    rw [hfirst] at hc
    rw [List.eq_of_mem_replicate hc]
    decide
  · rw [hlast, List.length_replicate]
  · intro c hc
    rw [hlast] at hc
    rw [List.eq_of_mem_replicate hc]
    decide

end ma_core.config

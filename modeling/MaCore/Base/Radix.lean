import Mathlib.Data.List.TakeWhile
import Mathlib.Data.Nat.Digits.Lemmas
import MaCore.Base.Bytes

/-! Bytes as the digits of a number in another base. -/

namespace radix

open rust

/-- The digits of a number, most significant first, before those in `acc`. -/
def digits (base : Nat) : Nat → Nat → List Nat → List Nat
  | 0, _, acc => acc
  | fuel + 1, n, acc => if n = 0 then acc else digits base fuel (n / base) (n % base :: acc)

/-- The number with these digits. -/
def value (base : Nat) (ds : List Nat) : Nat := ds.foldl (fun acc d => acc * base + d) 0

/-- Leading zero bytes are written as leading zero digits. -/
def encode (alphabet : List Char) (bytes : Bytes) : List Char :=
  let zeros := (bytes.takeWhile (· == 0)).map fun _ => 0
  (zeros ++ digits alphabet.length (2 * bytes.length) (beNat bytes) []).map fun d =>
    alphabet.getD d '?'

def decode (alphabet : List Char) (text : List Char) : Option Bytes := do
  let ds ← text.mapM alphabet.idxOf?
  let zeros := (ds.takeWhile (· == 0)).map fun _ => 0
  return (zeros ++ digits 256 ds.length (value alphabet.length ds) []).map UInt8.ofNat

section
variable {base fuel n : Nat} {ds acc : List Nat}

/-- With enough fuel these are the digits of the number. -/
theorem digits_eq (hbase : 1 < base) (hfuel : n < base ^ fuel) :
    digits base fuel n acc = (Nat.digits base n).reverse ++ acc := by
  induction fuel generalizing n acc with
  | zero =>
    have hzero : n = 0 := by simpa using hfuel
    simp [digits, hzero]
  | succ fuel ih =>
    unfold digits
    by_cases hzero : n = 0
    · simp [hzero]
    · have hquotient : n / base < base ^ fuel := by
        apply Nat.div_lt_of_lt_mul
        rwa [pow_succ, Nat.mul_comm] at hfuel
      rw [if_neg hzero, ih hquotient, Nat.digits_of_two_le_of_pos hbase (Nat.pos_of_ne_zero hzero)]
      simp

theorem value_eq_ofDigits (ds : List Nat) : value base ds = Nat.ofDigits base ds.reverse := by
  rw [value, Nat.ofDigits_eq_foldr, List.foldr_reverse]
  simp [Nat.mul_comm, Nat.add_comm]

theorem value_replicate_zero (k : Nat) : value base (List.replicate k 0 ++ ds) = value base ds := by
  rw [value_eq_ofDigits, value_eq_ofDigits, List.reverse_append, List.reverse_replicate,
    Nat.ofDigits_append_replicate_zero]

theorem beNat_eq_value (bytes : Bytes) : beNat bytes = value 256 (bytes.map (·.toNat)) := by
  rw [beNat, value, List.foldl_map]

theorem value_lt (hbase : 1 < base) (hds : ∀ d ∈ ds, d < base) : value base ds < base ^ ds.length := by
  rw [value_eq_ofDigits, ← List.length_reverse]
  exact Nat.ofDigits_lt_base_pow_length hbase (by simpa using hds)

/-- The digits of a number start with none that is zero. -/
theorem digits_head (hbase : 1 < base) (hfuel : n < base ^ fuel) :
    (digits base fuel n []).head? ≠ some 0 := by
  rw [digits_eq hbase hfuel, List.append_nil, List.head?_reverse]
  by_cases hzero : n = 0
  · simp [hzero]
  · have hne : Nat.digits base n ≠ [] := Nat.digits_ne_nil_iff_ne_zero.mpr hzero
    rw [List.getLast?_eq_getLast_of_ne_nil hne]
    intro hlast
    exact Nat.getLast_digit_ne_zero base hzero (Option.some.inj hlast)

/-- Digits that start with no zero are those of their value. -/
theorem digits_value (hbase : 1 < base) (hds : ∀ d ∈ ds, d < base) (hhead : ds.head? ≠ some 0)
    (hfuel : value base ds < base ^ fuel) : digits base fuel (value base ds) [] = ds := by
  have hdigits : Nat.digits base (Nat.ofDigits base ds.reverse) = ds.reverse := by
    refine Nat.digits_ofDigits base hbase _ (by simpa using hds) fun hne hlast => hhead ?_
    rw [List.getLast_reverse, List.head_eq_iff_head?_eq_some] at hlast
    exact hlast
  rw [digits_eq hbase hfuel, value_eq_ofDigits, hdigits]
  simp

/-- The value of the digits is the number. -/
theorem value_digits (hbase : 1 < base) (hfuel : n < base ^ fuel) :
    value base (digits base fuel n []) = n := by
  rw [digits_eq hbase hfuel, List.append_nil, value_eq_ofDigits, List.reverse_reverse,
    Nat.ofDigits_digits]

theorem digits_lt (hbase : 1 < base) (hfuel : n < base ^ fuel) :
    ∀ d ∈ digits base fuel n [], d < base := by
  intro d hmem
  rw [digits_eq hbase hfuel, List.append_nil, List.mem_reverse] at hmem
  exact Nat.digits_lt_base hbase hmem

theorem takeWhile_zeros {k : Nat} (hhead : ds.head? ≠ some 0) :
    (List.replicate k 0 ++ ds).takeWhile (· == 0) = List.replicate k 0 := by
  rw [List.takeWhile_append_of_pos (by simp)]
  cases ds with
  | nil => simp
  | cons d ds =>
    have hd : d ≠ 0 := by simpa using hhead
    simp [hd]

end

section
variable {alphabet : List Char}

/-- Digits of an alphabet without repetition are read back. -/
theorem mapM_idxOf_getD (hnodup : alphabet.Nodup) (ds : List Nat)
    (hds : ∀ d ∈ ds, d < alphabet.length) :
    (ds.map fun d => alphabet.getD d '?').mapM alphabet.idxOf? = some ds := by
  induction ds with
  | nil => rfl
  | cons d ds ih =>
    have hd : d < alphabet.length := hds d (by simp)
    have hidx : alphabet.idxOf? alphabet[d] = some d := by
      rw [List.idxOf?_eq_some_iff]
      exact ⟨hd, by simp, fun j hj => by simpa using fun heq => hj.ne (hnodup.getElem_inj_iff.mp heq)⟩
    have htail := ih fun d' hmem => hds d' (List.mem_cons_of_mem _ hmem)
    have hget : alphabet.getD d '?' = alphabet[d] := by simp [hd]
    rw [List.map_cons, List.mapM_cons, hget, hidx, htail]
    rfl

/-- Bytes are their leading zeros and the digits of their number. -/
theorem bytes_eq_zeros_digits (bytes : Bytes) {fuel : Nat} (hfuel : beNat bytes < 256 ^ fuel) :
    bytes.map (·.toNat) =
      List.replicate (bytes.takeWhile (· == 0)).length 0 ++ digits 256 fuel (beNat bytes) [] := by
  have hzeros : (bytes.takeWhile (· == 0)).map (·.toNat) =
      List.replicate (bytes.takeWhile (· == 0)).length 0 := by
    rw [List.eq_replicate_iff]
    refine ⟨by simp, fun d hmem => ?_⟩
    obtain ⟨b, hb, rfl⟩ := List.mem_map.mp hmem
    have hzero : b = 0 := by simpa using List.mem_takeWhile_imp hb
    simp [hzero]
  have hsplit : bytes.map (·.toNat) = List.replicate (bytes.takeWhile (· == 0)).length 0 ++
      (bytes.dropWhile (· == 0)).map (·.toNat) := by
    rw [← hzeros, ← List.map_append, List.takeWhile_append_dropWhile]
  have hvalue : beNat bytes = value 256 ((bytes.dropWhile (· == 0)).map (·.toNat)) := by
    rw [beNat_eq_value, hsplit, value_replicate_zero]
  have hhead : ((bytes.dropWhile (· == 0)).map (·.toNat)).head? ≠ some 0 := by
    intro hhead
    rw [List.head?_map, Option.map_eq_some_iff] at hhead
    obtain ⟨b, hb, hzero⟩ := hhead
    have hnot := List.head?_dropWhile_not (· == 0) bytes
    rw [hb] at hnot
    have hb0 : b = 0 := UInt8.toNat_inj.mp hzero
    simp [hb0] at hnot
  have hlt : ∀ d ∈ (bytes.dropWhile (· == 0)).map (·.toNat), d < 256 := by
    intro d hmem
    obtain ⟨b, _, rfl⟩ := List.mem_map.mp hmem
    exact b.toNat_lt
  rw [hvalue] at hfuel ⊢
  rw [digits_value (by decide) hlt hhead hfuel, ← hsplit]

theorem beNat_lt (bytes : Bytes) : beNat bytes < 256 ^ bytes.length := by
  have hlt : ∀ d ∈ bytes.map (·.toNat), d < 256 := by
    intro d hmem
    obtain ⟨b, _, rfl⟩ := List.mem_map.mp hmem
    exact b.toNat_lt
  have hvalue := @value_lt 256 _ (by decide) hlt
  rwa [← beNat_eq_value, List.length_map] at hvalue

/-- Bytes are read back from their text. -/
theorem decode_encode (hnodup : alphabet.Nodup) (hsmall : 16 ≤ alphabet.length)
    (hlarge : alphabet.length ≤ 256) (bytes : Bytes) : decode alphabet (encode alphabet bytes) = some bytes := by
  have hbase : 1 < alphabet.length := by omega
  have hfuel : beNat bytes < alphabet.length ^ (2 * bytes.length) :=
    calc beNat bytes < 256 ^ bytes.length := beNat_lt bytes
      _ = 16 ^ (2 * bytes.length) := (pow_mul 16 2 bytes.length).symm
      _ ≤ alphabet.length ^ (2 * bytes.length) := Nat.pow_le_pow_left hsmall _
  let ds := List.replicate (bytes.takeWhile (· == 0)).length 0 ++
    digits alphabet.length (2 * bytes.length) (beNat bytes) []
  have hds : ∀ d ∈ ds, d < alphabet.length := by
    intro d hmem
    obtain hmem | hmem := List.mem_append.mp hmem
    · rw [List.eq_of_mem_replicate hmem]
      omega
    · exact digits_lt hbase hfuel d hmem
  have hvalue : value alphabet.length ds = beNat bytes := by
    rw [value_replicate_zero, value_digits hbase hfuel]
  have hbytes : beNat bytes < 256 ^ ds.length :=
    calc beNat bytes = value alphabet.length ds := hvalue.symm
      _ < alphabet.length ^ ds.length := value_lt hbase hds
      _ ≤ 256 ^ ds.length := Nat.pow_le_pow_left hlarge _
  have hencode : encode alphabet bytes = ds.map fun d => alphabet.getD d '?' := by
    simp [encode, ds]
  have hzeros : ds.takeWhile (· == 0) = List.replicate (bytes.takeWhile (· == 0)).length 0 :=
    takeWhile_zeros (digits_head hbase hfuel)
  have hdigits := bytes_eq_zeros_digits bytes hbytes
  have hback : (bytes.map (·.toNat)).map UInt8.ofNat = bytes := by
    simp [Function.comp_def]
  rw [decode, hencode, mapM_idxOf_getD hnodup ds hds]
  simp only [Option.bind_eq_bind, Option.bind_some, hvalue, hzeros, List.map_replicate]
  rw [← hdigits, hback]
  rfl

/-- Two digits a byte are enough, besides the leading zeros. -/
theorem encode_length_le (bytes : Bytes) : (encode alphabet bytes).length ≤ 3 * bytes.length := by
  have hdigits (base fuel n : Nat) (acc : List Nat) :
      (digits base fuel n acc).length ≤ fuel + acc.length := by
    induction fuel generalizing n acc with
    | zero => simp [digits]
    | succ fuel ih =>
      unfold digits
      split
      · omega
      · have hrest := ih (n / base) (n % base :: acc)
        rw [List.length_cons] at hrest
        omega
  have hzeros := (List.takeWhile_prefix (l := bytes) (· == 0)).length_le
  have htext := hdigits alphabet.length (2 * bytes.length) (beNat bytes) []
  simp only [encode, List.length_map, List.length_append, List.length_nil] at htext ⊢
  omega

theorem mem_encode {c : Char} {bytes : Bytes} (hmem : c ∈ encode alphabet bytes) :
    c = '?' ∨ c ∈ alphabet := by
  obtain ⟨d, _, rfl⟩ := List.mem_map.mp hmem
  rw [List.getD_eq_getElem?_getD]
  cases hget : alphabet[d]? with
  | none => exact .inl rfl
  | some c => exact .inr (List.mem_of_getElem? hget)

end

end radix

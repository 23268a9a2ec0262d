import MaCore.Base.Result
import Mathlib.Data.List.Basic
import Mathlib.Tactic.Positivity
import Mathlib.Tactic.Ring

namespace rust

abbrev Bytes := List UInt8

/-- The largest allocation, `isize::MAX` bytes. -/
def MAX_ALLOCATION : Nat := 2 ^ 63 - 1

/-- Collect bytes into a `Vec`, which panics when its capacity overflows. -/
def to_vec {ε : Type} (bytes : Bytes) : Result ε Bytes :=
  if bytes.length ≤ MAX_ALLOCATION then .ok bytes else Panic

theorem to_vec_eq_ok_iff {ε : Type} {bytes vec : Bytes} :
    to_vec (ε := ε) bytes = .ok vec ↔ vec = bytes ∧ bytes.length ≤ MAX_ALLOCATION := by
  unfold to_vec
  by_cases hfits : bytes.length ≤ MAX_ALLOCATION
  · rw [if_pos hfits]
    constructor
    · intro hvec
      cases hvec
      exact ⟨rfl, hfits⟩
    · rintro ⟨rfl, _⟩
      rfl
  · rw [if_neg hfits]
    constructor
    · intro hvec
      cases hvec
    · rintro ⟨_, hle⟩
      exact absurd hle hfits

@[simp] theorem to_vec_ne_err {ε : Type} {bytes : Bytes} {e : ε} : to_vec bytes ≠ Err e := by
  unfold to_vec
  split <;> simp

/-- The array type `[u8; n]`. -/
def ByteArr (n : Nat) : Type := { bytes : Bytes // bytes.length = n }

instance (n : Nat) : DecidableEq (ByteArr n) :=
  inferInstanceAs (DecidableEq { bytes : Bytes // bytes.length = n })

namespace ByteArr

/-- `<[u8; n]>::try_from` on a slice. -/
def try_from (n : Nat) (bytes : Bytes) : Option (ByteArr n) :=
  if h : bytes.length = n then some ⟨bytes, h⟩ else none

theorem try_from_eq_some_iff {n : Nat} {bytes : Bytes} {arr : ByteArr n} :
    try_from n bytes = some arr ↔ bytes = arr.val := by
  unfold try_from
  constructor
  · intro h
    split at h
    · cases h
      rfl
    · cases h
  · rintro rfl
    rw [dif_pos arr.property]
    rfl

@[simp] theorem try_from_val {n : Nat} (arr : ByteArr n) : try_from n arr.val = some arr :=
  try_from_eq_some_iff.mpr rfl

@[simp] theorem length_val {n : Nat} (arr : ByteArr n) : arr.val.length = n := arr.property

end ByteArr

/-- The UTF-8 bytes of a string. -/
def utf8 (s : String) : Bytes := s.toUTF8.data.toList

/-- The string with these UTF-8 bytes. -/
def from_utf8 (bytes : Bytes) : Option String := String.fromUTF8? ⟨bytes.toArray⟩

@[simp] theorem from_utf8_utf8 (s : String) : from_utf8 (utf8 s) = some s := by
  have hbytes : (⟨(utf8 s).toArray⟩ : ByteArray) = s.toUTF8 := by simp [utf8]
  rw [from_utf8, hbytes, String.fromUTF8?, String.toUTF8_eq_toByteArray, dif_pos s.isValidUTF8]
  rfl

theorem utf8_append_length (s t : String) :
    (utf8 (s ++ t)).length = (utf8 s).length + (utf8 t).length :=
  String.utf8ByteSize_append

/-- The bytes of the characters, one after the other. -/
theorem utf8_eq (s : String) : utf8 s = s.toList.flatMap String.utf8EncodeChar := by
  have hbytes : s.toByteArray = (s.toList.flatMap String.utf8EncodeChar).toByteArray := by
    rw [← @String.ofList_toList s, String.toByteArray_ofList, String.toList_ofList]
    rfl
  show s.toByteArray.data.toList = s.toList.flatMap String.utf8EncodeChar
  rw [hbytes, List.toList_data_toByteArray]

theorem utf8_length_eq (s : String) : (utf8 s).length = (s.toList.map Char.utf8Size).sum := by
  simp only [utf8_eq, List.length_flatMap, String.length_utf8EncodeChar]

/-- A character takes at most four bytes, -/
theorem utf8_length_le (s : String) : (utf8 s).length ≤ 4 * s.toList.length := by
  rw [utf8_length_eq]
  induction s.toList with
  | nil => simp
  | cons c l ih =>
    have hsize := c.utf8Size_le_four
    rw [List.map_cons, List.sum_cons, List.length_cons]
    omega

/-- and one if it is ASCII. -/
theorem utf8_ascii {s : String} (hascii : ∀ c ∈ s.toList, c.toNat < 128) :
    utf8 s = s.toList.map fun c => c.val.toUInt8 := by
  have hchar : ∀ c ∈ s.toList, String.utf8EncodeChar c = [c.val.toUInt8] := by
    intro c hc
    have hle : c.val ≤ 127 := UInt32.le_iff_toNat_le.mpr (Nat.le_of_lt_succ (hascii c hc))
    exact String.utf8EncodeChar_eq_singleton (if_pos hle)
  rw [utf8_eq, List.flatMap_congr hchar, List.map_eq_flatMap]

theorem utf8_length_ascii {s : String} (hascii : ∀ c ∈ s.toList, c.toNat < 128) :
    (utf8 s).length = s.toList.length := by
  rw [utf8_ascii hascii, List.length_map]

/-- The last `k` base-256 digits of `n`, most significant first. -/
def beBytes : Nat → Nat → Bytes
  | 0, _ => []
  | k + 1, n => UInt8.ofNat (n / 256 ^ k) :: beBytes k (n % 256 ^ k)

/-- The number with these base-256 digits, most significant first. -/
def beNat (bytes : Bytes) : Nat := bytes.foldl (fun acc b => acc * 256 + b.toNat) 0

@[simp] theorem beBytes_length (k n : Nat) : (beBytes k n).length = k := by
  induction k generalizing n with
  | zero => rfl
  | succ k ih => simp [beBytes, ih]

theorem foldl_beBytes (k n acc : Nat) (h : n < 256 ^ k) :
    (beBytes k n).foldl (fun acc b => acc * 256 + b.toNat) acc = acc * 256 ^ k + n := by
  induction k generalizing n acc with
  | zero =>
    have : n = 0 := by simpa using h
    simp [beBytes, this]
  | succ k ih =>
    have hdigit : n / 256 ^ k < 256 := by
      apply Nat.div_lt_of_lt_mul
      rwa [pow_succ] at h
    have hlow : n % 256 ^ k < 256 ^ k := Nat.mod_lt _ (by positivity)
    rw [beBytes, List.foldl_cons, ih _ _ hlow]
    have hbyte : (UInt8.ofNat (n / 256 ^ k)).toNat = n / 256 ^ k := by
      simp [Nat.mod_eq_of_lt hdigit]
    rw [hbyte]
    have hdecomp := Nat.div_add_mod n (256 ^ k)
    calc (acc * 256 + n / 256 ^ k) * 256 ^ k + n % 256 ^ k
        = acc * 256 ^ (k + 1) + (256 ^ k * (n / 256 ^ k) + n % 256 ^ k) := by ring
      _ = acc * 256 ^ (k + 1) + n := by rw [hdecomp]

/-- Reading back the digits of a number that fits gives the number. -/
theorem beNat_beBytes {k n : Nat} (h : n < 256 ^ k) : beNat (beBytes k n) = n := by
  rw [beNat, foldl_beBytes k n 0 h]
  omega

end rust

import MaCore.Error
import MaCore.Externals

open rust
open ma_core.error

namespace unsigned_varint

/-- `unsigned_varint::encode`: seven bits a byte, lowest first, for a value
    of at most `width` bytes. -/
def encodeFrom : Nat → Nat → Bytes
  | 0, _ => []
  | width + 1, n =>
    if n < 128 then [UInt8.ofNat n]
    else UInt8.ofNat (n % 128 + 128) :: encodeFrom width (n / 128)

def encode_u64 (n : UInt64) : Bytes := encodeFrom 10 n.toNat

/-- `unsigned_varint::decode`, `i` bytes in. A longer form of a number and an
    eleventh byte are refused; bits past the 64th are shifted out. -/
def decodeFrom (i n : Nat) : Bytes → Option (UInt64 × Bytes)
  | [] => none
  | b :: rest =>
    let n := n + b.toNat % 128 * 2 ^ (i * 7)
    if b.toNat < 128 then
      if b.toNat = 0 ∧ 0 < i then none else some (UInt64.ofNat n, rest)
    else if i = 9 then none
    else decodeFrom (i + 1) n rest

def decode_u64 (buf : Bytes) : Option (UInt64 × Bytes) := decodeFrom 0 0 buf

theorem decodeFrom_encodeFrom {width n : Nat} (hfits : n < 128 ^ width) (i acc : Nat)
    (hbytes : i + width ≤ 10) (hminimal : i = 0 ∨ 0 < n) (hwidth : 0 < width) (rest : Bytes) :
    decodeFrom i acc (encodeFrom width n ++ rest) =
      some (UInt64.ofNat (acc + n * 2 ^ (i * 7)), rest) := by
  induction width generalizing n i acc with
  | zero => omega
  | succ width ih =>
    unfold encodeFrom
    by_cases hlast : n < 128
    · have hbyte : (UInt8.ofNat n).toNat = n := by
        simp only [UInt8.toNat_ofNat']
        omega
      have hshort : ¬ (n = 0 ∧ 0 < i) := by omega
      simp only [if_pos hlast, List.cons_append, List.nil_append, decodeFrom, hbyte, if_neg hshort,
        Nat.mod_eq_of_lt hlast]
    · have hbyte : (UInt8.ofNat (n % 128 + 128)).toNat = n % 128 + 128 := by
        simp only [UInt8.toNat_ofNat']
        omega
      have hmore : 0 < width := by
        by_contra hzero
        have : width = 0 := by omega
        subst this
        omega
      have hquotient : n / 128 < 128 ^ width := by
        apply Nat.div_lt_of_lt_mul
        rwa [pow_succ, Nat.mul_comm] at hfits
      have hlow : (n % 128 + 128) % 128 = n % 128 := by omega
      have hvalue : acc + n % 128 * 2 ^ (i * 7) + n / 128 * 2 ^ ((i + 1) * 7) =
          acc + n * 2 ^ (i * 7) := by
        have hpow : 2 ^ ((i + 1) * 7) = 128 * 2 ^ (i * 7) := by
          rw [Nat.add_mul, pow_add]
          ring
        have hdivmod := Nat.div_add_mod n 128
        rw [hpow]
        calc acc + n % 128 * 2 ^ (i * 7) + n / 128 * (128 * 2 ^ (i * 7))
            = acc + (128 * (n / 128) + n % 128) * 2 ^ (i * 7) := by ring
          _ = acc + n * 2 ^ (i * 7) := by rw [hdivmod]
      rw [if_neg hlast, List.cons_append, decodeFrom, hbyte, if_neg (by omega), if_neg (by omega),
        hlow, ih hquotient (i + 1) _ (by omega) (by omega) hmore, hvalue]

/-- Every `u64` is read back, whatever follows it. -/
@[simp] theorem decode_encode_u64 (n : UInt64) (rest : Bytes) :
    decode_u64 (encode_u64 n ++ rest) = some (n, rest) := by
  have hfits : n.toNat < 128 ^ 10 := by
    have := n.toNat_lt
    omega
  rw [decode_u64, encode_u64,
    decodeFrom_encodeFrom hfits 0 0 (by omega) (.inl rfl) (by omega) rest]
  simp

end unsigned_varint

namespace ma_core.multiformat

def CODEC_IDENTITY : UInt64 := 0x00
def CODEC_CBOR : UInt64 := 0x51
def CODEC_DAG_CBOR : UInt64 := 0x71

def multicodec_encode (codec : UInt64) (payload : Bytes) : Bytes :=
  unsigned_varint.encode_u64 codec ++ payload

def multicodec_decode (encoded : Bytes) : MaResult (UInt64 × Bytes) := do
  let (codec, remainder) ← ok_or .InvalidPublicKeyMultibase (unsigned_varint.decode_u64 encoded)
  reject_if remainder.isEmpty .InvalidPublicKeyMultibase
  return (codec, remainder)

/-- A payload is read back under its codec unless it is empty, which the
    decoder refuses. -/
theorem multicodec_decode_encode (codec : UInt64) {payload : Bytes} (hpayload : payload ≠ []) :
    multicodec_decode (multicodec_encode codec payload) = .ok (codec, payload) := by
  simp [multicodec_decode, multicodec_encode, ok_or, reject_if, hpayload, pure, Except.pure]

section
variable (lib : Lib)

def multibase_encode (data : Bytes) : String := lib.multibase_encode_base58_btc data

def multibase_decode (input : String) : MaResult Bytes :=
  ok_or .InvalidPublicKeyMultibase (lib.multibase_decode input)

def public_key_multibase_encode (codec : UInt64) (public_key : Bytes) : String :=
  multibase_encode lib (multicodec_encode codec public_key)

def public_key_multibase_decode (input : String) : MaResult (UInt64 × Bytes) := do
  let decoded ← multibase_decode lib input
  multicodec_decode decoded

def signature_multibase_encode (codec : UInt64) (signature : Bytes) : String :=
  multibase_encode lib (multicodec_encode codec signature)

def signature_multibase_decode (input : String) : MaResult (UInt64 × Bytes) := do
  let decoded ← multibase_decode lib input
  multicodec_decode decoded

end

end ma_core.multiformat

import MaCore.Base.Bytes

/-! Base64 with the standard alphabet and padding. -/

namespace base64

open rust

def alphabet : List Char := "ABCDEFGHIJKLMNOPQRSTUVWXYZabcdefghijklmnopqrstuvwxyz0123456789+/".toList

/-- The character of the last six bits of a number. -/
def digit (n : Nat) : Char := alphabet.getD (n % 64) 'A'

/-- The byte of the last eight bits of a number. -/
def byte (n : Nat) : UInt8 := UInt8.ofNat n

def encode : Bytes → List Char
  | [] => []
  | [a] => [digit (a.toNat / 4), digit (a.toNat * 16), '=', '=']
  | [a, b] => [digit (a.toNat / 4), digit (a.toNat * 16 + b.toNat / 16), digit (b.toNat * 4), '=']
  | a :: b :: c :: rest =>
    digit (a.toNat / 4) :: digit (a.toNat * 16 + b.toNat / 16) :: digit (b.toNat * 4 + c.toNat / 64) ::
      digit c.toNat :: encode rest

/-- The padding is required, and the bits it hides are zero. -/
def decode : List Char → Option Bytes
  | [] => some []
  | a :: b :: c :: d :: rest => do
    let a ← alphabet.idxOf? a
    let b ← alphabet.idxOf? b
    if d = '=' then
      if !rest.isEmpty then none
      else if c = '=' then
        if b % 16 = 0 then some [byte (a * 4 + b / 16)] else none
      else do
        let c ← alphabet.idxOf? c
        if c % 4 = 0 then some [byte (a * 4 + b / 16), byte (b * 16 + c / 4)] else none
    else do
      let c ← alphabet.idxOf? c
      let d ← alphabet.idxOf? d
      let rest ← decode rest
      return byte (a * 4 + b / 16) :: byte (b * 16 + c / 4) :: byte (c * 64 + d) :: rest
  | _ => none

@[simp] theorem idxOf_digit (n : Nat) : alphabet.idxOf? (digit n) = some (n % 64) := by
  have hdigit : ∀ k : Fin 64, alphabet.idxOf? (alphabet.getD k 'A') = some k.val := by decide +kernel
  exact hdigit ⟨n % 64, Nat.mod_lt _ (by decide)⟩

@[simp] theorem digit_ne_padding (n : Nat) : digit n ≠ '=' := by
  intro hpadding
  have hindex := idxOf_digit n
  have hnone : alphabet.idxOf? '=' = none := by decide +kernel
  rw [hpadding, hnone] at hindex
  cases hindex

theorem byte_eq {n : Nat} {b : UInt8} (hn : n % 256 = b.toNat) : byte n = b := by
  rw [byte, ← UInt8.toNat_inj, UInt8.toNat_ofNat', hn]

/-- Bytes are decoded from their encoding. -/
theorem decode_encode (bytes : Bytes) : decode (encode bytes) = some bytes := by
  induction bytes using encode.induct with
  | case1 => rfl
  | case2 a =>
    have ha := a.toNat_lt
    have hfirst : byte (a.toNat / 4 % 64 * 4 + a.toNat * 16 % 64 / 16) = a := byte_eq (by omega)
    have hlow : a.toNat * 16 % 64 % 16 = 0 := by omega
    simp [encode, decode, hfirst, hlow]
  | case3 a b =>
    have ha := a.toNat_lt
    have hb := b.toNat_lt
    have hfirst : byte (a.toNat / 4 % 64 * 4 + (a.toNat * 16 + b.toNat / 16) % 64 / 16) = a :=
      byte_eq (by omega)
    have hsecond : byte ((a.toNat * 16 + b.toNat / 16) % 64 * 16 + b.toNat * 4 % 64 / 4) = b :=
      byte_eq (by omega)
    have hlow : b.toNat * 4 % 64 % 4 = 0 := by omega
    simp [encode, decode, hfirst, hsecond, hlow]
  | case4 a b c rest ih =>
    have ha := a.toNat_lt
    have hb := b.toNat_lt
    have hc := c.toNat_lt
    have hfirst : byte (a.toNat / 4 % 64 * 4 + (a.toNat * 16 + b.toNat / 16) % 64 / 16) = a :=
      byte_eq (by omega)
    have hsecond : byte ((a.toNat * 16 + b.toNat / 16) % 64 * 16 +
        (b.toNat * 4 + c.toNat / 64) % 64 / 4) = b :=
      byte_eq (by omega)
    have hthird : byte ((b.toNat * 4 + c.toNat / 64) % 64 * 64 + c.toNat % 64) = c :=
      byte_eq (by omega)
    simp [encode, decode, hfirst, hsecond, hthird, ih]

end base64

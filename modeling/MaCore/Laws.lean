import MaCore.Base.Cbor.Size
import MaCore.Base.Strings
import MaCore.Externals
import Mathlib.Data.Set.Function

open rust

namespace ma_core

mutual

/-- What DAG-CBOR has a form for: integers of 64 bits and a sign, finite numbers, and lengths that
    a head can announce. -/
def Ipld.representable : Ipld → Bool
  | .Integer n => decide (-2 ^ 64 ≤ n) && decide (n < 2 ^ 64)
  | .Float bits => (bits >>> 52) &&& 0x7ff != 0x7ff
  | .String s => decide ((utf8 s).length < 2 ^ 64)
  | .Bytes b => decide (b.length < 2 ^ 64)
  | .List items => decide (items.length < 2 ^ 64) && itemsRepresentable items
  | .Map entries => decide (entries.length < 2 ^ 64) && entriesRepresentable entries
  | .Link cid => decide (cid.length + 1 < 2 ^ 64)
  | .Null | .Bool _ => true

def itemsRepresentable : List Ipld → Bool
  | [] => true
  | item :: items => item.representable && itemsRepresentable items

def entriesRepresentable : List (String × Ipld) → Bool
  | [] => true
  | (key, item) :: entries =>
    decide ((utf8 key).length < 2 ^ 64) && item.representable && entriesRepresentable entries

end

end ma_core

namespace ma_core.Lib

/-- The CBOR library reads back every item it can represent, nested as deep as
    its decoder recurses. -/
def CborRoundTrips (lib : Lib) : Prop :=
  ∀ item : cbor.Value, item.Fits 256 → lib.ciborium_from_reader (cbor.encode item) = .ok item

/-- What the DAG-CBOR library writes it reads back. -/
def DagCborRoundTrips (lib : Lib) : Prop :=
  ∀ value bytes, lib.dagcbor_to_vec value = .ok bytes → lib.dagcbor_from_slice bytes = .ok value

/-- It writes whatever the format has a form for, and nothing else. -/
def DagCborEncodes (lib : Lib) : Prop :=
  ∀ value : Ipld, (∃ bytes, lib.dagcbor_to_vec value = .ok bytes) ↔ value.representable = true

/-- Both sides of a key agreement compute one secret. -/
def DiffieHellmanAgrees (lib : Lib) : Prop :=
  ∀ a b : ByteArr 32,
    lib.x25519_diffie_hellman a (lib.x25519_public_key b) =
      lib.x25519_diffie_hellman b (lib.x25519_public_key a)

/-- What is sealed under a key and nonce opens under them. -/
def AeadOpens (lib : Lib) : Prop :=
  ∀ key nonce data sealed, lib.xchacha20poly1305_encrypt key nonce data = some sealed →
    lib.xchacha20poly1305_decrypt key nonce sealed = some data

/-- Sealing adds a tag of sixteen bytes. -/
def AeadTags (lib : Lib) : Prop :=
  ∀ key nonce data sealed, lib.xchacha20poly1305_encrypt key nonce data = some sealed →
    sealed.length = data.length + 16

/-- Base36 text is of letters and digits, so trimming leaves it as it is. -/
def Base36Trims (lib : Lib) : Prop :=
  ∀ bytes, trim (lib.multibase_encode_base36_lower bytes) = lib.multibase_encode_base36_lower bytes

/-- or what separates a fragment. -/
def Base36NoHash (lib : Lib) : Prop := ∀ bytes, '#' ∉ (lib.multibase_encode_base36_lower bytes).toList

/-- The hash function has no collision among these byte strings. -/
def HashesInjectively (lib : Lib) (hashed : Set Bytes) : Prop := Set.InjOn lib.blake3_hash hashed

/-- Among these byte strings a signature is valid for at most one under each key. -/
def SignsOnce (lib : Lib) (signed : Set Bytes) : Prop :=
  ∀ key signature, ∀ left ∈ signed, ∀ right ∈ signed,
    lib.ed25519_verify key left signature = true → lib.ed25519_verify key right signature = true →
      left = right

/-- What this secret signs of these byte strings is valid under no other of these keys. -/
def SignsExclusively (lib : Lib) (secret : ByteArr 32) (keys : Set (ByteArr 32)) (signed : Set Bytes) : Prop :=
  ∀ key ∈ keys, ∀ data ∈ signed, lib.ed25519_verify key data (lib.ed25519_sign secret data) = true →
    key = lib.ed25519_public_key secret

/-- Base58 text has a prefix, at most three characters for a byte, and is read back. -/
structure Base58RoundTrips (lib : Lib) : Prop where
  nonempty : ∀ bytes, (lib.multibase_encode_base58_btc bytes).isEmpty = false
  length_le : ∀ bytes, (utf8 (lib.multibase_encode_base58_btc bytes)).length ≤ 12 * bytes.length + 4
  decodes : ∀ bytes, lib.multibase_decode (lib.multibase_encode_base58_btc bytes) = some bytes

/-- The public key of a secret is a point, and what the secret signs verifies under it. -/
structure Ed25519Signs (lib : Lib) : Prop where
  is_point : ∀ secret, lib.ed25519_is_point (lib.ed25519_public_key secret) = true
  verifies : ∀ secret data,
    lib.ed25519_verify (lib.ed25519_public_key secret) data (lib.ed25519_sign secret data) = true

theorem CborRoundTrips.of_length {lib : Lib} (hcbor : lib.CborRoundTrips) {item : cbor.Value}
    (hdepth : item.depth ≤ 256) (hlength : (cbor.encode item).length ≤ MAX_ALLOCATION) :
    lib.ciborium_from_reader (cbor.encode item) = .ok item := by
  have hmax : MAX_ALLOCATION < 2 ^ 64 := by decide
  exact hcbor item (cbor.Value.fits_of_length hdepth (by omega))

end ma_core.Lib

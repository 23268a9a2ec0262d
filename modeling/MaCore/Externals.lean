import MaCore.Base.Cbor

namespace ma_core

open rust

/-- `ipld_core::ipld::Ipld`. A map is the entry list of its `BTreeMap`, in key
    order; a link is the bytes of its CID. -/
inductive Ipld where
  | Null
  | Bool (b : Bool)
  | Integer (n : Int)
  | Float (bits : UInt64)
  | String (s : String)
  | Bytes (b : Bytes)
  | List (items : List Ipld)
  | Map (entries : List (String × Ipld))
  | Link (cid : rust.Bytes)

inductive CidVersion where
  | V0
  | V1
deriving DecidableEq, Repr

structure Multihash where
  code : UInt64
  digest : Bytes
deriving DecidableEq, Repr

structure Cid where
  version : CidVersion
  codec : UInt64
  hash : Multihash
deriving DecidableEq, Repr

/-- `libp2p_identity::PublicKey`, as far as its kind matters. -/
inductive PublicKey where
  | Ed25519 (key : ByteArr 32)
  | Other

/-- `libp2p_identity::Keypair` for an Ed25519 key. -/
structure Keypair where
  secret : ByteArr 32
  public_key : ByteArr 32

/-- The functions of the third-party crates the code calls, and the one build
    setting its arithmetic depends on. Every result is for an arbitrary choice
    of them; what a result needs of one is a named hypothesis. -/
structure Lib where
  /-- Whether `+` panics on overflow, as in a debug build, instead of wrapping. -/
  overflow_checks : Bool
  cid_try_from : String → Option Cid
  cid_to_bytes : Cid → Bytes
  multibase_encode_base36_lower : Bytes → String
  multibase_encode_base58_btc : Bytes → String
  multibase_decode : String → Option Bytes
  peer_id_from_multihash : Multihash → Option Multihash
  peer_id_from_public_key : ByteArr 32 → Multihash
  public_key_try_decode_protobuf : Bytes → Option PublicKey
  keypair_ed25519_from_bytes : ByteArr 32 → Except String Keypair
  keypair_to_protobuf_encoding : Keypair → Except String Bytes
  rfc3339_parses : String → Bool
  ed25519_public_key : ByteArr 32 → ByteArr 32
  ed25519_sign : ByteArr 32 → Bytes → ByteArr 64
  /-- Whether 32 bytes are a point, so that `VerifyingKey::from_bytes` accepts them. -/
  ed25519_is_point : ByteArr 32 → Bool
  ed25519_verify : ByteArr 32 → Bytes → ByteArr 64 → Bool
  x25519_public_key : ByteArr 32 → ByteArr 32
  x25519_diffie_hellman : ByteArr 32 → ByteArr 32 → ByteArr 32
  blake3_hash : Bytes → ByteArr 32
  blake3_derive_key : String → Bytes → ByteArr 32
  xchacha20poly1305_encrypt : ByteArr 32 → ByteArr 24 → Bytes → Option Bytes
  xchacha20poly1305_decrypt : ByteArr 32 → ByteArr 24 → Bytes → Option Bytes
  /-- `ciborium::de::from_reader`: the first data item of the input. -/
  ciborium_from_reader : Bytes → Except String cbor.Value
  dagcbor_to_vec : Ipld → Except String Bytes
  dagcbor_from_slice : Bytes → Except String Ipld

end ma_core

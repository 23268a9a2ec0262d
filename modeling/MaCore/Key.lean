import MaCore.Did
import MaCore.Multiformat

open rust
open ma_core.error ma_core.did ma_core.multiformat

namespace ma_core.key

def ASSERTION_METHOD_KEY_TYPE : String := "Multikey"
def KEY_AGREEMENT_KEY_TYPE : String := "Multikey"
def CODEC_X25519_PUB : UInt64 := 0xec
def CODEC_ED25519_PUB : UInt64 := 0xed
def CODEC_EDDSA_SIG : UInt64 := 0xd0ed

/-- An Ed25519 key for document proofs and message signatures. -/
structure SigningKey where
  did : Did
  key_type : String
  secret_key : ByteArr 32
  public_key_multibase : String

/-- An X25519 key for envelopes. -/
structure EncryptionKey where
  did : Did
  key_type : String
  private_key : ByteArr 32
  public_key : ByteArr 32
  public_key_multibase : String

section
variable (lib : Lib)

/-- The checks both kinds of key make: the DID, the key type, and a public key
    of 32 bytes under the expected codec. -/
def validate_key (did : Did) (key_type public_key_multibase expected_key_type : String)
    (expected : UInt64) : MaResult Unit := do
  Did.validate lib did.id
  reject_if (key_type != expected_key_type) .InvalidKeyType
  let (codec, key_bytes) ← public_key_multibase_decode lib public_key_multibase
  reject_if (codec != expected) (.InvalidMulticodec expected codec)
  reject_if (key_bytes.length != 32) (.InvalidKeyLength 32 key_bytes.length)

namespace SigningKey

def from_private_key_bytes (did : Did) (private_key : ByteArr 32) : SigningKey where
  did
  key_type := ASSERTION_METHOD_KEY_TYPE
  secret_key := private_key
  public_key_multibase :=
    public_key_multibase_encode lib CODEC_ED25519_PUB (lib.ed25519_public_key private_key).val

def sign (self : SigningKey) (data : Bytes) : Bytes := (lib.ed25519_sign self.secret_key data).val

def validate (self : SigningKey) : MaResult Unit :=
  validate_key lib self.did self.key_type self.public_key_multibase ASSERTION_METHOD_KEY_TYPE
    CODEC_ED25519_PUB

end SigningKey

namespace EncryptionKey

def from_private_key_bytes (did : Did) (private_key : ByteArr 32) : EncryptionKey where
  did
  key_type := KEY_AGREEMENT_KEY_TYPE
  private_key
  public_key := lib.x25519_public_key private_key
  public_key_multibase :=
    public_key_multibase_encode lib CODEC_X25519_PUB (lib.x25519_public_key private_key).val

def shared_secret (self : EncryptionKey) (other : ByteArr 32) : ByteArr 32 :=
  lib.x25519_diffie_hellman self.private_key other

def validate (self : EncryptionKey) : MaResult Unit :=
  validate_key lib self.did self.key_type self.public_key_multibase KEY_AGREEMENT_KEY_TYPE
    CODEC_X25519_PUB

end EncryptionKey

end

end ma_core.key

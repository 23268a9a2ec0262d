import MaCore.Base.Radix
import MaCore.Identity
import MaCore.Iroh.InboundSecurity
import MaCore.Laws
import MaCore.Msg.Wire

open rust
open ma_core.error ma_core.did ma_core.key ma_core.doc ma_core.msg ma_core.identity ma_core.service
open ma_core.iroh ma_core.iroh.InboundSecurity

/-! A library to run the code on: the codecs are the real ones, the primitives
of cryptography are stand-ins that satisfy the laws assumed of them. -/

namespace ma_core.reference

def BASE36_LOWER : List Char := "0123456789abcdefghijklmnopqrstuvwxyz".toList
def BASE58_BTC : List Char := "123456789ABCDEFGHJKLMNPQRSTUVWXYZabcdefghijkmnopqrstuvwxyz".toList

def multibase_decode (input : String) : Option Bytes :=
  match input.toList with
  | 'k' :: text => radix.decode BASE36_LOWER text
  | 'z' :: text => radix.decode BASE58_BTC text
  | _ => none

def cid_to_bytes (cid : Cid) : Bytes :=
  1 :: (unsigned_varint.encode_u64 cid.codec ++ unsigned_varint.encode_u64 cid.hash.code ++
    unsigned_varint.encode_u64 (UInt64.ofNat cid.hash.digest.length) ++ cid.hash.digest)

def cid_from_bytes : Bytes → Option Cid
  | 1 :: bytes => do
    let (codec, bytes) ← unsigned_varint.decode_u64 bytes
    let (code, bytes) ← unsigned_varint.decode_u64 bytes
    let (length, digest) ← unsigned_varint.decode_u64 bytes
    if length.toNat = digest.length then some ⟨.V1, codec, ⟨code, digest⟩⟩ else none
  | _ => none

/-- The protobuf of an Ed25519 public key: its type, then 32 bytes. -/
def publicKeyHeader : Bytes := [8, 1, 18, 32]

def public_key_try_decode_protobuf (bytes : Bytes) : Option PublicKey := do
  let body ← if bytes.take 4 = publicKeyHeader then some (bytes.drop 4) else none
  let key ← ByteArr.try_from 32 body
  return .Ed25519 key

/-- `YYYY-MM-DDThh:mm:ssZ`. -/
def rfc3339_parses (value : String) : Bool :=
  let shape := "dddd-dd-ddTdd:dd:ddZ".toList
  value.toList.length == shape.length && (value.toList.zip shape).all fun (c, s) =>
    if s == 'd' then c.isDigit else c == s

/-- The first `n` digits of a checksum stand for a hash. -/
def digest (n : Nat) (bytes : Bytes) : ByteArr n :=
  ⟨beBytes n (bytes.foldl (fun acc b => (acc * 257 + b.toNat + 1) % 256 ^ n) 7),
    beBytes_length _ _⟩

def join {n k : Nat} (a : ByteArr n) (b : ByteArr k) : ByteArr (n + k) :=
  ⟨a.val ++ b.val, by simp⟩

/-- The key and a digest of the data stand for a signature. -/
def ed25519_sign (key : ByteArr 32) (data : Bytes) : ByteArr 64 := join key (digest 32 data)

def xor (a b : ByteArr 32) : ByteArr 32 :=
  ⟨List.zipWith (· ^^^ ·) a.val b.val, by simp⟩

/-- A tag over key, nonce and data, and the data, stand for what is sealed. -/
def sealData (key : ByteArr 32) (nonce : ByteArr 24) (data : Bytes) : Bytes :=
  (digest 16 (key.val ++ nonce.val ++ data)).val ++ data

def openSealed (key : ByteArr 32) (nonce : ByteArr 24) (sealed : Bytes) : Option Bytes :=
  if sealed = sealData key nonce (sealed.drop 16) then some (sealed.drop 16) else none

mutual

def toCbor : Ipld → cbor.Value
  | .Null => .null
  | .Bool b => .bool b
  | .Integer n => if 0 ≤ n then .uint (UInt64.ofNat n.toNat) else .nint (UInt64.ofNat (-n - 1).toNat)
  | .Float bits => .float bits
  | .String s => .text s
  | .Bytes b => .bytes b
  | .List items => .array (toCborItems items)
  | .Map entries => .map (toCborEntries entries)
  | .Link cid => .tag 42 (.bytes (0 :: cid))

def toCborItems : List Ipld → List cbor.Value
  | [] => []
  | item :: items => toCbor item :: toCborItems items

def toCborEntries : List (String × Ipld) → List (cbor.Value × cbor.Value)
  | [] => []
  | (key, item) :: entries => (.text key, toCbor item) :: toCborEntries entries

end

mutual

def fromCbor : cbor.Value → Option Ipld
  | .null => some .Null
  | .bool b => some (.Bool b)
  | .uint n => some (.Integer n.toNat)
  | .nint n => some (.Integer (-1 - (n.toNat : Int)))
  | .float bits => some (.Float bits)
  | .text s => some (.String s)
  | .bytes b => some (.Bytes b)
  | .array items => (fromCborItems items).map .List
  | .map entries => (fromCborEntries entries).map .Map
  | .tag 42 (.bytes (0 :: cid)) => some (.Link cid)
  | .tag _ _ => none

def fromCborItems : List cbor.Value → Option (List Ipld)
  | [] => some []
  | item :: items => do return (← fromCbor item) :: (← fromCborItems items)

def fromCborEntries : List (cbor.Value × cbor.Value) → Option (List (String × Ipld))
  | [] => some []
  | (.text key, item) :: entries => do return (key, ← fromCbor item) :: (← fromCborEntries entries)
  | _ :: _ => none

end

def library : Lib where
  overflow_checks := true
  cid_try_from input := do cid_from_bytes (← multibase_decode input)
  cid_to_bytes := cid_to_bytes
  multibase_encode_base36_lower bytes := String.ofList ('k' :: radix.encode BASE36_LOWER bytes)
  multibase_encode_base58_btc bytes := String.ofList ('z' :: radix.encode BASE58_BTC bytes)
  multibase_decode := multibase_decode
  peer_id_from_multihash hash := if hash.code = 0 then some hash else none
  peer_id_from_public_key key := ⟨0, publicKeyHeader ++ key.val⟩
  public_key_try_decode_protobuf := public_key_try_decode_protobuf
  keypair_ed25519_from_bytes secret := .ok ⟨secret, secret⟩
  keypair_to_protobuf_encoding keypair :=
    .ok ([8, 1, 18, 64] ++ keypair.secret.val ++ keypair.public_key.val)
  rfc3339_parses := rfc3339_parses
  ed25519_public_key secret := secret
  ed25519_sign := ed25519_sign
  ed25519_is_point _ := true
  ed25519_verify key data signature := signature = ed25519_sign key data
  x25519_public_key secret := secret
  x25519_diffie_hellman := xor
  blake3_hash := digest 32
  blake3_derive_key label bytes := digest 32 (utf8 label ++ bytes)
  xchacha20poly1305_encrypt key nonce data := some (sealData key nonce data)
  xchacha20poly1305_decrypt := openSealed
  ciborium_from_reader bytes :=
    match cbor.decode 256 bytes with
    | some value => .ok value
    | none => .error "syntax error"
  dagcbor_to_vec value := .ok (cbor.encode (toCbor value))
  dagcbor_from_slice bytes :=
    match (cbor.decode 256 bytes).bind fromCbor with
    | some value => .ok value
    | none => .error "syntax error"

theorem cborRoundTrips : library.CborRoundTrips := by
  intro item hfits
  simp [library, cbor.decode_encode hfits]

theorem diffieHellmanAgrees : library.DiffieHellmanAgrees := by
  intro a b
  apply Subtype.ext
  exact List.zipWith_comm_of_comm fun x y => UInt8.xor_comm x y

theorem aeadOpens : library.AeadOpens := by
  intro key nonce data sealed hsealed
  cases hsealed
  have hdata : (sealData key nonce data).drop 16 = data := by
    simp [sealData]
  simp [library, openSealed, hdata]

theorem aeadTags : library.AeadTags := by
  intro key nonce data sealed hsealed
  cases hsealed
  have htag := (digest 16 (key.val ++ nonce.val ++ data)).length_val
  rw [sealData, List.length_append, htag, Nat.add_comm]

/-- A signature begins with the key it is made with. -/
theorem signsExclusively (secret : ByteArr 32) (keys : Set (ByteArr 32)) (signed : Set Bytes) :
    library.SignsExclusively secret keys signed := by
  intro key _ data _ hverify
  have hsame : ed25519_sign secret data = ed25519_sign key data := of_decide_eq_true hverify
  have hbytes : secret.val ++ (digest 32 data).val = key.val ++ (digest 32 data).val := congrArg Subtype.val hsame
  exact Subtype.ext (List.append_cancel_right hbytes).symm

theorem mem_base36 {c : Char} {bytes : Bytes}
    (hmem : c ∈ (library.multibase_encode_base36_lower bytes).toList) : c ∈ 'k' :: '?' :: BASE36_LOWER := by
  simp only [library, String.toList_ofList, List.mem_cons] at hmem
  obtain rfl | hmem := hmem
  · simp
  · obtain rfl | hmem := radix.mem_encode hmem <;> simp [*]

/-- No character of an identifier is white space. -/
theorem base36_solid {c : Char} (hmem : c ∈ 'k' :: '?' :: BASE36_LOWER) : is_whitespace c = false := by
  have hall : ('k' :: '?' :: BASE36_LOWER).all (fun c => !is_whitespace c) = true := rfl
  simpa using List.all_eq_true.mp hall c hmem

theorem base36Trims : library.Base36Trims :=
  fun _ => trim_eq_self fun _ hmem => base36_solid (mem_base36 hmem)

theorem base36NoHash : library.Base36NoHash := by
  have hother : '#' ∉ 'k' :: '?' :: BASE36_LOWER := by decide
  intro bytes hmem
  exact hother (mem_base36 hmem)

/-! The codecs read back what they write. -/

/-- The characters of both alphabets are in order. -/
theorem nodup_of_chain {alphabet : List Char} (hchain : (alphabet.map Char.toNat).IsChain (· < ·)) :
    alphabet.Nodup :=
  List.Nodup.of_map Char.toNat ((List.isChain_iff_pairwise.mp hchain).imp Nat.ne_of_lt)

theorem multibase_decode_base36 (bytes : Bytes) :
    library.multibase_decode (library.multibase_encode_base36_lower bytes) = some bytes := by
  have hnodup : BASE36_LOWER.Nodup := nodup_of_chain (by decide)
  have hlength : BASE36_LOWER.length = 36 := rfl
  simp only [library, multibase_decode, String.toList_ofList]
  exact radix.decode_encode hnodup (by omega) (by omega) bytes

theorem multibase_decode_base58 (bytes : Bytes) :
    library.multibase_decode (library.multibase_encode_base58_btc bytes) = some bytes := by
  have hnodup : BASE58_BTC.Nodup := nodup_of_chain (by decide)
  have hlength : BASE58_BTC.length = 58 := rfl
  simp only [library, multibase_decode, String.toList_ofList]
  exact radix.decode_encode hnodup (by omega) (by omega) bytes

theorem cid_try_from_base36 {cid : Cid} (hversion : cid.version = .V1)
    (hfits : cid.hash.digest.length < 2 ^ 64) :
    library.cid_try_from (library.multibase_encode_base36_lower (library.cid_to_bytes cid)) = some cid := by
  obtain ⟨version, codec, ⟨code, digest⟩⟩ := cid
  cases hversion
  have hlength : (UInt64.ofNat digest.length).toNat = digest.length := UInt64.toNat_ofNat_of_lt' hfits
  have hbytes : cid_from_bytes (cid_to_bytes ⟨.V1, codec, ⟨code, digest⟩⟩) =
      some ⟨.V1, codec, ⟨code, digest⟩⟩ := by
    simp [cid_from_bytes, cid_to_bytes, List.append_assoc, hlength]
  calc library.cid_try_from _
      = (library.multibase_decode _).bind cid_from_bytes := rfl
    _ = some ⟨.V1, codec, ⟨code, digest⟩⟩ := by
        rw [multibase_decode_base36]
        exact hbytes

/-- A key under its codec is read back from its multibase text. -/
theorem public_key_multibase_decode_encode (codec : UInt64) {payload : Bytes} (hpayload : payload ≠ []) :
    multiformat.public_key_multibase_decode library
      (multiformat.public_key_multibase_encode library codec payload) = .ok (codec, payload) := by
  simp only [multiformat.public_key_multibase_decode, multiformat.public_key_multibase_encode,
    multiformat.multibase_decode, multiformat.multibase_encode, multibase_decode_base58, ok_or, ok_bind]
  exact multiformat.multicodec_decode_encode codec hpayload

/-! Identities and messages to run on it. -/

def secret (seed : UInt8) : ByteArr 32 := ⟨List.replicate 32 seed, by simp⟩

/-- The identifier of the key with this seed. -/
def ipns (seed : UInt8) : String :=
  match ipns_from_secret library (secret seed) with
  | .ok name => name
  | .error _ => ""

/-- The CID an identifier is the text of. -/
def keyCid (seed : UInt8) : Cid := ⟨.V1, 0x72, library.peer_id_from_public_key (secret seed)⟩

section
variable {seed : UInt8}

theorem ipns_from_secret_eq (seed : UInt8) :
    ipns_from_secret library (secret seed) = .ok (ipns seed) := rfl

theorem ipns_eq (seed : UInt8) :
    ipns seed = library.multibase_encode_base36_lower (library.cid_to_bytes (keyCid seed)) := rfl

theorem ipns_trim (seed : UInt8) : trim (ipns seed) = ipns seed := by
  rw [ipns_eq]
  exact base36Trims _

theorem ipns_no_hash (seed : UInt8) : '#' ∉ (ipns seed).toList := by
  rw [ipns_eq]
  exact base36NoHash _

theorem ipns_ne_empty (seed : UInt8) : ipns seed ≠ "" := by
  rw [ipns_eq]
  simp [library]

theorem cid_try_from_ipns (seed : UInt8) : library.cid_try_from (ipns seed) = some (keyCid seed) := by
  rw [ipns_eq]
  exact cid_try_from_base36 rfl (by simp [keyCid, library, publicKeyHeader])

theorem validate_identifier_ipns (seed : UInt8) : validate_identifier library (ipns seed) = .ok () := by
  have hkey : library.public_key_try_decode_protobuf (keyCid seed).hash.digest =
      some (.Ed25519 (secret seed)) := by
    simp [keyCid, library, public_key_try_decode_protobuf, publicKeyHeader]
  have hpeer : library.peer_id_from_multihash (keyCid seed).hash = some (keyCid seed).hash := rfl
  have hnonempty : (ipns seed).isEmpty = false := String.isEmpty_eq_false_iff.mpr (ipns_ne_empty seed)
  have hversion : (keyCid seed).version = .V1 := rfl
  have hcodec : (keyCid seed).codec = LIBP2P_KEY_CODEC := rfl
  simp only [validate_identifier, hnonempty, cid_try_from_ipns, hversion, hcodec, hpeer, hkey,
    ← ipns_eq, ok_or, ok_bind, reject_if, bne_self_eq_false, Bool.or_self, Bool.false_eq_true, if_false]

/-- The identifier of a seed carries its key. -/
theorem ipns_injective {left right : UInt8} (heq : ipns left = ipns right) : left = right := by
  have hcid : keyCid left = keyCid right := by
    have hread := cid_try_from_ipns left
    rw [heq, cid_try_from_ipns] at hread
    exact (Option.some.inj hread).symm
  have hdigest : publicKeyHeader ++ (secret left).val = publicKeyHeader ++ (secret right).val :=
    congrArg (fun cid => cid.hash.digest) hcid
  have hsecret := List.append_cancel_left hdigest
  exact (List.replicate_inj.mp hsecret).2.resolve_left (by decide)

end

def did (seed : UInt8) : Did := ⟨ipns seed, none⟩

def signingKey (seed : UInt8) : SigningKey :=
  SigningKey.from_private_key_bytes library (did seed) (secret seed)

def encryptionKey (seed : UInt8) : EncryptionKey :=
  EncryptionKey.from_private_key_bytes library (did seed) (secret seed)

/-- The document `build_identity_from_keys` makes, before it is signed. -/
def document (seed : UInt8) : Document :=
  let id := (did seed).base_id
  { Document.new (did seed) (did seed) "2026-08-08T12:34:56Z" with
    verification_method := [
      ⟨id ++ "#sign", "Multikey", id, (signingKey seed).public_key_multibase⟩,
      ⟨id ++ "#enc", "Multikey", id, (encryptionKey seed).public_key_multibase⟩]
    assertion_method := [id ++ "#sign"]
    key_agreement := [id ++ "#enc"] }

theorem did_parse (seed : UInt8) : Did.parse library (did seed).base_id = .ok (ipns seed, none) :=
  Did.parse_base_id (validate_identifier_ipns seed) (ipns_ne_empty seed) (ipns_no_hash seed)

theorem did_try_from (seed : UInt8) : Did.try_from library (did seed).base_id = .ok (did seed) :=
  Did.try_from_eq_ok_iff.mpr (did_parse seed)

theorem did_injective {left right : UInt8} (heq : (did left).base_id = (did right).base_id) :
    left = right := by
  have hname : (did left).ipns = (did right).ipns := Did.base_id_inj heq
  exact @ipns_injective left right hname

theorem did_resource (seed : UInt8) {fragment : String} (hfragment : validate_fragment fragment = .ok ()) :
    Did.validate_resource library ((did seed).base_id ++ "#" ++ fragment) = .ok () := by
  have hparse : Did.parse library ((did seed).base_id ++ "#" ++ fragment) =
      .ok (ipns seed, some fragment) :=
    Did.parse_url (validate_identifier_ipns seed) (ipns_no_hash seed) hfragment
  unfold Did.validate_resource
  rw [hparse, ok_bind]

theorem did_trim (seed : UInt8) : (trim (did seed).base_id).isEmpty = false := by
  have hprefix : ∀ c ∈ DID_PREFIX.toList, is_whitespace c = false := by
    simp [DID_PREFIX, is_whitespace]
  have htrim : trim (did seed).base_id = (did seed).base_id := by
    refine trim_eq_self fun c hmem => ?_
    rw [Did.base_id, String.toList_append, List.mem_append] at hmem
    obtain hmem | hmem := hmem
    · exact hprefix c hmem
    · exact base36_solid (mem_base36 (by rwa [← ipns_eq]))
  rw [htrim]
  simp [Did.base_id, DID_PREFIX, String.isEmpty_eq_false_iff]

/-- An identifier is the text of forty bytes. -/
theorem did_length (seed : UInt8) : (utf8 (did seed).base_id).length ≤ 512 := by
  have hcid : (library.cid_to_bytes (keyCid seed)).length = 40 := by
    simp [library, cid_to_bytes, keyCid, publicKeyHeader, unsigned_varint.encode_u64,
      unsigned_varint.encodeFrom]
  have hdigits := @radix.encode_length_le BASE36_LOWER (library.cid_to_bytes (keyCid seed))
  have hchars : (ipns seed).toList.length =
      (radix.encode BASE36_LOWER (library.cid_to_bytes (keyCid seed))).length + 1 := by
    rw [ipns_eq]
    simp [library]
  have hipns := utf8_length_le (ipns seed)
  have happend := utf8_append_length DID_PREFIX (ipns seed)
  have hprefix : (utf8 DID_PREFIX).length = 7 := rfl
  have hbase : (did seed).base_id = DID_PREFIX ++ ipns seed := rfl
  rw [hbase]
  omega

theorem signing_key_decode (seed : UInt8) :
    multiformat.public_key_multibase_decode library (signingKey seed).public_key_multibase =
      .ok (CODEC_ED25519_PUB, (secret seed).val) :=
  public_key_multibase_decode_encode _ (by simp [library, secret])

theorem encryption_key_decode (seed : UInt8) :
    multiformat.public_key_multibase_decode library (encryptionKey seed).public_key_multibase =
      .ok (CODEC_X25519_PUB, (secret seed).val) :=
  public_key_multibase_decode_encode _ (by simp [library, secret])

/-- The key of a seed is under the first assertion method of its document. -/
theorem document_key (seed : UInt8) :
    (document seed).assertion_method_public_key library = .ok (secret seed) := by
  have hpoint : library.ed25519_is_point (secret seed) = true := rfl
  simp [document, Document.new, Document.assertion_method_public_key, Document.verifying_key_for_method,
    Document.key_bytes_for_method, Document.get_verification_method_by_id, signing_key_decode, hpoint,
    ok_or, reject_if, pure, Except.pure]

theorem document_key_agreement (seed : UInt8) :
    (document seed).key_agreement_public_key_bytes library = .ok (secret seed) := by
  simp [document, Document.new, Document.key_agreement_public_key_bytes,
    Document.key_bytes_for_method, Document.get_verification_method_by_id, encryption_key_decode,
    ok_or, reject_if]

/-- A resolver that knows the identities of these seeds. -/
def resolve (seeds : List UInt8) (name : String) : ServiceResult Document :=
  match seeds.find? fun seed => (did seed).base_id == name with
  | some seed => .ok (document seed)
  | none => Err (.Resolution name "not found")

/-- A message signed by its sender. -/
def signed (sender : UInt8) (recipient message_type id : String) (exp : UInt64) : Message :=
  let message : Message := {
    id
    protocol := default_protocol
    message_type
    «from» := (did sender).base_id
    «to» := recipient
    created_at := 0
    exp
    content_type := "text/plain"
    reply_to := none
    content := encode_content 0 [104, 105]
    signature := [] }
  { message with
    signature := (signingKey sender).sign library
      (cbor.encode (message.unsigned_headers library).serialize) }

def broadcast (sender : UInt8) (id : String) (exp : UInt64) : Message :=
  signed sender "" MESSAGE_TYPE_BROADCAST id exp

/-- The bytes a message has on the wire. -/
def wire (m : Message) : Bytes := cbor.encode m.serialize

theorem encode_eq_wire {m : Message} (hlength : (wire m).length ≤ MAX_ALLOCATION) :
    m.encode = .ok (wire m) :=
  to_vec_eq_ok_iff.mpr ⟨rfl, hlength⟩

section
variable {sender : UInt8} {recipient message_type id : String} {exp : UInt64} {document' : Document}

/-- A message verifies under the key it is signed with. -/
theorem signatureVerifies {signer : UInt8} {m : Message}
    (hsignature : m.signature =
      (signingKey signer).sign library (cbor.encode (m.unsigned_headers library).serialize))
    (hkey : document'.assertion_method_public_key library = .ok (secret signer))
    (hlength : (cbor.encode (m.unsigned_headers library).serialize).length ≤ MAX_ALLOCATION) :
    m.SignatureVerifies library document' := by
  refine ⟨_, ed25519_sign (secret signer) (cbor.encode (m.unsigned_headers library).serialize), _,
    to_vec_eq_ok_iff.mpr ⟨rfl, hlength⟩, ?_, hkey, ?_⟩
  · exact ByteArr.try_from_eq_some_iff.mpr hsignature
  · simp [library]

theorem signed_signatureVerifies
    (hkey : document'.assertion_method_public_key library = .ok (secret sender))
    (hlength : (cbor.encode ((signed sender recipient message_type id exp).unsigned_headers
      library).serialize).length ≤ MAX_ALLOCATION) :
    (signed sender recipient message_type id exp).SignatureVerifies library document' :=
  signatureVerifies rfl hkey hlength

theorem fresh_never {now : UInt64} (hfits : now.toNat + 30 < 2 ^ 64) : Fresh library now 0 0 := by
  obtain ⟨hsum, _⟩ := @u64_add_of_lt MaError true now DEFAULT_MAX_CLOCK_SKEW_SECS hfits
  refine ⟨⟨now + DEFAULT_MAX_CLOCK_SKEW_SECS, hsum, ?_⟩, .inl rfl⟩
  exact UInt64.le_iff_toNat_le.mpr (Nat.zero_le _)

/-- A signed message and its headers are as long as its parts allow. -/
theorem signed_length_le {m : Message} (hm : m = signed sender recipient message_type id exp) {bound : Nat}
    (hbound : (utf8 id).length + (utf8 recipient).length + (utf8 message_type).length + 1152 ≤ bound) :
    (wire m).length ≤ bound ∧ (cbor.encode (m.headers library).serialize).length ≤ bound ∧
      (cbor.encode (m.unsigned_headers library).serialize).length ≤ bound := by
  have hparts : (utf8 m.id).length + (utf8 m.to).length + (utf8 m.message_type).length =
      (utf8 id).length + (utf8 recipient).length + (utf8 message_type).length := by
    rw [hm]
    rfl
  have hfrom : (utf8 m.from).length ≤ 512 := by
    rw [hm]
    exact did_length sender
  have hfixed : (utf8 m.protocol).length + (utf8 m.content_type).length + m.content.length = 22 ∧
      m.reply_to = none := by
    rw [hm]
    exact ⟨rfl, rfl⟩
  have hsignature : m.signature.length = 64 := by
    rw [hm]
    exact (ed25519_sign (secret sender) _).length_val
  have hwire := m.serialize_length_le
  have hheaders : (cbor.encode (m.headers library).serialize).length ≤ (utf8 m.id).length +
      (utf8 m.protocol).length + (utf8 m.message_type).length + (utf8 m.from).length +
      (utf8 m.to).length + (utf8 m.content_type).length +
      (m.reply_to.elim 0 fun id => (utf8 id).length) + 2 * m.signature.length + 375 :=
    (m.headers library).serialize_length_le
  have hunsigned : (cbor.encode (m.unsigned_headers library).serialize).length ≤ (utf8 m.id).length +
      (utf8 m.protocol).length + (utf8 m.message_type).length + (utf8 m.from).length +
      (utf8 m.to).length + (utf8 m.content_type).length +
      (m.reply_to.elim 0 fun id => (utf8 id).length) + 2 * 0 + 375 :=
    (m.unsigned_headers library).serialize_length_le
  rw [hfixed.2, Option.elim_none] at hwire hheaders hunsigned
  unfold wire
  omega

theorem broadcast_valid {now : UInt64} (hid : validate_message_id id = .ok ())
    (hfresh : Fresh library now 0 exp) :
    ((broadcast sender id exp).headers library).Valid library (some now) where
  id := hid
  protocol := rfl
  reply_to _ hmem := by cases hmem
  content_type := show "text/plain".isEmpty = false by decide
  sender := ⟨_, did_parse sender⟩
  broadcast _ := show (trim "").isEmpty = true by decide
  recipient hother := absurd rfl hother
  fresh := ⟨now, rfl, hfresh⟩

theorem broadcast_length_le (hid : (utf8 id).length ≤ 1024) :
    (wire (broadcast sender id exp)).length ≤ 4096 ∧
      (cbor.encode ((broadcast sender id exp).headers library).serialize).length ≤ 4096 ∧
      (cbor.encode ((broadcast sender id exp).unsigned_headers library).serialize).length ≤ 4096 := by
  have htype : (utf8 "").length + (utf8 MESSAGE_TYPE_BROADCAST).length = 28 := rfl
  exact signed_length_le rfl (by omega)

/-- The document an identity resolves to verifies what it signed. -/
theorem broadcast_verifies {now : UInt64}
    (hvalid : ((broadcast sender id exp).headers library).Valid library (some now))
    (hid : (utf8 id).length ≤ 1024) :
    (broadcast sender id exp).verify_with_document library (some now) (document sender) = .ok () := by
  have hlength := (@broadcast_length_le sender id exp hid).2.2
  refine Message.verify_with_document_eq_ok_iff.mpr
    ⟨⟨did sender, did_try_from sender, rfl⟩, hvalid, signed_signatureVerifies (document_key sender) ?_⟩
  exact Nat.le_trans hlength (by decide)

/-- A fresh broadcast passes every check up to the guard's. -/
theorem broadcast_authentic {now : UInt64} (hid : validate_message_id id = .ok ())
    (hsize : (utf8 id).length ≤ 1024) (hfresh : Fresh library now 0 exp)
    (hresolve : resolve [1, 2] (did sender).base_id = .ok (document sender)) (key : EncryptionKey) :
    Verified library (some now) (resolve [1, 2]) (broadcast sender id exp) ∧
    Carries library (some now) key (wire (broadcast sender id exp)) (broadcast sender id exp) false ∧
    authenticate library (some now) (resolve [1, 2]) key (wire (broadcast sender id exp))
      INBOX_PROTOCOL_ID = .ok (broadcast sender id exp) := by
  have hvalid := @broadcast_valid sender id exp now hid hfresh
  have hverified : Verified library (some now) (resolve [1, 2]) (broadcast sender id exp) :=
    ⟨document sender, hresolve, broadcast_verifies hvalid hsize⟩
  have hpayload := encode_eq_wire
    (Nat.le_trans (@broadcast_length_le sender id exp hsize).1 (show 4096 ≤ MAX_ALLOCATION by decide))
  obtain ⟨cause, hother⟩ := Envelope.decode_message cborRoundTrips hpayload
  have hcarries : Carries library (some now) key (wire (broadcast sender id exp))
      (broadcast sender id exp) false := .raw hother (Message.decode_encode cborRoundTrips hpayload)
  refine ⟨hverified, hcarries, authenticate_eq_ok_iff.mpr ⟨false, hcarries, check_eq_ok_iff.mpr ?_⟩⟩
  exact ⟨⟨fun _ => rfl, fun _ => rfl⟩, by simp, .inr hverified⟩

end

theorem resolve_1 : resolve [1, 2] (did 1).base_id = .ok (document 1) := by
  simp [resolve]

theorem resolve_2 : resolve [1, 2] (did 2).base_id = .ok (document 2) := by
  have hother : ((did 1).base_id == (did 2).base_id) = false := by
    rw [beq_eq_false_iff_ne]
    exact fun heq => absurd (did_injective heq) (by decide)
  simp [resolve, hother]

/-! Envelopes. -/

def nonce : ByteArr 24 := ⟨List.replicate 24 0, by simp⟩

/-- The envelope of a message for the identity of a seed. -/
def enclosed (recipient : UInt8) (m : Message) : Envelope :=
  let shared_secret := xor (secret 5) (secret recipient)
  let encrypted (data : Bytes) (label : String) : Bytes :=
    nonce.val ++ sealData (derive_symmetric_key library shared_secret label) nonce data
  { ephemeral_key := (secret 5).val
    encrypted_content := encrypted m.content constants.blake3_content_label
    encrypted_headers :=
      encrypted (cbor.encode (m.headers library).serialize) constants.BLAKE3_HEADERS_LABEL }

/-- The bytes an envelope has on the wire. -/
def wireEnvelope (e : Envelope) : Bytes := cbor.encode e.serialize

theorem encode_eq_wireEnvelope {e : Envelope} (hlength : (wireEnvelope e).length ≤ MAX_ALLOCATION) :
    e.encode = .ok (wireEnvelope e) :=
  to_vec_eq_ok_iff.mpr ⟨rfl, hlength⟩

theorem sealed_length (key : ByteArr 32) (data : Bytes) :
    (nonce.val ++ sealData key nonce data).length = data.length + 40 := by
  have hnonce := nonce.length_val
  have htag := (digest 16 (key.val ++ nonce.val ++ data)).length_val
  simp only [sealData, List.length_append]
  omega

theorem encode_enclosed {recipient : UInt8} {m : Message}
    (hheaders : (cbor.encode (m.headers library).serialize).length ≤ 4096)
    (hcontent : m.content.length ≤ 4096) :
    (enclosed recipient m).encode = .ok (wireEnvelope (enclosed recipient m)) := by
  have hsize := (enclosed recipient m).serialize_length_le
  have hkey := (secret 5).length_val
  have hmax : 32768 ≤ MAX_ALLOCATION := by decide
  simp only [enclosed, sealed_length, hkey] at hsize
  apply encode_eq_wireEnvelope
  simp only [wireEnvelope, enclosed]
  omega

theorem enclose_for_eq_enclosed {clock : Clock} {recipient : UInt8} {m : Message}
    (hvalid : (m.headers library).Valid library clock)
    (hheaders : (cbor.encode (m.headers library).serialize).length ≤ 4096)
    (hcontent : m.content.length ≤ 4096) :
    m.enclose_for library clock (secret 5) nonce nonce (document recipient) =
      .ok (enclosed recipient m) := by
  have hmax : 8192 ≤ MAX_ALLOCATION := by decide
  have hbytes : m.headers_cbor library = .ok (cbor.encode (m.headers library).serialize) :=
    to_vec_eq_ok_iff.mpr ⟨rfl, by omega⟩
  have hencrypted : (enclosed recipient m).encrypted_headers.length ≤ MAX_ALLOCATION := by
    simp only [enclosed, sealed_length]
    omega
  have hencrypted_content : (enclosed recipient m).encrypted_content.length ≤ MAX_ALLOCATION := by
    simp only [enclosed, sealed_length]
    omega
  unfold Message.enclose_for
  simp only [bind_eq_ok_iff, exists_unit]
  exact ⟨Headers.validate_eq_ok_iff.mpr hvalid, _, document_key_agreement recipient, _, hbytes, _,
    bind_eq_ok_iff.mpr ⟨_, rfl, to_vec_eq_ok_iff.mpr ⟨rfl, hencrypted⟩⟩, _,
    bind_eq_ok_iff.mpr ⟨_, rfl, to_vec_eq_ok_iff.mpr ⟨rfl, hencrypted_content⟩⟩, rfl⟩

end ma_core.reference

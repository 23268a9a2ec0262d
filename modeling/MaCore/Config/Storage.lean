import MaCore.Base.Json
import MaCore.Base.Serde
import MaCore.Config.Secrets

open rust

namespace ma_core.config

/-- The third-party functions a bundle is stored with. What `serde_json` reads of an object are the
    entries of its text, in their order. -/
structure StorageLib where
  base64_encode : Bytes → String
  base64_decode : String → Except String Bytes
  serde_json_to_vec : serde_json.Value → Except String Bytes
  serde_json_from_slice : Bytes → Except String serde_json.Value
  argon2_hash_password_into : Bytes → Bytes → Except String (ByteArr 32)
  chacha20poly1305_encrypt : ByteArr 32 → ByteArr 12 → Bytes → Option Bytes
  chacha20poly1305_decrypt : ByteArr 32 → ByteArr 12 → Bytes → Option Bytes

/-- The plaintext of a stored bundle. -/
structure BundleJson where
  iroh : String
  ipns : String
  did_signing : String
  did_encryption : String
  created_at : String
  extra : List (String × String)

/-- `HashMap::insert`, on the entries of a map in one of their orders. -/
def insert_entry {V : Type} (entries : List (String × V)) (name : String) (value : V) : List (String × V) :=
  entries.filter (fun entry => entry.1 != name) ++ [(name, value)]

def read_string : serde_json.Value → Except String String
  | .String s => .ok s
  | _ => .error "invalid type: expected a string"

/-- A `HashMap<String, String>`, where the last value of a key counts. -/
def read_string_map : serde_json.Value → Except String (List (String × String))
  | .Object entries => do
    let entries ← entries.mapM fun entry => (read_string entry.2).map (Prod.mk entry.1)
    return entries.foldl (fun map entry => insert_entry map entry.1 entry.2) []
  | _ => .error "invalid type: expected a map"

namespace BundleJson

def serialize (self : BundleJson) : serde_json.Value :=
  .Object [
    ("iroh", .String self.iroh),
    ("ipns", .String self.ipns),
    ("did_signing", .String self.did_signing),
    ("did_encryption", .String self.did_encryption),
    ("created_at", .String self.created_at),
    ("extra", .Object (self.extra.map fun entry => (entry.1, .String entry.2)))]

/-- A struct is read from an object, or from an array of its fields. -/
def deserialize : serde_json.Value → Except String BundleJson
  | .Object fields => do
    let iroh ← serde.required fields "iroh" read_string
    let ipns ← serde.required fields "ipns" read_string
    let did_signing ← serde.required fields "did_signing" read_string
    let did_encryption ← serde.required fields "did_encryption" read_string
    let created_at ← serde.required fields "created_at" read_string
    let extra ← serde.defaulted fields "extra" [] read_string_map
    return { iroh, ipns, did_signing, did_encryption, created_at, extra }
  | .Array (iroh :: ipns :: did_signing :: did_encryption :: created_at :: rest) => do
    let iroh ← read_string iroh
    let ipns ← read_string ipns
    let did_signing ← read_string did_signing
    let did_encryption ← read_string did_encryption
    let created_at ← read_string created_at
    let extra ← match rest with
      | [] => .ok []
      | [extra] => read_string_map extra
      | _ => .error "trailing characters"
    return { iroh, ipns, did_signing, did_encryption, created_at, extra }
  | .Array _ => .error "invalid length: expected struct BundleJson with 6 elements"
  | _ => .error "invalid type: expected struct BundleJson"

end BundleJson

section
variable (storage : StorageLib)

/-- A 32-byte key from its base64 text. -/
def decode_key (s field : String) : Result String (ByteArr 32) := do
  let bytes ← of_library (fun e => "base64 decode error in '" ++ field ++ "': " ++ e) (storage.base64_decode s)
  ok_or ("'" ++ field ++ "' must be exactly 32 bytes") (ByteArr.try_from 32 bytes)

/-- The bundle of a plaintext. -/
def BundleJson.restore (wire : BundleJson) : Result String SecretBundle := do
  let extra_keys ← wire.extra.mapM fun entry => do
    let key ← decode_key storage entry.2 entry.1
    return (entry.1, key)
  let iroh_secret_key ← decode_key storage wire.iroh "iroh"
  let ipns_secret_key ← decode_key storage wire.ipns "ipns"
  let did_signing_key ← decode_key storage wire.did_signing "did_signing"
  let did_encryption_key ← decode_key storage wire.did_encryption "did_encryption"
  return {
    iroh_secret_key
    ipns_secret_key
    did_signing_key
    did_encryption_key
    created_at := wire.created_at
    extra_keys }

namespace SecretBundle

/-- What is written of a bundle. -/
def wire (self : SecretBundle) : BundleJson where
  iroh := storage.base64_encode self.iroh_secret_key.val
  ipns := storage.base64_encode self.ipns_secret_key.val
  did_signing := storage.base64_encode self.did_signing_key.val
  did_encryption := storage.base64_encode self.did_encryption_key.val
  created_at := self.created_at
  extra := self.extra_keys.map fun entry => (entry.1, storage.base64_encode entry.2.val)

def to_json_bytes (self : SecretBundle) : Result String Bytes :=
  of_library id (storage.serde_json_to_vec (self.wire storage).serialize)

def from_json_bytes (data : Bytes) : Result String SecretBundle := do
  let wire ← of_library ("failed to parse bundle JSON: " ++ ·)
    (storage.serde_json_from_slice data >>= BundleJson.deserialize)
  wire.restore storage

/-- `encrypt`, with the salt and the nonce it draws. -/
def encrypt (self : SecretBundle) (salt : ByteArr 16) (nonce : ByteArr 12) (passphrase : String) :
    Result String Bytes := do
  let key_bytes ← of_library id (storage.argon2_hash_password_into (utf8 passphrase) salt.val)
  let plaintext ← self.to_json_bytes storage
  let ciphertext ← ok_or "aead::Error" (storage.chacha20poly1305_encrypt key_bytes nonce plaintext)
  return salt.val ++ nonce.val ++ ciphertext

def decrypt (data : Bytes) (passphrase : String) : Result String SecretBundle := do
  reject_if (data.length < 28) "secret bundle too short"
  let salt := data.take 16
  let nonce_bytes ← ok_or "malformed bundle nonce" (ByteArr.try_from 12 ((data.drop 16).take 12))
  let ciphertext := data.drop 28
  let key_bytes ← of_library id (storage.argon2_hash_password_into (utf8 passphrase) salt)
  let plaintext ← ok_or "decryption failed (wrong passphrase?)"
    (storage.chacha20poly1305_decrypt key_bytes nonce_bytes ciphertext)
  from_json_bytes storage plaintext

end SecretBundle

end

/-! What is stored is what is restored. -/

namespace StorageLib

variable (storage : StorageLib)

def Base64RoundTrips : Prop := ∀ bytes, storage.base64_decode (storage.base64_encode bytes) = .ok bytes

/-- Strings and objects are read as they were written. -/
def JsonRoundTrips : Prop := ∀ value bytes, json.textual value = true →
  storage.serde_json_to_vec value = .ok bytes → storage.serde_json_from_slice bytes = .ok value

def AeadOpens : Prop := ∀ key nonce data sealed,
  storage.chacha20poly1305_encrypt key nonce data = some sealed →
    storage.chacha20poly1305_decrypt key nonce sealed = some data

end StorageLib

section
variable {storage : StorageLib} {bundle : SecretBundle} {data : Bytes} {passphrase : String}

theorem insert_entry_of_absent {V : Type} {entries : List (String × V)} {name : String} {value : V}
    (habsent : name ∉ entries.map Prod.fst) : insert_entry entries name value = entries ++ [(name, value)] := by
  have hkeep : entries.filter (fun entry => entry.1 != name) = entries := by
    rw [List.filter_eq_self]
    intro entry hentry
    have hne : entry.1 ≠ name := fun heq => habsent (heq ▸ List.mem_map_of_mem hentry)
    simpa using hne
  rw [insert_entry, hkeep]

/-- Entries under different names are all kept, in their order. -/
theorem foldl_insert_entry {V : Type} {before entries : List (String × V)}
    (hnodup : ((before ++ entries).map Prod.fst).Nodup) :
    entries.foldl (fun map entry => insert_entry map entry.1 entry.2) before = before ++ entries := by
  induction entries generalizing before with
  | nil => simp
  | cons entry entries ih =>
    have habsent : entry.1 ∉ before.map Prod.fst := by
      intro hmem
      rw [List.map_append, List.nodup_append] at hnodup
      exact hnodup.2.2 _ hmem _ (by simp) rfl
    rw [List.foldl_cons, insert_entry_of_absent habsent, ih (by simpa using hnodup), List.append_assoc]
    rfl

theorem read_string_map_strings {entries : List (String × String)} (hnodup : (entries.map Prod.fst).Nodup) :
    read_string_map (.Object (entries.map fun entry => (entry.1, .String entry.2))) = .ok entries := by
  have hread : (entries.map fun entry => (entry.1, serde_json.Value.String entry.2)).mapM
      (fun entry => (read_string entry.2).map (Prod.mk entry.1)) = .ok entries := by
    induction entries with
    | nil => rfl
    | cons entry entries ih =>
      rw [List.map_cons, List.nodup_cons] at hnodup
      rw [List.map_cons, List.mapM_cons, ih hnodup.2]
      rfl
  have hinsert := @foldl_insert_entry _ [] entries hnodup
  rw [read_string_map, hread, ok_bind, hinsert]
  rfl

theorem BundleJson.deserialize_serialize {wire : BundleJson} (hnodup : (wire.extra.map Prod.fst).Nodup) :
    deserialize wire.serialize = .ok wire := by
  have hextra := read_string_map_strings hnodup
  simp [deserialize, serialize, serde.required, serde.defaulted, serde.field, read_string, hextra, pure,
    Except.pure]

theorem BundleJson.textual_serialize (wire : BundleJson) : json.textual wire.serialize = true := by
  have hextra : json.entriesTextual (wire.extra.map fun entry => (entry.1, .String entry.2)) = true := by
    induction wire.extra with
    | nil => rfl
    | cons entry entries ih => simpa [json.entriesTextual, json.textual] using ih
  simp [serialize, json.textual, json.entriesTextual, hextra]

theorem decode_key_encode (hbase64 : storage.Base64RoundTrips) (key : ByteArr 32) (field : String) :
    decode_key storage (storage.base64_encode key.val) field = .ok key := by
  rw [decode_key, hbase64, of_library, ok_bind, ByteArr.try_from_val]
  rfl

/-- A bundle is restored from its own plaintext. -/
theorem BundleJson.restore_wire (hbase64 : storage.Base64RoundTrips) (bundle : SecretBundle) :
    (bundle.wire storage).restore storage = .ok bundle := by
  have hextra : (bundle.wire storage).extra.mapM (fun entry => do
      let key ← decode_key storage entry.2 entry.1
      return (entry.1, key)) = .ok bundle.extra_keys := by
    rw [SecretBundle.wire]
    induction bundle.extra_keys with
    | nil => rfl
    | cons entry entries ih =>
      rw [List.map_cons, List.mapM_cons, decode_key_encode hbase64]
      simp only [ok_bind, pure_bind, ih]
      rfl
  rw [restore, hextra, ok_bind]
  simp only [SecretBundle.wire, decode_key_encode hbase64, ok_bind]
  rfl

theorem SecretBundle.decrypt_encrypt (hbase64 : storage.Base64RoundTrips) (hjson : storage.JsonRoundTrips)
    (haead : storage.AeadOpens) (hnodup : (bundle.extra_keys.map Prod.fst).Nodup) {salt : ByteArr 16}
    {nonce : ByteArr 12} (hencrypt : bundle.encrypt storage salt nonce passphrase = .ok data) :
    decrypt storage data passphrase = .ok bundle := by
  simp only [encrypt, to_json_bytes, bind_eq_ok_iff, of_library_eq_ok_iff, ok_or_eq_ok_iff] at hencrypt
  obtain ⟨key, hkey, plaintext, hplaintext, ciphertext, hseal, hdata⟩ := hencrypt
  cases hdata
  have hheader : (salt.val ++ nonce.val).length = 28 := by simp
  have hlength : ¬ (salt.val ++ nonce.val ++ ciphertext).length < 28 := by
    rw [List.length_append]
    omega
  have hsalt : (salt.val ++ nonce.val ++ ciphertext).take 16 = salt.val := by simp
  have hnonce : ByteArr.try_from 12 (((salt.val ++ nonce.val ++ ciphertext).drop 16).take 12) = some nonce := by
    simp
  have hciphertext : (salt.val ++ nonce.val ++ ciphertext).drop 28 = ciphertext := List.drop_left' hheader
  have hread := hjson _ _ (bundle.wire storage).textual_serialize hplaintext
  have hwire : BundleJson.deserialize (bundle.wire storage).serialize = .ok (bundle.wire storage) :=
    BundleJson.deserialize_serialize (by simpa [wire, Function.comp_def] using hnodup)
  have hopen := haead _ _ _ _ hseal
  simp only [decrypt, hlength, hsalt, hnonce, hciphertext, hkey, hopen, decide_false, reject_if, ok_or,
    of_library, ok_bind, Bool.false_eq_true, if_false]
  rw [from_json_bytes, hread, ok_bind, hwire]
  exact BundleJson.restore_wire hbase64 bundle

end

end ma_core.config

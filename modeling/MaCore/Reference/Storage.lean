import MaCore.Base.Base64
import MaCore.Config.Storage
import MaCore.Reference

open rust

namespace ma_core.reference

open config

def short_nonce : ByteArr 12 := ⟨List.replicate 12 0, List.length_replicate⟩

/-- The nonce, filled up to the length of the other cipher's. -/
def pad_nonce (nonce : ByteArr 12) : ByteArr 24 := join nonce short_nonce

def storage : StorageLib where
  base64_encode bytes := String.ofList (base64.encode bytes)
  base64_decode s :=
    match base64.decode s.toList with
    | some bytes => .ok bytes
    | none => .error "Invalid input"
  serde_json_to_vec value := if json.textual value then .ok (json.encode value) else .error "no text"
  serde_json_from_slice bytes :=
    match json.decode bytes with
    | some value => .ok value
    | none => .error "expected value"
  argon2_hash_password_into password salt := .ok (digest 32 (password ++ salt))
  chacha20poly1305_encrypt key nonce data := some (sealData key (pad_nonce nonce) data)
  chacha20poly1305_decrypt key nonce sealed := openSealed key (pad_nonce nonce) sealed

theorem storage_base64RoundTrips : storage.Base64RoundTrips := by
  intro bytes
  simp [storage, base64.decode_encode]

theorem storage_jsonRoundTrips : storage.JsonRoundTrips := by
  intro value bytes htextual hbytes
  simp only [storage, htextual, if_true] at hbytes
  cases hbytes
  simp only [storage, json.decode_encode htextual]

theorem storage_aeadOpens : storage.AeadOpens := by
  intro key nonce data sealed hsealed
  exact aeadOpens key (pad_nonce nonce) data sealed hsealed

theorem encrypt_ok (bundle : SecretBundle) (salt : ByteArr 16) (nonce : ByteArr 12) (passphrase : String) :
    ∃ data, bundle.encrypt storage salt nonce passphrase = .ok data := by
  have htextual := (bundle.wire storage).textual_serialize
  have hplaintext : bundle.to_json_bytes storage = .ok (json.encode (bundle.wire storage).serialize) := by
    rw [SecretBundle.to_json_bytes, of_library_eq_ok_iff]
    exact if_pos htextual
  have hkey : storage.argon2_hash_password_into (utf8 passphrase) salt.val =
      .ok (digest 32 (utf8 passphrase ++ salt.val)) := rfl
  simp only [SecretBundle.encrypt, hplaintext, hkey, of_library, ok_bind]
  exact ⟨_, rfl⟩

def salt : ByteArr 16 := ⟨List.replicate 16 0, List.length_replicate⟩

/-- A bundle without extra keys is restored from what it is encrypted to. -/
theorem restores {bundle : SecretBundle} (hextra : bundle.extra_keys = []) :
    ∃ data, bundle.encrypt storage salt short_nonce "correct horse" = .ok data ∧
      SecretBundle.decrypt storage data "correct horse" = .ok bundle := by
  obtain ⟨data, hencrypt⟩ := encrypt_ok bundle salt short_nonce "correct horse"
  have hnodup : (bundle.extra_keys.map Prod.fst).Nodup := by simp [hextra]
  exact ⟨data, hencrypt, SecretBundle.decrypt_encrypt storage_base64RoundTrips storage_jsonRoundTrips
    storage_aeadOpens hnodup hencrypt⟩

end ma_core.reference

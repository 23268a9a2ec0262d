import MaCore.Base.Entries
import MaCore.Reference.Storage

open rust

namespace ma_core.config

/-- The names of the standard keys, which no extra key may have. -/
def RESERVED : List String := ["iroh", "ipns", "did_signing", "did_encryption"]

def validate_key_name (name : String) : Result String Unit := do
  reject_if name.isEmpty "key name must not be empty"
  reject_if (RESERVED.contains name) ("key name '" ++ name ++ "' is reserved for a standard key")

/-- The map `HashMap::remove` leaves, on the entries of a map in one of their orders. -/
def remove_entry {V : Type} (entries : List (String × V)) (name : String) : List (String × V) :=
  entries.filter (fun entry => entry.1 != name)

namespace SecretBundle

/-- `generate`, with the keys it draws, at the time `now_iso_utc` returns. -/
def generate (iroh_secret_key ipns_secret_key did_signing_key did_encryption_key : ByteArr 32)
    (now_iso_utc : String) : SecretBundle where
  iroh_secret_key
  ipns_secret_key
  did_signing_key
  did_encryption_key
  created_at := now_iso_utc
  extra_keys := []

def add_key (self : SecretBundle) (name : String) (key : ByteArr 32) : Result String SecretBundle := do
  validate_key_name name
  return { self with extra_keys := insert_entry self.extra_keys name key }

/-- `generate_key`, with the key it draws. -/
def generate_key (self : SecretBundle) (name : String) (key : ByteArr 32) :
    Result String (ByteArr 32 × SecretBundle) := do
  validate_key_name name
  return (key, { self with extra_keys := insert_entry self.extra_keys name key })

def get_key (self : SecretBundle) (name : String) : Option (ByteArr 32) := self.extra_keys.lookup name

def remove_key (self : SecretBundle) (name : String) : Option (ByteArr 32) × SecretBundle :=
  (self.get_key name, { self with extra_keys := remove_entry self.extra_keys name })

def extra_key_names (self : SecretBundle) : List String := self.extra_keys.map Prod.fst

end SecretBundle

/-- An order in which a `HashMap` is iterated over. -/
structure IterationOrder where
  iter : List (String × ByteArr 32) → List (String × ByteArr 32)
  perm : ∀ entries, (iter entries).Perm entries

/-- The bundle, with its extra keys in the order in which the next call sees them. -/
def SecretBundle.listed (self : SecretBundle) (order : IterationOrder) : SecretBundle :=
  { self with extra_keys := order.iter self.extra_keys }

/-- A call on a bundle, with what it draws. `round_trip` encrypts it and decrypts the result. -/
inductive BundleCall where
  | add_key (name : String) (key : ByteArr 32)
  | generate_key (name : String) (key : ByteArr 32)
  | remove_key (name : String)
  | round_trip (order : IterationOrder) (salt : ByteArr 16) (nonce : ByteArr 12) (passphrase : String)

/-- What a call leaves that returns `result`: one that fails changes nothing. -/
def SecretBundle.or_unchanged (self : SecretBundle) : Result String SecretBundle → SecretBundle
  | .ok changed => changed
  | .error _ => self

/-- The bundle after a call. -/
def BundleCall.apply (storage : StorageLib) (bundle : SecretBundle) : BundleCall → SecretBundle
  | add_key name key => bundle.or_unchanged (bundle.add_key name key)
  | generate_key name key => bundle.or_unchanged ((bundle.generate_key name key).map Prod.snd)
  | remove_key name => (bundle.remove_key name).2
  | round_trip order salt nonce passphrase => bundle.or_unchanged do
    let data ← (bundle.listed order).encrypt storage salt nonce passphrase
    SecretBundle.decrypt storage data passphrase

/-- The same keys under the same names. -/
structure SecretBundle.SameKeys (bundle other : SecretBundle) : Prop where
  iroh_secret_key : bundle.iroh_secret_key = other.iroh_secret_key
  ipns_secret_key : bundle.ipns_secret_key = other.ipns_secret_key
  did_signing_key : bundle.did_signing_key = other.did_signing_key
  did_encryption_key : bundle.did_encryption_key = other.did_encryption_key
  created_at : bundle.created_at = other.created_at
  extra_keys : ∀ name, bundle.get_key name = other.get_key name

/-- The names of the extra keys are names of one key each that may be added. -/
structure SecretBundle.WellNamed (bundle : SecretBundle) : Prop where
  nodup : bundle.extra_key_names.Nodup
  valid : ∀ name ∈ bundle.extra_key_names, validate_key_name name = .ok ()

theorem validate_key_name_eq_ok_iff {name : String} :
    validate_key_name name = .ok () ↔ name ≠ "" ∧ name ∉ RESERVED := by
  simp [validate_key_name, bind_eq_ok_iff]

section
variable {V : Type} {entries : List (String × V)} {name other : String} {value : V}

theorem mem_remove_entry_keys :
    other ∈ (remove_entry entries name).map Prod.fst ↔ other ≠ name ∧ other ∈ entries.map Prod.fst := by
  simp only [remove_entry, List.mem_map, List.mem_filter, bne_iff_ne]
  constructor
  · rintro ⟨entry, ⟨hentry, hne⟩, rfl⟩
    exact ⟨hne, entry, hentry, rfl⟩
  · rintro ⟨hne, entry, hentry, rfl⟩
    exact ⟨entry, ⟨hentry, hne⟩, rfl⟩

theorem remove_entry_nodup (hnodup : (entries.map Prod.fst).Nodup) :
    ((remove_entry entries name).map Prod.fst).Nodup :=
  hnodup.sublist (List.filter_sublist.map Prod.fst)

theorem mem_insert_entry_keys :
    other ∈ (insert_entry entries name value).map Prod.fst ↔ other = name ∨ other ∈ entries.map Prod.fst := by
  have hinsert : insert_entry entries name value = remove_entry entries name ++ [(name, value)] := rfl
  rw [hinsert, List.map_append, List.mem_append, mem_remove_entry_keys, List.map_singleton, List.mem_singleton]
  by_cases hother : other = name
  · exact iff_of_true (.inr hother) (.inl hother)
  · simp [hother]

/-- An insertion leaves one entry under its name. -/
theorem insert_entry_nodup (hnodup : (entries.map Prod.fst).Nodup) :
    ((insert_entry entries name value).map Prod.fst).Nodup := by
  have habsent : name ∉ (remove_entry entries name).map Prod.fst := fun hmem => (mem_remove_entry_keys.mp hmem).1 rfl
  have hinsert : insert_entry entries name value = remove_entry entries name ++ [(name, value)] := rfl
  rw [hinsert, List.map_append, List.map_singleton, ← List.concat_eq_append, List.nodup_concat]
  exact ⟨habsent, remove_entry_nodup hnodup⟩

end

namespace SecretBundle

variable {storage : StorageLib} {bundle : SecretBundle} {name : String}

/-- The order of the extra keys is not part of what a bundle holds. -/
theorem WellNamed.listed (hnamed : bundle.WellNamed) (order : IterationOrder) :
    (bundle.listed order).WellNamed ∧ (bundle.listed order).SameKeys bundle := by
  have hperm := order.perm bundle.extra_keys
  have hkeys := hperm.map Prod.fst
  have hsame := fun name => @entries.lookup_perm _ _ _ _ _ name hnamed.nodup hperm
  refine ⟨⟨hkeys.nodup_iff.mpr hnamed.nodup, ?_⟩, rfl, rfl, rfl, rfl, rfl, hsame⟩
  intro name hname
  exact hnamed.valid name (hkeys.mem_iff.mp hname)

theorem WellNamed.insert (hnamed : bundle.WellNamed) (hname : validate_key_name name = .ok ()) (key : ByteArr 32) :
    WellNamed { bundle with extra_keys := insert_entry bundle.extra_keys name key } := by
  refine ⟨insert_entry_nodup hnamed.nodup, ?_⟩
  intro other hother
  obtain rfl | hold := mem_insert_entry_keys.mp hother
  · exact hname
  · exact hnamed.valid other hold

theorem WellNamed.remove (hnamed : bundle.WellNamed) (name : String) : (bundle.remove_key name).2.WellNamed := by
  refine ⟨remove_entry_nodup hnamed.nodup, ?_⟩
  intro other hother
  exact hnamed.valid other (mem_remove_entry_keys.mp hother).2

theorem WellNamed.or_unchanged {result : Result String SecretBundle} (hnamed : bundle.WellNamed)
    (hok : ∀ changed, result = .ok changed → changed.WellNamed) : (bundle.or_unchanged result).WellNamed := by
  cases result with
  | ok changed => exact hok changed rfl
  | error e => exact hnamed

/-- No call leaves a name that may not be added, or one twice. -/
theorem WellNamed.apply (hbase64 : storage.Base64RoundTrips) (hjson : storage.JsonRoundTrips)
    (haead : storage.AeadOpens) (hnamed : bundle.WellNamed) (call : BundleCall) :
    (call.apply storage bundle).WellNamed := by
  cases call with
  | add_key name key =>
    apply hnamed.or_unchanged
    intro changed hadd
    simp only [SecretBundle.add_key, bind_eq_ok_iff, exists_unit] at hadd
    obtain ⟨hname, hchanged⟩ := hadd
    cases hchanged
    exact hnamed.insert hname key
  | generate_key name key =>
    apply hnamed.or_unchanged
    intro changed hgenerate
    cases hname : validate_key_name name with
    | ok _ =>
      rw [SecretBundle.generate_key, hname, ok_bind] at hgenerate
      cases hgenerate
      exact hnamed.insert hname key
    | error e =>
      rw [SecretBundle.generate_key, hname] at hgenerate
      cases hgenerate
  | remove_key name => exact hnamed.remove name
  | round_trip order salt nonce passphrase =>
    obtain ⟨hlisted, _⟩ := hnamed.listed order
    apply hnamed.or_unchanged
    intro restored hrestored
    obtain ⟨data, hencrypt, hdecrypt⟩ := bind_eq_ok_iff.mp hrestored
    rw [decrypt_encrypt hbase64 hjson haead hlisted.nodup hencrypt] at hdecrypt
    cases hdecrypt
    exact hlisted

theorem generate_wellNamed (iroh_secret_key ipns_secret_key did_signing_key did_encryption_key : ByteArr 32)
    (now_iso_utc : String) :
    (generate iroh_secret_key ipns_secret_key did_signing_key did_encryption_key now_iso_utc).WellNamed where
  nodup := List.nodup_nil
  valid _ hname := absurd hname List.not_mem_nil

theorem WellNamed.run (hbase64 : storage.Base64RoundTrips) (hjson : storage.JsonRoundTrips)
    (haead : storage.AeadOpens) (hnamed : bundle.WellNamed) (calls : List BundleCall) :
    (calls.foldl (BundleCall.apply storage) bundle).WellNamed := by
  induction calls generalizing bundle with
  | nil => exact hnamed
  | cons call calls ih => exact ih (hnamed.apply hbase64 hjson haead call)

/-- Whatever is done with a bundle, it is restored from what it is encrypted to, and its extra keys have
    names of their own. -/
theorem storage_loses_nothing (hbase64 : storage.Base64RoundTrips) (hjson : storage.JsonRoundTrips)
    (haead : storage.AeadOpens) (iroh_secret_key ipns_secret_key did_signing_key did_encryption_key : ByteArr 32)
    (now_iso_utc : String) (calls : List BundleCall) {bundle : SecretBundle}
    (hbundle : bundle = calls.foldl (BundleCall.apply storage)
      (generate iroh_secret_key ipns_secret_key did_signing_key did_encryption_key now_iso_utc)) :
    (∀ name ∈ bundle.extra_key_names, name ≠ "" ∧ name ∉ RESERVED) ∧
      ∀ order salt nonce passphrase data,
        (bundle.listed order).encrypt storage salt nonce passphrase = .ok data →
          ∃ restored, decrypt storage data passphrase = .ok restored ∧ restored.SameKeys bundle := by
  have hnamed : bundle.WellNamed := by
    rw [hbundle]
    exact (generate_wellNamed _ _ _ _ _).run hbase64 hjson haead calls
  constructor
  · intro name hname
    exact validate_key_name_eq_ok_iff.mp (hnamed.valid name hname)
  · intro order salt nonce passphrase data hencrypt
    obtain ⟨hlisted, hsame⟩ := hnamed.listed order
    exact ⟨_, decrypt_encrypt hbase64 hjson haead hlisted.nodup hencrypt, hsame⟩

/-- The entries, last first. -/
def reversed : IterationOrder := ⟨List.reverse, List.reverse_perm⟩

/-- Names are added, refused and removed, and what is left is stored and restored. -/
def daemon_calls : List BundleCall := [
  .add_key "session_token" (reference.secret 5),
  .add_key "iroh" (reference.secret 6),
  .generate_key "plugin_signing" (reference.secret 7),
  .remove_key "session_token",
  .round_trip reversed reference.salt reference.short_nonce "correct horse"]

theorem storage_loses_nothing_daemon :
    ∃ (bundle : SecretBundle) (data : Bytes) (restored : SecretBundle),
      bundle = daemon_calls.foldl (BundleCall.apply reference.storage) (generate (reference.secret 1)
        (reference.secret 2) (reference.secret 3) (reference.secret 4) "2026-08-08T12:34:56Z") ∧
      (∀ name ∈ bundle.extra_key_names, name ≠ "" ∧ name ∉ RESERVED) ∧
      (bundle.listed reversed).encrypt reference.storage reference.salt reference.short_nonce "battery staple" =
        .ok data ∧
      decrypt reference.storage data "battery staple" = .ok restored ∧ restored.SameKeys bundle := by
  obtain ⟨hnames, hrestored⟩ := storage_loses_nothing reference.storage_base64RoundTrips
    reference.storage_jsonRoundTrips reference.storage_aeadOpens (reference.secret 1) (reference.secret 2)
    (reference.secret 3) (reference.secret 4) "2026-08-08T12:34:56Z" daemon_calls rfl
  obtain ⟨data, hencrypt⟩ := reference.encrypt_ok (listed _ reversed) reference.salt reference.short_nonce
    "battery staple"
  obtain ⟨restored, hdecrypt, hsame⟩ := hrestored reversed _ _ _ data hencrypt
  exact ⟨_, data, restored, rfl, hnames, hencrypt, hdecrypt, hsame⟩

end SecretBundle

end ma_core.config

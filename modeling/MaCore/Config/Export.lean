import MaCore.Base.Json.Flat
import MaCore.Config.ExtraKeys
import MaCore.Config.Settings

open rust serde_yaml transition
open ma_core.error

namespace ma_core.config

/-- The third-party functions an export is written and read with. -/
structure ExportLib where
  to_string : serde_json.Value → Except String String
  from_str : String → Except String serde_json.Value

/-- An object of texts and numbers is read as it was written. -/
def ExportLib.RoundTrips (exports : ExportLib) : Prop := ∀ fields text,
  (∀ field ∈ fields, json.scalar field.2 = true) → exports.to_string (.Object fields) = .ok text →
    exports.from_str text = .ok (.Object fields)

structure BrowserIdentityExport where
  version : UInt8
  config_yaml : String
  encrypted_secret_bundle_base64 : String

def read_u8 : serde_json.Value → Except String UInt8
  | .Number text =>
    match parse_u64 text with
    | some n => if n.toNat < 256 then .ok n.toUInt8 else .error "invalid value: expected u8"
    | none => .error "invalid type: expected u8"
  | _ => .error "invalid type: expected u8"

namespace BrowserIdentityExport

def new (storage : StorageLib) (config_yaml : String) (encrypted_secret_bundle : Bytes) : BrowserIdentityExport where
  version := 1
  config_yaml
  encrypted_secret_bundle_base64 := storage.base64_encode encrypted_secret_bundle

def encrypted_secret_bundle_bytes (storage : StorageLib) (self : BrowserIdentityExport) : Result Error Bytes :=
  of_library (fun e => .Config ("invalid encrypted bundle base64: " ++ e))
    (storage.base64_decode self.encrypted_secret_bundle_base64)

def serialize (self : BrowserIdentityExport) : serde_json.Value :=
  .Object [
    ("version", .Number (String.ofList (Nat.toDigits 10 self.version.toNat))),
    ("config_yaml", .String self.config_yaml),
    ("encrypted_secret_bundle_base64", .String self.encrypted_secret_bundle_base64)]

/-- A struct is read from an object, or from an array of its fields. -/
def deserialize : serde_json.Value → Except String BrowserIdentityExport
  | .Object fields => do
    let version ← serde.required fields "version" read_u8
    let config_yaml ← serde.required fields "config_yaml" read_string
    let encrypted_secret_bundle_base64 ← serde.required fields "encrypted_secret_bundle_base64" read_string
    return { version, config_yaml, encrypted_secret_bundle_base64 }
  | .Array [version, config_yaml, encrypted_secret_bundle_base64] => do
    let version ← read_u8 version
    let config_yaml ← read_string config_yaml
    let encrypted_secret_bundle_base64 ← read_string encrypted_secret_bundle_base64
    return { version, config_yaml, encrypted_secret_bundle_base64 }
  | .Array _ => .error "invalid length: expected struct BrowserIdentityExport with 3 elements"
  | _ => .error "invalid type: expected struct BrowserIdentityExport"

def to_json_string (exports : ExportLib) (self : BrowserIdentityExport) : Result Error String :=
  of_library (fun e => .Config ("failed to serialize browser export: " ++ e)) (exports.to_string self.serialize)

def from_json_str (exports : ExportLib) (text : String) : Result Error BrowserIdentityExport :=
  of_library (fun e => .Config ("failed to parse browser export JSON: " ++ e)) (exports.from_str text >>= deserialize)

end BrowserIdentityExport

/-! Someone whose configuration and keys are kept in browsers, and moved from one to the next. -/

structure Identity where
  settings : Config
  bundle : SecretBundle

namespace Identity

section
variable (storage : StorageLib) (exports : ExportLib) (yaml : YamlLib) (with_passphrase : Bool)

def config_yaml (self : Identity) : Result Error String :=
  if with_passphrase then self.settings.to_yaml_string yaml else self.settings.to_yaml_string_without_passphrase yaml

/-- The text that is copied. -/
def export_identity (self : Identity) (order : IterationOrder) (salt : ByteArr 16) (nonce : ByteArr 12)
    (passphrase : String) : Result Error String := do
  let encrypted ← map_err Error.Secrets ((self.bundle.listed order).encrypt storage salt nonce passphrase)
  let config_yaml ← self.config_yaml yaml with_passphrase
  (BrowserIdentityExport.new storage config_yaml encrypted).to_json_string exports

def import_identity (text passphrase : String) : Result Error Identity := do
  let exported ← BrowserIdentityExport.from_json_str exports text
  let bundle_bytes ← exported.encrypted_secret_bundle_bytes storage
  let bundle ← map_err Error.Secrets (SecretBundle.decrypt storage bundle_bytes passphrase)
  let settings ← Config.from_yaml_str yaml exported.config_yaml
  return { settings, bundle }

end

/-- What an import leaves out: the path, and the passphrase if it was not written. -/
def forgetful (with_passphrase : Bool) (config : Config) : Config :=
  { config with
    config_path := none
    secret_bundle_passphrase := if with_passphrase then config.secret_bundle_passphrase else none }

end Identity

inductive IdentityEvent where
  | assign (assignment : Assignment)
  | call (call : BundleCall)
  | moved (with_passphrase : Bool) (order : IterationOrder)
    (salt : ByteArr 16) (nonce : ByteArr 12) (passphrase : String)

inductive Identity.Step (storage : StorageLib) (exports : ExportLib) (yaml : YamlLib) :
    Identity → IdentityEvent → Identity → Prop
  | assign (s : Identity) (assignment : Assignment) :
    Step storage exports yaml s (.assign assignment) { s with settings := assignment.apply s.settings }
  | call (s : Identity) (call : BundleCall) :
    Step storage exports yaml s (.call call) { s with bundle := call.apply storage s.bundle }
  | moved (s restored : Identity) (with_passphrase : Bool) (order : IterationOrder) (salt : ByteArr 16)
    (nonce : ByteArr 12) (passphrase text : String)
    (hexport : s.export_identity storage exports yaml with_passphrase order salt nonce passphrase = .ok text)
    (himport : import_identity storage exports yaml text passphrase = .ok restored) :
    Step storage exports yaml s (.moved with_passphrase order salt nonce passphrase) restored

/-- What there is of an identity wherever it is: its settings, and the keys under their names. -/
structure Belongings where
  settings : Config
  key : String → Option (ByteArr 32)

namespace Belongings

/-- A key is kept under a name that is allowed. -/
def keep (self : Belongings) (name : String) (key : ByteArr 32) : Belongings :=
  if name.isEmpty || RESERVED.contains name then self
  else { self with key := Function.update self.key name (some key) }

def next (self : Belongings) : IdentityEvent → Belongings
  | .assign assignment => { self with settings := assignment.apply self.settings }
  | .call (.add_key name key) | .call (.generate_key name key) => self.keep name key
  | .call (.remove_key name) => { self with key := Function.update self.key name none }
  | .call (.round_trip _ _ _ _) => self
  | .moved with_passphrase _ _ _ _ => { self with settings := Identity.forgetful with_passphrase self.settings }

def after (self : Belongings) (events : List IdentityEvent) : Belongings := events.foldl next self

end Belongings

/-- The keys every bundle has, with its date. -/
def SecretBundle.SameStandard (bundle other : SecretBundle) : Prop :=
  { bundle with extra_keys := other.extra_keys } = other

section
variable {storage : StorageLib} {exports : ExportLib} {yaml : YamlLib} {bundle : SecretBundle} {config : Config}
  {name other : String} {key : ByteArr 32} {s t : Identity} {belongings : Belongings} {event : IdentityEvent}
  {events : List IdentityEvent}

theorem read_u8_written (version : UInt8) :
    read_u8 (.Number (String.ofList (Nat.toDigits 10 version.toNat))) = .ok version := by
  have hlt : version.toUInt64.toNat < 256 := by simpa using version.toNat_lt
  have hparse := reference.parse_u64_toDigits version.toUInt64
  rw [UInt8.toNat_toUInt64] at hparse
  rw [read_u8, hparse]
  dsimp only
  rw [if_pos hlt, UInt8.toUInt8_toUInt64]

theorem BrowserIdentityExport.serialize_scalar (exported : BrowserIdentityExport) :
    ∃ fields, exported.serialize = .Object fields ∧ ∀ field ∈ fields, json.scalar field.2 = true := by
  refine ⟨_, rfl, ?_⟩
  intro field hfield
  simp only [List.mem_cons, List.not_mem_nil, or_false] at hfield
  obtain rfl | rfl | rfl := hfield
  · rw [json.scalar, String.toList_ofList]
    exact json.natural_toDigits _
  · rfl
  · rfl

/-- An export is read from its text as it was written. -/
theorem BrowserIdentityExport.read_written (hexports : exports.RoundTrips) {exported : BrowserIdentityExport}
    {text : String} (hwritten : exported.to_json_string exports = .ok text) :
    from_json_str exports text = .ok exported := by
  obtain ⟨fields, hfields, hscalar⟩ := exported.serialize_scalar
  rw [to_json_string, of_library_eq_ok_iff, hfields] at hwritten
  have hdeserialize : deserialize exported.serialize = .ok exported := by
    simp [serialize, deserialize, serde.required, serde.field, read_u8_written, read_string, pure, Except.pure, bind,
      Except.bind]
  rw [from_json_str, hexports fields text hscalar hwritten, ← hfields, of_library_eq_ok_iff]
  exact hdeserialize

theorem lookup_remove_entry {V : Type} (entries : List (String × V)) (name other : String) :
    (remove_entry entries name).lookup other = if other = name then none else entries.lookup other := by
  induction entries with
  | nil => simp [remove_entry]
  | cons entry entries ih =>
    obtain ⟨k, v⟩ := entry
    rw [remove_entry] at ih ⊢
    by_cases hname : k = name
    · subst hname
      rw [List.filter_cons_of_neg (by simp), ih]
      by_cases hother : other = k
      · rw [if_pos hother, if_pos hother]
      · have hne : (other == k) = false := beq_eq_false_iff_ne.mpr hother
        rw [if_neg hother, if_neg hother, List.lookup_cons, hne]
    · rw [List.filter_cons_of_pos (by simpa using hname), List.lookup_cons, List.lookup_cons, ih]
      by_cases hother : other = k
      · subst hother
        simp [hname]
      · have hne : (other == k) = false := beq_eq_false_iff_ne.mpr hother
        rw [hne]

theorem lookup_insert_entry {V : Type} (entries : List (String × V)) (name other : String) (value : V) :
    (insert_entry entries name value).lookup other = if other = name then some value else entries.lookup other := by
  have hinsert : insert_entry entries name value = remove_entry entries name ++ [(name, value)] := rfl
  rw [hinsert, List.lookup_append, lookup_remove_entry]
  by_cases hother : other = name
  · subst hother
    simp
  · have hne : (other == name) = false := beq_eq_false_iff_ne.mpr hother
    simp [hother, List.lookup_cons, hne]

namespace Identity

theorem config_yaml_read (hyaml : yaml.RoundTrips) (hstorable : s.settings.Storable) {with_passphrase : Bool}
    {text : String} (hwritten : s.config_yaml yaml with_passphrase = .ok text) :
    ∃ settings, Config.from_yaml_str yaml text = .ok settings ∧
      settings.Same (forgetful with_passphrase s.settings) := by
  cases with_passphrase with
  | true => exact hstorable.read_written hyaml hwritten
  | false =>
    have hwithout : Config.Storable { s.settings with secret_bundle_passphrase := none } :=
      ⟨hstorable.extra, hstorable.log_file, hstorable.secret_bundle⟩
    exact hwithout.read_written hyaml hwritten

/-- What was exported is imported with the same passphrase. -/
theorem import_exported (hbase64 : storage.Base64RoundTrips) (hjson : storage.JsonRoundTrips)
    (haead : storage.AeadOpens) (hexports : exports.RoundTrips) (hyaml : yaml.RoundTrips)
    (hstorable : s.settings.Storable) (hnamed : s.bundle.WellNamed) {with_passphrase : Bool}
    {order : IterationOrder} {salt : ByteArr 16} {nonce : ByteArr 12} {passphrase text : String}
    (hexport : s.export_identity storage exports yaml with_passphrase order salt nonce passphrase = .ok text) :
    ∃ settings, import_identity storage exports yaml text passphrase = .ok ⟨settings, s.bundle.listed order⟩ ∧
      settings.Storable ∧ settings.Same (forgetful with_passphrase s.settings) := by
  simp only [export_identity, bind_eq_ok_iff, map_err_eq_ok_iff] at hexport
  obtain ⟨encrypted, hencrypt, config_yaml, hconfig_yaml, hwritten⟩ := hexport
  have hread := BrowserIdentityExport.read_written hexports hwritten
  have hbytes : (BrowserIdentityExport.new storage config_yaml encrypted).encrypted_secret_bundle_bytes storage =
      .ok encrypted := by
    rw [BrowserIdentityExport.encrypted_secret_bundle_bytes, of_library_eq_ok_iff]
    exact hbase64 encrypted
  have hdecrypt := SecretBundle.decrypt_encrypt hbase64 hjson haead (hnamed.listed order).1.nodup hencrypt
  obtain ⟨settings, hsettings, hsame⟩ := config_yaml_read hyaml hstorable hconfig_yaml
  refine ⟨settings, ?_, Config.from_yaml_str_storable hsettings, hsame⟩
  rw [import_identity, hread, ok_bind, hbytes, ok_bind, hdecrypt]
  rw [BrowserIdentityExport.new, hsettings]
  rfl

end Identity

/-- A key is added under a name that is allowed, or nothing is. -/
theorem SecretBundle.add_key_unchanged (bundle : SecretBundle) (name : String) (key : ByteArr 32) :
    bundle.or_unchanged (bundle.add_key name key) =
      if name.isEmpty || RESERVED.contains name then bundle
      else { bundle with extra_keys := insert_entry bundle.extra_keys name key } := by
  rw [add_key, validate_key_name]
  cases name.isEmpty with
  | true => rfl
  | false =>
    cases RESERVED.contains name with
    | true => rfl
    | false => rfl

theorem SecretBundle.generate_key_unchanged (bundle : SecretBundle) (name : String) (key : ByteArr 32) :
    (bundle.generate_key name key).map Prod.snd = bundle.add_key name key := by
  rw [generate_key, add_key]
  cases validate_key_name name <;> rfl

theorem Config.Same.forgetful {other : Config} (hsame : config.Same other) (with_passphrase : Bool) :
    (Identity.forgetful with_passphrase config).Same (Identity.forgetful with_passphrase other) := by
  obtain ⟨hfields, hextra⟩ := hsame
  rw [← hfields]
  exact ⟨rfl, hextra⟩

namespace Belongings

/-- The identity is as its belongings are, with the standard keys it was given. -/
structure Describes (belongings : Belongings) (bundle : SecretBundle) (s : Identity) : Prop where
  settings : s.settings.Same belongings.settings
  storable : s.settings.Storable
  standard : s.bundle.SameStandard bundle
  named : s.bundle.WellNamed
  key : ∀ name, s.bundle.get_key name = belongings.key name

theorem Describes.keep (hdescribes : Describes belongings bundle s) (name : String) (key : ByteArr 32)
    (hnamed : (s.bundle.or_unchanged (s.bundle.add_key name key)).WellNamed) :
    Describes (belongings.keep name key) bundle
      { s with bundle := s.bundle.or_unchanged (s.bundle.add_key name key) } := by
  obtain ⟨hsettings, hstorable, hstandard, hold, hkey⟩ := hdescribes
  rw [SecretBundle.add_key_unchanged] at hnamed ⊢
  rw [Belongings.keep]
  split
  · exact ⟨hsettings, hstorable, hstandard, hold, hkey⟩
  · rename_i hname
    rw [if_neg hname] at hnamed
    refine ⟨hsettings, hstorable, hstandard, hnamed, fun other => ?_⟩
    have hinserted := lookup_insert_entry s.bundle.extra_keys name other key
    have hupdated := Function.update_apply belongings.key name (some key) other
    rw [← hkey other] at hupdated
    exact hinserted.trans hupdated.symm

theorem step_describes (hbase64 : storage.Base64RoundTrips) (hjson : storage.JsonRoundTrips)
    (haead : storage.AeadOpens) (hexports : exports.RoundTrips) (hyaml : yaml.RoundTrips)
    (hstep : Identity.Step storage exports yaml s event t) (hdescribes : Describes belongings bundle s) :
    Describes (belongings.next event) bundle t := by
  have ⟨hsettings, hstorable, hstandard, hnamed, hkey⟩ := hdescribes
  cases hstep with
  | assign assignment => exact ⟨hsettings.apply assignment, hstorable.apply assignment, hstandard, hnamed, hkey⟩
  | call call =>
    have hnamed' := hnamed.apply hbase64 hjson haead call
    cases call with
    | add_key name key => exact hdescribes.keep name key hnamed'
    | generate_key name key =>
      rw [BundleCall.apply, SecretBundle.generate_key_unchanged] at hnamed' ⊢
      exact hdescribes.keep name key hnamed'
    | remove_key name =>
      refine ⟨hsettings, hstorable, hstandard, hnamed', fun other => ?_⟩
      have hremoved := lookup_remove_entry s.bundle.extra_keys name other
      have hupdated := Function.update_apply belongings.key name none other
      rw [← hkey other] at hupdated
      exact hremoved.trans hupdated.symm
    | round_trip order salt nonce passphrase =>
      rw [BundleCall.apply] at hnamed' ⊢
      obtain ⟨hlisted, hsame⟩ := hnamed.listed order
      cases hencrypt : (s.bundle.listed order).encrypt storage salt nonce passphrase with
      | error e => exact ⟨hsettings, hstorable, hstandard, hnamed, hkey⟩
      | ok data =>
        rw [ok_bind, SecretBundle.decrypt_encrypt hbase64 hjson haead hlisted.nodup hencrypt]
        exact ⟨hsettings, hstorable, hstandard, hlisted, fun name => (hsame.extra_keys name).trans (hkey name)⟩
  | moved _ with_passphrase order salt nonce passphrase text hexport himport =>
    obtain ⟨settings, hrestored, hstorable', hsame⟩ :=
      Identity.import_exported hbase64 hjson haead hexports hyaml hstorable hnamed hexport
    cases himport.symm.trans hrestored
    obtain ⟨hlisted, hlisted_same⟩ := hnamed.listed order
    exact ⟨hsame.trans (hsettings.forgetful with_passphrase), hstorable', hstandard, hlisted,
      fun name => (hlisted_same.extra_keys name).trans (hkey name)⟩

theorem run_describes (hbase64 : storage.Base64RoundTrips) (hjson : storage.JsonRoundTrips)
    (haead : storage.AeadOpens) (hexports : exports.RoundTrips) (hyaml : yaml.RoundTrips)
    (hrun : Run (Identity.Step storage exports yaml) s events t) (hdescribes : Describes belongings bundle s) :
    Describes (belongings.after events) bundle t := by
  induction hrun with
  | nil => exact hdescribes
  | snoc _ hlast ih =>
    rw [after, List.foldl_append]
    exact step_describes hbase64 hjson haead hexports hyaml hlast ih

/-- Nothing is lost on the way. Whatever is assigned, added and removed, and from however many browsers an identity is
    moved to the next, it has its settings and keys as they were given last; and it can be moved again. The text
    that is copied depends on a passphrase of the configuration only where that is to be written. -/
theorem moves_lose_nothing (hbase64 : storage.Base64RoundTrips) (hjson : storage.JsonRoundTrips)
    (haead : storage.AeadOpens) (hexports : exports.RoundTrips) (hyaml : yaml.RoundTrips)
    (hobtained : config.Obtained yaml)
    (iroh_secret_key ipns_secret_key did_signing_key did_encryption_key : ByteArr 32)
    (now_iso_utc : String)
    (hbundle : bundle = SecretBundle.generate iroh_secret_key ipns_secret_key did_signing_key did_encryption_key
      now_iso_utc)
    (hrun : Run (Identity.Step storage exports yaml) ⟨config, bundle⟩ events s) :
    let belongings := after ⟨config, fun _ => none⟩ events
    s.settings.Same belongings.settings ∧ s.bundle.SameStandard bundle ∧
    (∀ name, s.bundle.get_key name = belongings.key name) ∧
    ∀ (order : IterationOrder) (salt : ByteArr 16) (nonce : ByteArr 12) (passphrase : String),
      (∀ with_passphrase text,
        s.export_identity storage exports yaml with_passphrase order salt nonce passphrase = .ok text →
          ∃ restored, Identity.import_identity storage exports yaml text passphrase = .ok restored ∧
            restored.settings.Same (Identity.forgetful with_passphrase s.settings) ∧
            restored.bundle.SameKeys s.bundle) ∧
      ∀ secret_bundle_passphrase,
        Identity.export_identity storage exports yaml false
          { s with settings := { s.settings with secret_bundle_passphrase } } order salt nonce passphrase =
            s.export_identity storage exports yaml false order salt nonce passphrase := by
  have hstart : Describes ⟨config, fun _ => none⟩ bundle ⟨config, bundle⟩ := by
    rw [hbundle]
    exact ⟨.refl config, hobtained.storable, rfl, SecretBundle.generate_wellNamed _ _ _ _ _, fun _ => rfl⟩
  obtain ⟨hsettings, hstorable, hstandard, hnamed, hkey⟩ :=
    run_describes hbase64 hjson haead hexports hyaml hrun hstart
  refine ⟨hsettings, hstandard, hkey, fun order salt nonce passphrase => ⟨?_, fun _ => rfl⟩⟩
  intro with_passphrase text hexport
  obtain ⟨settings, hrestored, _, hsame⟩ :=
    Identity.import_exported hbase64 hjson haead hexports hyaml hstorable hnamed hexport
  exact ⟨_, hrestored, hsame, (hnamed.listed order).2⟩

end Belongings

end

/-! A daemon's identity gets a key, is moved without its passphrase, and is told not to mirror its pins. -/

def reference_exports : ExportLib where
  to_string value :=
    match json.writeFlat value with
    | some text => .ok (String.ofList text)
    | none => .error "not supported"
  from_str text :=
    match json.readFlat text.toList with
    | some value => .ok value
    | none => .error "expected value"

theorem reference_exports_roundTrips : reference_exports.RoundTrips := by
  intro fields text _ hwritten
  rw [reference_exports] at hwritten ⊢
  dsimp only at hwritten ⊢
  split at hwritten
  · rename_i written hwrite
    cases hwritten
    rw [String.toList_ofList, json.readFlat_write hwrite]
  · cases hwritten

def daemon_bundle : SecretBundle :=
  SecretBundle.generate (reference.secret 1) (reference.secret 2) (reference.secret 3) (reference.secret 4)
    "2026-08-08T12:34:56Z"

theorem reference_exports_writes (exported : BrowserIdentityExport) :
    ∃ text, exported.to_json_string reference_exports = .ok text := by
  obtain ⟨fields, hfields, hscalar⟩ := exported.serialize_scalar
  have hwrite : json.writeFlat exported.serialize = some ('{' :: json.writeFields true fields) := by
    rw [hfields, json.writeFlat, if_pos (List.all_eq_true.mpr hscalar)]
  refine ⟨String.ofList ('{' :: json.writeFields true fields), ?_⟩
  rw [BrowserIdentityExport.to_json_string, of_library_eq_ok_iff, reference_exports]
  dsimp only
  rw [hwrite]

theorem moves_lose_nothing_daemon :
    ∃ s : Identity, s.settings.slug = "testing" ∧ s.settings.pin_remote = false ∧
      s.settings.secret_bundle_passphrase = none ∧ s.bundle.get_key "session_token" = some (reference.secret 5) := by
  have hread : Config.from_yaml_str reference.yaml "slug: testing\nretries: 7\n" = .ok Config.daemon_start := rfl
  have hobtained : Config.daemon_config.Obtained reference.yaml := ⟨Config.daemon_start, _, .inr ⟨_, hread⟩, rfl⟩
  obtain ⟨config_yaml, hconfig_yaml, _⟩ := @Config.exists_of_writes_text
    (Config.daemon_config.to_yaml_string_without_passphrase reference.yaml) (by decide +kernel)
  obtain ⟨s, hs⟩ : ∃ s : Identity, s = ⟨Config.daemon_config,
    (BundleCall.add_key "session_token" (reference.secret 5)).apply reference.storage daemon_bundle⟩ := ⟨_, rfl⟩
  have hadded : Run (Identity.Step reference.storage reference_exports reference.yaml)
      ⟨Config.daemon_config, daemon_bundle⟩ [.call (.add_key "session_token" (reference.secret 5))] s := by
    rw [hs]
    exact .single (.call _ _)
  obtain ⟨data, hencrypt⟩ := reference.encrypt_ok (s.bundle.listed SecretBundle.reversed) reference.salt
    reference.short_nonce "battery staple"
  obtain ⟨text, htext⟩ := reference_exports_writes (.new reference.storage config_yaml data)
  have hwritten : s.config_yaml reference.yaml false = .ok config_yaml := by
    rw [hs]
    exact hconfig_yaml
  have hexport : s.export_identity reference.storage reference_exports reference.yaml false SecretBundle.reversed
      reference.salt reference.short_nonce "battery staple" = .ok text := by
    rw [Identity.export_identity, hencrypt, hwritten]
    exact htext
  have hmoves := @Belongings.moves_lose_nothing reference.storage reference_exports reference.yaml daemon_bundle
    Config.daemon_config
  obtain ⟨_, _, _, hmove⟩ := hmoves reference.storage_base64RoundTrips reference.storage_jsonRoundTrips
    reference.storage_aeadOpens reference_exports_roundTrips reference.yaml_roundTrips hobtained (reference.secret 1)
    (reference.secret 2) (reference.secret 3) (reference.secret 4) "2026-08-08T12:34:56Z" rfl hadded
  obtain ⟨restored, himport, _⟩ := (hmove SecretBundle.reversed reference.salt reference.short_nonce
    "battery staple").1 false text hexport
  have hrun := (hadded.snoc (.moved s restored false SecretBundle.reversed reference.salt reference.short_nonce
    "battery staple" text hexport himport)).snoc (.assign restored (.pin_remote false))
  obtain ⟨hsettings, _, hkey, _⟩ := hmoves reference.storage_base64RoundTrips reference.storage_jsonRoundTrips
    reference.storage_aeadOpens reference_exports_roundTrips reference.yaml_roundTrips hobtained (reference.secret 1)
    (reference.secret 2) (reference.secret 3) (reference.secret 4) "2026-08-08T12:34:56Z" rfl hrun
  exact ⟨_, congrArg Config.slug hsettings.fields, congrArg Config.pin_remote hsettings.fields,
    congrArg Config.secret_bundle_passphrase hsettings.fields, hkey "session_token"⟩

end ma_core.config

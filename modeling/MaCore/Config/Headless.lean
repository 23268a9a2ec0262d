import MaCore.Config.Loaders

open rust serde_yaml

namespace ma_core.config

def SecretBundle.load (storage : StorageLib) (fs : FileSystem) (path : PathBuf) (passphrase : String) :
    Result Error SecretBundle :=
  match fs.content path with
  | none => Err (.Secrets ("failed to read " ++ path.display ++ ": No such file or directory (os error 2)"))
  | some data => map_err Error.Secrets (decrypt storage data passphrase)

/-- What a setup draws: four keys and their time, a passphrase, and what the encryption takes. -/
structure Drawn where
  iroh_secret_key : ByteArr 32
  ipns_secret_key : ByteArr 32
  did_signing_key : ByteArr 32
  did_encryption_key : ByteArr 32
  now_iso_utc : String
  passphrase : String
  salt : ByteArr 16
  nonce : ByteArr 12

def Drawn.bundle (drawn : Drawn) : SecretBundle :=
  SecretBundle.generate drawn.iroh_secret_key drawn.ipns_secret_key drawn.did_signing_key drawn.did_encryption_key
    drawn.now_iso_utc

namespace Config

/-- The configuration that a setup writes. -/
def headless (slug : String) (config_path bundle_path : PathBuf) (passphrase : String) : Config where
  slug
  log_level := DEFAULT_LOG_LEVEL
  log_level_stdout := DEFAULT_LOG_LEVEL_STDOUT
  did_resolver_positive_ttl_secs := DEFAULT_DID_RESOLVER_POSITIVE_TTL_SECS
  did_resolver_negative_ttl_secs := DEFAULT_DID_RESOLVER_NEGATIVE_TTL_SECS
  log_file := none
  kubo_rpc_url := DEFAULT_KUBO_RPC_URL
  kubo_key_alias := slug
  secret_bundle := some bundle_path
  secret_bundle_passphrase := some passphrase
  config_path := some config_path
  pin_remote := false
  pin_remote_service := none
  pin_remote_name := none
  pin_overwrite := true
  extra := Mapping.new

/-- Where a setup writes the configuration and the bundle, if nothing is there. -/
def headless_paths (host : Host) (fs : FileSystem) (args : MaArgs) (slug : String) :
    Result Error (PathBuf × PathBuf) := do
  let config_path ← explicit_or args.config (default_config_path host slug)
  let bundle_path ← explicit_or args.secret_bundle (default_secret_bundle_path host slug)
  reject_if (fs.path_exists config_path) (.Config ("config file already exists: " ++ config_path.display ++
    " (remove it first or use --config)"))
  reject_if (fs.path_exists bundle_path) (.Config ("secret bundle already exists: " ++ bundle_path.display ++
    " (remove it first or use --secret-bundle)"))
  return (config_path, bundle_path)

/-- Each of the two writes may fail. -/
def gen_headless (host : Host) (storage : StorageLib) (yaml : YamlLib) (bundle_faults config_faults : Faults)
    (drawn : Drawn) (args : MaArgs) (default_slug : String) (fs : FileSystem) : Result Error Unit × FileSystem :=
  let slug := args.slug.getD default_slug
  match headless_paths host fs args slug with
  | .error e => (.error e, fs)
  | .ok (config_path, bundle_path) =>
    let passphrase := args.secret_bundle_passphrase.getD drawn.passphrase
    match drawn.bundle.save storage bundle_faults drawn.salt drawn.nonce bundle_path passphrase fs with
    | (.error e, fs) => (.error e, fs)
    | (.ok (), fs) => (headless slug config_path bundle_path passphrase).save yaml config_faults fs

end Config

section
variable {host : Host} {storage : StorageLib} {yaml : YamlLib} {faults bundle_faults config_faults : Faults}
  {drawn : Drawn} {args : MaArgs} {default_slug slug : String} {fs fs' : FileSystem}
  {path config_path bundle_path : PathBuf} {data : Bytes} {config : Config}

theorem SecretBundle.load_of_content {passphrase : String} {bundle : SecretBundle}
    (hcontent : fs.content path = some data) (hdecrypt : decrypt storage data passphrase = .ok bundle) :
    load storage fs path passphrase = .ok bundle := by
  rw [load, hcontent]
  dsimp only
  rw [hdecrypt]
  rfl

/-- A configuration is loaded from its path as it was saved. -/
theorem Config.load_saved (hvar : ∀ name, host.var ("MA_" ++ name) = none) (hyaml : yaml.RoundTrips)
    (hstorable : config.Storable) {text : String} (htext : config.to_yaml_string yaml = .ok text)
    (hpath : config.config_path = some path) (hcontent : fs.content path = some (utf8 text)) :
    ∃ loaded, from_args host yaml fs { MaArgs.default with config := some path } default_slug = .ok loaded ∧
      loaded.Same config := by
  rw [to_yaml_string, of_library_eq_ok_iff] at htext
  have hexists : fs.path_exists path = true := by
    rw [FileSystem.path_exists, hcontent]
    rfl
  have hmapping := (load_yaml_mapping_eq_ok_iff hcontent).mpr (hyaml _ _ htext)
  refine ⟨{ config with config_path := some path, extra := config.to_mapping.remove_all known }, ?_, ?_⟩
  · rw [from_args_file hvar rfl hexists, hmapping, map_ok, described_to_mapping hstorable]
  · constructor
    · rw [← hpath]
    · have hothers := config.to_mapping.remove_all_perm known
      rwa [Mapping.others_perm known_perm_taken_keys, others_to_mapping, others_of_absent hstorable.extra] at hothers

namespace Config

theorem headless_storable {passphrase : String} (htext : bundle_path.to_str.isSome) :
    (headless slug config_path bundle_path passphrase).Storable where
  extra _ _ := rfl
  log_file := ⟨none, rfl⟩
  secret_bundle := by
    obtain ⟨text, htext⟩ := Option.isSome_iff_exists.mp htext
    refine ⟨some bundle_path.to_string_lossy, congrArg some ?_⟩
    exact (PathBuf.from_to_string_lossy_iff.mpr ⟨text, htext⟩).symm

theorem headless_paths_eq_ok_iff {config_path bundle_path : PathBuf} :
    headless_paths host fs args slug = .ok (config_path, bundle_path) ↔
      explicit_or args.config (default_config_path host slug) = .ok config_path ∧
      explicit_or args.secret_bundle (default_secret_bundle_path host slug) = .ok bundle_path ∧
      fs.content config_path = none ∧ fs.content bundle_path = none := by
  simp only [headless_paths, bind_eq_ok_iff, reject_if_eq_ok_iff, exists_unit, FileSystem.path_exists,
    Option.isSome_eq_false_iff, Option.isNone_iff_eq_none]
  constructor
  · rintro ⟨config_path', hconfig, bundle_path', hbundle, hno_config, hno_bundle, hpaths⟩
    cases hpaths
    exact ⟨hconfig, hbundle, hno_config, hno_bundle⟩
  · rintro ⟨hconfig, hbundle, hno_config, hno_bundle⟩
    exact ⟨_, hconfig, _, hbundle, hno_config, hno_bundle, rfl⟩

/-- No setup is made where there is a bundle. -/
theorem gen_headless_of_bundle (hpaths : headless_paths host fs args (args.slug.getD default_slug) =
      .ok (config_path, bundle_path)) (hexists : fs'.path_exists bundle_path = true) :
    ∃ e, gen_headless host storage yaml bundle_faults config_faults drawn args default_slug fs' = (Err e, fs') := by
  obtain ⟨hconfig, hbundle, _, _⟩ := headless_paths_eq_ok_iff.mp hpaths
  have hrefused : ∃ e, headless_paths host fs' args (args.slug.getD default_slug) = Err e := by
    simp only [headless_paths, hconfig, hbundle, ok_bind, hexists]
    cases fs'.path_exists config_path with
    | true => exact ⟨_, rfl⟩
    | false => exact ⟨_, rfl⟩
  obtain ⟨e, hrefused⟩ := hrefused
  refine ⟨e, ?_⟩
  unfold gen_headless
  dsimp only
  rw [hrefused]

/-- Where a setup ends: before it writes, at the bundle, or at the configuration. -/
theorem gen_headless_cases (host : Host) (storage : StorageLib) (yaml : YamlLib)
    (bundle_faults config_faults : Faults) (drawn : Drawn) (args : MaArgs) (default_slug : String) (fs : FileSystem) :
    (∃ e, gen_headless host storage yaml bundle_faults config_faults drawn args default_slug fs = (.error e, fs)) ∨
    ∃ config_path bundle_path,
      headless_paths host fs args (args.slug.getD default_slug) = .ok (config_path, bundle_path) ∧
      ((∃ e fs', drawn.bundle.save storage bundle_faults drawn.salt drawn.nonce bundle_path
          (args.secret_bundle_passphrase.getD drawn.passphrase) fs = (.error e, fs') ∧
        gen_headless host storage yaml bundle_faults config_faults drawn args default_slug fs = (.error e, fs')) ∨
      ∃ data, drawn.bundle.encrypt storage drawn.salt drawn.nonce
          (args.secret_bundle_passphrase.getD drawn.passphrase) = .ok data ∧
        gen_headless host storage yaml bundle_faults config_faults drawn args default_slug fs =
          (headless (args.slug.getD default_slug) config_path bundle_path
            (args.secret_bundle_passphrase.getD drawn.passphrase)).save yaml config_faults
            (fs.set bundle_path data)) := by
  unfold gen_headless
  dsimp only
  cases hpaths : headless_paths host fs args (args.slug.getD default_slug) with
  | error e => exact .inl ⟨e, rfl⟩
  | ok paths =>
    obtain ⟨config_path, bundle_path⟩ := paths
    refine .inr ⟨config_path, bundle_path, rfl, ?_⟩
    dsimp only
    cases hsave : drawn.bundle.save storage bundle_faults drawn.salt drawn.nonce bundle_path
      (args.secret_bundle_passphrase.getD drawn.passphrase) fs with
    | mk result fs' =>
      cases result with
      | error e => exact .inl ⟨e, fs', rfl, rfl⟩
      | ok _ =>
        have hsaves := @SecretBundle.save_saves storage bundle_faults fs bundle_path
          drawn.bundle drawn.salt drawn.nonce
          (args.secret_bundle_passphrase.getD drawn.passphrase)
        rw [hsave] at hsaves
        obtain ⟨data, hencrypt, rfl⟩ := hsaves.of_ok
        exact .inr ⟨data, hencrypt, rfl⟩

end Config

/-- What is left of a setup that failed after it opened a file: the first part of the bundle, or the whole
    bundle and the first part of the configuration. -/
inductive HalfSetUp (config_path bundle_path : PathBuf) (data : Bytes) (yaml_text : Result Error String)
    (fs : FileSystem) : FileSystem → Prop
  | at_bundle {part : Bytes} (hpart : part <+: data) :
    HalfSetUp config_path bundle_path data yaml_text fs (fs.set bundle_path part)
  | at_config {text : String} {part : Bytes} (htext : yaml_text = .ok text) (hpart : part <+: utf8 text) :
    HalfSetUp config_path bundle_path data yaml_text fs ((fs.set bundle_path data).set config_path part)

theorem HalfSetUp.exists_bundle {yaml_text : Result Error String}
    (hleft : HalfSetUp config_path bundle_path data yaml_text fs fs') :
    fs'.path_exists bundle_path = true := by
  cases hleft with
  | at_bundle hpart =>
    rw [FileSystem.path_exists, FileSystem.content_set_self]
    rfl
  | at_config htext hpart =>
    rw [FileSystem.path_exists, FileSystem.content_set]
    split
    · rfl
    · rw [FileSystem.content_set_self]
      rfl

theorem Config.gen_headless_of_saved {saved : FileSystem}
    (hpaths : headless_paths host fs args (args.slug.getD default_slug) = .ok (config_path, bundle_path))
    (hsave : drawn.bundle.save storage bundle_faults drawn.salt drawn.nonce bundle_path
      (args.secret_bundle_passphrase.getD drawn.passphrase) fs = (.ok (), saved)) :
    gen_headless host storage yaml bundle_faults config_faults drawn args default_slug fs =
      (headless (args.slug.getD default_slug) config_path bundle_path
        (args.secret_bundle_passphrase.getD drawn.passphrase)).save yaml config_faults saved := by
  unfold gen_headless
  dsimp only
  rw [hpaths]
  dsimp only
  rw [hsave]

/-- What a setup that fails leaves. -/
theorem Config.gen_headless_error {e : Failure Error}
    (herror : gen_headless host storage yaml bundle_faults config_faults drawn args default_slug fs =
      (.error e, fs')) :
    fs' = fs ∨ ∃ config_path bundle_path data,
      headless_paths host fs args (args.slug.getD default_slug) = .ok (config_path, bundle_path) ∧
      drawn.bundle.encrypt storage drawn.salt drawn.nonce
        (args.secret_bundle_passphrase.getD drawn.passphrase) = .ok data ∧
      HalfSetUp config_path bundle_path data ((headless (args.slug.getD default_slug) config_path bundle_path
        (args.secret_bundle_passphrase.getD drawn.passphrase)).to_yaml_string yaml) fs fs' := by
  obtain ⟨e', hgen⟩ |
    ⟨config_path, bundle_path, hpaths, ⟨e', left, hsave, hgen⟩ | ⟨data, hencrypt, hgen⟩⟩ :=
    gen_headless_cases host storage yaml bundle_faults config_faults drawn args default_slug fs
  · exact .inl (Prod.mk.inj (herror.symm.trans hgen)).2
  · obtain rfl := (Prod.mk.inj (hgen.symm.trans herror)).2
    have hsaves := @SecretBundle.save_saves storage bundle_faults fs bundle_path drawn.bundle drawn.salt drawn.nonce
      (args.secret_bundle_passphrase.getD drawn.passphrase)
    rw [hsave] at hsaves
    obtain rfl | ⟨data, part, hencrypt, hpart, rfl⟩ := hsaves.sets
    · exact .inl rfl
    · exact .inr ⟨config_path, bundle_path, data, hpaths, hencrypt, .at_bundle hpart⟩
  · refine .inr ⟨config_path, bundle_path, data, hpaths, hencrypt, ?_⟩
    have hsaves := @save_saves yaml config_faults (fs.set bundle_path data) config_path (headless
      (args.slug.getD default_slug) config_path bundle_path (args.secret_bundle_passphrase.getD drawn.passphrase)) rfl
    rw [← hgen, herror] at hsaves
    obtain rfl | ⟨text, part, htext, hpart, rfl⟩ := hsaves.sets
    · exact .at_bundle (List.prefix_refl data)
    · exact .at_config htext hpart

/-- A setup that succeeds has written both files. -/
theorem Config.gen_headless_ok
    (hok : gen_headless host storage yaml bundle_faults config_faults drawn args default_slug fs = (.ok (), fs')) :
    ∃ config_path bundle_path data text,
      headless_paths host fs args (args.slug.getD default_slug) = .ok (config_path, bundle_path) ∧
      drawn.bundle.encrypt storage drawn.salt drawn.nonce
        (args.secret_bundle_passphrase.getD drawn.passphrase) = .ok data ∧
      (headless (args.slug.getD default_slug) config_path bundle_path
        (args.secret_bundle_passphrase.getD drawn.passphrase)).to_yaml_string yaml = .ok text ∧
      fs' = (fs.set bundle_path data).set config_path (utf8 text) := by
  obtain ⟨e', hgen⟩ |
    ⟨config_path, bundle_path, hpaths, ⟨e', left, _, hgen⟩ | ⟨data, hencrypt, hgen⟩⟩ :=
    gen_headless_cases host storage yaml bundle_faults config_faults drawn args default_slug fs
  · cases hgen.symm.trans hok
  · cases hgen.symm.trans hok
  · have hsaves := @save_saves yaml config_faults (fs.set bundle_path data) config_path (headless
      (args.slug.getD default_slug) config_path bundle_path (args.secret_bundle_passphrase.getD drawn.passphrase)) rfl
    rw [← hgen, hok] at hsaves
    obtain ⟨text, htext, hwritten⟩ := hsaves.of_ok
    exact ⟨config_path, bundle_path, data, text, hpaths, hencrypt, htext, hwritten⟩

/-- A setup that fails has changed nothing, or left the first part of what it was to write, and is then refused.
    One that succeeds at two files leaves a configuration that leads to the keys it generated. -/
theorem headless_setup (hbase64 : storage.Base64RoundTrips) (hjson : storage.JsonRoundTrips)
    (haead : storage.AeadOpens) (hyaml : yaml.RoundTrips) (args : MaArgs) (default_slug : String) (drawn : Drawn)
    (bundle_faults config_faults : Faults) (fs fs' : FileSystem) :
    (∀ e, Config.gen_headless host storage yaml bundle_faults config_faults drawn args default_slug fs =
        (.error e, fs') →
      fs' = fs ∨ ∃ config_path bundle_path data,
        Config.headless_paths host fs args (args.slug.getD default_slug) = .ok (config_path, bundle_path) ∧
        drawn.bundle.encrypt storage drawn.salt drawn.nonce
          (args.secret_bundle_passphrase.getD drawn.passphrase) = .ok data ∧
        HalfSetUp config_path bundle_path data ((Config.headless (args.slug.getD default_slug) config_path bundle_path
          (args.secret_bundle_passphrase.getD drawn.passphrase)).to_yaml_string yaml) fs fs' ∧
        fs.content config_path = none ∧ fs.content bundle_path = none ∧ fs'.path_exists bundle_path = true ∧
        ∀ bundle_faults config_faults drawn, ∃ e', Config.gen_headless host storage yaml bundle_faults config_faults
          drawn args default_slug fs' = (Err e', fs')) ∧
    (Config.gen_headless host storage yaml bundle_faults config_faults drawn args default_slug fs = (.ok (), fs') →
      ∃ config_path bundle_path,
        Config.headless_paths host fs args (args.slug.getD default_slug) = .ok (config_path, bundle_path) ∧
        (fs.resolve config_path ≠ fs.resolve bundle_path → bundle_path.to_str.isSome →
          ∀ (host : Host) (default_slug : String), (∀ name, host.var ("MA_" ++ name) = none) →
            ∃ loaded passphrase,
              Config.from_args host yaml fs' { MaArgs.default with config := some config_path } default_slug =
                .ok loaded ∧
              loaded.secret_bundle = some bundle_path ∧ loaded.secret_bundle_passphrase = some passphrase ∧
              SecretBundle.load storage fs' bundle_path passphrase = .ok drawn.bundle)) := by
  constructor
  · intro e herror
    refine (Config.gen_headless_error herror).imp_right ?_
    rintro ⟨config_path, bundle_path, data, hpaths, hencrypt, hhalf⟩
    obtain ⟨_, _, hno_config, hno_bundle⟩ := Config.headless_paths_eq_ok_iff.mp hpaths
    refine ⟨config_path, bundle_path, data, hpaths, hencrypt, hhalf, hno_config, hno_bundle,
      hhalf.exists_bundle, ?_⟩
    intro bundle_faults config_faults drawn
    exact Config.gen_headless_of_bundle hpaths hhalf.exists_bundle
  · intro hok
    obtain ⟨config_path, bundle_path, data, text, hpaths, hencrypt, hwritten, rfl⟩ := Config.gen_headless_ok hok
    refine ⟨config_path, bundle_path, hpaths, ?_⟩
    intro hdifferent htext host default_slug hvar
    obtain ⟨loaded, hloaded, hsame⟩ := Config.load_saved hvar hyaml (Config.headless_storable htext) hwritten rfl
      FileSystem.content_set_self
    have hfields := hsame.fields
    refine ⟨loaded, args.secret_bundle_passphrase.getD drawn.passphrase, hloaded,
      congrArg Config.secret_bundle hfields, congrArg Config.secret_bundle_passphrase hfields, ?_⟩
    have hcontent : ((fs.set bundle_path data).set config_path (utf8 text)).content bundle_path = some data := by
      rw [FileSystem.content_set, if_neg, FileSystem.content_set_self]
      intro hsame_file
      exact hdifferent hsame_file.symm
    have hnodup : (drawn.bundle.extra_keys.map Prod.fst).Nodup := List.nodup_nil
    exact SecretBundle.load_of_content hcontent (SecretBundle.decrypt_encrypt hbase64 hjson haead hnodup hencrypt)

end

/-! The setup of a daemon. -/

def no_faults : Faults := ⟨none, none, none, none⟩

def no_files : FileSystem := ⟨id, Map.empty⟩

def daemon_bundle_path : PathBuf := PathBuf.from_string "/home/user/.config/ma/ma.bin"

def daemon_drawn : Drawn where
  iroh_secret_key := reference.secret 1
  ipns_secret_key := reference.secret 2
  did_signing_key := reference.secret 3
  did_encryption_key := reference.secret 4
  now_iso_utc := "2026-08-08T12:34:56Z"
  passphrase := "correct-horse"
  salt := reference.salt
  nonce := reference.short_nonce

def daemon_headless : Config := Config.headless "ma" daemon_path daemon_bundle_path "correct-horse"

theorem write_secure_no_faults (path : PathBuf) (data : Bytes) (fs : FileSystem) :
    write_secure no_faults path data fs = (.ok (), fs.set path data) := by
  rw [write_secure, Faults.before_open_ok rfl rfl]
  rfl

theorem daemon_headless_paths :
    Config.headless_paths daemon_host no_files MaArgs.default "ma" = .ok (daemon_path, daemon_bundle_path) := by
  have hjoin : (PathBuf.from_string "/home/user/.config/ma").join (PathBuf.from_string ("ma" ++ ".bin")) =
      daemon_bundle_path := by decide +kernel
  exact Config.headless_paths_eq_ok_iff.mpr ⟨daemon_path_default, congrArg Except.ok hjoin, rfl, rfl⟩

/-- With no fault at the bundle, the configuration is saved beside it. -/
theorem daemon_gen_headless (config_faults : Faults) :
    ∃ data, daemon_drawn.bundle.encrypt reference.storage reference.salt reference.short_nonce "correct-horse" =
        .ok data ∧
      Config.gen_headless daemon_host reference.storage reference.yaml no_faults config_faults daemon_drawn
        MaArgs.default "ma" no_files =
      daemon_headless.save reference.yaml config_faults (no_files.set daemon_bundle_path data) := by
  obtain ⟨data, hencrypt⟩ := reference.encrypt_ok daemon_drawn.bundle reference.salt reference.short_nonce
    "correct-horse"
  have hsave := (SecretBundle.save_of_encrypt hencrypt).trans
    (write_secure_no_faults daemon_bundle_path data no_files)
  exact ⟨data, hencrypt, Config.gen_headless_of_saved daemon_headless_paths hsave⟩

theorem daemon_text : ∃ text, daemon_headless.to_yaml_string reference.yaml = .ok text ∧ utf8 text ≠ [] :=
  Config.exists_of_writes_text (by decide +kernel)

/-- Where the disk is full once the bundle is written, the setup fails, leaves the bundle, and is refused the
    next time. -/
theorem headless_left_behind :
    ∃ e fs', Config.gen_headless daemon_host reference.storage reference.yaml no_faults full_disk daemon_drawn
        MaArgs.default "ma" no_files = (Err e, fs') ∧
      fs'.content daemon_bundle_path ≠ no_files.content daemon_bundle_path ∧
      ∃ e', Config.gen_headless daemon_host reference.storage reference.yaml no_faults no_faults daemon_drawn
        MaArgs.default "ma" fs' = (Err e', fs') := by
  obtain ⟨data, _, hgen⟩ := daemon_gen_headless full_disk
  obtain ⟨text, htext, hwritten⟩ := daemon_text
  obtain ⟨e, hfull⟩ := @write_secure_full_disk daemon_path _ hwritten (no_files.set daemon_bundle_path data)
  rw [Config.save_of_text rfl htext, hfull] at hgen
  have hdifferent : daemon_bundle_path ≠ daemon_path := by decide +kernel
  have hcontent : ((no_files.set daemon_bundle_path data).set daemon_path []).content daemon_bundle_path =
      some data := by
    rw [FileSystem.content_set, if_neg, FileSystem.content_set_self]
    exact hdifferent
  refine ⟨e, _, hgen, ?_, Config.gen_headless_of_bundle daemon_headless_paths ?_⟩
  · rw [hcontent]
    intro hsame
    cases hsame
  · rw [FileSystem.path_exists, hcontent]
    rfl

theorem headless_setup_daemon :
    (∃ e fs', Config.gen_headless daemon_host reference.storage reference.yaml no_faults full_disk daemon_drawn
        MaArgs.default "ma" no_files = (Err e, fs') ∧
      (fs' = no_files ∨ ∃ config_path bundle_path data,
        Config.headless_paths daemon_host no_files MaArgs.default "ma" = .ok (config_path, bundle_path) ∧
        HalfSetUp config_path bundle_path data ((Config.headless "ma" config_path bundle_path
          "correct-horse").to_yaml_string reference.yaml) no_files fs')) ∧
    ∃ fs' loaded passphrase,
      Config.gen_headless daemon_host reference.storage reference.yaml no_faults no_faults daemon_drawn
        MaArgs.default "ma" no_files = (.ok (), fs') ∧
      Config.from_args daemon_host reference.yaml fs' { MaArgs.default with config := some daemon_path } "ma" =
        .ok loaded ∧
      loaded.secret_bundle = some daemon_bundle_path ∧ loaded.secret_bundle_passphrase = some passphrase ∧
      SecretBundle.load reference.storage fs' daemon_bundle_path passphrase = .ok daemon_drawn.bundle := by
  have hsetup := @headless_setup daemon_host reference.storage reference.yaml reference.storage_base64RoundTrips
    reference.storage_jsonRoundTrips reference.storage_aeadOpens reference.yaml_roundTrips MaArgs.default "ma"
    daemon_drawn no_faults
  obtain ⟨text, htext, hwritten⟩ := daemon_text
  constructor
  · obtain ⟨data, _, hgen⟩ := daemon_gen_headless full_disk
    obtain ⟨e, hfull⟩ := @write_secure_full_disk daemon_path _ hwritten (no_files.set daemon_bundle_path data)
    rw [Config.save_of_text rfl htext, hfull] at hgen
    refine ⟨e, _, hgen, ((hsetup full_disk no_files _).1 _ hgen).imp_right ?_⟩
    rintro ⟨config_path, bundle_path, data', hpaths, _, hhalf, _⟩
    exact ⟨config_path, bundle_path, data', hpaths, hhalf⟩
  · obtain ⟨data, _, hgen⟩ := daemon_gen_headless no_faults
    rw [Config.save_of_text rfl htext, write_secure_no_faults] at hgen
    obtain ⟨config_path, bundle_path, hpaths, hloads⟩ := (hsetup no_faults no_files _).2 hgen
    obtain ⟨rfl, rfl⟩ := Prod.mk.inj (Except.ok.inj (daemon_headless_paths.symm.trans hpaths))
    have hdifferent : daemon_path ≠ daemon_bundle_path := by decide +kernel
    have htext : daemon_bundle_path.to_str.isSome = true := by
      rw [daemon_bundle_path, PathBuf.to_str, PathBuf.from_string, from_utf8_utf8]
      rfl
    obtain ⟨loaded, passphrase, hloaded, hbundle, hpassphrase, hkeys⟩ :=
      hloads hdifferent htext daemon_host "ma" (fun _ => rfl)
    exact ⟨_, loaded, passphrase, hgen, hloaded, hbundle, hpassphrase, hkeys⟩

end ma_core.config

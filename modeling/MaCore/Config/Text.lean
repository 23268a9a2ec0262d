import MaCore.Reference.Yaml

open rust serde_yaml

namespace ma_core.config

/-- An assignment of a value to a field of a configuration other than `extra`. A path is given by its text. -/
inductive Assignment where
  | slug (value : String)
  | log_level (value : String)
  | log_level_stdout (value : String)
  | did_resolver_positive_ttl_secs (value : UInt64)
  | did_resolver_negative_ttl_secs (value : UInt64)
  | log_file (value : Option String)
  | kubo_rpc_url (value : String)
  | kubo_key_alias (value : String)
  | secret_bundle (value : Option String)
  | secret_bundle_passphrase (value : Option String)
  | config_path (value : Option String)
  | pin_remote (value : Bool)
  | pin_remote_service (value : Option String)
  | pin_remote_name (value : Option String)
  | pin_overwrite (value : Bool)

def Assignment.apply (config : Config) : Assignment → Config
  | slug value => { config with slug := value }
  | log_level value => { config with log_level := value }
  | log_level_stdout value => { config with log_level_stdout := value }
  | did_resolver_positive_ttl_secs value => { config with did_resolver_positive_ttl_secs := value }
  | did_resolver_negative_ttl_secs value => { config with did_resolver_negative_ttl_secs := value }
  | log_file value => { config with log_file := value.map PathBuf.from_string }
  | kubo_rpc_url value => { config with kubo_rpc_url := value }
  | kubo_key_alias value => { config with kubo_key_alias := value }
  | secret_bundle value => { config with secret_bundle := value.map PathBuf.from_string }
  | secret_bundle_passphrase value => { config with secret_bundle_passphrase := value }
  | config_path value => { config with config_path := value.map PathBuf.from_string }
  | pin_remote value => { config with pin_remote := value }
  | pin_remote_service value => { config with pin_remote_service := value }
  | pin_remote_name value => { config with pin_remote_name := value }
  | pin_overwrite value => { config with pin_overwrite := value }

namespace Config

/-- A configuration that was made for storage or read from a text, and assigned to. -/
def Obtained (yaml : YamlLib) (config : Config) : Prop :=
  ∃ (start : Config) (assignments : List Assignment),
    ((∃ slug, start = new_for_storage slug) ∨ ∃ yaml_text, from_yaml_str yaml yaml_text = .ok start) ∧
    config = assignments.foldl Assignment.apply start

/-- Equal fields, where mappings are equal in whatever order. -/
structure Same (config other : Config) : Prop where
  fields : { config with extra := other.extra } = other
  extra : config.extra.entries.Perm other.extra.entries

/-- What a text can hold: no key of the schema among the others, and paths that are text. -/
structure Storable (config : Config) : Prop where
  extra : ∀ key ∈ taken_keys, config.extra.get key = none
  log_file : ∃ text : Option String, config.log_file = text.map PathBuf.from_string
  secret_bundle : ∃ text : Option String, config.secret_bundle = text.map PathBuf.from_string

section
variable {yaml : YamlLib} {config : Config} {m : Mapping} {key name : String} {value : Option Value}
  {keys : List String}

theorem yaml_path_eq (m : Mapping) (key : String) :
    yaml_path m key = (yaml_str m key).map PathBuf.from_string := by
  rw [yaml_path, yaml_str, Option.map_bind]
  rfl

theorem new_for_storage_storable (slug : String) : (new_for_storage slug).Storable where
  extra _ _ := rfl
  log_file := ⟨none, rfl⟩
  secret_bundle := ⟨none, rfl⟩

/-- What was read from a text can be written again. -/
theorem from_yaml_str_storable {yaml_text : String} (hread : from_yaml_str yaml yaml_text = .ok config) :
    config.Storable := by
  obtain ⟨m, _, rfl⟩ := from_yaml_str_eq_ok_iff.mp hread
  refine ⟨?_, ⟨_, yaml_path_eq m "log_file"⟩, ⟨_, yaml_path_eq m "secret_bundle"⟩⟩
  intro key hkey
  exact Mapping.get_remove_all_of_mem hkey

theorem Storable.apply (hstorable : config.Storable) (assignment : Assignment) :
    (assignment.apply config).Storable := by
  obtain ⟨hextra, hlog_file, hsecret_bundle⟩ := hstorable
  cases assignment with
  | log_file value => exact ⟨hextra, ⟨value, rfl⟩, hsecret_bundle⟩
  | secret_bundle value => exact ⟨hextra, hlog_file, ⟨value, rfl⟩⟩
  | _ => exact ⟨hextra, hlog_file, hsecret_bundle⟩

theorem Obtained.storable (hobtained : config.Obtained yaml) : config.Storable := by
  obtain ⟨start, assignments, hstart, rfl⟩ := hobtained
  have hstorable : start.Storable := by
    obtain ⟨slug, rfl⟩ | ⟨yaml_text, hread⟩ := hstart
    · exact new_for_storage_storable slug
    · exact from_yaml_str_storable hread
  clear hstart
  induction assignments generalizing start with
  | nil => exact hstorable
  | cons assignment assignments ih => exact ih _ (hstorable.apply assignment)

theorem get_set_some :
    (set_some m key value).get name =
      if name = key then (value.map fun v => v.val).or (m.get name) else m.get name := by
  cases value with
  | none => simp [set_some]
  | some v => simp [set_some, Mapping.get_insert]

theorem others_set_some (hkey : key ∈ keys) : (set_some m key value).others keys = m.others keys := by
  cases value with
  | none => rfl
  | some v => exact Mapping.others_insert hkey

theorem others_of_absent (habsent : ∀ key ∈ keys, m.get key = none) : m.others keys = m.entries := by
  rw [Mapping.others, List.filter_eq_self]
  rintro ⟨node, v⟩ hentry
  rw [Bool.not_eq_true', List.any_eq_false]
  intro key hkey hnode
  obtain rfl := is_key_iff.mp hnode
  have hget := Mapping.get_eq_some_iff.mpr hentry
  rw [habsent key hkey] at hget
  cases hget

/-- What is written under keys other than those of the schema is what was there. -/
theorem others_to_mapping (config : Config) :
    config.to_mapping.others taken_keys = config.extra.others taken_keys := by
  have hmem (key : String) (hkey : taken_keys.contains key = true) : key ∈ taken_keys := List.contains_iff_mem.mp hkey
  unfold to_mapping
  dsimp only
  rw [Mapping.others_insert (hmem _ rfl), others_set_some (hmem _ rfl), others_set_some (hmem _ rfl),
    Mapping.others_insert (hmem _ rfl), others_set_some (hmem _ rfl), others_set_some (hmem _ rfl),
    others_set_some (hmem _ rfl), Mapping.others_insert (hmem _ rfl), Mapping.others_insert (hmem _ rfl),
    Mapping.others_insert (hmem _ rfl), Mapping.others_insert (hmem _ rfl), Mapping.others_insert (hmem _ rfl),
    Mapping.others_insert (hmem _ rfl), Mapping.others_insert (hmem _ rfl)]

/-- An optional text is read as it was written, -/
theorem read_written_string (text : Option String) :
    ((text.map Value.string).map fun v => v.val).bind as_str = text := by
  cases text <;> rfl

/-- and a path that is text as well. -/
theorem read_written_path (text : Option String) :
    (((text.map PathBuf.from_string).map fun p => Value.string p.to_string_lossy).map fun v => v.val).bind as_path =
      text.map PathBuf.from_string := by
  cases text with
  | none => rfl
  | some text =>
    simp only [Option.map_some, Option.bind_some, PathBuf.to_string_lossy_from_string]
    rfl

/-- What is written says of each field what it was. -/
theorem described_to_mapping (hstorable : config.Storable) (default_slug : String) (config_path : Option PathBuf)
    (extra : Mapping) :
    described config.to_mapping default_slug config_path extra = { config with config_path, extra } := by
  obtain ⟨hextra, ⟨log_file, hlog_file⟩, ⟨secret_bundle, hsecret_bundle⟩⟩ := hstorable
  have habsent (key : String) (hkey : taken_keys.contains key = true) : config.extra.get key = none :=
    hextra key (List.contains_iff_mem.mp hkey)
  have hnone : (config.extra.get "log_file" = none ∧ config.extra.get "secret_bundle" = none ∧
      config.extra.get "secret_bundle_passphrase" = none) ∧ config.extra.get "pin_remote_service" = none ∧
      config.extra.get "pin_remote_name" = none :=
    ⟨⟨habsent _ rfl, habsent _ rfl, habsent _ rfl⟩, habsent _ rfl, habsent _ rfl⟩
  simp only [described, to_mapping, yaml_str, yaml_path, yaml_u64, yaml_bool, yaml_get, Mapping.get_insert,
    get_set_some, String.reduceEq, if_false, if_true, hnone, Option.or_none, hlog_file, hsecret_bundle,
    read_written_path, read_written_string]
  rfl

theorem Storable.read_written (hyaml : yaml.RoundTrips) (hstorable : config.Storable) {text : String}
    (hwritten : config.to_yaml_string yaml = .ok text) :
    ∃ restored, from_yaml_str yaml text = .ok restored ∧ restored.Same { config with config_path := none } := by
  rw [to_yaml_string, of_library_eq_ok_iff] at hwritten
  have hread := from_yaml_str_eq_ok_iff.mpr ⟨_, hyaml _ _ hwritten, rfl⟩
  rw [described_to_mapping hstorable] at hread
  refine ⟨_, hread, rfl, ?_⟩
  have hothers := config.to_mapping.remove_all_perm taken_keys
  rwa [others_to_mapping, others_of_absent hstorable.extra] at hothers

/-- A configuration is read from its text as it was, but for its own path and a passphrase that was left out. -/
theorem text_round_trip (hyaml : yaml.RoundTrips) (hobtained : config.Obtained yaml) :
    (∀ text, config.to_yaml_string yaml = .ok text → ∃ restored, from_yaml_str yaml text = .ok restored ∧
      restored.Same { config with config_path := none }) ∧
    (∀ text, config.to_yaml_string_without_passphrase yaml = .ok text →
      ∃ restored, from_yaml_str yaml text = .ok restored ∧
        restored.Same { config with config_path := none, secret_bundle_passphrase := none }) ∧
    ∀ secret_bundle_passphrase, to_yaml_string_without_passphrase yaml { config with secret_bundle_passphrase } =
      to_yaml_string_without_passphrase yaml config := by
  have hstorable := hobtained.storable
  have hwithout : Storable { config with secret_bundle_passphrase := none } :=
    ⟨hstorable.extra, hstorable.log_file, hstorable.secret_bundle⟩
  refine ⟨?_, ?_, ?_⟩
  · intro text hwritten
    exact hstorable.read_written hyaml hwritten
  · intro text hwritten
    exact hwithout.read_written hyaml hwritten
  · intro secret_bundle_passphrase
    rfl

end

/-- The configuration of a daemon with a key of its own, as it is read, and assigned to. -/
def daemon_start : Config :=
  from_mapping ((Mapping.new.insert "slug" (.string "testing")).insert "retries" (.number (.PosInt 7)))

def daemon_config : Config :=
  [Assignment.log_file (some "/var/log/ma.log"), .did_resolver_positive_ttl_secs 0, .pin_remote true,
    .secret_bundle_passphrase (some "correct-horse")].foldl Assignment.apply daemon_start

/-- Whether a text is written, and not an empty one. -/
def writes_text : Result Error String → Bool
  | .ok text => utf8 text != []
  | .error _ => false

theorem exists_of_writes_text {x : Result Error String} (hwrites : writes_text x = true) :
    ∃ text, x = .ok text ∧ utf8 text ≠ [] := by
  cases x with
  | ok text => exact ⟨text, rfl, bne_iff_ne.mp hwrites⟩
  | error e => cases hwrites

theorem text_round_trip_daemon :
    ∃ (text public_text : String) (restored public_restored : Config),
      daemon_config.to_yaml_string reference.yaml = .ok text ∧
      from_yaml_str reference.yaml text = .ok restored ∧ restored.Same { daemon_config with config_path := none } ∧
      daemon_config.to_yaml_string_without_passphrase reference.yaml = .ok public_text ∧
      from_yaml_str reference.yaml public_text = .ok public_restored ∧
      public_restored.Same { daemon_config with config_path := none, secret_bundle_passphrase := none } := by
  have hread : from_yaml_str reference.yaml "slug: testing\nretries: 7\n" = .ok daemon_start := rfl
  have hobtained : daemon_config.Obtained reference.yaml := ⟨daemon_start, _, .inr ⟨_, hread⟩, rfl⟩
  obtain ⟨text, htext, _⟩ :=
    @exists_of_writes_text (daemon_config.to_yaml_string reference.yaml) (by decide +kernel)
  obtain ⟨public_text, hpublic_text, _⟩ :=
    @exists_of_writes_text (daemon_config.to_yaml_string_without_passphrase reference.yaml) (by decide +kernel)
  obtain ⟨hwith, hwithout, _⟩ := text_round_trip reference.yaml_roundTrips hobtained
  obtain ⟨restored, hrestored, hsame⟩ := hwith text htext
  obtain ⟨public_restored, hpublic_restored, hpublic_same⟩ := hwithout public_text hpublic_text
  exact ⟨text, public_text, restored, public_restored, htext, hrestored, hsame, hpublic_text, hpublic_restored,
    hpublic_same⟩

end Config

end ma_core.config

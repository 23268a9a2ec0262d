import MaCore.Base.Path
import MaCore.Base.Result
import MaCore.Base.Yaml

open rust serde_yaml

namespace rust

/-- A number may have a sign. -/
def without_plus : List Char → List Char
  | '+' :: digits => digits
  | digits => digits

/-- `str::parse::<u64>`. -/
def parse_u64 (s : String) : Option UInt64 :=
  let digits := without_plus s.toList
  let n := Nat.ofDigitChars 10 digits 0
  if digits.isEmpty || !digits.all Char.isDigit || 2 ^ 64 ≤ n then none else some n.toUInt64

/-- `str::parse::<bool>`. -/
def parse_bool (s : String) : Option Bool :=
  if s = "true" then some true else if s = "false" then some false else none

end rust

namespace ma_core.config

/-- The errors of the configuration. -/
inductive Error where
  | Config (detail : String)
  | Secrets (detail : String)
deriving DecidableEq, Repr

/-- The YAML library, where an error is its text. -/
structure YamlLib where
  from_str : String → Except String Value
  to_string : Value → Except String String

/-- What is read of a text that was written is what was written. -/
def YamlLib.RoundTrips (yaml : YamlLib) : Prop :=
  ∀ value text, yaml.to_string value = .ok text → yaml.from_str text = .ok value

def DEFAULT_LOG_LEVEL : String := "info"
def DEFAULT_LOG_LEVEL_STDOUT : String := "info"
def DEFAULT_DID_RESOLVER_POSITIVE_TTL_SECS : UInt64 := 60
def DEFAULT_DID_RESOLVER_NEGATIVE_TTL_SECS : UInt64 := 10
def DEFAULT_KUBO_RPC_URL : String := "http://127.0.0.1:5001"

structure Config where
  slug : String
  log_level : String
  log_level_stdout : String
  did_resolver_positive_ttl_secs : UInt64
  did_resolver_negative_ttl_secs : UInt64
  log_file : Option PathBuf
  kubo_rpc_url : String
  kubo_key_alias : String
  secret_bundle : Option PathBuf
  secret_bundle_passphrase : Option String
  config_path : Option PathBuf
  pin_remote : Bool
  pin_remote_service : Option String
  pin_remote_name : Option String
  pin_overwrite : Bool
  extra : Mapping

/-! What is read under a key. -/

def read_u64 : Node → Option UInt64
  | .Number n => n.as_u64
  | .String s => parse_u64 s
  | _ => none

def read_bool : Node → Option Bool
  | .Bool b => some b
  | .String s => parse_bool s
  | _ => none

def as_path (v : Node) : Option PathBuf := (as_str v).map PathBuf.from_string

def yaml_get (m : Mapping) (key : String) : Option Node := m.get key

def yaml_str (m : Mapping) (key : String) : Option String := (yaml_get m key).bind as_str
def yaml_path (m : Mapping) (key : String) : Option PathBuf := (yaml_get m key).bind as_path
def yaml_u64 (m : Mapping) (key : String) : Option UInt64 := (yaml_get m key).bind read_u64
def yaml_bool (m : Mapping) (key : String) : Option Bool := (yaml_get m key).bind read_bool

/-- What the closures of `from_yaml_str` do: a key is removed, and what stood there is read. -/
def take {α : Type} (read : Node → Option α) (map : Mapping) (key : String) : Option α × Mapping :=
  ((map.get key).bind read, map.remove key)

def take_str : Mapping → String → Option String × Mapping := take as_str
def take_path : Mapping → String → Option PathBuf × Mapping := take as_path
def take_u64 : Mapping → String → Option UInt64 × Mapping := take read_u64
def take_bool : Mapping → String → Option Bool × Mapping := take read_bool

/-- The `set` of `to_yaml_string`, where the field is set. -/
def set_some (m : Mapping) (k : String) : Option Value → Mapping
  | some v => m.insert k v
  | none => m

namespace Config

def new_for_storage (slug : String) : Config where
  slug
  log_level := DEFAULT_LOG_LEVEL
  log_level_stdout := DEFAULT_LOG_LEVEL_STDOUT
  did_resolver_positive_ttl_secs := DEFAULT_DID_RESOLVER_POSITIVE_TTL_SECS
  did_resolver_negative_ttl_secs := DEFAULT_DID_RESOLVER_NEGATIVE_TTL_SECS
  log_file := none
  kubo_rpc_url := DEFAULT_KUBO_RPC_URL
  kubo_key_alias := slug
  secret_bundle := none
  secret_bundle_passphrase := none
  config_path := none
  pin_remote := false
  pin_remote_service := none
  pin_remote_name := none
  pin_overwrite := true
  extra := Mapping.new

/-- The configuration `from_yaml_str` takes out of a mapping. -/
def from_mapping (m : Mapping) : Config :=
  let (slug, m) := take_str m "slug"
  let slug := slug.getD "ma"
  let (log_level, m) := take_str m "log_level"
  let (log_level_stdout, m) := take_str m "log_level_stdout"
  let (did_resolver_positive_ttl_secs, m) := take_u64 m "did_resolver_positive_ttl_secs"
  let (did_resolver_negative_ttl_secs, m) := take_u64 m "did_resolver_negative_ttl_secs"
  let (_ignored_config_path, m) := take_path m "config_path"
  let (_ignored_old_pin_batch_size, m) := take_u64 m "old_pin_batch_size"
  let (kubo_rpc_url, m) := take_str m "kubo_rpc_url"
  let (kubo_key_alias, m) := take_str m "kubo_key_alias"
  let (log_file, m) := take_path m "log_file"
  let (secret_bundle, m) := take_path m "secret_bundle"
  let (secret_bundle_passphrase, m) := take_str m "secret_bundle_passphrase"
  let (pin_remote, m) := take_bool m "pin_remote"
  let (pin_remote_service, m) := take_str m "pin_remote_service"
  let (pin_remote_name, m) := take_str m "pin_remote_name"
  let (pin_overwrite, m) := take_bool m "pin_overwrite"
  { slug
    log_level := log_level.getD DEFAULT_LOG_LEVEL
    log_level_stdout := log_level_stdout.getD DEFAULT_LOG_LEVEL_STDOUT
    did_resolver_positive_ttl_secs :=
      did_resolver_positive_ttl_secs.getD DEFAULT_DID_RESOLVER_POSITIVE_TTL_SECS
    did_resolver_negative_ttl_secs :=
      did_resolver_negative_ttl_secs.getD DEFAULT_DID_RESOLVER_NEGATIVE_TTL_SECS
    log_file
    kubo_rpc_url := kubo_rpc_url.getD DEFAULT_KUBO_RPC_URL
    kubo_key_alias := kubo_key_alias.getD slug
    secret_bundle
    secret_bundle_passphrase
    config_path := none
    pin_remote := pin_remote.getD false
    pin_remote_service
    pin_remote_name
    pin_overwrite := pin_overwrite.getD true
    extra := m }

def from_yaml_str (yaml : YamlLib) (yaml_text : String) : Result Error Config := do
  let val ← of_library (fun e => .Config ("failed to parse config YAML: " ++ e)) (yaml.from_str yaml_text)
  let m ← ok_or (.Config "config YAML must be a mapping at the top level") val.as_mapping
  return from_mapping m

/-- What `to_yaml_string` writes. -/
def to_mapping (self : Config) : Mapping :=
  let m := self.extra
  let m := m.insert "slug" (.string self.slug)
  let m := m.insert "log_level" (.string self.log_level)
  let m := m.insert "log_level_stdout" (.string self.log_level_stdout)
  let m := m.insert "did_resolver_positive_ttl_secs" (.number (.PosInt self.did_resolver_positive_ttl_secs))
  let m := m.insert "did_resolver_negative_ttl_secs" (.number (.PosInt self.did_resolver_negative_ttl_secs))
  let m := m.insert "kubo_rpc_url" (.string self.kubo_rpc_url)
  let m := m.insert "kubo_key_alias" (.string self.kubo_key_alias)
  let m := set_some m "log_file" (self.log_file.map fun p => .string p.to_string_lossy)
  let m := set_some m "secret_bundle" (self.secret_bundle.map fun p => .string p.to_string_lossy)
  let m := set_some m "secret_bundle_passphrase" (self.secret_bundle_passphrase.map .string)
  let m := m.insert "pin_remote" (.bool self.pin_remote)
  let m := set_some m "pin_remote_service" (self.pin_remote_service.map .string)
  let m := set_some m "pin_remote_name" (self.pin_remote_name.map .string)
  m.insert "pin_overwrite" (.bool self.pin_overwrite)

def to_yaml_string (yaml : YamlLib) (self : Config) : Result Error String :=
  of_library (fun e => .Config ("failed to serialize config: " ++ e)) (yaml.to_string (.mapping self.to_mapping))

def to_yaml_string_without_passphrase (yaml : YamlLib) (self : Config) : Result Error String :=
  to_yaml_string yaml { self with secret_bundle_passphrase := none }

/-- What the keys of a mapping say of a configuration. -/
def described (m : Mapping) (default_slug : String) (config_path : Option PathBuf) (extra : Mapping) : Config where
  slug := (yaml_str m "slug").getD default_slug
  log_level := (yaml_str m "log_level").getD DEFAULT_LOG_LEVEL
  log_level_stdout := (yaml_str m "log_level_stdout").getD DEFAULT_LOG_LEVEL_STDOUT
  did_resolver_positive_ttl_secs :=
    (yaml_u64 m "did_resolver_positive_ttl_secs").getD DEFAULT_DID_RESOLVER_POSITIVE_TTL_SECS
  did_resolver_negative_ttl_secs :=
    (yaml_u64 m "did_resolver_negative_ttl_secs").getD DEFAULT_DID_RESOLVER_NEGATIVE_TTL_SECS
  log_file := yaml_path m "log_file"
  kubo_rpc_url := (yaml_str m "kubo_rpc_url").getD DEFAULT_KUBO_RPC_URL
  kubo_key_alias := (yaml_str m "kubo_key_alias").getD ((yaml_str m "slug").getD default_slug)
  secret_bundle := yaml_path m "secret_bundle"
  secret_bundle_passphrase := yaml_str m "secret_bundle_passphrase"
  config_path
  pin_remote := (yaml_bool m "pin_remote").getD false
  pin_remote_service := yaml_str m "pin_remote_service"
  pin_remote_name := yaml_str m "pin_remote_name"
  pin_overwrite := (yaml_bool m "pin_overwrite").getD true
  extra

/-- The keys `from_yaml_str` takes, in their order. -/
def taken_keys : List String := [
  "slug", "log_level", "log_level_stdout", "did_resolver_positive_ttl_secs", "did_resolver_negative_ttl_secs",
  "config_path", "old_pin_batch_size", "kubo_rpc_url", "kubo_key_alias", "log_file", "secret_bundle",
  "secret_bundle_passphrase", "pin_remote", "pin_remote_service", "pin_remote_name", "pin_overwrite"]

/-- Taking one key after the other reads each as it stood. -/
theorem from_mapping_eq (m : Mapping) :
    from_mapping m = described m "ma" none (m.remove_all taken_keys) := by
  simp only [from_mapping, described, take_str, take_path, take_u64, take_bool, take, yaml_str, yaml_path, yaml_u64,
    yaml_bool, yaml_get, Mapping.get_remove, String.reduceEq, if_false]
  rfl

theorem from_yaml_str_eq_ok_iff {yaml : YamlLib} {yaml_text : String} {config : Config} :
    from_yaml_str yaml yaml_text = .ok config ↔
      ∃ m : Mapping, yaml.from_str yaml_text = .ok (.mapping m) ∧
        config = described m "ma" none (m.remove_all taken_keys) := by
  simp only [from_yaml_str, bind_eq_ok_iff, of_library_eq_ok_iff, ok_or_eq_ok_iff, from_mapping_eq]
  constructor
  · rintro ⟨val, hval, m, hm, hconfig⟩
    cases hconfig
    exact ⟨m, by rw [hval, Value.as_mapping_eq_some_iff.mp hm], rfl⟩
  · rintro ⟨m, hval, rfl⟩
    exact ⟨_, hval, m, Value.as_mapping_mapping m, rfl⟩

end Config

end ma_core.config

import MaCore.Config.Files

open rust serde_yaml

namespace ma_core.config

set_option linter.dupNamespace false in
/-- The arguments of a command line that the configuration reads. -/
structure MaArgs where
  config : Option PathBuf
  slug : Option String
  log_level : Option String
  log_file : Option PathBuf
  log_level_stdout : Option String
  did_resolver_positive_ttl_secs : Option UInt64
  did_resolver_negative_ttl_secs : Option UInt64
  secret_bundle : Option PathBuf
  secret_bundle_passphrase : Option String
  kubo_rpc_url : Option String
  kubo_key_alias : Option String
  pin_remote : Option Bool
  pin_remote_service : Option String
  pin_remote_name : Option String
  pin_overwrite : Option Bool

/-- `MaArgs::default`. -/
def MaArgs.default : MaArgs where
  config := none
  slug := none
  log_level := none
  log_file := none
  log_level_stdout := none
  did_resolver_positive_ttl_secs := none
  did_resolver_negative_ttl_secs := none
  secret_bundle := none
  secret_bundle_passphrase := none
  kubo_rpc_url := none
  kubo_key_alias := none
  pin_remote := none
  pin_remote_service := none
  pin_remote_name := none
  pin_overwrite := none

/-- What a process finds around it: the directory for configurations, and the variables that are text. -/
structure Host where
  config_dir : Option PathBuf
  var : String → Option String

section
variable (host : Host) (yaml : YamlLib)

def project_dirs : Result Error PathBuf := ok_or (.Config "cannot determine XDG base directories") host.config_dir

def default_config_path (slug : String) : Result Error PathBuf := do
  let config_dir ← project_dirs host
  return config_dir.join (PathBuf.from_string (slug ++ ".yaml"))

def default_secret_bundle_path (slug : String) : Result Error PathBuf := do
  let config_dir ← project_dirs host
  return config_dir.join (PathBuf.from_string (slug ++ ".bin"))

/-- An explicit path, or the default one. -/
def explicit_or (explicit : Option PathBuf) (default_path : Result Error PathBuf) : Result Error PathBuf :=
  match explicit with
  | some path => .ok path
  | none => default_path

def read_to_string (fs : FileSystem) (path : PathBuf) : Except String String :=
  match fs.content path with
  | none => .error "No such file or directory (os error 2)"
  | some bytes =>
    match from_utf8 bytes with
    | none => .error "stream did not contain valid UTF-8"
    | some content => .ok content

def load_yaml_mapping (fs : FileSystem) (path : PathBuf) : Result Error Mapping := do
  let content ← of_library (fun e => .Config ("failed to read " ++ path.display ++ ": " ++ e))
    (read_to_string fs path)
  let val ← of_library (fun e => .Config ("invalid YAML in " ++ path.display ++ ": " ++ e))
    (yaml.from_str content)
  ok_or (.Config ("config file " ++ path.display ++ " must be a YAML mapping")) val.as_mapping

/-- `str::to_lowercase`, of the names of variables. -/
def to_lowercase (s : String) : String := String.ofList (s.toList.map Char.toLower)

/-- The priority chain of a field: the command line, a variable, the file. -/
def resolve {α : Type} (parse : String → Option α) (read : Mapping → String → Option α) (file : Option Mapping)
    (cli : Option α) (env_key : String) : Option α :=
  cli.or (((host.var ("MA_" ++ env_key)).bind parse).or (file.bind fun m => read m (to_lowercase env_key)))

def resolve_opt_str : Option Mapping → Option String → String → Option String := resolve host some yaml_str
def resolve_opt_path : Option Mapping → Option PathBuf → String → Option PathBuf :=
  resolve host (fun v => some (PathBuf.from_string v)) yaml_path

def resolve_str (file : Option Mapping) (cli : Option String) (env_key default : String) : String :=
  (resolve_opt_str host file cli env_key).getD default

def resolve_u64 (file : Option Mapping) (cli : Option UInt64) (env_key : String) (default : UInt64) : UInt64 :=
  (resolve host parse_u64 yaml_u64 file cli env_key).getD default

def resolve_bool (file : Option Mapping) (cli : Option Bool) (env_key : String) (default : Bool) : Bool :=
  (resolve host parse_bool yaml_bool file cli env_key).getD default

/-- The keys that `from_args` does not count as extra ones. -/
def known : List String := [
  "slug", "log_level", "log_level_stdout", "log_file", "did_resolver_positive_ttl_secs",
  "did_resolver_negative_ttl_secs", "kubo_rpc_url", "kubo_key_alias", "secret_bundle", "secret_bundle_passphrase",
  "pin_remote", "pin_remote_service", "pin_remote_name", "pin_overwrite", "old_pin_batch_size", "config_path"]

def Config.from_args (fs : FileSystem) (args : MaArgs) (default_slug : String) : Result Error Config := do
  let config_slug := args.slug.getD default_slug
  let config_path ← explicit_or args.config (default_config_path host config_slug)
  let file ← if fs.path_exists config_path then some <$> load_yaml_mapping yaml fs config_path else .ok none
  let slug := (args.slug.or (file.bind fun m => yaml_str m "slug")).getD default_slug
  return {
    slug
    log_level := resolve_str host file args.log_level "LOG_LEVEL" DEFAULT_LOG_LEVEL
    log_level_stdout := resolve_str host file args.log_level_stdout "LOG_LEVEL_STDOUT" DEFAULT_LOG_LEVEL_STDOUT
    log_file := resolve_opt_path host file args.log_file "LOG_FILE"
    did_resolver_positive_ttl_secs := resolve_u64 host file args.did_resolver_positive_ttl_secs
      "DID_RESOLVER_POSITIVE_TTL_SECS" DEFAULT_DID_RESOLVER_POSITIVE_TTL_SECS
    did_resolver_negative_ttl_secs := resolve_u64 host file args.did_resolver_negative_ttl_secs
      "DID_RESOLVER_NEGATIVE_TTL_SECS" DEFAULT_DID_RESOLVER_NEGATIVE_TTL_SECS
    kubo_rpc_url := resolve_str host file args.kubo_rpc_url "KUBO_RPC_URL" DEFAULT_KUBO_RPC_URL
    kubo_key_alias := resolve_str host file args.kubo_key_alias "KUBO_KEY_ALIAS" slug
    secret_bundle := resolve_opt_path host file args.secret_bundle "SECRET_BUNDLE"
    secret_bundle_passphrase := resolve_opt_str host file args.secret_bundle_passphrase "SECRET_BUNDLE_PASSPHRASE"
    config_path := some config_path
    pin_remote := resolve_bool host file args.pin_remote "PIN_REMOTE" false
    pin_remote_service := resolve_opt_str host file args.pin_remote_service "PIN_REMOTE_SERVICE"
    pin_remote_name := resolve_opt_str host file args.pin_remote_name "PIN_REMOTE_NAME"
    pin_overwrite := resolve_bool host file args.pin_overwrite "PIN_OVERWRITE" true
    extra := (file.map fun m => m.remove_all known).getD Mapping.new }

end

section
variable {host : Host} {yaml : YamlLib} {fs : FileSystem} {path : PathBuf} {m : Mapping} {default_slug text : String}

theorem map_ok {ε α β : Type} (f : α → β) (a : α) : (f <$> (.ok a : Except ε α)) = .ok (f a) := rfl

/-- Without arguments and variables, a key of the file decides. -/
theorem resolve_file {α : Type} {parse : String → Option α} {read : Mapping → String → Option α}
    {env_key : String} (hvar : ∀ name, host.var ("MA_" ++ name) = none) :
    resolve host parse read (some m) none env_key = read m (to_lowercase env_key) := by
  simp [resolve, hvar]

/-- The configuration of a file alone. -/
theorem Config.from_args_file (hvar : ∀ name, host.var ("MA_" ++ name) = none) {config : Option PathBuf}
    (hpath : explicit_or config (default_config_path host default_slug) = .ok path)
    (hexists : fs.path_exists path = true) :
    from_args host yaml fs { MaArgs.default with config } default_slug = (fun m =>
      described m default_slug (some path) (m.remove_all known)) <$> load_yaml_mapping yaml fs path := by
  have hkeys : to_lowercase "LOG_LEVEL" = "log_level" ∧ to_lowercase "LOG_LEVEL_STDOUT" = "log_level_stdout" ∧
      to_lowercase "LOG_FILE" = "log_file" ∧
      to_lowercase "DID_RESOLVER_POSITIVE_TTL_SECS" = "did_resolver_positive_ttl_secs" ∧
      to_lowercase "DID_RESOLVER_NEGATIVE_TTL_SECS" = "did_resolver_negative_ttl_secs" ∧
      to_lowercase "KUBO_RPC_URL" = "kubo_rpc_url" ∧ to_lowercase "KUBO_KEY_ALIAS" = "kubo_key_alias" ∧
      to_lowercase "SECRET_BUNDLE" = "secret_bundle" ∧
      to_lowercase "SECRET_BUNDLE_PASSPHRASE" = "secret_bundle_passphrase" ∧
      to_lowercase "PIN_REMOTE" = "pin_remote" ∧ to_lowercase "PIN_REMOTE_SERVICE" = "pin_remote_service" ∧
      to_lowercase "PIN_REMOTE_NAME" = "pin_remote_name" ∧ to_lowercase "PIN_OVERWRITE" = "pin_overwrite" := by
    decide +kernel
  simp only [from_args, MaArgs.default, Option.getD_none, hpath, ok_bind, if_pos hexists]
  cases load_yaml_mapping yaml fs path with
  | error e => rfl
  | ok m =>
    have hslug : (none : Option String).or (yaml_str m "slug") = yaml_str m "slug" := rfl
    simp only [resolve_str, resolve_opt_str, resolve_opt_path, resolve_u64, resolve_bool, map_ok, ok_bind,
      resolve_file hvar, hkeys, Option.bind_some, hslug, described, Option.map_some, Option.getD_some]
    rfl

/-- A file is loaded as its text is read. -/
theorem load_yaml_mapping_eq_ok_iff (hfile : fs.content path = some (utf8 text)) :
    load_yaml_mapping yaml fs path = .ok m ↔ yaml.from_str text = .ok (.mapping m) := by
  have hread : read_to_string fs path = .ok text := by
    rw [read_to_string, hfile]
    dsimp only
    rw [from_utf8_utf8]
  simp only [load_yaml_mapping, hread, of_library, ok_bind, bind_eq_ok_iff, ok_or_eq_ok_iff,
    Value.as_mapping_eq_some_iff, exists_eq_right]
  exact of_library_eq_ok_iff

theorem known_perm_taken_keys : known.Perm Config.taken_keys := by
  decide +kernel

theorem map_eq_ok_iff {ε α β : Type} {f : α → β} {x : Except ε α} {b : β} :
    f <$> x = .ok b ↔ ∃ a, x = .ok a ∧ b = f a := by
  cases x with
  | error e => simp [Functor.map, Except.map]
  | ok a => simp [Functor.map, Except.map, eq_comm]

/-- A configuration is loaded from a file exactly if it is read from the text of the file, and it is the
    same but for its path. -/
theorem loaders_agree (hvar : ∀ name, host.var ("MA_" ++ name) = none) {config : Option PathBuf}
    (hpath : explicit_or config (default_config_path host "ma") = .ok path)
    (hfile : fs.content path = some (utf8 text)) :
    ((∃ loaded, Config.from_args host yaml fs { MaArgs.default with config } "ma" = .ok loaded) ↔
      ∃ read, Config.from_yaml_str yaml text = .ok read) ∧
    ∀ loaded read, Config.from_args host yaml fs { MaArgs.default with config } "ma" = .ok loaded →
      Config.from_yaml_str yaml text = .ok read →
        loaded.config_path = some path ∧ read.config_path = none ∧
          Config.Same { loaded with config_path := none } read := by
  have hexists : fs.path_exists path = true := by
    rw [FileSystem.path_exists, hfile]
    rfl
  rw [Config.from_args_file hvar hpath hexists]
  simp only [map_eq_ok_iff, load_yaml_mapping_eq_ok_iff hfile, Config.from_yaml_str_eq_ok_iff]
  constructor
  · constructor
    · rintro ⟨_, m, hm, _⟩
      exact ⟨_, m, hm, rfl⟩
    · rintro ⟨_, m, hm, _⟩
      exact ⟨_, m, hm, rfl⟩
  · rintro loaded read ⟨m, hm, rfl⟩ ⟨m', hm', rfl⟩
    obtain rfl := Value.mapping_injective (Except.ok.inj (hm.symm.trans hm'))
    refine ⟨rfl, rfl, rfl, ?_⟩
    have hloaded := m.remove_all_perm known
    rw [Mapping.others_perm known_perm_taken_keys] at hloaded
    exact hloaded.trans (m.remove_all_perm Config.taken_keys).symm

end

def daemon_host : Host := ⟨some (PathBuf.from_string "/home/user/.config/ma"), fun _ => none⟩

def daemon_path : PathBuf := PathBuf.from_string "/home/user/.config/ma/ma.yaml"

theorem daemon_path_default : default_config_path daemon_host "ma" = .ok daemon_path := by
  have hjoin : (PathBuf.from_string "/home/user/.config/ma").join (PathBuf.from_string ("ma" ++ ".yaml")) =
      daemon_path := by decide +kernel
  exact congrArg Except.ok hjoin

theorem loaders_agree_daemon :
    ∃ loaded, Config.from_args daemon_host reference.yaml (one_file daemon_path (utf8 "slug: testing\nretries: 7\n"))
        { MaArgs.default with config := none } "ma" = .ok loaded ∧
      Config.from_yaml_str reference.yaml "slug: testing\nretries: 7\n" = .ok Config.daemon_start ∧
      loaded.config_path = some daemon_path ∧
      Config.Same { loaded with config_path := none } Config.daemon_start := by
  have hread : Config.from_yaml_str reference.yaml "slug: testing\nretries: 7\n" = .ok Config.daemon_start := rfl
  obtain ⟨hiff, hsame⟩ := @loaders_agree daemon_host reference.yaml
    (one_file daemon_path (utf8 "slug: testing\nretries: 7\n")) daemon_path "slug: testing\nretries: 7\n"
    (fun _ => rfl) none daemon_path_default (Map.get_insert_self _ _ _)
  obtain ⟨loaded, hloaded⟩ := hiff.mpr ⟨_, hread⟩
  obtain ⟨hpath, _, hfields⟩ := hsame loaded _ hloaded hread
  exact ⟨loaded, hloaded, hread, hpath, hfields⟩

end ma_core.config

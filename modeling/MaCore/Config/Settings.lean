import MaCore.Base.Transition
import MaCore.Config.Headless

open rust serde_yaml transition

namespace ma_core.config

section
variable (host : Host)

/-- What the command line or a variable says of a field. -/
def given {α : Type} (parse : String → Option α) (cli : Option α) (env_key : String) : Option α :=
  cli.or ((host.var ("MA_" ++ env_key)).bind parse)

def given_str : Option String → String → Option String := given host some
def given_path : Option PathBuf → String → Option PathBuf := given host fun v => some (PathBuf.from_string v)
def given_u64 : Option UInt64 → String → Option UInt64 := given host parse_u64
def given_bool : Option Bool → String → Option Bool := given host parse_bool

/-- A configuration with what the command line and the variables say in place of what it says itself. -/
def Config.overridden (args : MaArgs) (config_path : PathBuf) (self : Config) : Config where
  slug := args.slug.getD self.slug
  log_level := (given_str host args.log_level "LOG_LEVEL").getD self.log_level
  log_level_stdout := (given_str host args.log_level_stdout "LOG_LEVEL_STDOUT").getD self.log_level_stdout
  did_resolver_positive_ttl_secs :=
    (given_u64 host args.did_resolver_positive_ttl_secs "DID_RESOLVER_POSITIVE_TTL_SECS").getD
      self.did_resolver_positive_ttl_secs
  did_resolver_negative_ttl_secs :=
    (given_u64 host args.did_resolver_negative_ttl_secs "DID_RESOLVER_NEGATIVE_TTL_SECS").getD
      self.did_resolver_negative_ttl_secs
  log_file := (given_path host args.log_file "LOG_FILE").or self.log_file
  kubo_rpc_url := (given_str host args.kubo_rpc_url "KUBO_RPC_URL").getD self.kubo_rpc_url
  kubo_key_alias := (given_str host args.kubo_key_alias "KUBO_KEY_ALIAS").getD self.kubo_key_alias
  secret_bundle := (given_path host args.secret_bundle "SECRET_BUNDLE").or self.secret_bundle
  secret_bundle_passphrase :=
    (given_str host args.secret_bundle_passphrase "SECRET_BUNDLE_PASSPHRASE").or self.secret_bundle_passphrase
  config_path := some config_path
  pin_remote := (given_bool host args.pin_remote "PIN_REMOTE").getD self.pin_remote
  pin_remote_service := (given_str host args.pin_remote_service "PIN_REMOTE_SERVICE").or self.pin_remote_service
  pin_remote_name := (given_str host args.pin_remote_name "PIN_REMOTE_NAME").or self.pin_remote_name
  pin_overwrite := (given_bool host args.pin_overwrite "PIN_OVERWRITE").getD self.pin_overwrite
  extra := self.extra

/-- A path that is text, or none. -/
def TextPath (path : Option PathBuf) : Prop := ∃ text : Option String, path = text.map PathBuf.from_string

/-- Paths of a command line that are text. -/
structure MaArgs.PathsAreText (args : MaArgs) : Prop where
  log_file : TextPath args.log_file
  secret_bundle : TextPath args.secret_bundle

end

/-- A host without variables. -/
def bare_host : Host := ⟨none, fun _ => none⟩

section
variable {host : Host} {yaml : YamlLib} {fs : FileSystem} {path : PathBuf} {m : Mapping} {default_slug text : String}
  {args : MaArgs} {config : Config}

/-- The file is asked last. -/
theorem resolve_eq {α : Type} {parse : String → Option α} {read : Mapping → String → Option α} {file : Option Mapping}
    {cli : Option α} {env_key : String} :
    resolve host parse read file cli env_key =
      (given host parse cli env_key).or (resolve bare_host parse read file none env_key) := by
  rw [resolve, given, Option.or_assoc]
  rfl

theorem resolve_opt_str_eq (host : Host) (file : Option Mapping) (cli : Option String) (env_key : String) :
    resolve_opt_str host file cli env_key =
      (given_str host cli env_key).or (resolve_opt_str bare_host file none env_key) := resolve_eq

theorem resolve_opt_path_eq (host : Host) (file : Option Mapping) (cli : Option PathBuf) (env_key : String) :
    resolve_opt_path host file cli env_key =
      (given_path host cli env_key).or (resolve_opt_path bare_host file none env_key) := resolve_eq

theorem getD_or {α : Type} (a b : Option α) (d : α) : (a.or b).getD d = a.getD (b.getD d) := by
  cases a <;> rfl

theorem resolve_str_eq (host : Host) (file : Option Mapping) (cli : Option String) (env_key default : String) :
    resolve_str host file cli env_key default =
      (given_str host cli env_key).getD (resolve_str bare_host file none env_key default) := by
  rw [resolve_str, resolve_opt_str_eq, getD_or, resolve_str]

theorem resolve_u64_eq (host : Host) (file : Option Mapping) (cli : Option UInt64) (env_key : String)
    (default : UInt64) : resolve_u64 host file cli env_key default =
      (given_u64 host cli env_key).getD (resolve_u64 bare_host file none env_key default) := by
  rw [resolve_u64, resolve_eq, getD_or, resolve_u64, given_u64]

theorem resolve_bool_eq (host : Host) (file : Option Mapping) (cli : Option Bool) (env_key : String)
    (default : Bool) : resolve_bool host file cli env_key default =
      (given_bool host cli env_key).getD (resolve_bool bare_host file none env_key default) := by
  rw [resolve_bool, resolve_eq, getD_or, resolve_bool, given_bool]

/-- The command line and the variables override what a file alone says, if it says what the key is called. -/
theorem Config.from_args_overrides
    (hpath : explicit_or args.config (default_config_path host (args.slug.getD default_slug)) = .ok path)
    (hexists : fs.path_exists path = true)
    (halias : ∀ m, load_yaml_mapping yaml fs path = .ok m → ∃ name, yaml_str m "kubo_key_alias" = some name) :
    from_args host yaml fs args default_slug = overridden host args path <$>
      from_args bare_host yaml fs { MaArgs.default with config := some path } default_slug := by
  have hbare : explicit_or (some path) (default_config_path bare_host ((none : Option String).getD default_slug)) =
      .ok path := rfl
  simp only [from_args, MaArgs.default, hpath, hbare, ok_bind, if_pos hexists]
  cases hload : load_yaml_mapping yaml fs path with
  | error e => rfl
  | ok m =>
    obtain ⟨name, hname⟩ := halias m hload
    have hread (default : String) : resolve_str bare_host (some m) none "KUBO_KEY_ALIAS" default = name := by
      have hkey : to_lowercase "KUBO_KEY_ALIAS" = "kubo_key_alias" := by decide +kernel
      simp [resolve_str, resolve_opt_str, resolve, bare_host, hkey, hname]
    simp only [map_ok, ok_bind, resolve_str_eq host, resolve_u64_eq host, resolve_bool_eq host,
      resolve_opt_str_eq host, resolve_opt_path_eq host, hread, getD_or]
    rfl

theorem Config.Same.refl (config : Config) : config.Same config := ⟨rfl, List.Perm.refl _⟩

theorem Config.Same.trans {other third : Config} (hfirst : config.Same other) (hsecond : other.Same third) :
    config.Same third := by
  refine ⟨?_, hfirst.extra.trans hsecond.extra⟩
  rw [← hsecond.fields, ← hfirst.fields]

theorem Config.Same.apply {other : Config} (hsame : config.Same other) (assignment : Assignment) :
    (assignment.apply config).Same (assignment.apply other) := by
  obtain ⟨hfields, hextra⟩ := hsame
  rw [← hfields]
  cases assignment <;> exact ⟨rfl, hextra⟩

theorem Config.Same.overridden {other : Config} (hsame : config.Same other) (host : Host) (args : MaArgs)
    (path : PathBuf) : (config.overridden host args path).Same (other.overridden host args path) := by
  obtain ⟨hfields, hextra⟩ := hsame
  rw [← hfields]
  exact ⟨rfl, hextra⟩

theorem TextPath.or {first second : Option PathBuf} (hfirst : TextPath first) (hsecond : TextPath second) :
    TextPath (first.or second) := by
  obtain ⟨text, rfl⟩ := hfirst
  cases text with
  | none => exact hsecond
  | some text => exact ⟨some text, rfl⟩

theorem given_path_text {cli : Option PathBuf} (hcli : TextPath cli) (env_key : String) :
    TextPath (given_path host cli env_key) := by
  refine hcli.or ⟨host.var ("MA_" ++ env_key), ?_⟩
  cases host.var ("MA_" ++ env_key) <;> rfl

theorem resolve_opt_path_text {file : Option Mapping} {cli : Option PathBuf} (hcli : TextPath cli)
    (env_key : String) : TextPath (resolve_opt_path host file cli env_key) := by
  rw [resolve_opt_path_eq]
  refine (given_path_text hcli env_key).or ?_
  cases file with
  | none => exact ⟨none, rfl⟩
  | some m => exact ⟨yaml_str m (to_lowercase env_key), Config.yaml_path_eq m (to_lowercase env_key)⟩

/-- What is loaded can be saved again, where it was loaded from. -/
theorem Config.from_args_storable (hargs : args.PathsAreText)
    (hload : from_args host yaml fs args default_slug = .ok config) :
    config.Storable ∧ ∃ path, config.config_path = some path ∧
      explicit_or args.config (default_config_path host (args.slug.getD default_slug)) = .ok path := by
  have hextra (file : Option Mapping) :
      ∀ key ∈ taken_keys, ((file.map fun m => m.remove_all known).getD Mapping.new).get key = none := by
    intro key hkey
    cases file with
    | none => rfl
    | some m =>
      rw [Option.map_some, Option.getD_some]
      exact Mapping.get_remove_all_of_mem (known_perm_taken_keys.mem_iff.mpr hkey)
  have hlog_file (file : Option Mapping) := @resolve_opt_path_text host file _ hargs.log_file "LOG_FILE"
  have hsecret_bundle (file : Option Mapping) :=
    @resolve_opt_path_text host file _ hargs.secret_bundle "SECRET_BUNDLE"
  rw [from_args, bind_eq_ok_iff] at hload
  obtain ⟨path, hpath, hload⟩ := hload
  split at hload
  · rw [bind_eq_ok_iff] at hload
    obtain ⟨file, _, hload⟩ := hload
    rw [← Except.ok.inj hload]
    exact ⟨⟨hextra file, hlog_file file, hsecret_bundle file⟩, path, rfl, hpath⟩
  · rw [ok_bind] at hload
    rw [← Except.ok.inj hload]
    exact ⟨⟨hextra none, hlog_file none, hsecret_bundle none⟩, path, rfl, hpath⟩

/-- What was saved is loaded again, with what the command line and the variables say in its place. -/
theorem Config.from_args_saved (hyaml : yaml.RoundTrips) (hstorable : config.Storable)
    (hwritten : config.to_yaml_string yaml = .ok text) (hfile : fs.content path = some (utf8 text))
    (hpath : explicit_or args.config (default_config_path host (args.slug.getD default_slug)) = .ok path) :
    ∃ loaded, from_args host yaml fs args default_slug = .ok loaded ∧
      loaded.Same (config.overridden host args path) := by
  rw [to_yaml_string, of_library_eq_ok_iff] at hwritten
  have hload : load_yaml_mapping yaml fs path = .ok config.to_mapping :=
    (load_yaml_mapping_eq_ok_iff hfile).mpr (hyaml _ _ hwritten)
  have hexists : fs.path_exists path = true := by
    rw [FileSystem.path_exists, hfile]
    rfl
  have halias : yaml_str config.to_mapping "kubo_key_alias" = some config.kubo_key_alias := by
    simp only [to_mapping, yaml_str, yaml_get, Mapping.get_insert, get_set_some, String.reduceEq, if_false, if_true]
    rfl
  have hothers := config.to_mapping.remove_all_perm known
  rw [Mapping.others_perm known_perm_taken_keys, others_to_mapping, others_of_absent hstorable.extra] at hothers
  have hbare : from_args bare_host yaml fs { MaArgs.default with config := some path } default_slug =
      .ok { config with config_path := some path, extra := config.to_mapping.remove_all known } := by
    rw [from_args_file (fun _ => rfl) (show explicit_or (some path) _ = .ok path from rfl) hexists, hload, map_ok,
      described_to_mapping hstorable]
  rw [from_args_overrides hpath hexists ?_, hbare, map_ok]
  · exact ⟨_, rfl, rfl, hothers⟩
  · intro m hm
    cases hload.symm.trans hm
    exact ⟨_, halias⟩

end

/-! A daemon's configuration, in memory and in its file. -/

/-- What happens to the configuration of a daemon. -/
inductive SettingsEvent where
  | restart (host : Host) (args : MaArgs) (default_slug : String) (loaded : Config)
  | assign (assignment : Assignment)
  | saved (faults : Faults)
  | unsaved (faults : Faults)
  | torn (faults : Faults)
  | elsewhere

structure Running where
  current : Config
  fs : FileSystem

namespace Running

/-- A daemon that keeps its configuration in one file. A save that fails leaves the file as it was or tears it; the
    files of others change by themselves. -/
inductive Step (yaml : YamlLib) (path : PathBuf) : Running → SettingsEvent → Running → Prop
  | restart (s : Running) (host : Host) (args : MaArgs) (default_slug : String) (loaded : Config)
    (hargs : args.PathsAreText)
    (hpath : explicit_or args.config (default_config_path host (args.slug.getD default_slug)) = .ok path)
    (hload : Config.from_args host yaml s.fs args default_slug = .ok loaded) :
    Step yaml path s (.restart host args default_slug loaded) { s with current := loaded }
  | assign (s : Running) (assignment : Assignment) (hassign : ∀ value, assignment ≠ .config_path value) :
    Step yaml path s (.assign assignment) { s with current := assignment.apply s.current }
  | saved (s : Running) (faults : Faults) (fs : FileSystem) (hsave : s.current.save yaml faults s.fs = (.ok (), fs)) :
    Step yaml path s (.saved faults) { s with fs }
  | unsaved (s : Running) (faults : Faults) (fs : FileSystem) (e : Failure Error)
    (hsave : s.current.save yaml faults s.fs = (.error e, fs)) (hkept : fs.content path = s.fs.content path) :
    Step yaml path s (.unsaved faults) { s with fs }
  | torn (s : Running) (faults : Faults) (fs : FileSystem) (e : Failure Error)
    (hsave : s.current.save yaml faults s.fs = (.error e, fs)) (htorn : fs.content path ≠ s.fs.content path) :
    Step yaml path s (.torn faults) { s with fs }
  | elsewhere (s : Running) (fs : FileSystem) (hkept : fs.content path = s.fs.content path) :
    Step yaml path s .elsewhere { s with fs }

end Running

/-- What the daemon's user counts on: what is set now, and what was saved last, unless it is lost. -/
structure Settings where
  memory : Config
  disk : Option Config

namespace Settings

def next (path : PathBuf) (self : Settings) : SettingsEvent → Settings
  | .restart host args _ loaded =>
    { self with memory := self.disk.elim loaded fun disk => disk.overridden host args path }
  | .assign assignment => { self with memory := assignment.apply self.memory }
  | .saved _ => { self with disk := some self.memory }
  | .torn _ => { self with disk := none }
  | .unsaved _ | .elsewhere => self

def after (path : PathBuf) (self : Settings) (events : List SettingsEvent) : Settings := events.foldl (next path) self

section
variable {yaml : YamlLib} {path : PathBuf} {s t : Running} {settings : Settings} {event : SettingsEvent}
  {events : List SettingsEvent}

/-- The file holds the text of a configuration. -/
def Holds (yaml : YamlLib) (fs : FileSystem) (path : PathBuf) (config : Config) : Prop :=
  ∃ (saved : Config) (text : String), saved.Storable ∧ saved.to_yaml_string yaml = .ok text ∧
    fs.content path = some (utf8 text) ∧ saved.Same config

/-- The daemon is as its settings are. -/
structure Describes (yaml : YamlLib) (path : PathBuf) (settings : Settings) (s : Running) : Prop where
  memory : s.current.Same settings.memory
  storable : s.current.Storable
  config_path : s.current.config_path = some path
  disk : ∀ disk ∈ settings.disk, Holds yaml s.fs path disk

/-- From a file that holds a configuration it is loaded, with what is said in its place. -/
theorem Holds.loads (hyaml : yaml.RoundTrips) {fs : FileSystem} {config : Config} (hholds : Holds yaml fs path config)
    {host : Host} {args : MaArgs} {default_slug : String}
    (hpath : explicit_or args.config (default_config_path host (args.slug.getD default_slug)) = .ok path) :
    ∃ loaded, Config.from_args host yaml fs args default_slug = .ok loaded ∧
      loaded.Same (config.overridden host args path) := by
  obtain ⟨saved, text, hstorable, hwritten, hfile, hsame⟩ := hholds
  obtain ⟨loaded, hload, hloaded⟩ := Config.from_args_saved hyaml hstorable hwritten hfile hpath
  exact ⟨loaded, hload, hloaded.trans (hsame.overridden host args path)⟩

theorem step_describes (hyaml : yaml.RoundTrips) (hstep : Running.Step yaml path s event t)
    (hdescribes : Describes yaml path settings s) : Describes yaml path (settings.next path event) t := by
  obtain ⟨hmemory, hstorable, hconfig_path, hdisk⟩ := hdescribes
  cases hstep with
  | restart host args default_slug loaded hargs hpath hload =>
    obtain ⟨hstorable, path', hconfig_path, hpath'⟩ := Config.from_args_storable hargs hload
    cases hpath.symm.trans hpath'
    refine ⟨?_, hstorable, hconfig_path, hdisk⟩
    rw [next]
    cases hsaved : settings.disk with
    | none => exact .refl loaded
    | some disk =>
      obtain ⟨loaded', hloaded, hsame⟩ := (hdisk disk hsaved).loads hyaml hpath
      cases hload.symm.trans hloaded
      exact hsame
  | assign assignment hassign =>
    refine ⟨hmemory.apply assignment, hstorable.apply assignment, ?_, hdisk⟩
    cases assignment with
    | config_path value => exact absurd rfl (hassign value)
    | _ => exact hconfig_path
  | saved faults fs hsave =>
    refine ⟨hmemory, hstorable, hconfig_path, ?_⟩
    obtain ⟨text, htext, hfs⟩ := Saves.of_ok (hsave ▸ Config.save_saves hconfig_path)
    rintro _ ⟨⟩
    rw [hfs]
    exact ⟨s.current, text, hstorable, htext, FileSystem.content_set_self, hmemory⟩
  | torn faults fs e hsave htorn => exact ⟨hmemory, hstorable, hconfig_path, fun _ hdisk => by cases hdisk⟩
  | unsaved faults fs e hsave hkept | elsewhere fs hkept =>
    refine ⟨hmemory, hstorable, hconfig_path, fun disk hsaved => ?_⟩
    rw [Holds, hkept]
    exact hdisk disk hsaved

theorem run_describes (hyaml : yaml.RoundTrips) (hrun : Run (Running.Step yaml path) s events t)
    (hdescribes : Describes yaml path settings s) : Describes yaml path (settings.after path events) t := by
  induction hrun with
  | nil => exact hdescribes
  | snoc _ hlast ih =>
    rw [after, List.foldl_append]
    exact step_describes hyaml hlast ih

/-- Settings survive. From the first save on, whatever is assigned and however often the daemon is started again, its
    configuration is what was saved last, with what the command line and the variables say in its place and what was
    assigned since; and it can be started again. A save that tears the file is made up for by the next one. -/
theorem settings_survive (hyaml : yaml.RoundTrips) {host : Host} {args : MaArgs} {default_slug : String}
    {fs fs' : FileSystem} {config : Config} (hargs : args.PathsAreText)
    (hpath : explicit_or args.config (default_config_path host (args.slug.getD default_slug)) = .ok path)
    (hload : Config.from_args host yaml fs args default_slug = .ok config) {faults : Faults}
    (hsave : config.save yaml faults fs = (.ok (), fs'))
    (hrun : Run (Running.Step yaml path) ⟨config, fs'⟩ events s) :
    let settings := after path ⟨config, some config⟩ events
    s.current.Same settings.memory ∧
    ∀ disk ∈ settings.disk, ∀ (host : Host) (args : MaArgs) (default_slug : String),
      explicit_or args.config (default_config_path host (args.slug.getD default_slug)) = .ok path →
        ∃ loaded, Config.from_args host yaml s.fs args default_slug = .ok loaded ∧
          loaded.Same (disk.overridden host args path) := by
  obtain ⟨hstorable, path', hconfig_path, hpath'⟩ := Config.from_args_storable hargs hload
  cases hpath.symm.trans hpath'
  obtain ⟨text, htext, hfs⟩ := Saves.of_ok (hsave ▸ Config.save_saves hconfig_path)
  have hstart : Describes yaml path ⟨config, some config⟩ ⟨config, fs'⟩ := by
    refine ⟨.refl _, hstorable, hconfig_path, ?_⟩
    rintro _ ⟨⟩
    rw [hfs]
    exact ⟨config, text, hstorable, htext, FileSystem.content_set_self, .refl _⟩
  have hend := run_describes hyaml hrun hstart
  exact ⟨hend.memory, fun disk hdisk host args default_slug => (hend.disk disk hdisk).loads hyaml⟩

end

end Settings

/-! A daemon is told to mirror its pins, saves that, is told not to, and starts again. -/

def started : Config := { Config.daemon_start with config_path := some daemon_path }

def mirroring : Config := Assignment.apply started (.pin_remote true)

def daemon_files : FileSystem := one_file daemon_path (utf8 "slug: testing\nretries: 7\n")

theorem started_loaded : Config.from_args daemon_host reference.yaml daemon_files MaArgs.default "ma" = .ok started :=
  rfl

theorem save_no_faults {yaml : YamlLib} {config : Config} {path : PathBuf} {text : String} {fs : FileSystem}
    (hpath : config.config_path = some path) (htext : config.to_yaml_string yaml = .ok text) :
    config.save yaml no_faults fs = (.ok (), fs.set path (utf8 text)) := by
  rw [Config.save_of_text hpath htext, write_secure_no_faults]

theorem settings_survive_mirroring : ∃ (s : Running) (loaded : Config),
    s.current.pin_remote = false ∧
    Config.from_args daemon_host reference.yaml s.fs { MaArgs.default with log_level := some "debug" } "ma" =
      .ok loaded ∧
    loaded.pin_remote = true ∧ loaded.log_level = "debug" ∧ loaded.slug = "testing" := by
  obtain ⟨text, htext, _⟩ := @Config.exists_of_writes_text (started.to_yaml_string reference.yaml) (by decide +kernel)
  obtain ⟨later, hlater, _⟩ :=
    @Config.exists_of_writes_text (mirroring.to_yaml_string reference.yaml) (by decide +kernel)
  have hargs : MaArgs.default.PathsAreText := ⟨⟨none, rfl⟩, ⟨none, rfl⟩⟩
  let fs := daemon_files.set daemon_path (utf8 text)
  have hrun : Run (Running.Step reference.yaml daemon_path) ⟨started, fs⟩
      [.assign (.pin_remote true), .saved no_faults, .assign (.pin_remote false)]
      ⟨Assignment.apply mirroring (.pin_remote false), fs.set daemon_path (utf8 later)⟩ := by
    refine .cons (.assign _ _ fun _ => by simp) (.cons (.saved _ _ _ (save_no_faults rfl hlater)) (.single ?_))
    exact .assign _ _ fun _ => by simp
  obtain ⟨_, hsurvive⟩ := Settings.settings_survive reference.yaml_roundTrips hargs daemon_path_default started_loaded
    (save_no_faults rfl htext) hrun
  obtain ⟨loaded, hloaded, hsame⟩ := hsurvive mirroring rfl daemon_host
    { MaArgs.default with log_level := some "debug" } "ma" daemon_path_default
  exact ⟨_, loaded, rfl, hloaded, congrArg Config.pin_remote hsame.fields, congrArg Config.log_level hsame.fields,
    congrArg Config.slug hsame.fields⟩

end ma_core.config

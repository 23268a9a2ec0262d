import MaCore.Base.Map
import MaCore.Config.ExtraKeys
import MaCore.Config.Text

open rust

namespace ma_core.config

/-- The files there are, by where a path leads, and what each of them holds. -/
structure FileSystem where
  resolve : PathBuf → PathBuf
  files : Map PathBuf Bytes

namespace FileSystem

/-- What is read at a path. -/
def content (self : FileSystem) (path : PathBuf) : Option Bytes := self.files.get (self.resolve path)

/-- `Path::exists`. -/
def path_exists (self : FileSystem) (path : PathBuf) : Bool := (self.content path).isSome

/-- The file at a path, with other bytes. -/
def set (self : FileSystem) (path : PathBuf) (bytes : Bytes) : FileSystem :=
  { self with files := self.files.insert (self.resolve path) bytes }

end FileSystem

/-- Which calls of a write fail, with their error texts: that for the bytes after it took this many. -/
structure Faults where
  create_dir_all : Option String
  «open» : Option String
  write : Option (Nat × String)
  set_permissions : Option String

namespace Faults

/-- The directory is created, if the path has one. -/
def create_parent (self : Faults) (path : PathBuf) : Result Error Unit :=
  match path.parent, self.create_dir_all with
  | some parent, some e => Err (.Config ("failed to create dir " ++ parent.display ++ ": " ++ e))
  | _, _ => .ok ()

def open_file (self : Faults) (path : PathBuf) : Result Error Unit :=
  match self.open with
  | some e => Err (.Config ("failed to open " ++ path.display ++ ": " ++ e))
  | none => .ok ()

/-- `write_all` fails only before the last byte is taken. -/
def write_all (self : Faults) (path : PathBuf) (data : Bytes) : Result Error Unit :=
  match self.write with
  | some (n, e) =>
    if n < data.length then Err (.Config ("failed to write " ++ path.display ++ ": " ++ e)) else .ok ()
  | none => .ok ()

def set_mode (self : Faults) (path : PathBuf) : Result Error Unit :=
  match self.set_permissions with
  | some e => Err (.Config ("failed to set permissions on " ++ path.display ++ ": " ++ e))
  | none => .ok ()

/-- What a file holds once it was opened, which truncates it, and written to. -/
def written (self : Faults) (data : Bytes) : Bytes :=
  match self.write with
  | some (n, _) => data.take n
  | none => data

/-- The steps of `write_secure` up to the opening of the file, and those after it. -/
def before_open (self : Faults) (path : PathBuf) : Result Error Unit := do
  self.create_parent path
  self.open_file path

def after_open (self : Faults) (path : PathBuf) (data : Bytes) : Result Error Unit := do
  self.write_all path data
  self.set_mode path

end Faults

def write_secure (faults : Faults) (path : PathBuf) (data : Bytes) (fs : FileSystem) :
    Result Error Unit × FileSystem :=
  match faults.before_open path with
  | .error e => (.error e, fs)
  | .ok () => (faults.after_open path data, fs.set path (faults.written data))

/-- `SecretBundle::save`, with the salt and the nonce it draws. -/
def SecretBundle.save (storage : StorageLib) (faults : Faults) (self : SecretBundle) (salt : ByteArr 16)
    (nonce : ByteArr 12) (path : PathBuf) (passphrase : String) (fs : FileSystem) :
    Result Error Unit × FileSystem :=
  match map_err Error.Secrets (self.encrypt storage salt nonce passphrase) with
  | .error e => (.error e, fs)
  | .ok encrypted => write_secure faults path encrypted fs

def Config.save (yaml : YamlLib) (faults : Faults) (self : Config) (fs : FileSystem) :
    Result Error Unit × FileSystem :=
  match self.config_path with
  | none => (Err (.Config "cannot save config: no config_path set"), fs)
  | some path =>
    match self.to_yaml_string yaml with
    | .error e => (.error e, fs)
    | .ok yaml_text => write_secure faults path (utf8 yaml_text) fs

section
variable {storage : StorageLib} {yaml : YamlLib} {faults : Faults} {fs : FileSystem} {path other : PathBuf}
  {data bytes : Bytes} {bundle : SecretBundle} {config : Config}

namespace FileSystem

@[simp] theorem content_set_self : (fs.set path bytes).content path = some bytes := Map.get_insert_self _ _ _

/-- A write is seen under each path to the file, and under no other. -/
theorem content_set : (fs.set path bytes).content other =
    if fs.resolve other = fs.resolve path then some bytes else fs.content other := Map.get_insert _ _ _ _

end FileSystem

theorem Faults.before_open_ok (hcreate_dir_all : faults.create_dir_all = none) (hopen : faults.open = none) :
    faults.before_open path = .ok () := by
  cases hparent : path.parent <;>
    simp [before_open, create_parent, hparent, hcreate_dir_all, open_file, hopen]

theorem Faults.written_prefix (faults : Faults) (data : Bytes) : faults.written data <+: data := by
  unfold written
  split
  · exact List.take_prefix _ _
  · exact List.prefix_refl data

/-- The file was opened, and holds the first part of what was to be written. No other file changed. -/
structure Interrupted (faults : Faults) (path : PathBuf) (data : Bytes) (fs fs' : FileSystem) : Prop where
  opened : faults.before_open path = .ok ()
  content : fs'.content path = some (faults.written data)
  first_part : faults.written data <+: data
  others : ∀ other, fs.resolve other ≠ fs.resolve path → fs'.content other = fs.content other

theorem interrupted_set (hopened : faults.before_open path = .ok ()) (data : Bytes) (fs : FileSystem) :
    Interrupted faults path data fs (fs.set path (faults.written data)) where
  opened := hopened
  content := FileSystem.content_set_self
  first_part := faults.written_prefix data
  others _ hother := FileSystem.content_set.trans (if_neg hother)

/-- A write touches no file before it opens its own. -/
theorem write_secure_cases (faults : Faults) (path : PathBuf) (data : Bytes) (fs : FileSystem) :
    (∃ e, faults.before_open path = .error e ∧ write_secure faults path data fs = (.error e, fs)) ∨
    faults.before_open path = .ok () ∧
      write_secure faults path data fs = (faults.after_open path data, fs.set path (faults.written data)) := by
  unfold write_secure
  cases hbefore : faults.before_open path with
  | error e => exact .inl ⟨e, rfl, rfl⟩
  | ok _ => exact .inr ⟨rfl, rfl⟩

/-- What a write leaves, -/
theorem write_secure_leaves (faults : Faults) (path : PathBuf) (data : Bytes) (fs : FileSystem) :
    (write_secure faults path data fs).2 = fs ∨
      Interrupted faults path data fs (write_secure faults path data fs).2 := by
  obtain ⟨e, _, hwrite⟩ | ⟨hopened, hwrite⟩ := write_secure_cases faults path data fs
  · rw [hwrite]
    exact .inl rfl
  · rw [hwrite]
    exact .inr (interrupted_set hopened data fs)

/-- and when that is what was there. -/
theorem write_secure_content_iff (faults : Faults) (path : PathBuf) (data : Bytes) (fs : FileSystem) :
    (write_secure faults path data fs).2.content path = fs.content path ↔
      (faults.before_open path = .ok () → fs.content path = some (faults.written data)) := by
  obtain ⟨e, hbefore, hwrite⟩ | ⟨hopened, hwrite⟩ := write_secure_cases faults path data fs
  · rw [hwrite, hbefore]
    exact iff_of_true rfl fun hok => by cases hok
  · rw [hwrite, FileSystem.content_set_self]
    constructor
    · intro hsame _
      exact hsame.symm
    · intro hsame
      exact (hsame hopened).symm

theorem Faults.written_of_ok (hok : faults.after_open path data = .ok ()) : faults.written data = data := by
  simp only [after_open, bind_eq_ok_iff, exists_unit] at hok
  have hwrite := hok.1
  unfold write_all at hwrite
  unfold written
  split
  · rename_i n e hfault
    rw [hfault] at hwrite
    dsimp only at hwrite
    split at hwrite
    · cases hwrite
    · rename_i hlength
      exact List.take_of_length_le (Nat.le_of_not_lt hlength)
  · rfl

/-- A write that succeeds has written everything. -/
theorem write_secure_ok {fs' : FileSystem}
    (hok : write_secure faults path data fs = (.ok (), fs')) : fs' = fs.set path data := by
  obtain ⟨e, _, hwrite⟩ | ⟨_, hwrite⟩ := write_secure_cases faults path data fs
  · cases hwrite.symm.trans hok
  · obtain ⟨hafter, hfs⟩ := Prod.mk.inj (hwrite.symm.trans hok)
    rw [← hfs, Faults.written_of_ok hafter]

theorem SecretBundle.save_of_encrypt {salt : ByteArr 16} {nonce : ByteArr 12} {passphrase : String}
    (hencrypt : bundle.encrypt storage salt nonce passphrase = .ok data) :
    bundle.save storage faults salt nonce path passphrase fs = write_secure faults path data fs := by
  rw [SecretBundle.save, hencrypt]
  rfl

theorem Config.save_of_text {text : String} (hpath : config.config_path = some path)
    (htext : config.to_yaml_string yaml = .ok text) :
    config.save yaml faults fs = write_secure faults path (utf8 text) fs := by
  rw [Config.save, hpath]
  dsimp only
  rw [htext]

/-- What comes of saving what may be encoded: a write, or an error that leaves the files alone. -/
inductive Saves {ε α : Type} (faults : Faults) (path : PathBuf) (bytes : α → Bytes) (encoded : Result ε α)
    (fs : FileSystem) : Result Error Unit × FileSystem → Prop
  | failed {e : Failure Error} (hfailed : ∀ a, encoded ≠ .ok a) : Saves faults path bytes encoded fs (.error e, fs)
  | wrote {a : α} (hencoded : encoded = .ok a) :
    Saves faults path bytes encoded fs (write_secure faults path (bytes a) fs)

theorem SecretBundle.save_saves (bundle : SecretBundle) (salt : ByteArr 16) (nonce : ByteArr 12)
    (passphrase : String) :
    Saves faults path id (bundle.encrypt storage salt nonce passphrase) fs
      (bundle.save storage faults salt nonce path passphrase fs) := by
  cases hencrypted : map_err Error.Secrets (bundle.encrypt storage salt nonce passphrase) with
  | ok data =>
    have hencrypt := map_err_eq_ok_iff.mp hencrypted
    rw [SecretBundle.save_of_encrypt hencrypt]
    exact .wrote hencrypt
  | error e =>
    rw [SecretBundle.save, hencrypted]
    refine .failed ?_
    intro data hencrypt
    rw [hencrypt] at hencrypted
    cases hencrypted

theorem Config.save_saves (hpath : config.config_path = some path) :
    Saves faults path utf8 (config.to_yaml_string yaml) fs (config.save yaml faults fs) := by
  cases htext : config.to_yaml_string yaml with
  | ok text =>
    rw [Config.save_of_text hpath htext]
    exact .wrote rfl
  | error e =>
    rw [Config.save, hpath]
    dsimp only
    rw [htext]
    refine .failed ?_
    intro text htext
    cases htext

section
variable {ε α : Type} {encoded : Result ε α} {to_bytes : α → Bytes} {result : Result Error Unit × FileSystem}

theorem Saves.leaves (hsaves : Saves faults path to_bytes encoded fs result) :
    result.2 = fs ∨ ∃ a, encoded = .ok a ∧ Interrupted faults path (to_bytes a) fs result.2 := by
  cases hsaves with
  | failed hfailed => exact .inl rfl
  | wrote hencoded =>
    obtain hsame | hinterrupted := write_secure_leaves faults path (to_bytes _) fs
    · exact .inl hsame
    · exact .inr ⟨_, hencoded, hinterrupted⟩

theorem Saves.content_iff (hsaves : Saves faults path to_bytes encoded fs result) :
    result.2.content path = fs.content path ↔ ∀ a, encoded = .ok a → faults.before_open path = .ok () →
      fs.content path = some (faults.written (to_bytes a)) := by
  cases hsaves with
  | failed hfailed =>
    refine iff_of_true rfl ?_
    intro a hencoded
    exact absurd hencoded (hfailed a)
  | wrote hencoded =>
    refine (write_secure_content_iff faults path (to_bytes _) fs).trans ?_
    simp only [hencoded, Except.ok.injEq, forall_eq']

/-- Whatever the result, nothing is written but a first part, to the file. -/
theorem Saves.sets (hsaves : Saves faults path to_bytes encoded fs result) :
    result.2 = fs ∨ ∃ a part, encoded = .ok a ∧ part <+: to_bytes a ∧ result.2 = fs.set path part := by
  cases hsaves with
  | failed hfailed => exact .inl rfl
  | @wrote a hencoded =>
    obtain ⟨e, _, hwrite⟩ | ⟨_, hwrite⟩ := write_secure_cases faults path (to_bytes a) fs
    · rw [hwrite]
      exact .inl rfl
    · rw [hwrite]
      exact .inr ⟨a, _, hencoded, faults.written_prefix (to_bytes a), rfl⟩

/-- A save that succeeds has written everything. -/
theorem Saves.of_ok {fs' : FileSystem} (hsaves : Saves faults path to_bytes encoded fs (.ok (), fs')) :
    ∃ a, encoded = .ok a ∧ fs' = fs.set path (to_bytes a) := by
  generalize hresult : ((.ok (), fs') : Result Error Unit × FileSystem) = result at hsaves
  cases hsaves with
  | failed hfailed => cases hresult
  | wrote hencoded => exact ⟨_, hencoded, write_secure_ok hresult.symm⟩

end

theorem Config.save_nowhere (hpath : config.config_path = none) :
    config.save yaml faults fs = (Err (.Config "cannot save config: no config_path set"), fs) := by
  rw [Config.save, hpath]

/-- A save that fails has changed nothing or left the first part of what it was to write, and the file
    is as it was exactly if it was not opened, or held that part before. Without a path nothing is saved. -/
theorem save_on_error (storage : StorageLib) (yaml : YamlLib) (faults : Faults) (fs : FileSystem) (path : PathBuf) :
    (∀ (bundle : SecretBundle) (salt : ByteArr 16) (nonce : ByteArr 12) (passphrase : String) (fs' : FileSystem)
        (e : Error), bundle.save storage faults salt nonce path passphrase fs = (Err e, fs') →
      (fs' = fs ∨ ∃ data, bundle.encrypt storage salt nonce passphrase = .ok data ∧
        Interrupted faults path data fs fs') ∧
      (fs'.content path = fs.content path ↔ ∀ data, bundle.encrypt storage salt nonce passphrase = .ok data →
        faults.before_open path = .ok () → fs.content path = some (faults.written data))) ∧
    (∀ (config : Config) (fs' : FileSystem) (e : Error), config.config_path = some path →
      config.save yaml faults fs = (Err e, fs') →
      (fs' = fs ∨ ∃ text, config.to_yaml_string yaml = .ok text ∧ Interrupted faults path (utf8 text) fs fs') ∧
      (fs'.content path = fs.content path ↔ ∀ text, config.to_yaml_string yaml = .ok text →
        faults.before_open path = .ok () → fs.content path = some (faults.written (utf8 text)))) ∧
    ∀ (config : Config), config.config_path = none →
      config.save yaml faults fs = (Err (.Config "cannot save config: no config_path set"), fs) := by
  refine ⟨?_, ?_, fun config hpath => Config.save_nowhere hpath⟩
  · intro bundle salt nonce passphrase fs' e hsave
    have hsaves := @SecretBundle.save_saves storage faults fs path bundle salt nonce passphrase
    rw [hsave] at hsaves
    exact ⟨hsaves.leaves, hsaves.content_iff⟩
  · intro config fs' e hpath hsave
    have hsaves := @Config.save_saves yaml faults fs path config hpath
    rw [hsave] at hsaves
    exact ⟨hsaves.leaves, hsaves.content_iff⟩

end

/-! A disk that is full. -/

def full_disk : Faults where
  create_dir_all := none
  «open» := none
  write := some (0, "No space left on device (os error 28)")
  set_permissions := none

def bundle_path : PathBuf := PathBuf.from_string "ma.bin"

def fresh_bundle : SecretBundle :=
  SecretBundle.generate (reference.secret 1) (reference.secret 2) (reference.secret 3) (reference.secret 4)
    "2026-08-08T12:34:56Z"

/-- A file with these bytes, and no other. -/
def one_file (path : PathBuf) (data : Bytes) : FileSystem := ⟨id, Map.empty.insert path data⟩

theorem SecretBundle.encrypt_ne_nil {storage : StorageLib} {bundle : SecretBundle} {salt : ByteArr 16}
    {nonce : ByteArr 12} {passphrase : String} {data : Bytes}
    (hencrypt : bundle.encrypt storage salt nonce passphrase = .ok data) : data ≠ [] := by
  simp only [SecretBundle.encrypt, bind_eq_ok_iff] at hencrypt
  obtain ⟨_, _, _, _, ciphertext, _, hdata⟩ := hencrypt
  cases hdata
  have hsalt := salt.length_val
  intro hnil
  have hlength := congrArg List.length hnil
  simp only [List.length_append, List.length_nil] at hlength
  omega

/-- Nothing that is not empty is written to a full disk, but the file is opened. -/
theorem write_secure_full_disk {path : PathBuf} {data : Bytes} (hdata : data ≠ []) (fs : FileSystem) :
    ∃ e, write_secure full_disk path data fs = (Err e, fs.set path []) := by
  have hlength : 0 < data.length := List.length_pos_iff.mpr hdata
  have hbefore : full_disk.before_open path = .ok () := Faults.before_open_ok rfl rfl
  have hafter : full_disk.after_open path data =
      Err (.Config ("failed to write " ++ path.display ++ ": " ++ "No space left on device (os error 28)")) := by
    simp [Faults.after_open, Faults.write_all, full_disk, hlength]
  refine ⟨.Config ("failed to write " ++ path.display ++ ": " ++ "No space left on device (os error 28)"), ?_⟩
  rw [write_secure, hbefore, hafter]
  rfl

/-- A bundle that is saved again to a full disk is lost. -/
theorem bundle_lost_on_full_disk :
    ∃ (data : Bytes) (fs' : FileSystem) (e : Error),
      (one_file bundle_path data).content bundle_path = some data ∧
      SecretBundle.decrypt reference.storage data "correct horse" = .ok fresh_bundle ∧
      fresh_bundle.save reference.storage full_disk reference.salt reference.short_nonce bundle_path "correct horse"
        (one_file bundle_path data) = (Err e, fs') ∧
      fs'.content bundle_path ≠ (one_file bundle_path data).content bundle_path ∧
      fs'.content bundle_path = some [] := by
  obtain ⟨data, hencrypt, hdecrypt⟩ := @reference.restores fresh_bundle rfl
  have hdata := SecretBundle.encrypt_ne_nil hencrypt
  have hcontent : (one_file bundle_path data).content bundle_path = some data := Map.get_insert_self _ _ _
  obtain ⟨e, hsave⟩ := @write_secure_full_disk bundle_path _ hdata (one_file bundle_path data)
  rw [← SecretBundle.save_of_encrypt hencrypt] at hsave
  refine ⟨data, _, e, hcontent, hdecrypt, hsave, ?_, FileSystem.content_set_self⟩
  rw [FileSystem.content_set_self, hcontent]
  intro hsame
  exact hdata (Option.some.inj hsame).symm

theorem save_on_error_full_disk :
    ∃ (data : Bytes) (text : String) (config : Config),
      fresh_bundle.encrypt reference.storage reference.salt reference.short_nonce "correct horse" = .ok data ∧
      config.to_yaml_string reference.yaml = .ok text ∧ config.config_path = some bundle_path ∧
      Interrupted full_disk bundle_path data (one_file bundle_path data)
        (fresh_bundle.save reference.storage full_disk reference.salt reference.short_nonce bundle_path
          "correct horse" (one_file bundle_path data)).2 ∧
      Interrupted full_disk bundle_path (utf8 text) (one_file bundle_path data)
        (config.save reference.yaml full_disk (one_file bundle_path data)).2 ∧
      ({ config with config_path := none } : Config).save reference.yaml full_disk (one_file bundle_path data) =
        (Err (.Config "cannot save config: no config_path set"), one_file bundle_path data) := by
  obtain ⟨data, hencrypt, _⟩ := @reference.restores fresh_bundle rfl
  have hdata := SecretBundle.encrypt_ne_nil hencrypt
  let config := { Config.new_for_storage "ma" with config_path := some bundle_path }
  obtain ⟨text, htext, hwritten⟩ :=
    @Config.exists_of_writes_text (config.to_yaml_string reference.yaml) (by decide +kernel)
  have hchanged : (one_file bundle_path data).set bundle_path [] ≠ one_file bundle_path data := by
    intro hsame
    have hcontent := congrArg (fun fs => fs.content bundle_path) hsame
    exact hdata (Option.some.inj hcontent).symm
  obtain ⟨hbundle, hconfig, hnowhere⟩ :=
    save_on_error reference.storage reference.yaml full_disk (one_file bundle_path data) bundle_path
  refine ⟨data, text, config, hencrypt, htext, rfl, ?_, ?_, hnowhere _ rfl⟩
  · obtain ⟨e, hsave⟩ := @write_secure_full_disk bundle_path _ hdata (one_file bundle_path data)
    rw [← SecretBundle.save_of_encrypt hencrypt] at hsave
    obtain ⟨_, hencrypt', hinterrupted⟩ := (hbundle _ _ _ _ _ e hsave).1.resolve_left hchanged
    rw [hsave]
    cases hencrypt.symm.trans hencrypt'
    exact hinterrupted
  · obtain ⟨e, hsave⟩ := @write_secure_full_disk bundle_path _ hwritten (one_file bundle_path data)
    rw [← Config.save_of_text rfl htext] at hsave
    obtain ⟨_, htext', hinterrupted⟩ := (hconfig config _ e rfl hsave).1.resolve_left hchanged
    rw [hsave]
    cases htext.symm.trans htext'
    exact hinterrupted

end ma_core.config

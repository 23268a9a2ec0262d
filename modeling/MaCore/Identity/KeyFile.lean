import MaCore.Base.Transition
import MaCore.Config.Headless

open rust transition
open ma_core.config

namespace ma_core.config

/-- `fs::write`: the file is opened, which truncates it, and written to. -/
def fs_write (faults : Faults) (path : PathBuf) (data : Bytes) (fs : FileSystem) : Except String Unit × FileSystem :=
  match faults.open with
  | some e => (.error e, fs)
  | none =>
    match faults.write with
    | some (n, e) => (if n < data.length then .error e else .ok (), fs.set path (faults.written data))
    | none => (.ok (), fs.set path (faults.written data))

end ma_core.config

namespace ma_core.identity

/-! Errors are `Error::SecretKey` with this text. -/

/-- `generate_secret_key_file`, with the key it draws. That permissions cannot be set is no error. -/
def generate_secret_key_file (faults : Faults) (key_bytes : ByteArr 32) (path : PathBuf) (fs : FileSystem) :
    Result String (ByteArr 32) × FileSystem :=
  if fs.path_exists path then (Err ("secret key already exists at " ++ path.display), fs)
  else
    match path.parent, faults.create_dir_all with
    | some parent, some e => (Err ("failed to create dir " ++ parent.display ++ ": " ++ e), fs)
    | _, _ =>
      match fs_write faults path key_bytes.val fs with
      | (.error e, fs) => (Err ("failed to write " ++ path.display ++ ": " ++ e), fs)
      | (.ok (), fs) => (.ok key_bytes, fs)

/-- What happens to the files: a key is generated, or another file is written. -/
inductive KeyFileEvent where
  | generated (path : PathBuf) (faults : Faults) (drawn : ByteArr 32) (result : Result String (ByteArr 32))
  | written (path : PathBuf) (bytes : Bytes)

namespace KeyFileEvent

inductive Step : FileSystem → KeyFileEvent → FileSystem → Prop
  | generated (fs : FileSystem) (path : PathBuf) (faults : Faults) (drawn : ByteArr 32) :
    Step fs (.generated path faults drawn (generate_secret_key_file faults drawn path fs).1)
      (generate_secret_key_file faults drawn path fs).2
  | written (fs : FileSystem) (path : PathBuf) (bytes : Bytes) : Step fs (.written path bytes) (fs.set path bytes)

end KeyFileEvent

section
variable {start fs fs' : FileSystem} {faults : Faults} {path other : PathBuf} {key drawn : ByteArr 32}
  {event : KeyFileEvent} {events : List KeyFileEvent}

end

end ma_core.identity

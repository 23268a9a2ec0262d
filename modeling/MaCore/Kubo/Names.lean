import MaCore.Base.Strings
import MaCore.Identity
import MaCore.Kubo.Pinning

open rust
open ma_core.identity

namespace ma_core.kubo

structure KuboKey where
  name : String
  id : String
deriving DecidableEq, Repr

structure IpnsPublishOptions where
  timeout : Duration
  allow_offline : Bool
  lifetime : String
  ttl : Option String
  resolve : Bool
  quieter : Bool
deriving DecidableEq, Repr

/-- `IpnsPublishOptions::default`. -/
def IpnsPublishOptions.default : IpnsPublishOptions where
  timeout := Duration.from_secs 120
  allow_offline := true
  lifetime := "8760h"
  ttl := none
  resolve := false
  quieter := true

/-- What a publisher asks for: requests to a Kubo daemon, the delay between two
    attempts, and a cleanup. -/
inductive Call where
  | list_keys (kubo_url : String)
  | import_key (kubo_url key_name : String) (key_bytes : Bytes)
  | dag_put_cbor (kubo_url : String) (data : Bytes) (pin : Bool)
  | name_publish_with_options (kubo_url key_name cid : String) (options : IpnsPublishOptions)
  | name_resolve (kubo_url path : String) (recursive : Bool)
  | pins (rpc : Rpc)
  | sleep (delay : Duration)
  | schedule (request : PinCleanupRequest)

abbrev Call.Reply : Call → Type
  | list_keys .. => Except String (List KuboKey)
  | import_key .. => Except String KuboKey
  | dag_put_cbor .. | name_publish_with_options .. | name_resolve .. => Except String String
  | pins rpc => rpc.Reply
  | sleep _ => Unit
  | schedule _ => Bool

/-- Code that publishes. -/
abbrev Publisher := Prog Call Call.Reply

/-- Code that handles pins, as part of it. -/
def Io.publisher {α : Type} : Io α → Publisher α
  | .ret a => .ret a
  | .call rpc k => .call (.pins rpc) fun reply => publisher (k reply)

instance : MonadLift Io Publisher := ⟨Io.publisher⟩

def list_keys (kubo_url : String) : Publisher (Except String (List KuboKey)) :=
  .issue (Call.list_keys kubo_url)

def import_key (kubo_url key_name : String) (key_bytes : Bytes) : Publisher (Except String KuboKey) :=
  .issue (Call.import_key kubo_url key_name key_bytes)

def dag_put_cbor (kubo_url : String) (data : Bytes) (pin : Bool) : Publisher (Except String String) :=
  .issue (Call.dag_put_cbor kubo_url data pin)

def name_publish_with_options (kubo_url key_name cid : String) (options : IpnsPublishOptions) :
    Publisher (Except String String) :=
  .issue (Call.name_publish_with_options kubo_url key_name cid options)

def name_resolve (kubo_url path : String) (recursive : Bool) : Publisher (Except String String) :=
  .issue (Call.name_resolve kubo_url path recursive)

def sleep (delay : Duration) : Publisher Unit := .issue (Call.sleep delay)

/-- `PinCleanupScheduler::schedule` on the global scheduler. -/
def schedule (request : PinCleanupRequest) : Publisher Bool := .issue (Call.schedule request)

/-- Strip a prefix from the text as often as it has it, at most `fuel` times. -/
def strip_prefixes (start : String) : Nat → String → String
  | 0, value => value
  | fuel + 1, value =>
    match stripPrefix start value with
    | some rest => strip_prefixes start fuel rest
    | none => value

def normalize_ipfs_arg (cid_or_path : String) : String :=
  let value := trim cid_or_path
  let value := strip_prefixes "/ipfs/" value.length value
  "/ipfs/" ++ trim_start_matches '/' value

def normalize_cid_arg (cid_or_path : String) : String :=
  let value := trim cid_or_path
  let value := strip_prefixes "/ipfs/" value.length value
  trim_start_matches '/' value

def verify_name_target_after_error (kubo_url ipns_id cid : String) :
    Publisher (Except String String) := do
  let expected := normalize_ipfs_arg cid
  match ← name_resolve kubo_url ("/ipns/" ++ ipns_id) true with
  | .error e => return .error e
  | .ok resolved =>
    if trim resolved = expected then
      return .ok resolved
    else
      return .error ("post-error resolve mismatch for IPNS id '" ++ ipns_id ++ "': expected '" ++
        expected ++ "' got '" ++ resolved ++ "'")

/-- The attempts of `name_publish_with_retry`, with `left` more after this one. -/
def name_publish_attempts (kubo_url key_name ipns_id cid : String) (options : IpnsPublishOptions)
    (attempts : Nat) (left : Nat) (fib_prev fib_curr : Duration) :
    Publisher (Except String String) := do
  match ← name_publish_with_options kubo_url key_name cid options with
  | .ok value => return .ok value
  | .error err =>
    match ← verify_name_target_after_error kubo_url ipns_id cid with
    | .ok value => return .ok value
    | .error _ =>
      match left with
      | 0 =>
        return .error ("name publish failed after " ++ toString attempts ++ " attempt(s): " ++ err)
      | left + 1 =>
        sleep fib_curr
        let next_ms := fib_prev.as_millis + fib_curr.as_millis
        name_publish_attempts kubo_url key_name ipns_id cid options attempts left fib_curr
          (Duration.from_millis (min next_ms 30000))

def name_publish_with_retry (kubo_url key_name ipns_id cid : String) (options : IpnsPublishOptions)
    (attempts : Nat) (initial_backoff : Duration) : Publisher (Except String String) :=
  match attempts with
  | 0 => return .error "name publish attempts must be >= 1"
  | left + 1 =>
    name_publish_attempts kubo_url key_name ipns_id cid options attempts left
      (Duration.from_millis 0) initial_backoff

/-! The keystore. -/

/-- The keys of each Kubo as `list_keys` lists them, with the identifiers they have. -/
abbrev Keystore := String → List KuboKey

/-- The keys of one Kubo replaced. -/
def Keystore.set (self : Keystore) (kubo_url : String) (keys : List KuboKey) : Keystore :=
  fun url => if url = kubo_url then keys else self url

/-- The IPNS identifier of a key pair. -/
def ipns_id (lib : Lib) (keypair : Keypair) : String :=
  lib.multibase_encode_base36_lower (lib.cid_to_bytes
    { version := .V1, codec := 0x72, hash := lib.peer_id_from_public_key keypair.public_key })

def Call.on_keys : Call → Bool
  | list_keys _ | import_key .. => true
  | _ => false

/-- How Kubo may reply, and the keys it then holds. It reports true identifiers:
    an imported key has the one of the key pair its bytes encode. -/
inductive Keystore.Replies (lib : Lib) (keys : Keystore) : (call : Call) → call.Reply → Keystore → Prop
  | listed (kubo_url : String) : Replies lib keys (.list_keys kubo_url) (.ok (keys kubo_url)) keys
  | list_failed (kubo_url text : String) : Replies lib keys (.list_keys kubo_url) (.error text) keys
  | imported (kubo_url key_name : String) (key_bytes : Bytes) (key : KuboKey)
    (before after : List KuboKey) (hkeys : keys kubo_url = before ++ after)
    (hname : key.name = key_name)
    (hid : ∀ keypair, lib.keypair_to_protobuf_encoding keypair = .ok key_bytes →
      key.id = ipns_id lib keypair) :
    Replies lib keys (.import_key kubo_url key_name key_bytes) (.ok key)
      (keys.set kubo_url (before ++ key :: after))
  | import_failed (kubo_url key_name : String) (key_bytes : Bytes) (text : String) :
    Replies lib keys (.import_key kubo_url key_name key_bytes) (.error text) keys
  | import_failed_late (kubo_url key_name : String) (key_bytes : Bytes) (text : String)
    (key : KuboKey) (keys' : Keystore)
    (hdone : Replies lib keys (.import_key kubo_url key_name key_bytes) (.ok key) keys') :
    Replies lib keys (.import_key kubo_url key_name key_bytes) (.error text) keys'
  | other (call : Call) (reply : call.Reply) (hcall : call.on_keys = false) :
    Replies lib keys call reply keys

/-- Kubo as publishers meet it. -/
def Keystore.env (lib : Lib) : Prog.Env Call Call.Reply Keystore where
  allowed _ _ := True
  replies keys call reply keys' := Replies lib keys call reply keys'

section
variable {lib : Lib}

/-- The identifier of an Ed25519 secret is the one of its key pair. -/
theorem ipns_from_secret_eq_ok_iff {secret : ByteArr 32} {id : String} :
    ipns_from_secret lib secret = .ok id ↔
      ∃ keypair, lib.keypair_ed25519_from_bytes secret = .ok keypair ∧ id = ipns_id lib keypair := by
  unfold ipns_from_secret
  simp only [bind_eq_ok_iff, of_library_eq_ok_iff]
  constructor
  · rintro ⟨keypair, hkeypair, hid⟩
    cases hid
    exact ⟨keypair, hkeypair, rfl⟩
  · rintro ⟨keypair, hkeypair, rfl⟩
    exact ⟨keypair, hkeypair, rfl⟩

end

end ma_core.kubo

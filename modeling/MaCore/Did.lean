import MaCore.Base.Strings
import MaCore.Error
import MaCore.Externals

open rust
open ma_core.error

namespace ma_core.did

def DID_PREFIX : String := "did:ma:"
def LIBP2P_KEY_CODEC : UInt64 := 0x72

/-- A `did:ma:` identifier. Without a fragment it is a bare DID, with one a
    DID URL. The fields are public, so nothing is assumed of them. -/
structure Did where
  ipns : String
  fragment : Option String
deriving DecidableEq, Repr

section
variable (lib : Lib)

def validate_identifier (input : String) : MaResult Unit := do
  reject_if input.isEmpty .MissingIdentifier
  let cid ← ok_or .InvalidIdentifier (lib.cid_try_from input)
  reject_if (cid.version != .V1 || cid.codec != LIBP2P_KEY_CODEC ||
    lib.multibase_encode_base36_lower (lib.cid_to_bytes cid) != input) .InvalidIdentifier
  let peer_id ← ok_or .InvalidIdentifier (lib.peer_id_from_multihash cid.hash)
  let public_key ← ok_or .InvalidIdentifier (lib.public_key_try_decode_protobuf peer_id.digest)
  match public_key with
  | .Ed25519 _ => .ok ()
  | .Other => Err .InvalidIdentifier

end

def is_ascii_alphanumeric (c : Char) : Bool :=
  ('0' ≤ c && c ≤ '9') || ('A' ≤ c && c ≤ 'Z') || ('a' ≤ c && c ≤ 'z')

/-- The alphabet of nanoids: `[A-Za-z0-9_-]`. -/
def is_nanoid_char (c : Char) : Bool := is_ascii_alphanumeric c || c == '_' || c == '-'

def validate_fragment (input : String) : MaResult Unit :=
  reject_if (input.isEmpty || !input.toList.all is_nanoid_char) (.InvalidFragment input)

namespace Did

def base_id (self : Did) : String := DID_PREFIX ++ self.ipns

def id (self : Did) : String :=
  match self.fragment with
  | some fragment => self.base_id ++ "#" ++ fragment
  | none => self.base_id

section
variable (lib : Lib)

def new_identity (ipns : String) : MaResult Did := do
  validate_identifier lib ipns
  return { ipns, fragment := none }

/-- `Did::new_url`; `nanoid` is the fragment generated when none is given. -/
def new_url (ipns : String) (fragment : Option String) (nanoid : String) : MaResult Did := do
  let frag := fragment.getD nanoid
  validate_identifier lib ipns
  validate_fragment frag
  return { ipns, fragment := some frag }

def with_fragment (self : Did) (fragment : String) : MaResult Did :=
  new_url lib self.ipns (some fragment) fragment

def parse (input : String) : MaResult (String × Option String) := do
  reject_if input.isEmpty .EmptyDid
  let stripped ← ok_or .InvalidDidPrefix (stripPrefix DID_PREFIX input)
  match split '#' stripped with
  | [] | [""] => Err .MissingIdentifier
  | [identifier] =>
    validate_identifier lib identifier
    return (identifier, none)
  | [identifier, fragment] =>
    validate_identifier lib identifier
    validate_fragment fragment
    return (identifier, some fragment)
  | _ => Err .InvalidDidFormat

def validate (input : String) : MaResult Unit := do
  let _ ← parse lib input
  return ()

/-- The fragment of a DID URL is optional. -/
def validate_url (input : String) : MaResult Unit := validate lib input

def validate_resource (input : String) : MaResult Unit := do
  match ← parse lib input with
  | (_, some _) => .ok ()
  | (_, none) => Err .MissingFragment

def validate_identity (input : String) : MaResult Unit := do
  match ← parse lib input with
  | (_, none) => .ok ()
  | (_, some _) => Err .UnexpectedFragment

def try_from (value : String) : MaResult Did := do
  let (ipns, fragment) ← parse lib value
  return { ipns, fragment }

end

end Did

section
variable {lib : Lib}

theorem Did.validate_eq_ok_iff {input : String} :
    Did.validate lib input = .ok () ↔ ∃ parts, Did.parse lib input = .ok parts := by
  simp [Did.validate, bind_eq_ok_iff, pure, Except.pure]

theorem Did.base_id_inj {left right : Did} (heq : left.base_id = right.base_id) :
    left.ipns = right.ipns := by
  have hstripped := congrArg (stripPrefix DID_PREFIX) heq
  simpa [Did.base_id] using hstripped

theorem Did.try_from_eq_ok_iff {value : String} {did : Did} :
    Did.try_from lib value = .ok did ↔ Did.parse lib value = .ok (did.ipns, did.fragment) := by
  simp only [Did.try_from, bind_eq_ok_iff]
  constructor
  · rintro ⟨⟨ipns, fragment⟩, hparse, hdid⟩
    cases hdid
    exact hparse
  · intro hparse
    exact ⟨_, hparse, rfl⟩

/-- A string that parses is not empty. -/
theorem Did.parse_nonempty {input : String} {parts : String × Option String}
    (hparse : Did.parse lib input = .ok parts) : input.isEmpty = false := by
  obtain ⟨_, hreject, _⟩ := bind_eq_ok_iff.mp hparse
  exact reject_if_eq_ok_iff.mp hreject

theorem validate_identifier_returns (input : String) : Returns (validate_identifier lib input) := by
  refine bind_returns (reject_if_returns _ _) fun _ _ => ?_
  refine bind_returns (ok_or_returns _ _) fun cid _ => ?_
  refine bind_returns (reject_if_returns _ _) fun _ _ => ?_
  refine bind_returns (ok_or_returns _ _) fun peer_id _ => ?_
  refine bind_returns (ok_or_returns _ _) fun public_key _ => ?_
  cases public_key with
  | Ed25519 key => exact returns_ok ()
  | Other => exact returns_err _

theorem validate_fragment_returns (input : String) : Returns (validate_fragment input) := reject_if_returns _ _

/-- Parsing does not panic, whatever the text. -/
theorem Did.parse_returns (input : String) : Returns (Did.parse lib input) := by
  refine bind_returns (reject_if_returns _ _) fun _ _ => ?_
  refine bind_returns (ok_or_returns _ _) fun stripped _ => ?_
  split
  · exact returns_err _
  · exact returns_err _
  · exact bind_returns (validate_identifier_returns _) fun _ _ => returns_ok _
  · exact bind_returns (validate_identifier_returns _) fun _ _ =>
      bind_returns (validate_fragment_returns _) fun _ _ => returns_ok _
  · exact returns_err _

theorem Did.validate_returns (input : String) : Returns (Did.validate lib input) :=
  bind_returns (Did.parse_returns input) fun _ _ => returns_ok ()

/-- A valid fragment separates nothing. -/
theorem validate_fragment_no_hash {fragment : String}
    (hfragment : validate_fragment fragment = .ok ()) : '#' ∉ fragment.toList := by
  intro hmem
  simp only [validate_fragment, reject_if_eq_ok_iff, Bool.or_eq_false_iff, Bool.not_eq_false',
    List.all_eq_true] at hfragment
  exact absurd (hfragment.2 '#' hmem) (by decide)

/-- The DID of an identity is read back as its identifier. -/
theorem Did.parse_base_id {ipns : String} (hipns : validate_identifier lib ipns = .ok ())
    (hnonempty : ipns ≠ "") (hhash : '#' ∉ ipns.toList) :
    Did.parse lib (DID_PREFIX ++ ipns) = .ok (ipns, none) := by
  have hinput : (DID_PREFIX ++ ipns).isEmpty = false := by
    simp [DID_PREFIX, String.isEmpty_eq_false_iff]
  have hstrip : stripPrefix DID_PREFIX (DID_PREFIX ++ ipns) = some ipns := stripPrefix_append _ _
  simp only [Did.parse, hinput, hstrip, split_eq_singleton hhash, hipns, reject_if, ok_or, ok_bind,
    Bool.false_eq_true, if_false]
  rfl

/-- What parses as a bare DID has no separator of a fragment. -/
theorem Did.parse_bare_no_hash {ipns identifier : String}
    (hparse : Did.parse lib (DID_PREFIX ++ ipns) = .ok (identifier, none)) : '#' ∉ ipns.toList := by
  simp only [Did.parse, bind_eq_ok_iff, ok_or_eq_ok_iff, stripPrefix_append, Option.some.injEq] at hparse
  obtain ⟨_, _, _, rfl, hparts⟩ := hparse
  split at hparts
  · cases hparts
  · cases hparts
  · rename_i hsplit
    exact split_singleton_absent hsplit
  · simp only [bind_eq_ok_iff] at hparts
    obtain ⟨_, _, _, _, hnone⟩ := hparts
    cases hnone
  · cases hparts

/-- A DID URL is read back as its parts. -/
theorem Did.parse_url {ipns fragment : String} (hipns : validate_identifier lib ipns = .ok ())
    (hhash : '#' ∉ ipns.toList) (hfragment : validate_fragment fragment = .ok ()) :
    Did.parse lib (DID_PREFIX ++ ipns ++ "#" ++ fragment) = .ok (ipns, some fragment) := by
  have hinput : (DID_PREFIX ++ ipns ++ "#" ++ fragment).isEmpty = false := by
    simp [DID_PREFIX, String.isEmpty_eq_false_iff]
  have hstrip : stripPrefix DID_PREFIX (DID_PREFIX ++ ipns ++ "#" ++ fragment) =
      some (ipns ++ "#" ++ fragment) :=
    stripPrefix_eq_some_iff.mpr (by simp only [String.append_assoc])
  have hparts : split '#' (ipns ++ "#" ++ fragment) = [ipns, fragment] := by
    rw [split_append (by decide) hhash, split_eq_singleton (validate_fragment_no_hash hfragment)]
  simp only [Did.parse, hinput, hstrip, hparts, hipns, hfragment, reject_if, ok_or, ok_bind,
    Bool.false_eq_true, if_false]
  rfl

/-- The errors a malformed DID is refused with. -/
def IsDidError (e : MaError) : Prop :=
  e = .EmptyDid ∨ e = .InvalidDidPrefix ∨ e = .MissingIdentifier ∨ e = .InvalidIdentifier ∨
    e = .InvalidDidFormat ∨ ∃ fragment, e = .InvalidFragment fragment

theorem validate_identifier_err {input : String} {e : MaError}
    (herr : validate_identifier lib input = Err e) : IsDidError e := by
  simp only [validate_identifier, bind_eq_err_iff, reject_if_eq_err_iff, ok_or_eq_err_iff] at herr
  unfold IsDidError
  rcases herr with ⟨_, rfl⟩ | ⟨_, _, ⟨_, rfl⟩ | ⟨cid, _, ⟨_, rfl⟩ | ⟨_, _, ⟨_, rfl⟩ |
    ⟨peer, _, ⟨_, rfl⟩ | ⟨key, _, hkey⟩⟩⟩⟩⟩
  · simp
  · simp
  · simp
  · simp
  · simp
  · cases key with
    | Ed25519 _ => cases hkey
    | Other =>
      cases hkey
      simp

theorem validate_fragment_err {input : String} {e : MaError}
    (herr : validate_fragment input = Err e) : IsDidError e := by
  obtain ⟨_, rfl⟩ := reject_if_eq_err_iff.mp herr
  simp [IsDidError]

/-- A string that does not parse is refused for what is wrong with it as a DID. -/
theorem Did.parse_err {input : String} {e : MaError} (herr : Did.parse lib input = Err e) :
    IsDidError e := by
  simp only [Did.parse, bind_eq_err_iff, reject_if_eq_err_iff, ok_or_eq_err_iff] at herr
  rcases herr with ⟨_, rfl⟩ | ⟨_, _, ⟨_, rfl⟩ | ⟨stripped, _, hparts⟩⟩
  · simp [IsDidError]
  · simp [IsDidError]
  · split at hparts
    · cases hparts
      simp [IsDidError]
    · cases hparts
      simp [IsDidError]
    · rcases bind_eq_err_iff.mp hparts with hidentifier | ⟨_, _, hok⟩
      · exact validate_identifier_err hidentifier
      · cases hok
    · rcases bind_eq_err_iff.mp hparts with hidentifier | ⟨_, _, hrest⟩
      · exact validate_identifier_err hidentifier
      · rcases bind_eq_err_iff.mp hrest with hfragment | ⟨_, _, hok⟩
        · exact validate_fragment_err hfragment
        · cases hok
    · cases hparts
      simp [IsDidError]

end

end ma_core.did

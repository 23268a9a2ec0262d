import MaCore.Base.Report
import MaCore.Base.Trim
import MaCore.Kubo.Fetch
import MaCore.Kubo.Prefixes

open rust
open ma_core.error ma_core.did ma_core.doc ma_core.kubo

namespace ma_core.kubo

theorem strip_prefixes_suffix (start : String) (fuel : Nat) (value : String) :
    (strip_prefixes start fuel value).toList <:+ value.toList := by
  induction fuel generalizing value with
  | zero => exact List.suffix_rfl
  | succ fuel ih =>
    rw [strip_prefixes]
    split
    · rename_i rest hstrip
      rw [stripPrefix_eq_some_iff.mp hstrip, String.toList_append]
      exact (ih rest).trans (List.suffix_append _ _)
    · exact List.suffix_rfl

/-- There is no white space around a path. -/
theorem trim_normalize_ipfs_arg (cid_or_path : String) :
    trim (normalize_ipfs_arg cid_or_path) = normalize_ipfs_arg cid_or_path := by
  obtain ⟨value, hvalue⟩ : ∃ value, value.toList <:+ trimList is_whitespace cid_or_path.toList ∧
      normalize_ipfs_arg cid_or_path = "/ipfs/" ++ value := by
    refine ⟨_, ?_, rfl⟩
    rw [trim_start_matches, String.toList_ofList]
    refine (List.dropWhile_suffix _).trans ((strip_prefixes_suffix _ _ _).trans ?_)
    rw [trim, String.toList_ofList]
  obtain ⟨hsuffix, hpath⟩ := hvalue
  have htrimmed := trimList_trimmed cid_or_path.toList
  apply Trimmed.trim_eq
  rw [hpath, String.toList_append]
  constructor
  · intro c hc
    cases hc
    decide
  · intro c hc
    by_cases hempty : value.toList = []
    · rw [hempty] at hc
      cases hc
      decide
    · obtain ⟨before, hbefore⟩ := hsuffix
      apply htrimmed.last c
      rw [← hbefore, List.getLast?_append_of_ne_nil _ hempty]
      rwa [List.getLast?_append_of_ne_nil _ hempty] at hc

end ma_core.kubo

namespace ma_core.ipfs

/-- What Kubo daemons hold: the identifiers of the keys in each keystore, the block of each path, and the paths each
    name was published with, the latest last. -/
structure Daemon where
  keys : String → Map String String
  blocks : String → Map String Bytes
  records : String → String → List String
  normalized : ∀ kubo_url name path, path ∈ records kubo_url name → ∃ cid, path = normalize_ipfs_arg cid

namespace Daemon

/-- One more key. -/
def with_key (self : Daemon) (kubo_url : String) (key : KuboKey) : Daemon :=
  { self with
    keys := fun url => if url = kubo_url then (self.keys url).insert key.name key.id else self.keys url }

/-- One more block. -/
def with_block (self : Daemon) (kubo_url path : String) (block : Bytes) : Daemon :=
  { self with
    blocks := fun url => if url = kubo_url then (self.blocks url).insert path block else self.blocks url }

/-- One more record. -/
def with_record (self : Daemon) (kubo_url name cid : String) : Daemon :=
  { self with
    records := fun url n =>
      if url = kubo_url ∧ n = name then self.records url n ++ [normalize_ipfs_arg cid] else self.records url n
    normalized := by
      intro url n path hpath
      split at hpath
      · obtain hold | hnew := List.mem_append.mp hpath
        · exact self.normalized url n path hold
        · exact ⟨cid, List.mem_singleton.mp hnew⟩
      · exact self.normalized url n path hpath }

/-- What an argument refers to: a path itself, or the path a name was published with last. -/
def Locates (self : Daemon) (kubo_url arg path : String) : Prop :=
  (arg = path ∧ ∃ cid, path = normalize_ipfs_arg cid) ∨
    ∃ name, arg = "/ipns/" ++ name ∧ (self.records kubo_url name).getLast? = some path

/-- The reply is an error. -/
def Failed : (lookup : Lookup) → lookup.Reply → Prop
  | .call (.list_keys ..), .error _ | .call (.import_key ..), .error _ | .call (.dag_put_cbor ..), .error _
  | .call (.name_publish_with_options ..), .error _ | .call (.name_resolve ..), .error _ | .dag_get .., .error _ =>
    True
  | _, _ => False

/-- How Kubo may reply. A request that fails may have taken effect before. A block is stored as it is or re-encoded;
    a key is imported under a name that is free. -/
inductive Replies (lib : Lib) (daemon : Daemon) : (lookup : Lookup) → lookup.Reply → Daemon → Prop
  | listed (kubo_url : String) (keys : List KuboKey)
    (hkeys : ∀ key, key ∈ keys ↔ (daemon.keys kubo_url).get key.name = some key.id) :
    Replies lib daemon (.call (.list_keys kubo_url)) (.ok keys) daemon
  | imported (kubo_url : String) (key_bytes : Bytes) (key : KuboKey)
    (hfree : (daemon.keys kubo_url).get key.name = none) :
    Replies lib daemon (.call (.import_key kubo_url key.name key_bytes)) (.ok key) (daemon.with_key kubo_url key)
  | put (kubo_url : String) (data : Bytes) (pin : Bool) (cid : String) (block : Bytes)
    (hblock : Document.decode lib block = Document.decode lib data)
    (hsame : ∀ stored, (daemon.blocks kubo_url).get (normalize_ipfs_arg cid) = some stored → stored = block) :
    Replies lib daemon (.call (.dag_put_cbor kubo_url data pin)) (.ok cid)
      (daemon.with_block kubo_url (normalize_ipfs_arg cid) block)
  | named (kubo_url key_name cid : String) (options : IpnsPublishOptions) (id value : String)
    (hkey : (daemon.keys kubo_url).get key_name = some id) :
    Replies lib daemon (.call (.name_publish_with_options kubo_url key_name cid options)) (.ok value)
      (daemon.with_record kubo_url (trim id) cid)
  | resolved (kubo_url name : String) (recursive : Bool) (path : String)
    (hpath : (daemon.records kubo_url name).getLast? = some path) :
    Replies lib daemon (.call (.name_resolve kubo_url ("/ipns/" ++ name) recursive)) (.ok path) daemon
  | got (kubo_url arg path : String) (block : Bytes) (hpath : daemon.Locates kubo_url arg path)
    (hblock : (daemon.blocks kubo_url).get path = some block) :
    Replies lib daemon (.dag_get kubo_url arg) (.ok block) daemon
  | pinned (rpc : Rpc) (reply : rpc.Reply) : Replies lib daemon (.call (.pins rpc)) reply daemon
  | slept (delay : Duration) : Replies lib daemon (.call (.sleep delay)) () daemon
  | scheduled (request : PinCleanupRequest) (taken : Bool) :
    Replies lib daemon (.call (.schedule request)) taken daemon
  | failed (lookup : Lookup) (reply : lookup.Reply) (hfailed : Failed lookup reply) :
    Replies lib daemon lookup reply daemon
  | failed_late (lookup : Lookup) (value reply : lookup.Reply) (daemon' : Daemon) (hfailed : Failed lookup reply)
    (hdone : Replies lib daemon lookup value daemon') : Replies lib daemon lookup reply daemon'

/-- Keys and blocks stay, and records are added. -/
structure Grows (before after : Daemon) : Prop where
  keys : ∀ kubo_url name id, (before.keys kubo_url).get name = some id → (after.keys kubo_url).get name = some id
  blocks : ∀ kubo_url path block, (before.blocks kubo_url).get path = some block →
    (after.blocks kubo_url).get path = some block
  records : ∀ kubo_url name, before.records kubo_url name <+: after.records kubo_url name

section
variable {lib : Lib} {daemon daemon' before after : Daemon} {kubo_url url name path : String} {n : Nat}

theorem Grows.refl (daemon : Daemon) : daemon.Grows daemon where
  keys _ _ _ h := h
  blocks _ _ _ h := h
  records _ _ := List.prefix_rfl

theorem Grows.trans (hfirst : before.Grows daemon) (hsecond : daemon.Grows after) : before.Grows after where
  keys _ _ _ h := hsecond.keys _ _ _ (hfirst.keys _ _ _ h)
  blocks _ _ _ h := hsecond.blocks _ _ _ (hfirst.blocks _ _ _ h)
  records _ _ := (hfirst.records _ _).trans (hsecond.records _ _)

theorem Grows.transitive (a b c : Daemon) (hfirst : a.Grows b) (hsecond : b.Grows c) : a.Grows c :=
  hfirst.trans hsecond

theorem keys_with_key {key : KuboKey} :
    (daemon.with_key kubo_url key).keys kubo_url = (daemon.keys kubo_url).insert key.name key.id := if_pos rfl

theorem blocks_with_block {block : Bytes} :
    (daemon.with_block kubo_url path block).blocks kubo_url = (daemon.blocks kubo_url).insert path block := if_pos rfl

theorem records_with_record {cid : String} : (daemon.with_record kubo_url name cid).records kubo_url name =
    daemon.records kubo_url name ++ [normalize_ipfs_arg cid] := if_pos ⟨rfl, rfl⟩

theorem records_with_record_of_ne {cid other : String} (hne : ¬ (url = kubo_url ∧ other = name)) :
    (daemon.with_record kubo_url name cid).records url other = daemon.records url other := if_neg hne

theorem Replies.grows {lookup : Lookup} {reply : lookup.Reply} (hreply : daemon.Replies lib lookup reply daemon') :
    daemon.Grows daemon' := by
  induction hreply with
  | imported kubo_url key_bytes key hfree =>
    refine { Grows.refl daemon with keys := fun url name id hname => ?_ }
    dsimp only [with_key]
    split
    · rename_i hurl
      subst hurl
      rw [Map.get_insert, if_neg]
      · exact hname
      · rintro rfl
        rw [hfree] at hname
        cases hname
    · exact hname
  | put kubo_url data pin cid block hblock hsame =>
    refine { Grows.refl daemon with blocks := fun url path stored hstored => ?_ }
    dsimp only [with_block]
    split
    · rename_i hurl
      subst hurl
      rw [Map.get_insert]
      split
      · rename_i hpath
        rw [hpath] at hstored
        rw [hsame stored hstored]
      · exact hstored
    · exact hstored
  | named kubo_url key_name cid options id value hkey =>
    refine { Grows.refl daemon with records := fun url name => ?_ }
    dsimp only [with_record]
    split
    · exact List.prefix_append _ _
    · exact List.prefix_rfl
  | failed_late _ _ _ _ _ _ ih => exact ih
  | listed | resolved | got | pinned | slept | scheduled | failed => exact Grows.refl daemon

end

end Daemon

end ma_core.ipfs

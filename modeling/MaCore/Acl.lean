import Mathlib.Data.Finset.Basic
import MaCore.Base.Result
import MaCore.Base.Strings

open rust

namespace ma_core.acl

/-! Capability-based access control. -/

/-- `Error::Acl`, the error of this module. -/
structure AclError where
  detail : String
deriving DecidableEq, Repr

abbrev AclResult (α : Type) := rust.Result AclError α

/-- The capability to deliver messages to an inbox. -/
def CAP_INBOX : String := "inbox"

/-- Any entity of the same runtime. -/
def LOCAL_ENTITY_WILDCARD : String := "#"

def GROUP_PREFIX : String := "+"

/-- What a principal may do. `"*"` among the allowed capabilities grants all of them. -/
inductive CapabilityEntry where
  | Deny
  | Allow (caps : Finset String)
deriving DecidableEq

namespace CapabilityEntry

def from_caps (caps : List String) : CapabilityEntry := Allow caps.toFinset

def has (self : CapabilityEntry) (cap : String) : Bool :=
  match self with
  | Deny => false
  | Allow caps => decide (cap ∈ caps) || decide ("*" ∈ caps)

end CapabilityEntry

/-- The entries of an ACL in the order a walk over it meets them; one for a key. -/
structure AclMap where
  entries : List (String × CapabilityEntry)
  nodup : (entries.map Prod.fst).Nodup

namespace AclMap

def get (self : AclMap) (key : String) : Option CapabilityEntry := self.entries.lookup key

def keys (self : AclMap) : List String := self.entries.map Prod.fst

/-- `HashMap::insert`: an entry already there for the key is replaced. -/
def insert (self : AclMap) (key : String) (entry : CapabilityEntry) : AclMap where
  entries := (key, entry) :: self.entries.filter (fun other => other.1 != key)
  nodup := by
    have hrest : ((self.entries.filter fun other => other.1 != key).map Prod.fst).Nodup :=
      self.nodup.sublist (List.filter_sublist.map Prod.fst)
    rw [List.map_cons, List.nodup_cons]
    refine ⟨?_, hrest⟩
    intro hmem
    obtain ⟨other, hother, hkey⟩ := List.mem_map.mp hmem
    rw [List.mem_filter, bne_iff_ne] at hother
    exact hother.2 hkey

theorem get_insert (self : AclMap) (key k : String) (entry : CapabilityEntry) :
    (self.insert key entry).get k = if k = key then some entry else self.get k := by
  by_cases hkey : k = key
  · subst hkey
    simp [insert, get]
  · have hbeq : (k == key) = false := beq_eq_false_iff_ne.mpr hkey
    have hrest (entries : List (String × CapabilityEntry)) :
        (entries.filter fun other => other.1 != key).lookup k = entries.lookup k := by
      induction entries with
      | nil => rfl
      | cons other entries ih =>
        obtain ⟨name, value⟩ := other
        by_cases hother : name = key
        · subst hother
          simpa [List.lookup_cons, hbeq] using ih
        · simp [List.lookup_cons, hother, ih]
    rw [if_neg hkey, get, insert, List.lookup_cons, hbeq]
    exact hrest self.entries

end AclMap

/-- A foreign DID URL is looked up without its fragment. -/
def normalize_principal (did : String) : String :=
  if starts_with "did:" did then
    match find '#' did with
    | some (identity, _) => identity
    | none => did
  else did

def apply_entry (entry : CapabilityEntry) (cap caller : String) : AclResult Unit :=
  match entry with
  | .Deny => Err { detail := "operation denied for " ++ caller }
  | .Allow caps =>
    if decide (cap ∈ caps) || decide ("*" ∈ caps) then .ok ()
    else Err { detail := "capability '" ++ cap ++ "' denied for " ++ caller }

def check_cap (acl : AclMap) (caller cap : String) : AclResult Unit :=
  let normalized := normalize_principal caller
  match acl.get normalized with
  | some direct => apply_entry direct cap caller
  | none =>
    match if starts_with "#" normalized then acl.get LOCAL_ENTITY_WILDCARD else none with
    | some local_wild => apply_entry local_wild cap caller
    | none =>
      match acl.get "*" with
      | none => Err { detail := "no ACL entry for " ++ caller }
      | some entry => apply_entry entry cap caller

def is_valid_acl_key (key : String) : Bool := !key.isEmpty

def is_valid_group_key (key : String) : Bool :=
  match stripPrefix GROUP_PREFIX key with
  | some rest =>
    match find '.' rest with
    | some (handle, path) => !handle.isEmpty && !path.isEmpty
    | none => false
  | none => false

/-- Whether a key says who, and is not the name of a capability. -/
def is_principal_key (key : String) : Bool :=
  key == "*" || (starts_with "did:" key && !decide ('#' ∈ key.toList)) || starts_with "#" key ||
    is_valid_group_key key

def validate_acl_map (acl : AclMap) : AclResult Unit :=
  forM acl.keys fun key =>
    reject_if (!is_valid_acl_key key)
      { detail := "invalid ACL key " ++ key.quote ++ ": key must be non-empty" }

end ma_core.acl

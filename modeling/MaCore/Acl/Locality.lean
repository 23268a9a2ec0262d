import Mathlib.Data.List.TakeWhile
import MaCore.Acl.Precedence

open rust

namespace ma_core.acl

variable {a b : AclMap} {caller cap key : String}

/-- Two ACLs hold the same entries under the keys that match a caller. -/
structure Agree (caller : String) (a b : AclMap) : Prop where
  principal : a.get (normalize_principal caller) = b.get (normalize_principal caller)
  everyone : a.get "*" = b.get "*"
  local_entities : starts_with "#" (normalize_principal caller) = true →
    a.get LOCAL_ENTITY_WILDCARD = b.get LOCAL_ENTITY_WILDCARD

theorem Agree.get_eq (hagree : Agree caller a b) (hkey : key ∈ matching_keys caller) : a.get key = b.get key := by
  rw [matching_keys, List.mem_cons, List.mem_append, List.mem_singleton] at hkey
  obtain rfl | hlocal | rfl := hkey
  · exact hagree.principal
  · by_cases hhash : starts_with "#" (normalize_principal caller) = true
    · rw [if_pos hhash, List.mem_singleton] at hlocal
      rw [hlocal]
      exact hagree.local_entities hhash
    · rw [if_neg hhash] at hlocal
      cases hlocal
  · exact hagree.everyone

/-- The other entries do not matter. -/
theorem Agree.check_cap_eq (hagree : Agree caller a b) (cap : String) :
    check_cap a caller cap = check_cap b caller cap := by
  have hdeciding : deciding_entry a caller = deciding_entry b caller := by
    unfold deciding_entry
    generalize hkeys : matching_keys caller = keys
    have hget : ∀ key ∈ keys, a.get key = b.get key := fun key hkey => hagree.get_eq (hkeys ▸ hkey)
    clear hkeys
    induction keys with
    | nil => rfl
    | cons key keys ih =>
      rw [List.findSome?_cons, List.findSome?_cons, hget key List.mem_cons_self,
        ih fun other hother => hget other (List.mem_cons_of_mem key hother)]
  rw [acl.check_cap_eq, acl.check_cap_eq, hdeciding]

/-- The principal of a DID with or without a fragment is the text before the first `#`. -/
theorem normalize_principal_did {did : String} (hdid : starts_with "did:" did = true) :
    normalize_principal did = String.ofList (did.toList.takeWhile (· != '#')) := by
  rw [normalize_principal, if_pos hdid, find]
  by_cases hhash : '#' ∈ did.toList
  · rw [if_pos hhash]
  · have hall : did.toList.takeWhile (· != '#') = did.toList := by
      rw [List.takeWhile_eq_self_iff]
      intro c hmem
      exact bne_iff_ne.mpr fun heq => hhash (heq ▸ hmem)
    rw [if_neg hhash, hall, String.ofList_toList]

theorem takeWhile_before (c : Char) (text rest : List Char) :
    (text ++ c :: rest).takeWhile (· != c) = text.takeWhile (· != c) := by
  induction text with
  | nil => simp
  | cons first text ih =>
    by_cases hfirst : first = c
    · simp [hfirst]
    · simp [hfirst, ih]

theorem normalize_principal_fragment (id fragment : String) :
    normalize_principal ("did:" ++ id ++ "#" ++ fragment) = normalize_principal ("did:" ++ id) := by
  have hdid (rest : String) : starts_with "did:" ("did:" ++ rest) = true := starts_with_iff.mpr ⟨rest, rfl⟩
  have hurl := hdid (id ++ "#" ++ fragment)
  rw [← String.append_assoc, ← String.append_assoc] at hurl
  have hsplit : ("did:" ++ id ++ "#" ++ fragment).toList = ("did:" ++ id).toList ++ '#' :: fragment.toList := by
    simp
  rw [normalize_principal_did hurl, normalize_principal_did (hdid id), hsplit, takeWhile_before]

/-- Callers of one principal are granted the same. -/
theorem check_cap_ok_iff_of_principal {left right : String}
    (hprincipal : normalize_principal left = normalize_principal right) (a : AclMap) (cap : String) :
    check_cap a left cap = .ok () ↔ check_cap a right cap = .ok () := by
  have hdeciding : deciding_entry a left = deciding_entry a right := by
    unfold deciding_entry matching_keys
    rw [hprincipal]
  rw [check_cap_eq, check_cap_eq, hdeciding]
  cases deciding_entry a right with
  | none => simp
  | some entry => rw [apply_entry_eq_ok_iff, apply_entry_eq_ok_iff]

/-- After an insertion the entry that decides is the one inserted or the one that decided before. -/
theorem deciding_entry_insert {entry decided : CapabilityEntry}
    (hdecides : deciding_entry (a.insert key entry) caller = some decided) :
    decided = entry ∨ deciding_entry a caller = some decided := by
  obtain ⟨before, k, after, hkeys, hfound, hbefore⟩ := List.findSome?_eq_some_iff.mp hdecides
  rw [AclMap.get_insert] at hfound
  by_cases hkey : k = key
  · rw [if_pos hkey] at hfound
    exact .inl (Option.some.inj hfound).symm
  · rw [if_neg hkey] at hfound
    refine .inr (List.findSome?_eq_some_iff.mpr ⟨before, k, after, hkeys, hfound, fun other hother => ?_⟩)
    have habsent := hbefore other hother
    rw [AclMap.get_insert] at habsent
    split at habsent
    · cases habsent
    · exact habsent

/-- Inserting a deny grants nobody anything. -/
theorem insert_deny_err (key : String) (herr : ∃ e, check_cap a caller cap = Err e) :
    ∃ e, check_cap (a.insert key .Deny) caller cap = Err e := by
  rw [check_cap_err_iff] at herr ⊢
  intro entry hdecides
  obtain rfl | hbefore := deciding_entry_insert hdecides
  · rfl
  · exact herr entry hbefore

/-- A decision depends on the entries that match the caller and on nothing else, not on the fragment
    of a DID URL, and a deny put anywhere never opens access. -/
theorem decisions_local_and_deny_monotone :
    (∀ (a b : AclMap) (caller cap : String),
      a.get (normalize_principal caller) = b.get (normalize_principal caller) →
      a.get "*" = b.get "*" →
      (starts_with "#" (normalize_principal caller) = true →
        a.get LOCAL_ENTITY_WILDCARD = b.get LOCAL_ENTITY_WILDCARD) →
      check_cap a caller cap = check_cap b caller cap) ∧
    (∀ (acl : AclMap) (id f g cap : String),
      (check_cap acl ("did:" ++ id ++ "#" ++ f) cap = .ok () ↔
        check_cap acl ("did:" ++ id ++ "#" ++ g) cap = .ok ()) ∧
      (check_cap acl ("did:" ++ id ++ "#" ++ f) cap = .ok () ↔ check_cap acl ("did:" ++ id) cap = .ok ())) ∧
    ∀ (acl : AclMap) (key caller cap : String), (∃ e, check_cap acl caller cap = Err e) →
      ∃ e, check_cap (acl.insert key .Deny) caller cap = Err e := by
  refine ⟨?_, ?_, fun _ key _ _ => insert_deny_err key⟩
  · intro a b caller cap hprincipal heveryone hlocal
    exact Agree.check_cap_eq ⟨hprincipal, heveryone, hlocal⟩ cap
  · intro acl id f g cap
    have hf := normalize_principal_fragment id f
    have hg := normalize_principal_fragment id g
    exact ⟨check_cap_ok_iff_of_principal (hf.trans hg.symm) acl cap, check_cap_ok_iff_of_principal hf acl cap⟩

theorem decisions_local_and_deny_monotone_alice :
    check_cap closed_but_for_alice "did:ma:alice" CAP_INBOX =
        check_cap (closed_but_for_alice.insert "did:ma:bob" .Deny) "did:ma:alice" CAP_INBOX ∧
      (check_cap closed_but_for_alice "did:ma:alice#phone" CAP_INBOX = .ok () ↔
        check_cap closed_but_for_alice "did:ma:alice#laptop" CAP_INBOX = .ok ()) ∧
      (check_cap closed_but_for_alice "did:ma:alice#phone" CAP_INBOX = .ok () ↔
        check_cap closed_but_for_alice "did:ma:alice" CAP_INBOX = .ok ()) ∧
      ∃ e, check_cap (closed_but_for_alice.insert "did:ma:alice" .Deny) "did:ma:bob" CAP_INBOX = Err e := by
  obtain ⟨hlocal, hfragment, hdeny⟩ := decisions_local_and_deny_monotone
  obtain ⟨hother, hnone⟩ := hfragment closed_but_for_alice "ma:alice" "phone" "laptop" CAP_INBOX
  exact ⟨hlocal _ _ _ _ (by decide) (by decide) (by decide), hother, hnone, hdeny _ _ _ _ ⟨_, rfl⟩⟩

end ma_core.acl

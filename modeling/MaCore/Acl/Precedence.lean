import MaCore.Acl

open rust

namespace ma_core.acl

/-- The keys that match a caller, the most specific first. -/
def matching_keys (caller : String) : List String :=
  let normalized := normalize_principal caller
  normalized :: ((if starts_with "#" normalized then [LOCAL_ENTITY_WILDCARD] else []) ++ ["*"])

/-- The most specific entry that matches a caller. -/
def deciding_entry (acl : AclMap) (caller : String) : Option CapabilityEntry :=
  (matching_keys caller).findSome? acl.get

@[simp] theorem apply_entry_eq_ok_iff {entry : CapabilityEntry} {cap caller : String} {u : Unit} :
    apply_entry entry cap caller = .ok u ↔ entry.has cap = true := by
  cases entry with
  | Deny => simp [apply_entry, CapabilityEntry.has]
  | Allow caps =>
    rw [apply_entry, CapabilityEntry.has]
    split <;> simp_all

/-- An entry that does not grant a capability is an error, not a panic. -/
theorem apply_entry_err {entry : CapabilityEntry} {cap caller : String}
    (hhas : entry.has cap = false) : ∃ e, apply_entry entry cap caller = Err e := by
  cases entry with
  | Deny => exact ⟨_, rfl⟩
  | Allow caps =>
    rw [CapabilityEntry.has] at hhas
    exact ⟨_, by rw [apply_entry, hhas, if_neg Bool.false_ne_true]⟩

theorem check_cap_eq (acl : AclMap) (caller cap : String) :
    check_cap acl caller cap =
      match deciding_entry acl caller with
      | some entry => apply_entry entry cap caller
      | none => Err { detail := "no ACL entry for " ++ caller } := by
  unfold check_cap deciding_entry matching_keys
  cases hdirect : acl.get (normalize_principal caller) with
  | some direct => simp [hdirect]
  | none =>
    by_cases hlocal : starts_with "#" (normalize_principal caller) = true
    · cases hwild : acl.get LOCAL_ENTITY_WILDCARD with
      | some local_wild => simp [hdirect, hlocal, hwild]
      | none => cases hglobal : acl.get "*" <;> simp [hdirect, hlocal, hwild, hglobal]
    · cases hglobal : acl.get "*" <;> simp [hdirect, hlocal, hglobal]

/-- A call is refused unless the most specific matching entry grants the capability. -/
theorem check_cap_err_iff {acl : AclMap} {caller cap : String} :
    (∃ e, check_cap acl caller cap = Err e) ↔
      ∀ entry, deciding_entry acl caller = some entry → entry.has cap = false := by
  rw [check_cap_eq]
  cases hentry : deciding_entry acl caller with
  | none => simp
  | some entry =>
    constructor
    · rintro ⟨e, herr⟩ decided hdecided
      cases hdecided
      cases hhas : entry.has cap with
      | false => rfl
      | true =>
        have hok := (@apply_entry_eq_ok_iff entry cap caller ()).mpr hhas
        dsimp only at herr
        rw [hok] at herr
        cases herr
    · intro hrefuses
      exact apply_entry_err (hrefuses entry rfl)

/-- A more specific entry than that of `key` decides for the caller and grants the capability. -/
def Overridden (acl : AclMap) (caller cap key : String) : Prop :=
  ∃ before allowed after entry, matching_keys caller = before ++ allowed :: after ∧ key ∈ after ∧
    (∀ k ∈ before, acl.get k = none) ∧ acl.get allowed = some entry ∧ entry.has cap = true

/-- A deny on a matching entry refuses the caller, except where a more specific entry decides
    and allows. -/
theorem deny_wins_unless_overridden {acl : AclMap} {caller cap key : String}
    (hmatches : key ∈ matching_keys caller) (hdeny : acl.get key = some .Deny) :
    (∃ e, check_cap acl caller cap = Err e) ↔ ¬ Overridden acl caller cap key := by
  rw [check_cap_err_iff]
  constructor
  · rintro hrefuses ⟨before, allowed, after, entry, hkeys, _, hbefore, hallowed, hhas⟩
    have hdecides : deciding_entry acl caller = some entry :=
      List.findSome?_eq_some_iff.mpr ⟨before, allowed, after, hkeys, hallowed, hbefore⟩
    rw [hrefuses entry hdecides] at hhas
    cases hhas
  · intro hnot entry hdecides
    obtain ⟨before, allowed, after, hkeys, hallowed, hbefore⟩ := List.findSome?_eq_some_iff.mp hdecides
    by_contra hhas
    rw [Bool.not_eq_false] at hhas
    apply hnot
    refine ⟨before, allowed, after, entry, hkeys, ?_, hbefore, hallowed, hhas⟩
    rw [hkeys, List.mem_append, List.mem_cons] at hmatches
    rcases hmatches with hearlier | hsame | hlater
    · rw [hbefore key hearlier] at hdeny
      cases hdeny
    · rw [← hsame, hdeny] at hallowed
      cases hallowed
      cases hhas
    · exact hlater

/-- Everyone is denied, and one DID is allowed to deliver. -/
def closed_but_for_alice : AclMap where
  entries := [("*", .Deny), ("did:ma:alice", .from_caps [CAP_INBOX])]
  nodup := by decide

theorem deny_wins_unless_overridden_closed :
    "*" ∈ matching_keys "did:ma:bob" ∧ closed_but_for_alice.get "*" = some .Deny ∧
      ((∃ e, check_cap closed_but_for_alice "did:ma:bob" CAP_INBOX = Err e) ↔
        ¬ Overridden closed_but_for_alice "did:ma:bob" CAP_INBOX "*") :=
  ⟨by decide, rfl, deny_wins_unless_overridden (by decide) rfl⟩

theorem wildcard_deny_does_not_win :
    ¬ ∀ (acl : AclMap) (caller cap key : String), key ∈ matching_keys caller →
      acl.get key = some .Deny → ∃ e, check_cap acl caller cap = Err e := by
  intro hwins
  obtain ⟨e, herr⟩ := hwins closed_but_for_alice "did:ma:alice" CAP_INBOX "*" (by decide) rfl
  have hok : check_cap closed_but_for_alice "did:ma:alice" CAP_INBOX = .ok () := by decide
  rw [hok] at herr
  cases herr

/-- A DID URL, which is not among the documented key forms. -/
def is_did_url (key : String) : Bool := starts_with "did:" key && decide ('#' ∈ key.toList)

theorem normalize_principal_eq_self {key : String} (hkey : is_did_url key = false) :
    normalize_principal key = key := by
  unfold normalize_principal
  split
  · rename_i hdid
    have habsent : find '#' key = none := by
      rw [find_eq_none_iff]
      simpa [is_did_url, hdid] using hkey
    rw [habsent]
  · rfl

/-- The DID of a DID URL starts as the URL does. -/
theorem normalize_principal_url {key : String} (hkey : is_did_url key = true) :
    starts_with "#" (normalize_principal key) = false := by
  rw [is_did_url, Bool.and_eq_true, decide_eq_true_eq] at hkey
  obtain ⟨hdid, hhash⟩ := hkey
  obtain ⟨rest, rfl⟩ := starts_with_iff.mp hdid
  rw [normalize_principal, if_pos hdid, find, if_pos hhash]
  simp only [starts_with, String.toList_append, String.toList_ofList]
  rfl

/-- The caller a deny names is refused everything. -/
theorem deny_blocks {acl : AclMap} {key : String} (hurl : is_did_url key = false)
    (hdeny : acl.get key = some .Deny) (cap : String) : ∃ e, check_cap acl key cap = Err e := by
  have hdecides : deciding_entry acl key = some .Deny := by
    simp [deciding_entry, matching_keys, normalize_principal_eq_self hurl, hdeny]
  rw [check_cap_err_iff, hdecides]
  intro entry hentry
  cases hentry
  rfl

theorem starts_with_head {first : Char} {start key : String} (rest : String)
    (hstart : start.toList = first :: rest.toList) (hkey : starts_with start key = true) :
    key.toList.head? = some first := by
  obtain ⟨tail, rfl⟩ := starts_with_iff.mp hkey
  rw [String.toList_append, hstart]
  rfl

/-- The key forms that say who leave out DID URLs, so a deny stored under one is never dead. -/
theorem is_did_url_of_is_principal_key {key : String} (hkey : is_principal_key key = true) :
    is_did_url key = false := by
  by_contra hurl
  rw [Bool.not_eq_false, is_did_url, Bool.and_eq_true, decide_eq_true_eq] at hurl
  obtain ⟨hdid, hhash⟩ := hurl
  have hhead : key.toList.head? = some 'd' := starts_with_head "id:" rfl hdid
  rw [is_principal_key, Bool.or_eq_true, Bool.or_eq_true, Bool.or_eq_true, Bool.and_eq_true] at hkey
  rcases hkey with ((hwild | ⟨_, hno_hash⟩) | hlocal) | hgroup
  · rw [beq_iff_eq] at hwild
    subst hwild
    cases hhead
  · simp [hhash] at hno_hash
  · rw [starts_with_head "" rfl hlocal] at hhead
    cases hhead
  · unfold is_valid_group_key at hgroup
    split at hgroup
    · rename_i tail hstrip
      rw [stripPrefix_eq_some_iff.mp hstrip, String.toList_append] at hhead
      simp [GROUP_PREFIX] at hhead
    · cases hgroup

/-- Keys of the documented forms deny the caller they name. -/
theorem principal_deny_blocks {acl : AclMap} {key : String} (hkey : is_principal_key key = true)
    (hdeny : acl.get key = some .Deny) (cap : String) : ∃ e, check_cap acl key cap = Err e :=
  deny_blocks (is_did_url_of_is_principal_key hkey) hdeny cap

def CapabilityEntry.grants_nothing : CapabilityEntry → Bool
  | .Deny => true
  | .Allow caps => decide (caps = ∅)

theorem CapabilityEntry.grants_nothing_iff {entry : CapabilityEntry} :
    entry.grants_nothing = true ↔ ∀ cap, entry.has cap = false := by
  cases entry with
  | Deny => simp [grants_nothing, has]
  | Allow caps =>
    simp only [grants_nothing, has, decide_eq_true_eq, Bool.or_eq_false_iff, decide_eq_false_iff_not]
    constructor
    · rintro rfl cap
      simp
    · intro hnone
      exact Finset.eq_empty_of_forall_notMem fun cap => (hnone cap).1

/-- A deny stored under a key blocks the caller of that name, but for a DID URL: its entry is
    never looked up, and the caller gets what its DID, or else everyone, is granted. -/
theorem deny_blocks_its_own_key_iff {acl : AclMap} {key : String} (hdeny : acl.get key = some .Deny) :
    (∀ cap, ∃ e, check_cap acl key cap = Err e) ↔
      is_did_url key = false ∨
        ∀ entry, (acl.get (normalize_principal key) <|> acl.get "*") = some entry →
          entry.grants_nothing = true := by
  cases hurl : is_did_url key with
  | false => exact ⟨fun _ => .inl rfl, fun _ => deny_blocks hurl hdeny⟩
  | true =>
    have hdecides : deciding_entry acl key = (acl.get (normalize_principal key) <|> acl.get "*") := by
      simp only [deciding_entry, matching_keys, normalize_principal_url hurl, Bool.false_eq_true,
        if_false, List.nil_append, List.findSome?_cons, List.findSome?_nil]
      cases acl.get (normalize_principal key) <;> cases acl.get "*" <;> rfl
    simp only [check_cap_err_iff, hdecides, CapabilityEntry.grants_nothing_iff, Bool.true_eq_false,
      false_or]
    exact ⟨fun hrefused entry hentry cap => hrefused cap entry hentry,
      fun hnothing cap entry hentry => hnothing entry hentry cap⟩

/-- Everyone may deliver but one service of an identity, which is denied by its DID URL. -/
def open_but_for_a_url : AclMap where
  entries := [("*", .from_caps [CAP_INBOX]), ("did:ma:eve#bot", .Deny)]
  nodup := by decide

theorem deny_blocks_its_own_key_iff_url :
    validate_acl_map open_but_for_a_url = .ok () ∧ starts_with "did:" "did:ma:eve#bot" = true ∧
      open_but_for_a_url.get "did:ma:eve#bot" = some .Deny ∧
      ((∀ cap, ∃ e, check_cap open_but_for_a_url "did:ma:eve#bot" cap = Err e) ↔
        is_did_url "did:ma:eve#bot" = false ∨
          ∀ entry, (open_but_for_a_url.get (normalize_principal "did:ma:eve#bot") <|>
            open_but_for_a_url.get "*") = some entry → entry.grants_nothing = true) :=
  ⟨by decide, by decide, rfl, deny_blocks_its_own_key_iff rfl⟩

theorem url_deny_is_dead :
    ¬ ∀ (acl : AclMap) (key : String), validate_acl_map acl = .ok () →
      (starts_with "did:" key = true ∨ starts_with "#" key = true ∨ key = "*") →
      acl.get key = some .Deny → ∀ cap, ∃ e, check_cap acl key cap = Err e := by
  intro hblocks
  obtain ⟨e, herr⟩ := hblocks open_but_for_a_url "did:ma:eve#bot" (by decide) (.inl (by decide)) rfl
    CAP_INBOX
  have hok : check_cap open_but_for_a_url "did:ma:eve#bot" CAP_INBOX = .ok () := by decide
  rw [hok] at herr
  cases herr

end ma_core.acl

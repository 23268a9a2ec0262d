import MaCore.Config.Build

open rust
open ma_core.error ma_core.did ma_core.key ma_core.doc ma_core.identity

namespace ma_core.doc

variable {lib : Lib} {document changed : Document} {method : VerificationMethod}

/-- Adding a method does not look at the times. -/
theorem Document.add_verification_method_update
    (hadd : document.add_verification_method lib method = .ok changed) (created_at updated_at : String) :
    ({ document with created_at, updated_at } : Document).add_verification_method lib method =
      .ok { changed with created_at, updated_at } := by
  obtain ⟨⟨⟩, hvalid, hchanged⟩ := bind_eq_ok_iff.mp hadd
  cases hchanged
  rw [add_verification_method, hvalid, ok_bind]
  dsimp only
  split <;> rfl

theorem Document.add_verification_method_updated_at
    (hadd : document.add_verification_method lib method = .ok changed) :
    changed.updated_at = document.updated_at := by
  obtain ⟨_, rfl | rfl⟩ := Document.add_verification_method_eq_ok hadd
  · rfl
  · rfl

/-- The time library writes different seconds differently, and the epoch as the code does itself. -/
structure WritesSeconds (format : Int → Option String) : Prop where
  injective : ∀ s s' text, format s = some text → format s' = some text → s = s'
  epoch : format 0 = some "1970-01-01T00:00:00Z"

/-- The second that is written at a reading of the clock: the epoch for one that the library cannot write. -/
def written_second (format : Int → Option String) (unix_seconds : UInt64) : Nat :=
  if unix_seconds.toNat < 2 ^ 63 ∧ (format unix_seconds.toNat).isSome then unix_seconds.toNat else 0

theorem format_written_second {format : Int → Option String} (hwrites : WritesSeconds format)
    (unix_seconds : UInt64) :
    format (written_second format unix_seconds) = some (now_iso_utc format unix_seconds) := by
  unfold written_second now_iso_utc
  by_cases hfits : unix_seconds.toNat < 2 ^ 63
  · rw [if_pos hfits, Option.bind_some]
    cases hformat : format unix_seconds.toNat with
    | some text => rw [if_pos ⟨hfits, rfl⟩, hformat, Option.getD_some]
    | none => simpa using hwrites.epoch
  · rw [if_neg hfits, if_neg (fun hwritten => hfits hwritten.1)]
    exact hwrites.epoch

/-- Two readings are written as the same time exactly if they are the same second. -/
theorem now_iso_utc_eq_iff {format : Int → Option String} (hwrites : WritesSeconds format) {t1 t2 : UInt64} :
    now_iso_utc format t1 = now_iso_utc format t2 ↔ written_second format t1 = written_second format t2 := by
  have hfirst := format_written_second hwrites t1
  have hsecond := format_written_second hwrites t2
  constructor
  · intro hsame
    rw [hsame] at hfirst
    exact Int.ofNat_inj.mp (hwrites.injective _ _ _ hfirst hsecond)
  · intro hsame
    rw [hsame, hsecond] at hfirst
    exact (Option.some.inj hfirst).symm

end ma_core.doc

namespace ma_core.identity

variable {lib : Lib} {first second : GeneratedIdentity} {earlier later ipns : String} {signing_key : SigningKey}
  {encryption_key : EncryptionKey}

/-- An identity that is built again has another time and another proof. -/
theorem build_identity_from_keys_again
    (hfirst : build_identity_from_keys lib earlier ipns signing_key encryption_key = .ok first)
    (hsecond : build_identity_from_keys lib later ipns signing_key encryption_key = .ok second) :
    first.document.updated_at = earlier ∧ ∃ proof,
      second.document = { first.document with created_at := later, updated_at := later, proof } := by
  simp only [build_identity_from_keys, bind_eq_ok_iff, validated_eq_ok_iff] at hfirst hsecond
  obtain ⟨subject_url, hsubject, assertion, hassertion, agreement, hagreement, one, hone, two, htwo, signed,
    hsigned, hidentity⟩ := hfirst
  obtain ⟨_, hsubject', _, hassertion', _, hagreement', one', hone', two', htwo', signed',
    hsigned', hidentity'⟩ := hsecond
  cases hsubject.symm.trans hsubject'
  cases hassertion.symm.trans hassertion'
  cases hagreement.symm.trans hagreement'
  cases (Document.add_verification_method_update hone later later).symm.trans hone'
  cases (Document.add_verification_method_update htwo later later).symm.trans htwo'
  have hupdated := (Document.add_verification_method_updated_at htwo).trans
    (Document.add_verification_method_updated_at hone)
  obtain ⟨proof, rfl⟩ := Document.sign_eq_ok hsigned
  obtain ⟨proof', rfl⟩ := Document.sign_eq_ok hsigned'
  cases hidentity
  cases hidentity'
  exact ⟨hupdated, proof', rfl⟩

end ma_core.identity

namespace ma_core.config

section
variable {lib : Lib} {bundle : SecretBundle} {first second : GeneratedIdentity} {earlier later : String}

/-- Two identities generated from one bundle differ in the time of generation and in the proof only. -/
theorem SecretBundle.generate_identity_again (hfirst : bundle.generate_identity lib earlier = .ok first)
    (hsecond : bundle.generate_identity lib later = .ok second) :
    first.document.updated_at = earlier ∧
      second.document = { first.document with updated_at := later, proof := second.document.proof } := by
  simp only [generate_identity, bind_eq_ok_iff, secrets_eq_ok_iff] at hfirst hsecond
  obtain ⟨ipns, hipns, sign_did, hsign_did, encryption_key, hencryption, built, hbuilt, vm, _, signed, hsigned,
    hidentity⟩ := hfirst
  obtain ⟨_, hipns', _, hsign_did', _, hencryption', built', hbuilt', vm', _, signed', hsigned',
    hidentity'⟩ := hsecond
  cases hipns.symm.trans hipns'
  cases hsign_did.symm.trans hsign_did'
  cases hencryption.symm.trans hencryption'
  obtain ⟨hupdated, _, hdocument⟩ := build_identity_from_keys_again hbuilt hbuilt'
  obtain ⟨proof, rfl⟩ := Document.sign_eq_ok hsigned
  obtain ⟨proof', rfl⟩ := Document.sign_eq_ok hsigned'
  cases hidentity
  cases hidentity'
  refine ⟨hupdated, ?_⟩
  rw [hdocument]

/-- It generates the same document exactly if it is told the same time. -/
theorem SecretBundle.generate_identity_same_iff (hfirst : bundle.generate_identity lib earlier = .ok first)
    (hsecond : bundle.generate_identity lib later = .ok second) :
    first.document = second.document ↔ earlier = later := by
  constructor
  · intro hsame
    obtain ⟨hupdated, hagain⟩ := generate_identity_again hfirst hsecond
    rw [← hupdated, hsame, hagain]
  · intro htimes
    rw [htimes, hsecond] at hfirst
    cases hfirst
    rfl

/-- A bundle generates the same document at two readings of the clock exactly if both are the same second. -/
theorem SecretBundle.generate_identity_stable_iff {format : Int → Option String} (hwrites : WritesSeconds format)
    {t1 t2 : UInt64} (hfirst : bundle.generate_identity lib (doc.now_iso_utc format t1) = .ok first)
    (hsecond : bundle.generate_identity lib (doc.now_iso_utc format t2) = .ok second) :
    first.document = second.document ↔ written_second format t1 = written_second format t2 := by
  rw [SecretBundle.generate_identity_same_iff hfirst hsecond, now_iso_utc_eq_iff hwrites]

end

/-- The time library at the epoch and at two seconds of the year 2026. -/
def formats_two_seconds (seconds : Int) : Option String :=
  if seconds = 0 then some "1970-01-01T00:00:00Z"
  else if seconds = 1786192496 then some "2026-08-08T12:34:56Z"
  else if seconds = 1786192497 then some "2026-08-08T12:34:57Z"
  else none

theorem formats_two_seconds_writes : WritesSeconds formats_two_seconds where
  injective := by
    intro s s' text hs hs'
    unfold formats_two_seconds at hs hs'
    grind
  epoch := rfl

/-- The agent's bundle generates an identity at any time. -/
theorem agent_identity {now_iso_utc : String} (hnow : (Ipld.String now_iso_utc).representable = true) :
    ∃ identity, agent_bundle.generate_identity reference.dagLibrary now_iso_utc = .ok identity := by
  obtain ⟨identity, hidentity, _⟩ := @SecretBundle.generate_identity_ok _ agent_bundle _
    reference.base58RoundTrips reference.dagCborEncodes _ agent_ipns agent_identifier (reference.ipns_no_hash 2)
    agent_ipns_length (is_valid_rfc3339_utc_representable agent_created_at) hnow
  exact ⟨identity, hidentity⟩

theorem SecretBundle.generate_identity_stable_iff_seconds :
    ∃ first second,
      agent_bundle.generate_identity reference.dagLibrary (doc.now_iso_utc formats_two_seconds 1786192496) =
        .ok first ∧
      agent_bundle.generate_identity reference.dagLibrary (doc.now_iso_utc formats_two_seconds 1786192497) =
        .ok second ∧
      (first.document = second.document ↔
        written_second formats_two_seconds 1786192496 = written_second formats_two_seconds 1786192497) := by
  obtain ⟨first, hfirst⟩ := @agent_identity (doc.now_iso_utc formats_two_seconds 1786192496) (by decide +kernel)
  obtain ⟨second, hsecond⟩ := @agent_identity (doc.now_iso_utc formats_two_seconds 1786192497) (by decide +kernel)
  exact ⟨first, second, hfirst, hsecond,
    SecretBundle.generate_identity_stable_iff formats_two_seconds_writes hfirst hsecond⟩

/-- One second later the bundle generates another document. -/
theorem SecretBundle.restart_changes_document :
    ∃ first second,
      agent_bundle.generate_identity reference.dagLibrary (doc.now_iso_utc formats_two_seconds 1786192496) =
        .ok first ∧
      agent_bundle.generate_identity reference.dagLibrary (doc.now_iso_utc formats_two_seconds 1786192497) =
        .ok second ∧
      first.document.updated_at = "2026-08-08T12:34:56Z" ∧ second.document.updated_at = "2026-08-08T12:34:57Z" ∧
      first.document ≠ second.document := by
  obtain ⟨first, hfirst⟩ := @agent_identity (doc.now_iso_utc formats_two_seconds 1786192496) (by decide +kernel)
  obtain ⟨second, hsecond⟩ := @agent_identity (doc.now_iso_utc formats_two_seconds 1786192497) (by decide +kernel)
  obtain ⟨hfirst_updated, _⟩ := SecretBundle.generate_identity_again hfirst hsecond
  obtain ⟨hsecond_updated, _⟩ := SecretBundle.generate_identity_again hsecond hfirst
  refine ⟨first, second, hfirst, hsecond, hfirst_updated, hsecond_updated, ?_⟩
  intro hsame
  rw [hsame, hsecond_updated] at hfirst_updated
  have hdiffer : doc.now_iso_utc formats_two_seconds 1786192497 ≠
      doc.now_iso_utc formats_two_seconds 1786192496 := by
    decide
  exact hdiffer hfirst_updated

end ma_core.config

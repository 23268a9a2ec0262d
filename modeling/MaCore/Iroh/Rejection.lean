import MaCore.Iroh.Agreement

open rust
open ma_core.error ma_core.did ma_core.key ma_core.doc ma_core.msg ma_core.service

namespace ma_core.msg.ReplayGuard

/-- Two guards that refuse the same identifiers at every time from `now` on. -/
structure Alike (now : UInt64) (left right : ReplayGuard) : Prop where
  window_secs : left.window_secs = right.window_secs
  holds : ∀ {later : UInt64}, now ≤ later → ∀ id, left.Holds later id ↔ right.Holds later id

namespace Alike

variable {lib : Lib} {clock : Clock} {now time : UInt64} {left right guard : ReplayGuard} {headers : Headers}

theorem refl (now : UInt64) (guard : ReplayGuard) : Alike now guard guard := ⟨rfl, fun _ _ => Iff.rfl⟩

theorem symm (halike : Alike now left right) : Alike now right left :=
  ⟨halike.window_secs.symm, fun hle id => (halike.holds hle id).symm⟩

theorem trans {middle : ReplayGuard} (hleft : Alike now left middle) (hright : Alike now middle right) :
    Alike now left right :=
  ⟨hleft.window_secs.trans hright.window_secs, fun hle id => (hleft.holds hle id).trans (hright.holds hle id)⟩

theorem later (halike : Alike now left right) (hle : now ≤ time) : Alike time left right :=
  ⟨halike.window_secs, fun hlater => halike.holds (UInt64.le_trans hle hlater)⟩

/-- What pruning forgets the guard would refuse at no later time. -/
theorem prune (now : UInt64) (guard : ReplayGuard) :
    Alike now { guard with
      seen := guard.seen.retain fun seen_at => saturating_sub now seen_at ≤ guard.window_secs } guard := by
  refine ⟨rfl, fun {later} hle id => ?_⟩
  rw [UInt64.le_iff_toNat_le] at hle
  constructor
  · rintro ⟨seen_at, hget, hrecent⟩
    exact ⟨seen_at, (get_prune_eq_some_iff.mp hget).1, hrecent⟩
  · rintro ⟨seen_at, hget, hrecent⟩
    exact ⟨seen_at, get_prune_eq_some_iff.mpr ⟨hget, by omega⟩, hrecent⟩

theorem insert (halike : Alike now left right) (id : String) (time : UInt64) :
    Alike now { left with seen := left.seen.insert id time } { right with seen := right.seen.insert id time } := by
  refine ⟨halike.window_secs, fun {later} hle other => ?_⟩
  unfold Holds
  simp only [Map.get_insert]
  by_cases hother : other = id
  · simp only [if_pos hother, halike.window_secs]
  · simp only [if_neg hother]
    exact halike.holds hle other

theorem pruned (halike : Alike now left right) (hle : now ≤ time) :
    Alike time
      { left with seen := left.seen.retain fun seen_at => saturating_sub time seen_at ≤ left.window_secs }
      { right with seen := right.seen.retain fun seen_at => saturating_sub time seen_at ≤ right.window_secs } :=
  ((prune time left).trans (halike.later hle)).trans (prune time right).symm

/-- A call answers guards that are alike the same, and they stay alike. -/
theorem check_and_insert (halike : Alike now left right) (hclock : ∀ time ∈ clock, now ≤ time) :
    (left.check_and_insert lib clock headers).1 = (right.check_and_insert lib clock headers).1 ∧
      Alike (clock.getD now) (left.check_and_insert lib clock headers).2
        (right.check_and_insert lib clock headers).2 := by
  rcases check_and_insert_cases lib clock left headers with
    ⟨e, hinvalid, hleft⟩ | ⟨time, rfl, hvalid, ⟨hheld, hleft⟩ | ⟨hfree, hleft⟩⟩
  · have hright : right.check_and_insert lib clock headers = (.error e, right) := by
      simp only [ReplayGuard.check_and_insert, hinvalid]
    rw [hleft, hright]
    refine ⟨rfl, ?_⟩
    cases clock with
    | none => exact halike
    | some time => exact halike.later (hclock time rfl)
  -- Both prune at the time the clock shows, and then decide by what they hold at it.
  · have hle := hclock time rfl
    have hheld' := (halike.holds hle headers.id).mp hheld
    rw [hleft, check_and_insert_held hvalid hheld']
    exact ⟨rfl, halike.pruned hle⟩
  · have hle := hclock time rfl
    have hfree' := mt (halike.holds hle headers.id).mpr hfree
    rw [hleft, check_and_insert_free hvalid hfree']
    exact ⟨rfl, (halike.pruned hle).insert headers.id time⟩

/-- A call that accepts nothing leaves the guard alike. -/
theorem of_rejected (hrejected : (guard.check_and_insert lib (some now) headers).1 ≠ .ok ()) :
    Alike now (guard.check_and_insert lib (some now) headers).2 guard := by
  rcases check_and_insert_cases lib (some now) guard headers with
    ⟨e, _, hcall⟩ | ⟨_, ⟨⟩, _, ⟨_, hcall⟩ | ⟨_, hcall⟩⟩
  · rw [hcall]
    exact refl now guard
  · rw [hcall]
    exact prune now guard
  · rw [hcall] at hrejected
    exact absurd rfl hrejected

theorem accept {message : Message} (halike : Alike now left right) (hclock : ∀ time ∈ clock, now ≤ time) :
    (left.accept lib clock message).1 = (right.accept lib clock message).1 ∧
      Alike (clock.getD now) (left.accept lib clock message).2 (right.accept lib clock message).2 := by
  obtain ⟨hresult, hleft⟩ := @check_and_insert lib clock now left right (message.headers lib) halike hclock
  refine ⟨?_, hleft⟩
  simp only [ReplayGuard.accept, hresult]

end Alike

end ma_core.msg.ReplayGuard

namespace ma_core.iroh

/-- The calls that put a message to a guard. -/
inductive GuardedCall where
  | check_and_insert (headers : Headers)
  | open_with_replay_guard (envelope : Envelope) (recipient_key : EncryptionKey) (sender_document : Document)
  | decode (recipient_key : EncryptionKey) (resolver : Resolver) (payload : Bytes) (protocol : String)

/-- What such a call is answered. -/
inductive Answer where
  | checked (result : MaResult Unit)
  | opened (result : MaResult Message)
  | decoded (result : ServiceResult Message)

/-- The call returned an error, at whichever stage. -/
def Answer.IsErr : Answer → Prop
  | .checked result => ∃ e, result = Err e
  | .opened result => ∃ e, result = Err e
  | .decoded result => ∃ e, result = Err e

namespace GuardedCall

/-- The call's answer at a reading of the clock, and the guard it leaves. -/
def run (lib : Lib) (event : Clock × GuardedCall) (guard : ReplayGuard) : Answer × ReplayGuard :=
  match event.2 with
  | .check_and_insert headers =>
    let (result, next) := guard.check_and_insert lib event.1 headers
    (.checked result, next)
  | .open_with_replay_guard envelope recipient_key sender_document =>
    let (result, next) := envelope.open_with_replay_guard lib event.1 recipient_key sender_document guard
    (.opened result, next)
  | .decode recipient_key resolver payload protocol =>
    let (result, next) := InboundSecurity.decode lib event.1 resolver ⟨recipient_key, guard⟩ payload protocol
    (.decoded result, next.replay_guard)

variable {lib : Lib} {clock : Clock} {now : UInt64} {left right guard : ReplayGuard}

/-- Every call answers guards that are alike the same, and they stay alike. -/
theorem run_alike (event : Clock × GuardedCall) (halike : ReplayGuard.Alike now left right)
    (hclock : ∀ time ∈ event.1, now ≤ time) :
    (run lib event left).1 = (run lib event right).1 ∧
      ReplayGuard.Alike (event.1.getD now) (run lib event left).2 (run lib event right).2 := by
  have hlatest : now ≤ event.1.getD now := by
    cases hread : event.1 with
    | none => exact UInt64.le_refl now
    | some time => exact hclock time hread
  obtain ⟨clock, call⟩ := event
  cases call with
  | check_and_insert headers =>
    obtain ⟨hresult, hnext⟩ := @ReplayGuard.Alike.check_and_insert lib _ _ _ _ headers halike hclock
    exact ⟨congrArg Answer.checked hresult, hnext⟩
  | open_with_replay_guard envelope recipient_key sender_document =>
    simp only [run, Envelope.open_with_replay_guard]
    cases hopen : envelope.open_unguarded lib clock recipient_key sender_document with
    | error e => exact ⟨rfl, halike.later hlatest⟩
    | ok message =>
      obtain ⟨hresult, hnext⟩ := @ReplayGuard.Alike.accept lib _ _ _ _ message halike hclock
      exact ⟨congrArg Answer.opened hresult, hnext⟩
  | decode recipient_key resolver payload protocol =>
    simp only [run, InboundSecurity.decode]
    cases hauth : InboundSecurity.authenticate lib clock resolver recipient_key payload protocol with
    | error e => exact ⟨rfl, halike.later hlatest⟩
    | ok message =>
      obtain ⟨hresult, hnext⟩ := @ReplayGuard.Alike.accept lib _ _ _ _ message halike hclock
      exact ⟨congrArg (fun result => Answer.decoded (validated result)) hresult, hnext⟩

/-- What the guard is asked last decides an opening, so a refused one was not accepted. -/
theorem not_accepted {message : Message} {e : MaError}
    (herr : (guard.accept lib clock message).1 = Err e) :
    (guard.check_and_insert lib clock (message.headers lib)).1 ≠ .ok () := by
  intro hok
  have haccept := ReplayGuard.accept_ok_iff.mpr ⟨rfl, hok⟩
  rw [herr] at haccept
  cases haccept

/-- A call that returns an error leaves the guard as it was, or asked it and was not accepted. -/
theorem run_err {event : Clock × GuardedCall} (herr : (run lib event guard).1.IsErr) :
    (run lib event guard).2 = guard ∨ ∃ headers,
      (run lib event guard).2 = (guard.check_and_insert lib event.1 headers).2 ∧
        (guard.check_and_insert lib event.1 headers).1 ≠ .ok () := by
  obtain ⟨clock, call⟩ := event
  cases call with
  | check_and_insert headers =>
    obtain ⟨e, he⟩ := herr
    have hrejected : (guard.check_and_insert lib clock headers).1 = Err e := he
    exact .inr ⟨headers, rfl, by simp [hrejected]⟩
  | open_with_replay_guard envelope recipient_key sender_document =>
    simp only [run, Envelope.open_with_replay_guard] at herr ⊢
    cases hopen : envelope.open_unguarded lib clock recipient_key sender_document with
    | error e => exact .inl rfl
    | ok message =>
      rw [hopen] at herr
      obtain ⟨e, he⟩ := herr
      exact .inr ⟨message.headers lib, rfl, not_accepted he⟩
  | decode recipient_key resolver payload protocol =>
    simp only [run, InboundSecurity.decode] at herr ⊢
    cases hauth : InboundSecurity.authenticate lib clock resolver recipient_key payload protocol with
    | error e => exact .inl rfl
    | ok message =>
      rw [hauth] at herr
      obtain ⟨e, he⟩ := herr
      refine .inr ⟨message.headers lib, rfl, fun hok => ?_⟩
      have haccept := ReplayGuard.accept_ok_iff.mpr ⟨rfl, hok⟩
      simp only [haccept] at he
      cases he

/-- A call that returns an error leaves a guard that answers every later call as the guard before the call
    would. -/
theorem rejection_leaves_no_trace {call : GuardedCall} {later : List (Clock × GuardedCall)}
    (hclock : window.NonDecreasing Prod.fst ((clock, call) :: later))
    (herr : (run lib (clock, call) guard).1.IsErr) :
    window.answers (run lib) later (run lib (clock, call) guard).2 =
      window.answers (run lib) later guard := by
  obtain hsame | ⟨headers, hnext, hrejected⟩ := run_err herr
  · rw [hsame]
  obtain ⟨hfirst, hrest⟩ := List.pairwise_cons.mp hclock
  cases hread : clock with
  | none =>
    -- Without a clock the headers are not valid, and the guard is not touched.
    rcases ReplayGuard.check_and_insert_cases lib clock guard headers with ⟨e, _, hcall⟩ | ⟨_, hsome, _⟩
    · rw [hcall] at hnext
      rw [← hread, hnext]
    · rw [hread] at hsome
      cases hsome
  | some now =>
    subst hread
    have halike : ReplayGuard.Alike now (run lib (some now, call) guard).2 guard := by
      rw [hnext]
      exact .of_rejected hrejected
    exact window.answers_congr run_alike halike hrest fun other hmem time htime =>
      hfirst other hmem now rfl time htime

/-- A guard that has seen one message lately and another one long before. -/
def two_seen : ReplayGuard := ⟨(Map.empty.insert "old" 1).insert "m" 1000, DEFAULT_REPLAY_WINDOW_SECS⟩

/-- A broadcast that is received. -/
def received : GuardedCall := .decode (reference.encryptionKey 2) (reference.resolve [1, 2])
  (reference.wire (reference.broadcast 1 "m" 0)) INBOX_PROTOCOL_ID

/-- It is refused as a replay, and what was seen long before is forgotten. -/
theorem received_replayed : run reference.library (some 1001, received) two_seen =
    (.decoded (Err (.Validation .ReplayDetected)), { two_seen with
      seen := two_seen.seen.retain fun seen_at => saturating_sub 1001 seen_at ≤ two_seen.window_secs }) := by
  have hfresh : Fresh reference.library 1001 0 0 := reference.fresh_never (by decide)
  obtain ⟨_, _, hauth⟩ := @reference.broadcast_authentic 1 "m" 0 1001 (by decide) (show 1 ≤ 1024 by decide) hfresh
    reference.resolve_1 (reference.encryptionKey 2)
  have hheld : two_seen.Holds 1001 ((reference.broadcast 1 "m" 0).headers reference.library).id :=
    ⟨1000, rfl, by decide⟩
  have hrefused := ReplayGuard.check_and_insert_held (InboundSecurity.valid_of_authenticate hauth) hheld
  simp only [run, received, InboundSecurity.decode, hauth, ReplayGuard.accept, hrefused]
  rfl

def later_calls : List (Clock × GuardedCall) := [
  (some 1002, .check_and_insert ((reference.broadcast 2 "old" 0).headers reference.library)),
  (some 1003, received)]

theorem later_calls_nonDecreasing : window.NonDecreasing Prod.fst ((some 1001, received) :: later_calls) := by
  simp [window.NonDecreasing, later_calls]

theorem rejection_leaves_no_trace_replay :
    (run reference.library (some 1001, received) two_seen).1 = .decoded (Err (.Validation .ReplayDetected)) ∧
      (run reference.library (some 1001, received) two_seen).2.seen.get "old" = none ∧
      two_seen.seen.get "old" = some 1 ∧
      window.answers (run reference.library) later_calls
          (run reference.library (some 1001, received) two_seen).2 =
        window.answers (run reference.library) later_calls two_seen := by
  have htrace (call : GuardedCall) (next : ReplayGuard)
      (hrun : run reference.library (some 1001, call) two_seen = (.decoded (Err (.Validation .ReplayDetected)), next))
      (hclock : window.NonDecreasing Prod.fst ((some 1001, call) :: later_calls)) :
      window.answers (run reference.library) later_calls (run reference.library (some 1001, call) two_seen).2 =
        window.answers (run reference.library) later_calls two_seen :=
    rejection_leaves_no_trace hclock (by rw [hrun]; exact ⟨_, rfl⟩)
  have hforgotten : (run reference.library (some 1001, received) two_seen).2.seen.get "old" = none := by
    rw [received_replayed]
    decide +kernel
  exact ⟨congrArg Prod.fst received_replayed, hforgotten, by decide +kernel,
    htrace received _ received_replayed later_calls_nonDecreasing⟩

end GuardedCall

end ma_core.iroh

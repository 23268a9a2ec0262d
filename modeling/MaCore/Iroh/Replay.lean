import MaCore.Iroh.Runs
import MaCore.Reference

open rust transition
open ma_core.error ma_core.did ma_core.key ma_core.doc ma_core.msg ma_core.service
open ma_core.reference

namespace ma_core.iroh.InboundSecurity

/-! Calls on the reference library. -/

/-- A call that is handed this broadcast at this time and answers so. -/
def broadcastCall (m : Message) (now : UInt64) (result : ServiceResult Message) : DecodeCall where
  payload := wire m
  protocol := INBOX_PROTOCOL_ID
  clock := some now
  resolver := resolve [1, 2]
  result

section
variable {self : InboundSecurity} {now : UInt64}

theorem broadcast_1_authentic (hfits : now.toNat + 30 < 2 ^ 64) (key : EncryptionKey) :
    Verified library (some now) (resolve [1, 2]) (broadcast 1 "m" 0) ∧
    Carries library (some now) key (wire (broadcast 1 "m" 0)) (broadcast 1 "m" 0) false ∧
    authenticate library (some now) (resolve [1, 2]) key (wire (broadcast 1 "m" 0))
      INBOX_PROTOCOL_ID = .ok (broadcast 1 "m" 0) :=
  @broadcast_authentic 1 "m" 0 now (by decide) (show 1 ≤ 1024 by decide) (fresh_never hfits) resolve_1 key

theorem broadcast_2_authentic (hfits : now.toNat + 30 < 2 ^ 64) (key : EncryptionKey) :
    Verified library (some now) (resolve [1, 2]) (broadcast 2 "m" 0) ∧
    Carries library (some now) key (wire (broadcast 2 "m" 0)) (broadcast 2 "m" 0) false ∧
    authenticate library (some now) (resolve [1, 2]) key (wire (broadcast 2 "m" 0))
      INBOX_PROTOCOL_ID = .ok (broadcast 2 "m" 0) :=
  @broadcast_authentic 2 "m" 0 now (by decide) (show 1 ≤ 1024 by decide) (fresh_never hfits) resolve_2 key

/-- It is accepted whenever the guard does not hold its identifier. -/
theorem broadcast_step (hfits : now.toNat + 30 < 2 ^ 64)
    (hunseen : ¬ self.replay_guard.Holds now "m") :
    ∃ next, Step library self (broadcastCall (broadcast 1 "m" 0) now (.ok (broadcast 1 "m" 0))) next := by
  obtain ⟨_, _, hauth⟩ := broadcast_1_authentic hfits self.recipient_key
  have hdecode : (self.decode library (some now) (resolve [1, 2]) (wire (broadcast 1 "m" 0))
      INBOX_PROTOCOL_ID).1 = .ok (broadcast 1 "m" 0) := by
    rw [decode_ok_iff, ReplayGuard.check_and_insert_ok_iff]
    exact ⟨hauth, valid_of_authenticate hauth, by rintro _ ⟨⟩; exact hunseen⟩
  exact ⟨_, step_of_result hdecode⟩

end

/-! The same message again. -/

section
variable {lib : Lib} {recipient_key : EncryptionKey}

/-- Two acceptances of one identifier in a run are further apart than the
    guard's window, and the later one is not past the expiry by more than the skew. -/
theorem accepted_again_only_after_window {before between after : List DecodeCall}
    {first second : DecodeCall} {s : InboundSecurity} {m m' : Message}
    (hrun : Run (Step lib) (InboundSecurity.new recipient_key)
      (before ++ first :: (between ++ second :: after)) s)
    (hclock : DecodeCall.NonDecreasing (before ++ first :: (between ++ second :: after)))
    (hfirst : first.result = .ok m) (hsecond : second.result = .ok m') (hid : m'.id = m.id) :
    ∃ t t', first.clock = some t ∧ second.clock = some t' ∧ t.toNat + 120 < t'.toNat ∧
      (m'.exp = 0 ∨ t'.toNat ≤ m'.exp.toNat + 30) := by
  obtain ⟨r, u, hbefore, hstepFirst, _⟩ := hrun.split
  obtain ⟨_, t, hreadFirst, _, _⟩ := step_accepts hstepFirst hfirst
  have hshape : before ++ first :: (between ++ second :: after) =
      (before ++ first :: between) ++ second :: after := by simp
  rw [hshape] at hrun hclock
  obtain ⟨r', _, hprior, hstepSecond, _⟩ := hrun.split
  obtain ⟨_, t', hreadSecond, hvalid, hunseen⟩ := step_accepts hstepSecond hsecond
  have hle : t ≤ t' := by
    have hpair := (List.pairwise_append.mp hclock).2.2 first (by simp) second List.mem_cons_self
    exact hpair t hreadFirst t' hreadSecond
  refine ⟨t, t', hreadFirst, hreadSecond, ?_, ?_⟩
  · by_contra hclose
    apply hunseen
    rw [run_holds_iff hprior hclock hreadSecond]
    exact ⟨first, by simp, m, t, hfirst, hreadFirst, hid.symm, by omega⟩
  · obtain ⟨now, hnow, hfresh⟩ := hvalid.fresh
    rw [hreadSecond] at hnow
    cases hnow
    exact hfresh.le_exp

end

/-- The calls of a run that delivers one broadcast twice, 121 seconds apart. -/
def replayedCalls : List DecodeCall :=
  [broadcastCall (broadcast 1 "m" 0) 1000 (.ok (broadcast 1 "m" 0)),
    broadcastCall (broadcast 1 "m" 0) 1121 (.ok (broadcast 1 "m" 0))]

theorem replayedCalls_nonDecreasing : DecodeCall.NonDecreasing replayedCalls := by
  simp [DecodeCall.NonDecreasing, replayedCalls, broadcastCall]

theorem replayedCalls_run :
    ∃ s, Run (Step library) (InboundSecurity.new (encryptionKey 2)) replayedCalls s := by
  obtain ⟨r, hfirst⟩ := @broadcast_step (InboundSecurity.new (encryptionKey 2)) 1000 (by decide)
    (new_not_holds _ _ _)
  have hunseen : ¬ r.replay_guard.Holds 1121 "m" := by
    rw [@run_holds_iff _ _ _ [] _ _ _ (Run.single hfirst) replayedCalls_nonDecreasing rfl]
    rintro ⟨earlier, hmem, _, time, _, htime, _, hrecent⟩
    rw [List.mem_singleton.mp hmem] at htime
    cases htime
    exact absurd hrecent (by decide)
  obtain ⟨s, hsecond⟩ := @broadcast_step _ 1121 (by decide) hunseen
  exact ⟨s, Run.cons hfirst (Run.single hsecond)⟩

/-- The bound is met by a run that accepts one message twice. -/
theorem accepted_again_only_after_window_replayed :
    ∃ t t' : UInt64, some (1000 : UInt64) = some t ∧ some (1121 : UInt64) = some t' ∧
      t.toNat + 120 < t'.toNat ∧ ((broadcast 1 "m" 0).exp = 0 ∨
        t'.toNat ≤ (broadcast 1 "m" 0).exp.toNat + 30) := by
  obtain ⟨s, hrun⟩ := replayedCalls_run
  exact @accepted_again_only_after_window _ _ [] [] [] _ _ _ _ _ hrun
    replayedCalls_nonDecreasing rfl rfl rfl

/-- An accepted message can be accepted again later in the same run. -/
theorem accepted_message_accepted_again :
    ¬ ∀ (recipient_key : EncryptionKey) (before between after : List DecodeCall)
      (first second : DecodeCall) (s : InboundSecurity) (m : Message),
      Run (Step library) (InboundSecurity.new recipient_key)
        (before ++ first :: (between ++ second :: after)) s →
      DecodeCall.NonDecreasing (before ++ first :: (between ++ second :: after)) →
      first.result = .ok m → second.result ≠ .ok m := by
  intro hclaim
  obtain ⟨s, hrun⟩ := replayedCalls_run
  exact hclaim (encryptionKey 2) [] [] [] _ _ s (broadcast 1 "m" 0) hrun
    replayedCalls_nonDecreasing rfl rfl

/-! The refusal of an authentic message. -/

section
variable {lib : Lib} {recipient_key : EncryptionKey}

/-- An authentic message is refused as a replay only after a call at most the
    window earlier accepted a message with its identifier, from a verified
    sender unless that message was exempt. -/
theorem replay_refusal_has_cause {before after : List DecodeCall} {refused : DecodeCall}
    {s : InboundSecurity} {m : Message} {encrypted : Bool}
    (hrun : Run (Step lib) (InboundSecurity.new recipient_key) (before ++ refused :: after) s)
    (hclock : DecodeCall.NonDecreasing (before ++ refused :: after))
    (hcarries : Carries lib refused.clock recipient_key refused.payload m encrypted)
    (hverified : Verified lib refused.clock refused.resolver m)
    (hrefused : refused.result = Err (.Validation .ReplayDetected)) :
    ∃ earlier ∈ before, ∃ m', earlier.result = .ok m' ∧ m'.id = m.id ∧
      (∃ t t', earlier.clock = some t ∧ refused.clock = some t' ∧ t'.toNat - t.toNat ≤ 120) ∧
      VerifiedOrExempt lib earlier.clock earlier.resolver earlier.protocol m' := by
  obtain ⟨r, u, hbefore, hstep, _⟩ := hrun.split
  have hkey := run_recipient_key hbefore
  have hlater := @authenticate_not_replay _ _ _ _ _ refused.protocol _ _ hcarries hverified
  rcases step_cases hstep with ⟨e, hauth, hresult, _⟩ | ⟨m₀, hauth, hresult, _⟩
  · -- Before the guard nothing turns a verified message away as a replay.
    rw [hrefused] at hresult
    cases hresult
    rw [hkey] at hauth
    exact absurd hauth hlater
  · rw [hkey] at hauth
    obtain ⟨_, hcarries₀, _⟩ := authenticate_eq_ok_iff.mp hauth
    obtain ⟨rfl, _⟩ := hcarries.unique hcarries₀
    obtain ⟨now, hnow, _⟩ := (valid_of_authenticate hauth).fresh
    have hheld : r.replay_guard.Holds now m₀.id := by
      by_contra hfree
      have haccepted : (r.replay_guard.check_and_insert lib refused.clock (m₀.headers lib)).1 =
          .ok () := by
        rw [ReplayGuard.check_and_insert_ok_iff]
        refine ⟨valid_of_authenticate hauth, ?_⟩
        intro other hother
        rw [hnow] at hother
        cases hother
        exact hfree
      rw [haccepted, hrefused] at hresult
      cases hresult
    obtain ⟨earlier, hmem, m', time, hearlier, htime, hid, hrecent⟩ :=
      (run_holds_iff hbefore hclock hnow m₀.id).mp hheld
    refine ⟨earlier, hmem, m', hearlier, hid, ⟨time, now, htime, hnow, hrecent⟩, ?_⟩
    obtain ⟨xs, ys, rfl⟩ := List.append_of_mem hmem
    obtain ⟨p, q, _, hstepEarlier, _⟩ := hbefore.split
    obtain ⟨hauthEarlier, _⟩ := step_accepts hstepEarlier hearlier
    obtain ⟨_, _, hcheck⟩ := authenticate_eq_ok_iff.mp hauthEarlier
    exact (check_eq_ok_iff.mp hcheck).2.2

end

/-- The calls of a run in which one sender's identifier shuts out another's message. -/
def shutOutCalls : List DecodeCall :=
  [broadcastCall (broadcast 1 "m" 0) 1000 (.ok (broadcast 1 "m" 0)),
    broadcastCall (broadcast 2 "m" 0) 1000 (Err (.Validation .ReplayDetected))]

theorem shutOutCalls_nonDecreasing : DecodeCall.NonDecreasing shutOutCalls := by
  simp [DecodeCall.NonDecreasing, shutOutCalls, broadcastCall]

theorem shutOutCalls_run :
    ∃ s, Run (Step library) (InboundSecurity.new (encryptionKey 2)) shutOutCalls s := by
  obtain ⟨r, hfirst⟩ := @broadcast_step (InboundSecurity.new (encryptionKey 2)) 1000 (by decide)
    (new_not_holds _ _ _)
  have hheld : r.replay_guard.Holds 1000 (broadcast 2 "m" 0).id := by
    rw [@run_holds_iff _ _ _ [] _ _ _ (Run.single hfirst) shutOutCalls_nonDecreasing rfl]
    exact ⟨_, List.mem_singleton.mpr rfl, broadcast 1 "m" 0, 1000, rfl, rfl, rfl, by decide⟩
  obtain ⟨_, _, hauth⟩ := @broadcast_2_authentic 1000 (by decide) r.recipient_key
  exact ⟨_, Run.cons hfirst (Run.single (step_of_result (decode_held hauth rfl hheld)))⟩

theorem replay_refusal_has_cause_shut_out :
    ∃ earlier ∈ [broadcastCall (broadcast 1 "m" 0) 1000 (.ok (broadcast 1 "m" 0))], ∃ m',
      earlier.result = .ok m' ∧ m'.id = (broadcast 2 "m" 0).id ∧
      (∃ t t', earlier.clock = some t ∧ some (1000 : UInt64) = some t' ∧
        t'.toNat - t.toNat ≤ 120) ∧
      VerifiedOrExempt library earlier.clock earlier.resolver earlier.protocol m' := by
  obtain ⟨s, hrun⟩ := shutOutCalls_run
  obtain ⟨hverified, hcarries, _⟩ :=
    @broadcast_2_authentic 1000 (by decide) (encryptionKey 2)
  exact @replay_refusal_has_cause _ _ [_] [] _ _ _ _ hrun shutOutCalls_nonDecreasing
    hcarries hverified rfl

/-- A message can be refused for the identifier of another sender's. -/
theorem replay_refusal_across_senders :
    ¬ ∀ (recipient_key : EncryptionKey) (before after : List DecodeCall) (refused : DecodeCall)
      (s : InboundSecurity) (m : Message) (encrypted : Bool),
      Run (Step library) (InboundSecurity.new recipient_key) (before ++ refused :: after) s →
      DecodeCall.NonDecreasing (before ++ refused :: after) →
      Carries library refused.clock recipient_key refused.payload m encrypted →
      Verified library refused.clock refused.resolver m →
      refused.result = Err (.Validation .ReplayDetected) →
      ∃ earlier ∈ before, ∃ m', earlier.result = .ok m' ∧ m'.id = m.id ∧
        SameBase library m'.from m.from ∧
        Verified library earlier.clock earlier.resolver m' := by
  intro hclaim
  obtain ⟨s, hrun⟩ := shutOutCalls_run
  obtain ⟨hverified, hcarries, _⟩ :=
    @broadcast_2_authentic 1000 (by decide) (encryptionKey 2)
  obtain ⟨earlier, hmem, m', hearlier, _, hsame, _⟩ :=
    hclaim (encryptionKey 2) [_] [] _ s (broadcast 2 "m" 0) false hrun shutOutCalls_nonDecreasing
      hcarries hverified rfl
  rw [List.mem_singleton.mp hmem] at hearlier
  cases hearlier
  obtain ⟨_, _, _, hleft, hright⟩ := hsame
  have hfirst := (did_parse 1).symm.trans hleft
  have hsecond := (did_parse 2).symm.trans hright
  have hname : ipns 1 = ipns 2 :=
    (congrArg Prod.fst (Except.ok.inj hfirst)).trans (congrArg Prod.fst (Except.ok.inj hsecond)).symm
  exact absurd (ipns_injective hname) (by decide)

end ma_core.iroh.InboundSecurity

import MaCore.Iroh.InboundSecurity

open rust transition
open ma_core.error ma_core.did ma_core.key ma_core.doc ma_core.msg ma_core.service

namespace ma_core.iroh

/-- A call of `decode` as it was made and answered: the payload and protocol,
    the clock and the resolver it found, and what it returned. -/
structure DecodeCall where
  payload : Bytes
  protocol : String
  clock : Clock
  resolver : Resolver
  result : ServiceResult Message

namespace DecodeCall

/-- The identifier and the time that an accepting call leaves in the guard. -/
def acceptance (call : DecodeCall) : Option (String × Nat) :=
  match call.result, call.clock with
  | .ok m, some now => some (m.id, now.toNat)
  | _, _ => none

/-- The clock of a run does not go back. -/
def NonDecreasing (calls : List DecodeCall) : Prop :=
  calls.Pairwise fun earlier later => ∀ s ∈ earlier.clock, ∀ t ∈ later.clock, s ≤ t

theorem acceptance_eq_some_iff {call : DecodeCall} {id : String} {time : Nat} :
    call.acceptance = some (id, time) ↔
      ∃ m now, call.result = .ok m ∧ call.clock = some now ∧ m.id = id ∧ now.toNat = time := by
  obtain ⟨payload, protocol, clock, resolver, result⟩ := call
  cases result <;> cases clock <;> simp [acceptance]

end DecodeCall

namespace InboundSecurity

/-- One call in a run. -/
def Step (lib : Lib) (self : InboundSecurity) (call : DecodeCall) (next : InboundSecurity) : Prop :=
  self.decode lib call.clock call.resolver call.payload call.protocol = (call.result, next)

section
variable {lib : Lib} {self next : InboundSecurity} {call : DecodeCall} {m : Message}

/-- A call stops before the guard, or leaves the answer and the next state to it. -/
theorem step_cases (hstep : Step lib self call next) :
    (∃ e, authenticate lib call.clock call.resolver self.recipient_key call.payload call.protocol =
        .error e ∧ call.result = .error e ∧ next = self) ∨
    ∃ m, authenticate lib call.clock call.resolver self.recipient_key call.payload call.protocol =
        .ok m ∧
      call.result = validated
        ((self.replay_guard.check_and_insert lib call.clock (m.headers lib)).1.map fun _ => m) ∧
      next = { self with
        replay_guard := (self.replay_guard.check_and_insert lib call.clock (m.headers lib)).2 } := by
  unfold Step decode at hstep
  cases hauth : authenticate lib call.clock call.resolver self.recipient_key call.payload
      call.protocol with
  | error e =>
    rw [hauth] at hstep
    obtain ⟨hresult, hnext⟩ := Prod.mk.inj hstep
    exact .inl ⟨e, rfl, hresult.symm, hnext.symm⟩
  | ok m =>
    rw [hauth] at hstep
    obtain ⟨hresult, hnext⟩ := Prod.mk.inj hstep
    exact .inr ⟨m, rfl, hresult.symm, hnext.symm⟩

theorem step_of_result
    (hresult : (self.decode lib call.clock call.resolver call.payload call.protocol).1 = call.result) :
    Step lib self call (self.decode lib call.clock call.resolver call.payload call.protocol).2 :=
  Prod.ext hresult rfl

theorem step_recipient_key (hstep : Step lib self call next) :
    next.recipient_key = self.recipient_key := by
  rcases step_cases hstep with ⟨_, _, _, rfl⟩ | ⟨_, _, _, rfl⟩ <;> rfl

/-- A call that accepts has authenticated the message, at a time at which the
    guard did not hold it. -/
theorem step_accepts (hstep : Step lib self call next) (haccept : call.result = .ok m) :
    authenticate lib call.clock call.resolver self.recipient_key call.payload call.protocol = .ok m ∧
      ∃ now, call.clock = some now ∧ (m.headers lib).Valid lib call.clock ∧
        ¬ self.replay_guard.Holds now m.id := by
  have hdecode : (self.decode lib call.clock call.resolver call.payload call.protocol).1 = .ok m := by
    rw [hstep, haccept]
  obtain ⟨hauth, hguard⟩ := decode_ok_iff.mp hdecode
  obtain ⟨hvalid, hunseen⟩ := ReplayGuard.check_and_insert_ok_iff.mp hguard
  obtain ⟨now, hclock, _⟩ := hvalid.fresh
  exact ⟨hauth, now, hclock, hvalid, hunseen now hclock⟩

/-- A step keeps the guard a table of the acceptances. -/
theorem step_tracks {now : UInt64} {log : List (String × Nat)} (hstep : Step lib self call next)
    (hclock : call.clock = some now) (htracks : self.replay_guard.Tracks now.toNat log) :
    next.replay_guard.Tracks now.toNat (log ++ call.acceptance.toList) := by
  rcases step_cases hstep with ⟨e, _, hresult, rfl⟩ | ⟨m, _, hresult, rfl⟩
  · have hnone : call.acceptance = none := by simp [DecodeCall.acceptance, hresult]
    simpa [hnone] using htracks
  · have hcall := @ReplayGuard.Tracks.check_and_insert lib _ _ _ htracks (m.headers lib)
    rw [hclock] at hresult
    simp only [hclock]
    cases hchecked : (self.replay_guard.check_and_insert lib (some now) (m.headers lib)).1 with
    | error e =>
      have hnone : call.acceptance = none := by
        rw [hchecked] at hresult
        cases e <;> simp [DecodeCall.acceptance, hresult, Except.map, validated, map_err]
      simpa [hchecked, hnone] using hcall
    | ok u =>
      have hsome : call.acceptance = some (m.id, now.toNat) := by
        rw [hchecked] at hresult
        simp [DecodeCall.acceptance, hresult, hclock, Except.map, validated, map_err]
      simpa [hchecked, hsome] using hcall

/-- A call without a clock changes nothing and accepts nothing. -/
theorem step_clockless (hstep : Step lib self call next) (hclock : call.clock = none) :
    next = self ∧ call.acceptance = none := by
  have hnone : call.acceptance = none := by
    unfold DecodeCall.acceptance
    rw [hclock]
    cases call.result <;> rfl
  rcases step_cases hstep with ⟨_, _, _, rfl⟩ | ⟨m, hauth, _, rfl⟩
  · exact ⟨rfl, hnone⟩
  · obtain ⟨now, hsome, _⟩ := (valid_of_authenticate hauth).fresh
    rw [hclock] at hsome
    cases hsome

end

section
variable {lib : Lib} {recipient_key : EncryptionKey} {calls : List DecodeCall} {s : InboundSecurity}

theorem run_recipient_key (hrun : Run (Step lib) (InboundSecurity.new recipient_key) calls s) :
    s.recipient_key = recipient_key :=
  hrun.invariant (I := fun _ s => s.recipient_key = recipient_key) rfl
    fun hkey hstep => (step_recipient_key hstep).trans hkey

theorem check_and_insert_window {clock : Clock} {guard : ReplayGuard} {headers : Headers} :
    (guard.check_and_insert lib clock headers).2.window_secs = guard.window_secs := by
  rcases ReplayGuard.check_and_insert_cases lib clock guard headers with
    ⟨_, _, hcall⟩ | ⟨_, _, _, ⟨_, hcall⟩ | ⟨_, hcall⟩⟩ <;> rw [hcall]

theorem run_window (hrun : Run (Step lib) (InboundSecurity.new recipient_key) calls s) :
    s.replay_guard.window_secs = DEFAULT_REPLAY_WINDOW_SECS := by
  refine hrun.invariant
    (I := fun _ s => s.replay_guard.window_secs = DEFAULT_REPLAY_WINDOW_SECS) rfl ?_
  intro _ s call t hwindow hstep
  rcases step_cases hstep with ⟨_, _, _, rfl⟩ | ⟨_, _, _, rfl⟩
  · exact hwindow
  · exact check_and_insert_window.trans hwindow

/-- After any run over a clock that does not go back, the guard stands for the
    acceptances of the run, at every time from the last call on. -/
theorem run_tracks (hrun : Run (Step lib) (InboundSecurity.new recipient_key) calls s)
    (hclock : DecodeCall.NonDecreasing calls) {now : UInt64}
    (hnow : ∀ call ∈ calls, ∀ t ∈ call.clock, t ≤ now) :
    s.replay_guard.Tracks now.toNat (calls.filterMap DecodeCall.acceptance) := by
  have hlogged := @window.run_logged String InboundSecurity DecodeCall UInt64 _ (Step lib)
    (InboundSecurity.new recipient_key) s DecodeCall.clock DecodeCall.acceptance
    fun s now log => s.replay_guard.Tracks now.toNat log
  refine hlogged (fun _ => ReplayGuard.Tracks.new _ _) ?_ ?_ step_clockless hrun hclock hnow
  · exact fun htracks hle => htracks.later (UInt64.le_iff_toNat_le.mp hle)
  · exact step_tracks

/-- At a call of a run the guard holds exactly the identifiers accepted within
    the window before it. -/
theorem run_holds_iff {before after : List DecodeCall} {call : DecodeCall} {s : InboundSecurity}
    {now : UInt64}
    (hrun : Run (Step lib) (InboundSecurity.new recipient_key) before s)
    (hclock : DecodeCall.NonDecreasing (before ++ call :: after)) (hnow : call.clock = some now)
    (id : String) :
    s.replay_guard.Holds now id ↔
      ∃ earlier ∈ before, ∃ m time, earlier.result = .ok m ∧ earlier.clock = some time ∧
        m.id = id ∧ now.toNat - time.toNat ≤ 120 := by
  obtain ⟨hbefore, _, hcross⟩ := List.pairwise_append.mp hclock
  have htracks := @run_tracks _ _ _ _ hrun hbefore now fun other hmem t ht =>
    hcross other hmem call List.mem_cons_self t ht now hnow
  have hwindow : s.replay_guard.window_secs.toNat = 120 := by
    rw [run_window hrun]
    rfl
  rw [htracks.holds_iff, hwindow]
  unfold window.Recent
  constructor
  · rintro ⟨time, hlogged, hrecent⟩
    obtain ⟨earlier, hmem, hacc⟩ := List.mem_filterMap.mp hlogged
    obtain ⟨m, t, hresult, ht, hid, rfl⟩ := DecodeCall.acceptance_eq_some_iff.mp hacc
    exact ⟨earlier, hmem, m, t, hresult, ht, hid, hrecent⟩
  · rintro ⟨earlier, hmem, m, t, hresult, ht, hid, hrecent⟩
    exact ⟨t.toNat, List.mem_filterMap.mpr ⟨earlier, hmem,
      DecodeCall.acceptance_eq_some_iff.mpr ⟨m, t, hresult, ht, hid, rfl⟩⟩, hrecent⟩

end

end InboundSecurity

end ma_core.iroh

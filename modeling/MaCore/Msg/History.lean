import MaCore.Base.Transition
import MaCore.Reference

open rust transition
open ma_core.error

namespace ma_core.msg

/-- A call of `check_and_insert` as it was made and answered. -/
structure GuardCall where
  headers : Headers
  clock : Clock
  result : MaResult Unit

namespace GuardCall

/-- The call accepted this identifier at this time. -/
def Accepted (call : GuardCall) (id : String) (time : UInt64) : Prop :=
  call.result = .ok () ∧ call.headers.id = id ∧ call.clock = some time

/-- The clock of the calls, one reading each, does not go back. -/
def NonDecreasing (calls : List GuardCall) : Prop := window.NonDecreasing GuardCall.clock calls

/-- One of the calls accepted this identifier at most `window_secs` before a time. -/
def AcceptedWithin (window_secs now : UInt64) (calls : List GuardCall) (id : String) : Prop :=
  ∃ call ∈ calls, ∃ time, call.Accepted id time ∧ now.toNat - time.toNat ≤ window_secs.toNat

/-- What an accepting call leaves in the guard. -/
def acceptance (call : GuardCall) : Option (String × Nat) :=
  match call.result, call.clock with
  | .ok (), some now => some (call.headers.id, now.toNat)
  | _, _ => none

theorem acceptance_eq_some_iff {call : GuardCall} {id : String} {time : Nat} :
    call.acceptance = some (id, time) ↔ ∃ now, call.Accepted id now ∧ now.toNat = time := by
  obtain ⟨headers, clock, result⟩ := call
  cases result <;> cases clock <;> simp [acceptance, Accepted, and_assoc]

/-- The log of acceptances has what was accepted in it. -/
theorem recent_iff {window_secs now : UInt64} {calls : List GuardCall} {id : String} :
    window.Recent window_secs.toNat now.toNat (calls.filterMap acceptance) id ↔
      AcceptedWithin window_secs now calls id := by
  constructor
  · rintro ⟨time, hlogged, hrecent⟩
    obtain ⟨call, hmem, hacc⟩ := List.mem_filterMap.mp hlogged
    obtain ⟨accepted_at, haccepted, rfl⟩ := acceptance_eq_some_iff.mp hacc
    exact ⟨call, hmem, accepted_at, haccepted, hrecent⟩
  · rintro ⟨call, hmem, time, haccepted, hrecent⟩
    exact ⟨time.toNat, List.mem_filterMap.mpr ⟨call, hmem, acceptance_eq_some_iff.mpr ⟨time, haccepted, rfl⟩⟩,
      hrecent⟩

end GuardCall

namespace ReplayGuard

/-- One call in a run. -/
def Step (lib : Lib) (self : ReplayGuard) (call : GuardCall) (next : ReplayGuard) : Prop :=
  self.check_and_insert lib call.clock call.headers = (call.result, next)

variable {lib : Lib} {window_secs : UInt64} {guard next : ReplayGuard} {call : GuardCall} {calls : List GuardCall}

theorem step_check_and_insert (guard : ReplayGuard) (headers : Headers) (clock : Clock) :
    Step lib guard ⟨headers, clock, (guard.check_and_insert lib clock headers).1⟩
      (guard.check_and_insert lib clock headers).2 :=
  Prod.mk.eta.symm

/-- Everything one call of a run can be. -/
theorem step_cases (hstep : Step lib guard call next) :
    (∃ e, call.headers.validate lib call.clock = .error e ∧ call.result = .error e ∧ next = guard) ∨
    ∃ now, call.clock = some now ∧ call.headers.Valid lib call.clock ∧
      ((guard.Holds now call.headers.id ∧ call.result = Err .ReplayDetected ∧ next = { guard with
          seen := guard.seen.retain fun seen_at => saturating_sub now seen_at ≤ guard.window_secs }) ∨
      (¬ guard.Holds now call.headers.id ∧ call.result = .ok () ∧ next = { guard with
          seen := (guard.seen.retain fun seen_at =>
            saturating_sub now seen_at ≤ guard.window_secs).insert call.headers.id now })) := by
  unfold Step at hstep
  rcases check_and_insert_cases lib call.clock guard call.headers with
    ⟨e, hinvalid, hcall⟩ | ⟨now, hclock, hvalid, ⟨hholds, hcall⟩ | ⟨hholds, hcall⟩⟩
  · obtain ⟨hresult, hnext⟩ := Prod.mk.inj (hstep.symm.trans hcall)
    exact .inl ⟨e, hinvalid, hresult, hnext⟩
  · obtain ⟨hresult, hnext⟩ := Prod.mk.inj (hstep.symm.trans hcall)
    exact .inr ⟨now, hclock, hvalid, .inl ⟨hholds, hresult, hnext⟩⟩
  · obtain ⟨hresult, hnext⟩ := Prod.mk.inj (hstep.symm.trans hcall)
    exact .inr ⟨now, hclock, hvalid, .inr ⟨hholds, hresult, hnext⟩⟩

theorem step_window_secs (hstep : Step lib guard call next) : next.window_secs = guard.window_secs := by
  rcases step_cases hstep with ⟨_, _, _, rfl⟩ | ⟨_, _, _, ⟨_, _, rfl⟩ | ⟨_, _, rfl⟩⟩ <;> rfl

theorem run_window_secs (hrun : Run (Step lib) (new window_secs) calls guard) : guard.window_secs = window_secs :=
  hrun.invariant (I := fun _ guard => guard.window_secs = window_secs) rfl
    fun hwindow hstep => (step_window_secs hstep).trans hwindow

/-- A call keeps the guard a table of the acceptances. -/
theorem step_tracks {now : UInt64} {log : List (String × Nat)} (hstep : Step lib guard call next)
    (hclock : call.clock = some now) (htracks : guard.Tracks now.toNat log) :
    next.Tracks now.toNat (log ++ call.acceptance.toList) := by
  have hcall := @Tracks.check_and_insert lib _ _ _ htracks call.headers
  rw [← hclock, hstep] at hcall
  cases hresult : call.result with
  | error e =>
    have hnone : call.acceptance = none := by simp [GuardCall.acceptance, hresult]
    simpa [hresult, hnone] using hcall
  | ok _ =>
    have hsome : call.acceptance = some (call.headers.id, now.toNat) :=
      GuardCall.acceptance_eq_some_iff.mpr ⟨now, ⟨hresult, rfl, hclock⟩, rfl⟩
    simpa [hresult, hsome] using hcall

/-- A call without a clock changes nothing and accepts nothing. -/
theorem step_clockless (hstep : Step lib guard call next) (hclock : call.clock = none) :
    next = guard ∧ call.acceptance = none := by
  have hnone : call.acceptance = none := by
    unfold GuardCall.acceptance
    rw [hclock]
    cases call.result <;> rfl
  rcases step_cases hstep with ⟨_, _, _, rfl⟩ | ⟨_, hsome, _⟩
  · exact ⟨rfl, hnone⟩
  · rw [hclock] at hsome
    cases hsome

/-- After any calls over a clock that does not go back, the guard stands for their acceptances. -/
theorem run_tracks (hrun : Run (Step lib) (new window_secs) calls guard) (hclock : GuardCall.NonDecreasing calls)
    {now : UInt64} (hnow : ∀ call ∈ calls, ∀ t ∈ call.clock, t ≤ now) :
    guard.Tracks now.toNat (calls.filterMap GuardCall.acceptance) := by
  have hlogged := @window.run_logged String ReplayGuard GuardCall UInt64 _ (Step lib) (new window_secs) guard
    GuardCall.clock GuardCall.acceptance fun guard now log => guard.Tracks now.toNat log
  refine hlogged (fun _ => Tracks.new _ _) ?_ ?_ step_clockless hrun hclock hnow
  · exact fun htracks hle => htracks.later (UInt64.le_iff_toNat_le.mp hle)
  · exact step_tracks

/-- A call that gets to the table leaves nothing in it that the guard does not hold at that time. -/
theorem contains_key_iff_holds {now : UInt64} (hstep : Step lib guard call next) (hclock : call.clock = some now)
    (hvalid : call.headers.Valid lib call.clock) (id : String) :
    next.seen.contains_key id = true ↔ next.Holds now id := by
  have hrecent : ∀ seen_at, next.seen.get id = some seen_at →
      now.toNat - seen_at.toNat ≤ next.window_secs.toNat := by
    rw [step_window_secs hstep]
    rcases step_cases hstep with ⟨_, hinvalid, _⟩ | ⟨_, hsome, _, ⟨_, _, rfl⟩ | ⟨_, _, rfl⟩⟩
    · rw [Headers.validate_eq_ok_iff.mpr hvalid] at hinvalid
      cases hinvalid
    · rw [hclock] at hsome
      cases hsome
      exact fun seen_at hget => (get_prune_eq_some_iff.mp hget).2
    · rw [hclock] at hsome
      cases hsome
      intro seen_at hget
      rw [Map.get_insert] at hget
      split at hget
      · cases hget
        omega
      · exact (get_prune_eq_some_iff.mp hget).2
  rw [Map.contains_key_iff]
  constructor
  · rintro ⟨seen_at, hget⟩
    exact ⟨seen_at, hget, hrecent seen_at hget⟩
  · rintro ⟨seen_at, hget, _⟩
    exact ⟨seen_at, hget⟩

/-- The guard answers from the history of acceptances alone: a call, the last of the run up to it, succeeds
    exactly on valid headers whose identifier no call accepted within the window, and a call on valid headers
    leaves exactly the identifiers accepted within the window in the table. -/
theorem check_and_insert_refines_history (hrun : Run (Step lib) (new window_secs) (calls ++ [call]) guard)
    (hclock : GuardCall.NonDecreasing (calls ++ [call])) :
    (call.result = .ok () ↔ call.headers.validate lib call.clock = .ok () ∧
      ∀ now, call.clock = some now → ¬ GuardCall.AcceptedWithin window_secs now calls call.headers.id) ∧
    (call.headers.validate lib call.clock = .ok () → ∃ now, call.clock = some now ∧
      ∀ id, guard.seen.contains_key id = true ↔
        GuardCall.AcceptedWithin window_secs now (calls ++ [call]) id) := by
  obtain ⟨before, hbefore, hstep⟩ := hrun.last
  obtain ⟨hcalls, _, hcross⟩ := List.pairwise_append.mp hclock
  have hwindow := run_window_secs hbefore
  have hlatest {now : UInt64} (hnow : call.clock = some now) : ∀ other ∈ calls, ∀ t ∈ other.clock, t ≤ now :=
    fun other hmem t ht => hcross other hmem call (List.mem_singleton.mpr rfl) t ht now hnow
  have hholds {now : UInt64} (hnow : call.clock = some now) (id : String) :
      before.Holds now id ↔ GuardCall.AcceptedWithin window_secs now calls id := by
    rw [(run_tracks hbefore hcalls (hlatest hnow)).holds_iff, hwindow, GuardCall.recent_iff]
  constructor
  · rw [Headers.validate_eq_ok_iff]
    have hok := @check_and_insert_ok_iff lib call.clock before call.headers
    rw [hstep] at hok
    rw [hok]
    exact and_congr_right fun _ => forall_congr' fun now => imp_congr_right fun hnow => not_congr (hholds hnow _)
  · intro hvalidate
    have hvalid := Headers.validate_eq_ok_iff.mp hvalidate
    obtain ⟨now, hnow, _⟩ := hvalid.fresh
    refine ⟨now, hnow, fun id => ?_⟩
    have hall : ∀ other ∈ calls ++ [call], ∀ t ∈ other.clock, t ≤ now := by
      intro other hmem t ht
      obtain hearlier | hlast := List.mem_append.mp hmem
      · exact hlatest hnow other hearlier t ht
      · rw [List.mem_singleton.mp hlast, hnow] at ht
        cases ht
        exact UInt64.le_refl _
    rw [contains_key_iff_holds hstep hnow hvalid, (run_tracks hrun hclock hall).holds_iff, run_window_secs hrun,
      GuardCall.recent_iff]

/-- A broadcast that comes a second time a minute later. -/
theorem check_and_insert_refines_history_twice :
    let first := (ReplayGuard.new 120).check_and_insert reference.library (some 1000)
      ((reference.broadcast 1 "m" 0).headers reference.library)
    let second := first.2.check_and_insert reference.library (some 1060)
      ((reference.broadcast 1 "m" 0).headers reference.library)
    first.1 = .ok () ∧ second.1 ≠ .ok () := by
  have hvalid {now : UInt64} (hfits : now.toNat + 30 < 2 ^ 64) :
      ((reference.broadcast 1 "m" 0).headers reference.library).validate reference.library (some now) = .ok () :=
    Headers.validate_eq_ok_iff.mpr
      (reference.broadcast_valid (show validate_message_id "m" = .ok () by decide) (reference.fresh_never hfits))
  have hearlier := hvalid (show (1000 : UInt64).toNat + 30 < 2 ^ 64 by decide)
  -- What the headers are does not matter from here on.
  generalize (reference.broadcast 1 "m" 0).headers reference.library = headers at hearlier
  intro first second
  have hfirst_run :
      Run (Step reference.library) (ReplayGuard.new 120) ([] ++ [⟨headers, some 1000, first.1⟩]) first.2 :=
    Run.single (step_check_and_insert _ headers (some 1000))
  have hfirst : first.1 = .ok () := by
    apply (check_and_insert_refines_history hfirst_run (List.pairwise_singleton _ _)).1.mpr
    refine ⟨hearlier, fun now _ => ?_⟩
    rintro ⟨_, hmem, _⟩
    cases hmem
  have hsecond_run : Run (Step reference.library) (ReplayGuard.new 120)
      ([⟨headers, some 1000, first.1⟩] ++ [⟨headers, some 1060, second.1⟩]) second.2 :=
    hfirst_run.snoc (step_check_and_insert _ headers (some 1060))
  have hclock : GuardCall.NonDecreasing
      ([⟨headers, some 1000, first.1⟩] ++ [⟨headers, some 1060, second.1⟩]) := by
    refine List.pairwise_pair.mpr ?_
    rintro _ ⟨⟩ _ ⟨⟩
    exact show (1000 : UInt64) ≤ 1060 by decide
  refine ⟨hfirst, fun hsecond => ?_⟩
  obtain ⟨_, hunseen⟩ := (check_and_insert_refines_history hsecond_run hclock).1.mp hsecond
  exact hunseen 1060 rfl ⟨_, List.mem_singleton.mpr rfl, 1000, ⟨hfirst, rfl, rfl⟩, by decide⟩

end ReplayGuard

end ma_core.msg

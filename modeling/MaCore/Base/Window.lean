import MaCore.Base.Transition
import Mathlib.Data.List.Basic

open transition

namespace window

variable {K : Type}

/-- The key was logged at most `width` before `now`. -/
def Recent (width now : Nat) (log : List (K × Nat)) (key : K) : Prop :=
  ∃ time, (key, time) ∈ log ∧ now - time ≤ width

/-- A table of last times stands for a log as far as the window reaches back
from `now`: it forgets nothing recent and records nothing that is not logged. -/
structure Tracks (width now : Nat) (table : K → Option Nat) (log : List (K × Nat)) : Prop where
  complete : ∀ {key time}, (key, time) ∈ log → now - time ≤ width →
    ∃ last, time ≤ last ∧ table key = some last
  sound : ∀ {key last}, table key = some last → (key, last) ∈ log

namespace Tracks

variable {width now : Nat} {table : K → Option Nat} {log : List (K × Nat)}

theorem empty (width now : Nat) : Tracks width now (fun _ : K => none) [] :=
  ⟨fun hlogged _ => absurd hlogged List.not_mem_nil, fun htable => by cases htable⟩

/-- As time passes less of the log is in the window. -/
theorem later {now' : Nat} (htracks : Tracks width now table log) (hle : now ≤ now') :
    Tracks width now' table log :=
  ⟨fun hlogged hrecent => htracks.complete hlogged (by omega), htracks.sound⟩

/-- Forgetting what has left the window loses nothing. -/
theorem prune (htracks : Tracks width now table log) :
    Tracks width now (fun key => (table key).filter fun last => decide (now - last ≤ width)) log := by
  constructor
  · intro key time hlogged hrecent
    obtain ⟨last, hle, htable⟩ := htracks.complete hlogged hrecent
    have hkept : now - last ≤ width := by omega
    exact ⟨last, hle, Option.filter_eq_some_iff.mpr ⟨htable, decide_eq_true hkept⟩⟩
  · intro key last hpruned
    exact htracks.sound (Option.filter_eq_some_iff.mp hpruned).1

/-- Logging a key now and recording it in the table keep them together. -/
theorem insert [DecidableEq K] (htracks : Tracks width now table log)
    (hpast : ∀ entry ∈ log, entry.2 ≤ now) (key : K) :
    Tracks width now (fun k => if k = key then some now else table k) (log ++ [(key, now)]) := by
  constructor
  · intro k time hlogged hrecent
    by_cases hkey : k = key
    · refine ⟨now, ?_, if_pos hkey⟩
      rcases List.mem_append.mp hlogged with hold | hnew
      · exact hpast _ hold
      · cases List.mem_singleton.mp hnew
        exact Nat.le_refl now
    · rw [if_neg hkey]
      rcases List.mem_append.mp hlogged with hold | hnew
      · exact htracks.complete hold hrecent
      · cases List.mem_singleton.mp hnew
        exact absurd rfl hkey
  · intro k last htable
    by_cases hkey : k = key
    · rw [if_pos hkey] at htable
      cases htable
      subst hkey
      exact List.mem_append_right _ (List.mem_singleton.mpr rfl)
    · rw [if_neg hkey] at htable
      exact List.mem_append_left _ (htracks.sound htable)

/-- A key is in the pruned table exactly when it was logged recently. -/
theorem recent_iff (htracks : Tracks width now table log) (key : K) :
    (∃ last, table key = some last ∧ now - last ≤ width) ↔ Recent width now log key := by
  constructor
  · rintro ⟨last, htable, hrecent⟩
    exact ⟨last, htracks.sound htable, hrecent⟩
  · rintro ⟨time, hlogged, hrecent⟩
    obtain ⟨last, hle, htable⟩ := htracks.complete hlogged hrecent
    exact ⟨last, htable, by omega⟩

end Tracks

/-! Runs that log what they record. -/

section
variable {σ ι T : Type} [LE T] {step : σ → ι → σ → Prop} {start s : σ} {reading : ι → Option T}
  {logged : ι → Option (K × Nat)} {P : σ → T → List (K × Nat) → Prop}

/-- The clock of a run does not go back. -/
def NonDecreasing (reading : ι → Option T) (events : List ι) : Prop :=
  events.Pairwise fun earlier later => ∀ s ∈ reading earlier, ∀ t ∈ reading later, s ≤ t

/-- What relates a state to a log at a time, and is kept by each event at its own time, relates the end
    of a run to the log of the run at every time from the last event on. -/
theorem run_logged (hstart : ∀ now, P start now [])
    (hlater : ∀ {s time now log}, P s time log → time ≤ now → P s now log)
    (hstep : ∀ {s event t now log}, step s event t → reading event = some now → P s now log →
      P t now (log ++ (logged event).toList))
    (hclockless : ∀ {s event t}, step s event t → reading event = none → t = s ∧ logged event = none)
    {events : List ι} (hrun : Run step start events s) (hclock : NonDecreasing reading events) {now : T}
    (hnow : ∀ event ∈ events, ∀ t ∈ reading event, t ≤ now) : P s now (events.filterMap logged) := by
  refine hrun.invariant (I := fun events s => NonDecreasing reading events → ∀ now : T,
    (∀ event ∈ events, ∀ t ∈ reading event, t ≤ now) → P s now (events.filterMap logged)) ?_ ?_ hclock now hnow
  · exact fun _ now _ => hstart now
  · intro events s event t ih hlast hclock now hnow
    obtain ⟨hevents, _, hcross⟩ := List.pairwise_append.mp hclock
    rw [List.filterMap_append]
    cases hreading : reading event with
    | none =>
      obtain ⟨rfl, hnone⟩ := hclockless hlast hreading
      have hbefore := ih hevents now fun other hmem => hnow other (List.mem_append_left _ hmem)
      simpa [hnone] using hbefore
    | some time =>
      -- The earlier events are at most at this event's time, so the relation is to the log at that
      -- time, and then at any later one.
      have hbefore := ih hevents time fun other hmem s hs =>
        hcross other hmem event (List.mem_singleton.mpr rfl) s hs time hreading
      have hafter := hstep hlast hreading hbefore
      have hlog : List.filterMap logged [event] = (logged event).toList := by
        cases hlogged : logged event <;> simp [hlogged]
      rw [hlog]
      exact hlater hafter (hnow event (by simp) time hreading)

end

/-! Calls told apart by their answers. -/

section
variable {σ ι α T : Type} [LE T] {call : ι → σ → α × σ} {reading : ι → Option T} {Alike : T → σ → σ → Prop}

/-- What calls are answered, each on the state the one before it left. -/
def answers (call : ι → σ → α × σ) : List ι → σ → List α
  | [], _ => []
  | event :: events, s => (call event s).1 :: answers call events (call event s).2

/-- States that are alike from a time on are answered alike, if each call answers them alike and leaves
    them alike from its own time on. -/
theorem answers_congr
    (hcall : ∀ {now s t} (event : ι), Alike now s t → (∀ time ∈ reading event, now ≤ time) →
      (call event s).1 = (call event t).1 ∧
        Alike ((reading event).getD now) (call event s).2 (call event t).2)
    {now : T} {events : List ι} {s t : σ} (halike : Alike now s t) (hclock : NonDecreasing reading events)
    (hnow : ∀ event ∈ events, ∀ time ∈ reading event, now ≤ time) :
    answers call events s = answers call events t := by
  induction events generalizing now s t with
  | nil => rfl
  | cons event events ih =>
    obtain ⟨hfirst, hrest⟩ := List.pairwise_cons.mp hclock
    obtain ⟨hanswer, hleft⟩ := hcall event halike (hnow event List.mem_cons_self)
    have hlater : ∀ other ∈ events, ∀ time ∈ reading other, (reading event).getD now ≤ time := by
      intro other hmem time htime
      cases hreading : reading event with
      | none => exact hnow other (List.mem_cons_of_mem _ hmem) time htime
      | some read => exact hfirst other hmem read hreading time htime
    rw [answers, answers, hanswer, ih hleft hrest hlater]

end

end window

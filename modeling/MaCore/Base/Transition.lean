import Mathlib.Logic.Basic

namespace transition

variable {σ ι : Type} {step : σ → ι → σ → Prop} {start s t : σ}

/-- The finite runs of a labelled step relation, with their events in order. -/
inductive Run (step : σ → ι → σ → Prop) (start : σ) : List ι → σ → Prop
  | nil : Run step start [] start
  | snoc {events : List ι} {event : ι} {s t : σ} :
    Run step start events s → step s event t → Run step start (events ++ [event]) t

/-- What holds of the start with no history and survives each step holds at
    the end of every run. -/
theorem Run.invariant {I : List ι → σ → Prop} (hstart : I [] start)
    (hstep : ∀ {events s event t}, I events s → step s event t → I (events ++ [event]) t)
    {events : List ι} (hrun : Run step start events s) : I events s := by
  induction hrun with
  | nil => exact hstart
  | snoc _ hlast ih => exact hstep ih hlast

theorem Run.append {xs ys : List ι} (hfirst : Run step start xs s) (hsecond : Run step s ys t) :
    Run step start (xs ++ ys) t := by
  induction hsecond with
  | nil => rwa [List.append_nil]
  | snoc _ hlast ih =>
    rw [← List.append_assoc]
    exact ih.snoc hlast

theorem Run.single {event : ι} (hstep : step start event s) : Run step start [event] s :=
  Run.nil.snoc hstep

theorem Run.cons {event : ι} {events : List ι} (hstep : step start event s)
    (hrun : Run step s events t) : Run step start (event :: events) t :=
  (Run.single hstep).append hrun

/-- The last event of a run is a step from the end of the run before it. -/
theorem Run.last {events : List ι} {event : ι} (hrun : Run step start (events ++ [event]) t) :
    ∃ s, Run step start events s ∧ step s event t := by
  generalize hall : events ++ [event] = all at hrun
  cases hrun with
  | nil => simp at hall
  | snoc hinit hlast =>
    obtain ⟨rfl, hevent⟩ := List.append_inj' hall rfl
    cases hevent
    exact ⟨_, hinit, hlast⟩

/-- A run passes through a state at each of its events. -/
theorem Run.split {before after : List ι} {event : ι}
    (hrun : Run step start (before ++ event :: after) t) :
    ∃ s u, Run step start before s ∧ step s event u ∧ Run step u after t := by
  generalize hall : before ++ event :: after = all at hrun
  induction hrun generalizing after with
  | nil => simp at hall
  | @snoc events last s t hinit hlast ih =>
    rcases List.eq_nil_or_concat after with rfl | ⟨after, final, rfl⟩
    · obtain ⟨rfl, hevent⟩ := List.append_inj' hall rfl
      cases hevent
      exact ⟨s, t, hinit, hlast, .nil⟩
    · rw [List.concat_eq_append, ← List.cons_append, ← List.append_assoc] at hall
      obtain ⟨hevents, hevent⟩ := List.append_inj' hall rfl
      cases hevent
      obtain ⟨r, u, hbefore, hstep, hafter⟩ := ih hevents
      exact ⟨r, u, hbefore, hstep, by simpa using hafter.snoc hlast⟩

/-- Two conditions on steps that agree at the states of runs admit the same runs. -/
theorem Run.restrict_iff {P Q : σ → ι → σ → Prop}
    (hiff : ∀ {events s event t}, Run step start events s → step s event t → (P s event t ↔ Q s event t))
    {events : List ι} :
    Run (fun s event t => step s event t ∧ P s event t) start events s ↔
      Run (fun s event t => step s event t ∧ Q s event t) start events s := by
  have hforward {P Q : σ → ι → σ → Prop}
      (himp : ∀ {events s event t}, Run step start events s → step s event t → P s event t → Q s event t)
      (hrun : Run (fun s event t => step s event t ∧ P s event t) start events s) :
      Run step start events s ∧ Run (fun s event t => step s event t ∧ Q s event t) start events s := by
    induction hrun with
    | nil => exact ⟨.nil, .nil⟩
    | snoc _ hlast ih => exact ⟨ih.1.snoc hlast.1, ih.2.snoc ⟨hlast.1, himp ih.1 hlast.1 hlast.2⟩⟩
  constructor
  · intro hrun
    exact (hforward (fun hrun hstep => (hiff hrun hstep).mp) hrun).2
  · intro hrun
    exact (hforward (fun hrun hstep => (hiff hrun hstep).mpr) hrun).2

/-- A state some run ends in. -/
def Reachable (step : σ → ι → σ → Prop) (start s : σ) : Prop := ∃ events, Run step start events s

theorem Reachable.invariant {I : σ → Prop} (hstart : I start)
    (hstep : ∀ {s event t}, I s → step s event t → I t) (hreach : Reachable step start s) : I s := by
  obtain ⟨events, hrun⟩ := hreach
  exact hrun.invariant (I := fun _ s => I s) hstart hstep

end transition

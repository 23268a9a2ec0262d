import MaCore.Base.Prog

/-! The commands a program issues, each with its reply, whatever the replies are. -/

namespace Prog

variable {C : Type} {R : C → Type} {α β W : Type}

/-- The program issues these commands, if they are replied to like this, and returns a value. -/
inductive Trace : Prog C R α → List (Σ c, R c) → α → Prop
  | ret (a : α) : Trace (.ret a) [] a
  | call {c : C} {k : R c → Prog C R α} {r : R c} {events : List (Σ c, R c)} {a : α}
    (hrest : Trace (k r) events a) : Trace (.call c k) (⟨c, r⟩ :: events) a

section
variable {events : List (Σ c, R c)} {a : α} {b : β}

@[simp] theorem trace_ret_iff {a' : α} : Trace (.ret a' : Prog C R α) events a ↔ events = [] ∧ a = a' := by
  constructor
  · intro htrace
    cases htrace
    exact ⟨rfl, rfl⟩
  · rintro ⟨rfl, rfl⟩
    exact .ret a

theorem trace_call_iff {c : C} {k : R c → Prog C R α} :
    Trace (.call c k) events a ↔ ∃ r rest, events = ⟨c, r⟩ :: rest ∧ Trace (k r) rest a := by
  constructor
  · intro htrace
    cases htrace with
    | call hrest => exact ⟨_, _, rfl, hrest⟩
  · rintro ⟨r, rest, rfl, hrest⟩
    exact .call hrest

theorem trace_issue_iff {c : C} {r : R c} : Trace (.issue c) events r ↔ events = [⟨c, r⟩] := by
  rw [issue, trace_call_iff]
  constructor
  · rintro ⟨r', rest, rfl, hrest⟩
    obtain ⟨rfl, rfl⟩ := trace_ret_iff.mp hrest
    rfl
  · rintro rfl
    exact ⟨r, [], rfl, .ret r⟩

theorem trace_bind_iff {p : Prog C R α} {f : α → Prog C R β} :
    Trace (p >>= f) events b ↔
      ∃ before after a, events = before ++ after ∧ Trace p before a ∧ Trace (f a) after b := by
  induction p generalizing events with
  | ret a =>
    constructor
    · intro htrace
      exact ⟨[], events, a, rfl, .ret a, htrace⟩
    · rintro ⟨before, after, a, rfl, hfirst, hrest⟩
      obtain ⟨rfl, rfl⟩ := trace_ret_iff.mp hfirst
      exact hrest
  | call c k ih =>
    rw [call_bind, trace_call_iff]
    constructor
    · rintro ⟨r, rest, rfl, htrace⟩
      obtain ⟨before, after, a, rfl, hfirst, hrest⟩ := (ih r).mp htrace
      exact ⟨⟨c, r⟩ :: before, after, a, rfl, .call hfirst, hrest⟩
    · rintro ⟨before, after, a, rfl, hfirst, hrest⟩
      obtain ⟨r, rest, rfl, hnext⟩ := trace_call_iff.mp hfirst
      exact ⟨r, rest ++ after, rfl, (ih r).mpr ⟨rest, after, a, rfl, hnext, hrest⟩⟩

/-- A command and what comes of its reply. -/
theorem trace_issue_bind_iff {c : C} {f : R c → Prog C R β} :
    Trace (.issue c >>= f) events b ↔ ∃ r rest, events = ⟨c, r⟩ :: rest ∧ Trace (f r) rest b :=
  trace_call_iff

/-- A sequence goes on with the value of the first, or fails where it does. -/
theorem trace_run_bind_iff {ε : Type} {p : ExceptT ε (Prog C R) α} {f : α → ExceptT ε (Prog C R) β}
    {result : Except ε β} :
    Trace (p >>= f).run events result ↔
      (∃ before after a, events = before ++ after ∧ Trace p.run before (.ok a) ∧ Trace (f a).run after result) ∨
        ∃ e, Trace p.run events (.error e) ∧ result = .error e := by
  have hbind : (p >>= f).run = p.run >>= ExceptT.bindCont f := rfl
  rw [hbind, trace_bind_iff]
  constructor
  · rintro ⟨before, after, e | a, rfl, hfirst, hrest⟩
    · obtain ⟨rfl, rfl⟩ := trace_ret_iff.mp hrest
      rw [List.append_nil]
      exact .inr ⟨e, hfirst, rfl⟩
    · exact .inl ⟨before, after, a, rfl, hfirst, hrest⟩
  · rintro (⟨before, after, a, hevents, hfirst, hrest⟩ | ⟨e, hfirst, rfl⟩)
    · exact ⟨before, after, .ok a, hevents, hfirst, hrest⟩
    · exact ⟨events, [], .error e, (List.append_nil events).symm, hfirst, .ret _⟩

/-- A computation without commands, -/
theorem trace_lift_iff {ε : Type} {x result : Except ε α} :
    Trace (liftM x : ExceptT ε (Prog C R) α).run events result ↔ events = [] ∧ result = x :=
  trace_ret_iff

/-- and before the rest. -/
theorem trace_lift_bind_iff {ε : Type} {x : Except ε α} {f : α → ExceptT ε (Prog C R) β} {result : Except ε β} :
    Trace ((liftM x : ExceptT ε (Prog C R) α) >>= f).run events result ↔
      (∃ a, x = .ok a ∧ Trace (f a).run events result) ∨ ∃ e, x = .error e ∧ events = [] ∧ result = .error e := by
  cases x with
  | ok a =>
    rw [lift_ok_bind]
    simp
  | error e =>
    rw [lift_error_bind]
    simp [ExceptT.run, ExceptT.mk]

/-- Replies one after the other from a world. -/
inductive Env.Replied (env : Env C R W) : W → List (Σ c, R c) → W → Prop
  | nil (w : W) : Replied env w [] w
  | cons {w w₁ w' : W} {c : C} {r : R c} {events : List (Σ c, R c)} (hreply : env.replies w c r w₁)
    (hrest : Replied env w₁ events w') : Replied env w (⟨c, r⟩ :: events) w'

/-- A run in a world is a trace whose replies the world gives. -/
theorem exec_iff_trace {env : Env C R W} {p : Prog C R α} {w w' : W} :
    Exec env p w a w' ↔ ∃ events, Trace p events a ∧ env.Replied w events w' := by
  induction p generalizing w with
  | ret b =>
    constructor
    · rintro ⟨rfl, rfl⟩
      exact ⟨[], .ret a, .nil w'⟩
    · rintro ⟨events, htrace, hreplied⟩
      obtain ⟨rfl, rfl⟩ := trace_ret_iff.mp htrace
      cases hreplied
      exact ⟨rfl, rfl⟩
  | call c k ih =>
    constructor
    · rintro ⟨r, w₁, hreply, hrest⟩
      obtain ⟨events, htrace, hreplied⟩ := (ih r).mp hrest
      exact ⟨⟨c, r⟩ :: events, .call htrace, .cons hreply hreplied⟩
    · rintro ⟨events, htrace, hreplied⟩
      obtain ⟨r, rest, rfl, hnext⟩ := trace_call_iff.mp htrace
      cases hreplied with
      | cons hreply hrest => exact ⟨r, _, hreply, (ih r).mpr ⟨rest, hnext, hrest⟩⟩

end

end Prog

import MaCore.Base.Tasks

/-! Programs among others, in sequence, and tasks that report what they come to. -/

namespace Prog

variable {C : Type} {R : C → Type} {α β O W : Type}

section
variable {env : Env C R W} {rely : W → W → Prop} {w : W}

theorem rwp_mono {Q Q' : W → α → Prop} {p : Prog C R α} (hp : rwp env rely Q p w)
    (hpost : ∀ w a, Q w a → Q' w a) : rwp env rely Q' p w := by
  induction p generalizing w with
  | ret a => exact fun w' hmove => hpost w' a (hp w' hmove)
  | call c k ih =>
    intro w₁ hmove
    obtain ⟨hallowed, hrest⟩ := hp w₁ hmove
    exact ⟨hallowed, fun r w₂ hreply => ih r (hrest r w₂ hreply)⟩

/-- A program goes on from where the one before it ends. -/
theorem rwp_bind (hrefl : ∀ w, rely w w) {Q : W → β → Prop} {p : Prog C R α} {f : α → Prog C R β}
    (hp : rwp env rely (fun w a => rwp env rely Q (f a) w) p w) : rwp env rely Q (p >>= f) w := by
  induction p generalizing w with
  | ret a => exact hp w (hrefl w)
  | call c k ih =>
    intro w₁ hmove
    obtain ⟨hallowed, hrest⟩ := hp w₁ hmove
    exact ⟨hallowed, fun r w₂ hreply => ih r (hrest r w₂ hreply)⟩

/-- A command and what comes of its reply. -/
theorem rwp_issue_bind {c : C} {Q : W → β → Prop} {f : R c → Prog C R β}
    (hcommand : ∀ w₁, rely w w₁ → env.allowed w₁ c ∧ ∀ r w₂, env.replies w₁ c r w₂ → rwp env rely Q (f r) w₂) :
    rwp env rely Q (issue c >>= f) w := hcommand

/-- A sequence of programs that may fail. -/
theorem rwp_run_bind (hrefl : ∀ w, rely w w) {ε : Type} {Q : W → Except ε β → Prop} {p : ExceptT ε (Prog C R) α}
    {f : α → ExceptT ε (Prog C R) β}
    (hp : rwp env rely (fun w result =>
      match result with
      | .ok a => rwp env rely Q (f a).run w
      | .error e => ∀ w', rely w w' → Q w' (.error e)) p.run w) : rwp env rely Q (p >>= f).run w := by
  have hbind : (p >>= f).run = p.run >>= ExceptT.bindCont f := rfl
  rw [hbind]
  refine rwp_bind hrefl (rwp_mono hp fun w' result hrest => ?_)
  cases result with
  | ok a => exact hrest
  | error e => exact hrest

theorem rwp_lift_bind {ε : Type} {Q : W → Except ε β → Prop} {x : Except ε α} {f : α → ExceptT ε (Prog C R) β}
    (hok : ∀ a, x = .ok a → rwp env rely Q (f a).run w)
    (herror : ∀ e, x = .error e → ∀ w', rely w w' → Q w' (.error e)) :
    rwp env rely Q ((liftM x : ExceptT ε (Prog C R) α) >>= f).run w := by
  cases x with
  | ok a => exact hok a rfl
  | error e => exact herror e rfl

/-- A program whose commands are allowed everywhere and move the world as others may. -/
theorem Issues.rwp_moves {P : C → Prop} (htrans : ∀ a b c, rely a b → rely b c → rely a c)
    (hP : ∀ c, P c → ∀ w, env.allowed w c) (hmoves : ∀ {c r w w'}, env.replies w c r w' → rely w w')
    {p : Prog C R α} (hp : Issues P p) (w : W) : Prog.rwp env rely (fun w' _ => rely w w') p w := by
  induction p generalizing w with
  | ret a => exact fun _ hmove => hmove
  | call c k ih =>
    intro w₁ hmove
    refine ⟨hP c hp.1 w₁, fun r w₂ hreply => ?_⟩
    refine rwp_mono (ih r (hp.2 r) w₂) fun w' a hlast => ?_
    exact htrans _ _ _ hmove (htrans _ _ _ (hmoves hreply) hlast)

end

namespace Rules

variable {T E : Type} {rules : Rules C R T E W} {rely : T → W → W → Prop} {pre : T → W → C → Prop}
  {s t : Pool C R T W} {event : PoolEvent T E}

/-- A task keeps what it was started for, and one that starts is the last. -/
theorem Step.tags (hstep : rules.Step s event t) :
    (∃ tag, rules.starts s.world tag t.world ∧ t.tasks.map Task.tag = s.tasks.map Task.tag ++ [tag]) ∨
      t.tasks.map Task.tag = s.tasks.map Task.tag := by
  have hset {i : Nat} {tag : T} {rest rest' : Prog C R Unit} (htask : s.tasks[i]? = some ⟨tag, rest⟩) :
      (s.tasks.set i ⟨tag, rest'⟩).map Task.tag = s.tasks.map Task.tag := by
    obtain ⟨hlt, hget⟩ := List.getElem?_eq_some_iff.mp htask
    have hmapped : i < (s.tasks.map Task.tag).length := by rwa [List.length_map]
    have htag : (s.tasks.map Task.tag)[i] = tag := by rw [List.getElem_map, hget]
    rw [List.map_set, ← htag]
    exact List.set_getElem_self hmapped
  cases hstep with
  | start tag world hstart => exact .inl ⟨tag, hstart, List.map_append⟩
  | issue i tag c k r world htask hreply => exact .inr (hset htask)
  | drop i task htask => exact .inr (hset htask)
  | during | move => exact .inr rfl

/-- A step moves the world as a task relies on that excludes nothing. -/
theorem Guarded.moved (hguarded : rules.Guarded rely pre) (tag : T) (hpermits : ∀ event, rules.permits tag event)
    (hstep : rules.Step s event t) : rely tag s.world t.world := by
  cases hstep with
  | start _ world hstart => exact hguarded.starts hstart tag
  | issue i _ c k r world htask hreply => exact hguarded.replies hreply tag
  | during i _ c k event world htask hduring => exact hguarded.during hduring tag
  | drop i task htask => exact hguarded.release i s.world tag
  | move event world hmove _ => exact hguarded.moves hmove tag (hpermits event)

end Rules

/-- The replies to commands; a report has none. -/
abbrev Reported (R : C → Type) (O : Type) : C ⊕ O → Type := Sum.elim R fun _ => Unit

/-- A report, and nothing after it. -/
def reporting (o : O) : Prog (C ⊕ O) (Reported R O) Unit := call (.inr o) fun _ => ret ()

/-- The program as one that ends with a report of what it comes to. -/
def report : Prog C R O → Prog (C ⊕ O) (Reported R O) Unit
  | ret o => reporting o
  | call c k => call (.inl c) fun r => report (k r)

/-- What the rules derive of the program is derived of what it reports. -/
theorem rwp.report {env : Env C R W} {env' : Env (C ⊕ O) (Reported R O) W} {rely : W → W → Prop} {Q : W → O → Prop}
    {p : Prog C R O} {w : W} (hp : rwp env rely Q p w)
    (hallowed : ∀ {w c}, env.allowed w c → env'.allowed w (.inl c))
    (hreplies : ∀ {w c r w'}, env'.replies w (.inl c) r w' → env.replies w c r w')
    (hreported : ∀ {w o}, Q w o → env'.allowed w (.inr o)) :
    rwp env' rely (fun _ _ => True) p.report w := by
  induction p generalizing w with
  | ret o => exact fun w₁ hmove => ⟨hreported (hp w₁ hmove), fun _ _ _ _ _ => trivial⟩
  | call c k ih =>
    intro w₁ hmove
    obtain ⟨hcommand, hrest⟩ := hp w₁ hmove
    exact ⟨hallowed hcommand, fun r w₂ hreply => ih r (hrest r w₂ (hreplies hreply))⟩

/-- A task that runs alone comes to its report. -/
theorem Rules.run_report {T E : Type} (rules : Rules (C ⊕ O) (Reported R O) T E W) {env : Env C R W} {i : Nat}
    (hreplies : ∀ {w c r w'}, env.replies w c r w' → rules.replies i w (.inl c) r w') {p : Prog C R O} {o : O}
    {w w' : W} {tasks : List (Task (C ⊕ O) (Reported R O) T)} {tag : T} (htask : tasks[i]? = some ⟨tag, p.report⟩)
    (hexec : p.Exec env w o w') :
    ∃ events, transition.Run rules.Step ⟨w, tasks⟩ events ⟨w', tasks.set i ⟨tag, reporting o⟩⟩ := by
  induction p generalizing w tasks with
  | ret b =>
    obtain ⟨rfl, rfl⟩ := hexec
    obtain ⟨hlt, hget⟩ := List.getElem?_eq_some_iff.mp htask
    have hset : tasks.set i ⟨tag, report (.ret o)⟩ = tasks := by
      rw [← hget]
      exact List.set_getElem_self hlt
    change ∃ events, transition.Run rules.Step ⟨w', tasks⟩ events ⟨w', tasks.set i ⟨tag, report (.ret o)⟩⟩
    rw [hset]
    exact ⟨[], .nil⟩
  | call c k ih =>
    obtain ⟨r, w₁, hreply, hrest⟩ := hexec
    have hlt := (List.getElem?_eq_some_iff.mp htask).1
    obtain ⟨events, hrun⟩ := ih r (List.getElem?_set_self hlt) hrest
    rw [List.set_set] at hrun
    exact ⟨.issue i :: events, .cons (Rules.Step.issue_to htask (hreplies hreply) rfl) hrun⟩

end Prog

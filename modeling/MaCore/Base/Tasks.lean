import MaCore.Base.Prog
import MaCore.Base.Transition

/-! Programs that run side by side over one world, a command at a time. -/

namespace Prog

variable {C : Type} {R : C → Type} {α β W : Type}

/-- Every command the program may issue is one of `P`. -/
def Issues (P : C → Prop) : Prog C R α → Prop
  | ret _ => True
  | call c k => P c ∧ ∀ r, Issues P (k r)

section
variable {P P' : C → Prop}

theorem Issues.bind {p : Prog C R α} {f : α → Prog C R β} (hp : Issues P p) (hf : ∀ a, Issues P (f a)) :
    Issues P (p >>= f) := by
  induction p with
  | ret a => exact hf a
  | call c k ih => exact ⟨hp.1, fun r => ih r (hp.2 r)⟩

theorem Issues.of_bind {p : Prog C R α} {f : α → Prog C R β} (hbind : Issues P (p >>= f)) : Issues P p := by
  induction p with
  | ret a => exact trivial
  | call c k ih => exact ⟨hbind.1, fun r => ih r (hbind.2 r)⟩

theorem Issues.bind_ok {ε : Type} {p : ExceptT ε (Prog C R) α} {f : α → ExceptT ε (Prog C R) β}
    (hp : Issues P p.run) (hf : ∀ a, Issues P (f a).run) : Issues P (p >>= f).run := by
  apply Issues.bind hp
  intro result
  cases result with
  | ok a => exact hf a
  | error e => exact trivial

/-- A sequence that is followed by more. -/
theorem Issues.bind_ok_bind {ε : Type} {p : ExceptT ε (Prog C R) α} {f : α → ExceptT ε (Prog C R) β} {γ : Type}
    {g : Except ε β → Prog C R γ} (hp : Issues P p.run) (hf : ∀ a, Issues P ((f a).run >>= g))
    (herror : ∀ e, Issues P (g (.error e))) : Issues P ((p >>= f).run >>= g) := by
  have hbind : (p >>= f).run = p.run >>= ExceptT.bindCont f := rfl
  rw [hbind]
  generalize p.run = q at hp
  induction q with
  | ret result =>
    cases result with
    | ok a => exact hf a
    | error e => exact herror e
  | call c k ih => exact ⟨hp.1, fun r => ih r (hp.2 r)⟩

theorem Issues.lift {p : Prog C R α} {ε : Type} (hp : Issues P p) :
    Issues P (liftM p : ExceptT ε (Prog C R) α).run :=
  Issues.bind hp fun _ => trivial

theorem Issues.mono {p : Prog C R α} (hp : Issues P p) (hsub : ∀ c, P c → P' c) : Issues P' p := by
  induction p with
  | ret a => exact trivial
  | call c k ih => exact ⟨hsub c hp.1, fun r => ih r (hp.2 r)⟩

end

/-- `wp` for a program among others: before each command and at the end the
    world may have moved by `rely`. -/
def rwp (env : Env C R W) (rely : W → W → Prop) (Q : W → α → Prop) : Prog C R α → W → Prop
  | ret a, w => ∀ w', rely w w' → Q w' a
  | call c k, w => ∀ w₁, rely w w₁ →
    env.allowed w₁ c ∧ ∀ r w₂, env.replies w₁ c r w₂ → rwp env rely Q (k r) w₂

section
variable {env : Env C R W} {rely : W → W → Prop} {Q : W → α → Prop}

/-- What the others do does not invalidate it. -/
theorem rwp_stable (htrans : ∀ a b c, rely a b → rely b c → rely a c) {p : Prog C R α} {w w' : W}
    (hp : rwp env rely Q p w) (hmove : rely w w') : rwp env rely Q p w' := by
  cases p with
  | ret a => exact fun w₁ hlater => hp w₁ (htrans _ _ _ hmove hlater)
  | call c k => exact fun w₁ hlater => hp w₁ (htrans _ _ _ hmove hlater)

/-- A program whose commands are allowed in every world. -/
theorem Issues.rwp {P : C → Prop} (hP : ∀ c, P c → ∀ w, env.allowed w c) {p : Prog C R α}
    (hp : Issues P p) (w : W) : Prog.rwp env rely (fun _ _ => True) p w := by
  induction p generalizing w with
  | ret a => exact fun _ _ => trivial
  | call c k ih => exact fun w₁ _ => ⟨hP c hp.1 w₁, fun r w₂ _ => ih r (hp.2 r) w₂⟩

end

/-- What the commands of a program preserve, its runs do. -/
theorem Issues.exec {env : Env C R W} {P : C → Prop} {I : W → Prop}
    (hP : ∀ {c r w w'}, P c → env.replies w c r w' → I w → I w') {p : Prog C R α} {a : α} {w w' : W}
    (hp : Issues P p) (hexec : Exec env p w a w') (hw : I w) : I w' := by
  induction p generalizing w with
  | ret b =>
    obtain ⟨_, rfl⟩ := hexec
    exact hw
  | call c k ih =>
    obtain ⟨r, w₁, hreply, hrest⟩ := hexec
    exact ih r (hp.2 r) hrest (hP hp.1 hreply hw)

/-- A task: what it was started for, and what is left of its program. -/
structure Task (C : Type) (R : C → Type) (T : Type) where
  tag : T
  rest : Prog C R Unit

def Task.Active {T : Type} (self : Task C R T) : Prop := ∀ u, self.rest ≠ .ret u

structure Pool (C : Type) (R : C → Type) (T W : Type) where
  world : W
  tasks : List (Task C R T)

/-- The rules of a pool: the program of each kind of task and when one starts;
    the replies to the commands of the task at an index; what happens while a
    command waits for its reply, and what happens by itself unless a running
    task excludes it; and what is released with a task that is dropped. -/
structure Rules (C : Type) (R : C → Type) (T E W : Type) where
  program : T → Prog C R Unit
  starts : W → T → W → Prop
  replies : Nat → W → (c : C) → R c → W → Prop
  during : W → C → E → W → Prop
  moves : W → E → W → Prop
  permits : T → E → Prop
  release : Nat → W → W

inductive PoolEvent (T E : Type) where
  | start (tag : T)
  | issue (i : Nat)
  | during (i : Nat) (event : E)
  | drop (i : Nat)
  | move (event : E)

namespace Rules

variable {T E : Type} (rules : Rules C R T E W)

inductive Step : Pool C R T W → PoolEvent T E → Pool C R T W → Prop
  | start (s : Pool C R T W) (tag : T) (world : W) (hstart : rules.starts s.world tag world) :
    Step s (.start tag) ⟨world, s.tasks ++ [⟨tag, rules.program tag⟩]⟩
  | issue (s : Pool C R T W) (i : Nat) (tag : T) (c : C) (k : R c → Prog C R Unit) (r : R c) (world : W)
    (htask : s.tasks[i]? = some ⟨tag, .call c k⟩) (hreply : rules.replies i s.world c r world) :
    Step s (.issue i) ⟨world, s.tasks.set i ⟨tag, k r⟩⟩
  | during (s : Pool C R T W) (i : Nat) (tag : T) (c : C) (k : R c → Prog C R Unit) (event : E) (world : W)
    (htask : s.tasks[i]? = some ⟨tag, .call c k⟩) (hduring : rules.during s.world c event world) :
    Step s (.during i event) ⟨world, s.tasks⟩
  | drop (s : Pool C R T W) (i : Nat) (task : Task C R T) (htask : s.tasks[i]? = some task) :
    Step s (.drop i) ⟨rules.release i s.world, s.tasks.set i ⟨task.tag, .ret ()⟩⟩
  | move (s : Pool C R T W) (event : E) (world : W) (hmove : rules.moves s.world event world)
    (hpermits : ∀ task ∈ s.tasks, task.Active → rules.permits task.tag event) :
    Step s (.move event) ⟨world, s.tasks⟩

variable {rules} in
/-- A task issues its next command. -/
theorem Step.issue_to {s : Pool C R T W} {i : Nat} {tag : T} {c : C} {k : R c → Prog C R Unit} {r : R c} {world : W}
    {tasks : List (Task C R T)} (htask : s.tasks[i]? = some ⟨tag, .call c k⟩)
    (hreply : rules.replies i s.world c r world) (htasks : s.tasks.set i ⟨tag, k r⟩ = tasks) :
    rules.Step s (.issue i) ⟨world, tasks⟩ := by
  subst htasks
  exact .issue s i tag c k r world htask hreply

/-- The environment of the task at an index, which is to issue a command only
    under the precondition of its kind. -/
def env (pre : T → W → C → Prop) (i : Nat) (tag : T) : Env C R W where
  allowed := pre tag
  replies := rules.replies i

/-- Nothing breaks what the tasks rely on, and relying on it their programs
    keep to the preconditions. -/
structure Guarded (rely : T → W → W → Prop) (pre : T → W → C → Prop) : Prop where
  refl : ∀ tag w, rely tag w w
  trans : ∀ tag a b c, rely tag a b → rely tag b c → rely tag a c
  starts : ∀ {w tag w'}, rules.starts w tag w' → ∀ other, rely other w w'
  replies : ∀ {i w c r w'}, rules.replies i w c r w' → ∀ other, rely other w w'
  during : ∀ {w c event w'}, rules.during w c event w' → ∀ other, rely other w w'
  moves : ∀ {w event w'}, rules.moves w event w' → ∀ other, rules.permits other event → rely other w w'
  release : ∀ i w other, rely other w (rules.release i w)
  programs : ∀ {w tag w'}, rules.starts w tag w' →
    ∀ i, rwp (rules.env pre i tag) (rely tag) (fun _ _ => True) (rules.program tag) w'

/-- What is left of every task keeps to its precondition. -/
def Held (rely : T → W → W → Prop) (pre : T → W → C → Prop) (s : Pool C R T W) : Prop :=
  ∀ i tag rest, s.tasks[i]? = some ⟨tag, rest⟩ →
    rwp (rules.env pre i tag) (rely tag) (fun _ _ => True) rest s.world

section
variable {rules} {rely : T → W → W → Prop} {pre : T → W → C → Prop} {s t : Pool C R T W}
  {event : PoolEvent T E}

/-- Tasks that stay as they are, while the world moves as those running rely on. -/
theorem Guarded.others (hguarded : rules.Guarded rely pre) (hheld : rules.Held rely pre s) {world : W}
    {i : Nat} {tag : T} {rest : Prog C R Unit} (htask : s.tasks[i]? = some ⟨tag, rest⟩)
    (hmove : (∀ u, rest ≠ .ret u) → rely tag s.world world) :
    rwp (rules.env pre i tag) (rely tag) (fun _ _ => True) rest world := by
  cases rest with
  | ret u => exact fun _ _ => trivial
  | call c k =>
    have hcall : ∀ u, (call c k : Prog C R Unit) ≠ .ret u := by
      intro u h
      cases h
    exact rwp_stable (hguarded.trans tag) (hheld i tag _ htask) (hmove hcall)

theorem Guarded.step (hguarded : rules.Guarded rely pre) (hheld : rules.Held rely pre s)
    (hstep : rules.Step s event t) : rules.Held rely pre t := by
  cases hstep with
  | start tag world hstart =>
    intro i other rest htask
    dsimp only at htask
    rw [List.getElem?_append] at htask
    split at htask
    · exact hguarded.others hheld htask fun _ => hguarded.starts hstart other
    · obtain ⟨_, htask⟩ := List.getElem?_eq_some_iff.mp htask
      rw [List.getElem_singleton] at htask
      cases htask
      exact hguarded.programs hstart i
  | issue i tag c k r world htask hreply =>
    intro j other rest hother
    dsimp only at hother
    rw [List.getElem?_set] at hother
    split at hother
    · rename_i hij
      subst hij
      split at hother
      · cases hother
        exact (hheld i tag _ htask s.world (hguarded.refl tag s.world)).2 r world hreply
      · cases hother
    · exact hguarded.others hheld hother fun _ => hguarded.replies hreply other
  | during i tag c k event world htask hduring =>
    intro j other rest hother
    exact hguarded.others hheld hother fun _ => hguarded.during hduring other
  | drop i task htask =>
    intro j other rest hother
    dsimp only at hother
    rw [List.getElem?_set] at hother
    split at hother
    · split at hother
      · cases hother
        exact fun _ _ => trivial
      · cases hother
    · exact hguarded.others hheld hother fun _ => hguarded.release i s.world other
  | move event world hmove hpermits =>
    intro j other rest hother
    refine hguarded.others hheld hother fun hactive => ?_
    exact hguarded.moves hmove other (hpermits _ (List.mem_of_getElem? hother) hactive)

/-- In every state a pool reaches, a command is about to be issued under the
    precondition of its task. -/
theorem Guarded.allowed (hguarded : rules.Guarded rely pre) {world : W} {events : List (PoolEvent T E)}
    (hrun : transition.Run rules.Step ⟨world, []⟩ events s) {i : Nat} {tag : T} {c : C}
    {k : R c → Prog C R Unit} (htask : s.tasks[i]? = some ⟨tag, .call c k⟩) : pre tag s.world c := by
  have hheld : rules.Held rely pre s := by
    refine hrun.invariant (I := fun _ s => rules.Held rely pre s) ?_ fun hheld hstep => hguarded.step hheld hstep
    intro i tag rest htask
    cases htask
  exact (hheld i tag _ htask s.world (hguarded.refl tag s.world)).1

/-- An invariant of the world, under the preconditions of the tasks. -/
theorem Guarded.invariant (hguarded : rules.Guarded rely pre) {I : W → Prop} {world : W} (hstart : I world)
    (hstarts : ∀ {w tag w'}, I w → rules.starts w tag w' → I w')
    (hreplies : ∀ {i w tag c r w'}, I w → pre tag w c → rules.replies i w c r w' → I w')
    (hduring : ∀ {w c event w'}, I w → rules.during w c event w' → I w')
    (hmoves : ∀ {w event w'}, I w → rules.moves w event w' → I w')
    (hrelease : ∀ {i w}, I w → I (rules.release i w))
    {events : List (PoolEvent T E)} (hrun : transition.Run rules.Step ⟨world, []⟩ events s) : I s.world := by
  induction hrun with
  | nil => exact hstart
  | snoc hrun hstep ih =>
    cases hstep with
    | start tag world hbegin => exact hstarts ih hbegin
    | issue i tag c k r world htask hreply => exact hreplies ih (hguarded.allowed hrun htask) hreply
    | during i tag c k event world htask hevent => exact hduring ih hevent
    | drop i task htask => exact hrelease ih
    | move event world hmove hpermits => exact hmoves ih hmove

end

end Rules

end Prog

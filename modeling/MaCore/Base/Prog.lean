import Mathlib.Logic.Basic

/-- A program that issues commands and goes on with their replies. -/
inductive Prog (C : Type) (R : C → Type) (α : Type) : Type
  | ret (a : α)
  | call (c : C) (k : R c → Prog C R α)

namespace Prog

variable {C : Type} {R : C → Type} {α β W : Type}

def bind (p : Prog C R α) (f : α → Prog C R β) : Prog C R β :=
  match p with
  | ret a => f a
  | call c k => call c fun r => bind (k r) f

instance : Monad (Prog C R) where
  pure := ret
  bind := bind

/-- The program that issues one command and returns its reply. -/
def issue (c : C) : Prog C R (R c) := call c ret

@[simp] theorem pure_eq (a : α) : (pure a : Prog C R α) = ret a := rfl

@[simp] theorem ret_bind (a : α) (f : α → Prog C R β) : (ret a >>= f) = f a := rfl

@[simp] theorem call_bind (c : C) (k : R c → Prog C R α) (f : α → Prog C R β) :
    (call c k >>= f) = call c fun r => k r >>= f := rfl

@[simp] theorem issue_bind (c : C) (f : R c → Prog C R β) : (issue c >>= f) = call c f := rfl

/-- An environment: the commands it allows in a state, and the replies it may
    give with the states they lead to. -/
structure Env (C : Type) (R : C → Type) (W : Type) where
  allowed : W → C → Prop
  replies : W → (c : C) → R c → W → Prop

/-- Every command of the program is allowed when it is issued, and what it
    returns satisfies the postcondition. -/
def wp (env : Env C R W) (Q : W → α → Prop) : Prog C R α → W → Prop
  | ret a, w => Q w a
  | call c k, w => env.allowed w c ∧ ∀ r w', env.replies w c r w' → wp env Q (k r) w'

/-- A run of the program: from the state `w` it returns `a` and leaves `w'`. -/
def Exec (env : Env C R W) : Prog C R α → W → α → W → Prop
  | ret b, w, a, w' => a = b ∧ w' = w
  | call c k, w, a, w' => ∃ r w₁, env.replies w c r w₁ ∧ Exec env (k r) w₁ a w'

/-- A computation without commands is gone through or fails at once. -/
theorem lift_ok_bind {ε : Type} (a : α) (f : α → ExceptT ε (Prog C R) β) :
    ((liftM (Except.ok a : Except ε α) : ExceptT ε (Prog C R) α) >>= f) = f a := rfl

theorem lift_error_bind {ε : Type} (e : ε) (f : α → ExceptT ε (Prog C R) β) :
    ((liftM (Except.error e : Except ε α) : ExceptT ε (Prog C R) α) >>= f) = ExceptT.mk (ret (.error e)) := rfl

section
variable {env : Env C R W} {Q : W → α → Prop}

@[simp] theorem wp_ret {a : α} {w : W} : wp env Q (ret a) w ↔ Q w a := Iff.rfl

@[simp] theorem wp_call {c : C} {k : R c → Prog C R α} {w : W} :
    wp env Q (call c k) w ↔
      env.allowed w c ∧ ∀ r w', env.replies w c r w' → wp env Q (k r) w' := Iff.rfl

theorem wp_bind {Q : W → β → Prop} {p : Prog C R α} {f : α → Prog C R β} {w : W} :
    wp env Q (p >>= f) w ↔ wp env (fun w a => wp env Q (f a) w) p w := by
  induction p generalizing w with
  | ret a => rfl
  | call c k ih => simp only [call_bind, wp_call, ih]

theorem wp_mono {Q' : W → α → Prop} {p : Prog C R α} {w : W} (hwp : wp env Q p w)
    (hpost : ∀ w a, Q w a → Q' w a) : wp env Q' p w := by
  induction p generalizing w with
  | ret a => exact hpost w a hwp
  | call c k ih => exact ⟨hwp.1, fun r w' hreply => ih r (hwp.2 r w' hreply)⟩

@[simp] theorem exec_ret {a b : α} {w w' : W} : Exec env (ret b) w a w' ↔ a = b ∧ w' = w := Iff.rfl

theorem exec_call {c : C} {k : R c → Prog C R α} {a : α} {w w' : W} :
    Exec env (call c k) w a w' ↔ ∃ r w₁, env.replies w c r w₁ ∧ Exec env (k r) w₁ a w' := Iff.rfl

theorem exec_bind {p : Prog C R α} {f : α → Prog C R β} {b : β} {w w' : W} :
    Exec env (p >>= f) w b w' ↔ ∃ a w₁, Exec env p w a w₁ ∧ Exec env (f a) w₁ b w' := by
  induction p generalizing w with
  | ret a =>
    constructor
    · intro hrest
      exact ⟨a, w, ⟨rfl, rfl⟩, hrest⟩
    · rintro ⟨_, _, ⟨rfl, rfl⟩, hrest⟩
      exact hrest
  | call c k ih =>
    simp only [call_bind, exec_call, ih]
    constructor
    · rintro ⟨r, w₁, hreply, a, w₂, hfirst, hrest⟩
      exact ⟨a, w₂, ⟨r, w₁, hreply, hfirst⟩, hrest⟩
    · rintro ⟨a, w₂, ⟨r, w₁, hreply, hfirst⟩, hrest⟩
      exact ⟨r, w₁, hreply, a, w₂, hfirst, hrest⟩

/-- What the rules derive holds of every run. -/
theorem Exec.post {p : Prog C R α} {a : α} {w w' : W} (hexec : Exec env p w a w')
    (hwp : wp env Q p w) : Q w' a := by
  induction p generalizing w with
  | ret b =>
    obtain ⟨rfl, rfl⟩ := hexec
    exact hwp
  | call c k ih =>
    obtain ⟨r, w₁, hreply, hrest⟩ := hexec
    exact ih r hrest (hwp.2 r w₁ hreply)

/-- A sequence of programs that may fail returns a value exactly when each does. -/
theorem exec_bind_ok {ε : Type} {p : ExceptT ε (Prog C R) α} {f : α → ExceptT ε (Prog C R) β} {b : β}
    {w w' : W} :
    Exec env (p >>= f).run w (.ok b) w' ↔
      ∃ a w₁, Exec env p.run w (.ok a) w₁ ∧ Exec env (f a).run w₁ (.ok b) w' := by
  have hbind : (p >>= f).run = p.run >>= ExceptT.bindCont f := rfl
  rw [hbind, exec_bind]
  constructor
  · rintro ⟨_ | a, w₁, hfirst, hrest⟩
    · cases hrest.1
    · exact ⟨a, w₁, hfirst, hrest⟩
  · rintro ⟨a, w₁, hfirst, hrest⟩
    exact ⟨.ok a, w₁, hfirst, hrest⟩

/-- It goes on with the value of the first, -/
theorem exec_bind_of_ok {ε : Type} {p : ExceptT ε (Prog C R) α} {f : α → ExceptT ε (Prog C R) β} {a : α}
    {result : Except ε β} {w w₁ w' : W} (hfirst : Exec env p.run w (.ok a) w₁)
    (hrest : Exec env (f a).run w₁ result w') : Exec env (p >>= f).run w result w' := by
  have hbind : (p >>= f).run = p.run >>= ExceptT.bindCont f := rfl
  rw [hbind, exec_bind]
  exact ⟨.ok a, w₁, hfirst, hrest⟩

/-- and fails where the first does. -/
theorem exec_bind_of_error {ε : Type} {p : ExceptT ε (Prog C R) α} {f : α → ExceptT ε (Prog C R) β} {e : ε}
    {w w' : W} (hfirst : Exec env p.run w (.error e) w') : Exec env (p >>= f).run w (.error e) w' := by
  have hbind : (p >>= f).run = p.run >>= ExceptT.bindCont f := rfl
  rw [hbind, exec_bind]
  exact ⟨.error e, w', hfirst, rfl, rfl⟩

/-- A computation without commands. -/
theorem exec_lift_ok {ε : Type} {x : Except ε α} {a : α} {w w' : W} :
    Exec env (liftM x : ExceptT ε (Prog C R) α).run w (.ok a) w' ↔ x = .ok a ∧ w' = w := by
  constructor
  · rintro ⟨hvalue, hstate⟩
    exact ⟨hvalue.symm, hstate⟩
  · rintro ⟨hvalue, hstate⟩
    exact ⟨hvalue.symm, hstate⟩

/-- A program that does not fail, as one that may. -/
theorem exec_monadLift_ok {ε : Type} {p : Prog C R α} {a : α} {w w' : W} :
    Exec env (liftM p : ExceptT ε (Prog C R) α).run w (.ok a) w' ↔ Exec env p w a w' := by
  have hlift : (liftM p : ExceptT ε (Prog C R) α).run = p >>= fun a => .ret (.ok a) := rfl
  rw [hlift, exec_bind]
  constructor
  · rintro ⟨_, _, hrun, ⟨⟩, rfl⟩
    exact hrun
  · intro hrun
    exact ⟨a, w', hrun, rfl, rfl⟩

theorem wp_bind_ok {ε : Type} {Q : W → Except ε β → Prop} {p : ExceptT ε (Prog C R) α}
    {f : α → ExceptT ε (Prog C R) β} {w : W} :
    wp env Q (p >>= f).run w ↔
      wp env (fun w result =>
        match result with
        | .ok a => wp env Q (f a).run w
        | .error e => Q w (.error e)) p.run w := by
  have hbind : (p >>= f).run = p.run >>= ExceptT.bindCont f := rfl
  rw [hbind, wp_bind]
  constructor
  · intro hwp
    refine wp_mono hwp fun w result hrest => ?_
    cases result with
    | ok a => exact hrest
    | error e => exact hrest
  · intro hwp
    refine wp_mono hwp fun w result hrest => ?_
    cases result with
    | ok a => exact hrest
    | error e => exact hrest

theorem wp_lift_bind {ε : Type} {Q : W → Except ε β → Prop} {x : Except ε α}
    {f : α → ExceptT ε (Prog C R) β} {w : W} (hok : ∀ a, x = .ok a → wp env Q (f a).run w)
    (herror : ∀ e, x = .error e → Q w (.error e)) :
    wp env Q ((liftM x : ExceptT ε (Prog C R) α) >>= f).run w := by
  rw [wp_bind_ok]
  cases x with
  | ok a => exact hok a rfl
  | error e => exact herror e rfl

/-- From any state with `I` the program runs to one with `I`, whether it fails or not. -/
def Preserves (env : Env C R W) (I : W → Prop) (p : Prog C R α) : Prop :=
  ∀ w, I w → wp env (fun w' _ => I w') p w

variable {I : W → Prop}

theorem Preserves.ret (a : α) : Preserves env I (.ret a) := fun _ hw => hw

theorem Preserves.call {c : C} {k : R c → Prog C R α} (hallowed : ∀ w, I w → env.allowed w c)
    (hreply : ∀ w r w', I w → env.replies w c r w' → I w') (hk : ∀ r, Preserves env I (k r)) :
    Preserves env I (.call c k) :=
  fun w hw => ⟨hallowed w hw, fun r w' hr => hk r w' (hreply w r w' hw hr)⟩

theorem Preserves.bind {p : Prog C R α} {f : α → Prog C R β} (hp : Preserves env I p)
    (hf : ∀ a, Preserves env I (f a)) : Preserves env I (p >>= f) := by
  intro w hw
  rw [wp_bind]
  exact wp_mono (hp w hw) fun w' a hw' => hf a w' hw'

theorem Preserves.bind_ok {ε : Type} {p : ExceptT ε (Prog C R) α} {f : α → ExceptT ε (Prog C R) β}
    (hp : Preserves env I p.run) (hf : ∀ a, Preserves env I (f a).run) : Preserves env I (p >>= f).run := by
  intro w hw
  rw [wp_bind_ok]
  refine wp_mono (hp w hw) fun w' result hw' => ?_
  cases result with
  | ok a => exact hf a w' hw'
  | error e => exact hw'

end

end Prog

import MaCore.Base.Prog
import MaCore.Base.Transition

open transition

namespace Prog

variable {C : Type} {R : C → Type} {W : Type}

/-- A program under way in a state. -/
structure Config (C : Type) (R : C → Type) (W : Type) where
  world : W
  rest : Prog C R Bool

/-- The program issues a command, or is run again. -/
inductive RerunEvent (C : Type) where
  | issue (c : C)
  | again

def RerunEvent.isAgain : RerunEvent C → Bool
  | issue _ => false
  | again => true

/-- A program that is run again whenever it returns `true`. -/
inductive Rerun (env : Env C R W) (p : Prog C R Bool) : Config C R W → RerunEvent C → Config C R W → Prop
  | issue (w w' : W) (c : C) (k : R c → Prog C R Bool) (r : R c) (hreply : env.replies w c r w') :
    Rerun env p ⟨w, call c k⟩ (.issue c) ⟨w', k r⟩
  | again (w : W) : Rerun env p ⟨w, ret true⟩ .again ⟨w, p⟩

section
variable {env : Env C R W} {p q : Prog C R Bool} {w w' : W} {c : Config C R W} {m : W → Nat}
  {Q : W → Bool → Prop} {I : W → Prop} {events : List (RerunEvent C)}

/-- What holds whenever the program is run again holds of every run of it. -/
theorem Rerun.wp (hagain : ∀ w, Q w true → p.wp env Q w) (hstart : p.wp env Q w)
    (hreach : Reachable (Rerun env p) ⟨w, p⟩ c) : c.rest.wp env Q c.world := by
  refine hreach.invariant (I := fun c => c.rest.wp env Q c.world) hstart fun hwp hstep => ?_
  cases hstep with
  | issue w w' c k r hreply => exact hwp.2 r w' hreply
  | again w => exact hagain w hwp

/-- What every allowed command keeps holds in every state. -/
theorem Rerun.invariant (hsafe : ∀ w, p.wp env (fun _ _ => True) w)
    (hstep : ∀ w c r w', I w → env.allowed w c → env.replies w c r w' → I w') (hstart : I w)
    (hreach : Reachable (Rerun env p) ⟨w, p⟩ c) : I c.world := by
  have hboth : I c.world ∧ c.rest.wp env (fun _ _ => True) c.world := by
    refine hreach.invariant (I := fun c => I c.world ∧ c.rest.wp env (fun _ _ => True) c.world)
      ⟨hstart, hsafe w⟩ fun hinv hevent => ?_
    obtain ⟨hworld, hwp⟩ := hinv
    cases hevent with
    | issue w w' c k r hreply => exact ⟨hstep w c r w' hworld hwp.1 hreply, hwp.2 r w' hreply⟩
    | again w => exact ⟨hworld, hsafe w⟩
  exact hboth.1

/-- A program that asks to be run again only after lowering a measure is not run more often than
    the measure says. -/
theorem Rerun.again_le (hpass : ∀ w, p.wp env (fun w' more => m w' + more.toNat ≤ m w) w)
    (hrun : Run (Rerun env p) ⟨w, p⟩ events c) : events.countP RerunEvent.isAgain ≤ m w := by
  have hinv : events.countP RerunEvent.isAgain ≤ m w ∧ c.rest.wp env
      (fun w' more => m w' + more.toNat + events.countP RerunEvent.isAgain ≤ m w) c.world := by
    refine hrun.invariant (I := fun events c => events.countP RerunEvent.isAgain ≤ m w ∧ c.rest.wp env
      (fun w' more => m w' + more.toNat + events.countP RerunEvent.isAgain ≤ m w) c.world)
      ⟨Nat.zero_le _, hpass w⟩ fun {events _ _ _} hinv hstep => ?_
    obtain ⟨hcount, hwp⟩ := hinv
    rw [List.countP_append]
    cases hstep with
    | issue w w' c k r hreply => exact ⟨hcount, hwp.2 r w' hreply⟩
    | again w' =>
      have hlower : m w' + 1 + events.countP RerunEvent.isAgain ≤ m w := hwp
      have hone : List.countP RerunEvent.isAgain [(.again : RerunEvent C)] = 1 := rfl
      rw [hone]
      refine ⟨by omega, wp_mono (hpass w') fun w'' more hnext => ?_⟩
      omega
  exact hinv.1

/-- Its runs all end. -/
theorem Rerun.terminates (hpass : ∀ w, p.wp env (fun w' more => m w' + more.toNat ≤ m w) w) (w : W) :
    Acc (fun d c => ∃ event, Rerun env p c event d) ⟨w, p⟩ := by
  induction hn : m w using Nat.strongRecOn generalizing w with
  | ind n ih =>
    have hrest : ∀ (q : Prog C R Bool) (w : W), q.wp env (fun w' more => m w' + more.toNat ≤ n) w →
        Acc (fun d c => ∃ event, Rerun env p c event d) ⟨w, q⟩ := by
      intro q
      induction q with
      | ret more =>
        intro w hlower
        constructor
        rintro d ⟨_, hstep⟩
        cases hstep with
        | again =>
          have hless : m w + 1 ≤ n := hlower
          exact ih (m w) hless w rfl
      | call c k ihk =>
        intro w hwp
        constructor
        rintro d ⟨_, hstep⟩
        cases hstep with
        | issue _ w' _ _ r hreply => exact ihk r w' (hwp.2 r w' hreply)
    exact hrest p w (hn ▸ hpass w)

/-- A run of the program is a run of its commands. -/
theorem Rerun.of_exec {more : Bool} (hexec : Exec env q w more w') :
    Reachable (Rerun env p) ⟨w, q⟩ ⟨w', ret more⟩ := by
  induction q generalizing w with
  | ret b =>
    obtain ⟨rfl, rfl⟩ := hexec
    exact ⟨[], .nil⟩
  | call c k ih =>
    obtain ⟨r, w₁, hreply, hrest⟩ := hexec
    obtain ⟨events, hrun⟩ := ih r hrest
    exact ⟨_, Run.cons (.issue w w₁ c k r hreply) hrun⟩

end

end Prog

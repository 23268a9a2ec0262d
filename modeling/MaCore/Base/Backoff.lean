import Mathlib.Data.Nat.Fib.Basic

/-! Attempts with pauses between them. -/

namespace backoff

variable {E δ ρ : Type}

/-- Attempts, each with its events and its result, until one is the last or no pause is left. -/
inductive Retried (attempt : List E → Bool → ρ → Prop) (pause : δ → E) : List δ → List E → ρ → Prop
  | done {pauses : List δ} {events : List E} {result : ρ} (hattempt : attempt events false result) :
    Retried attempt pause pauses events result
  | spent {events : List E} {result : ρ} (hattempt : attempt events true result) :
    Retried attempt pause [] events result
  | again {d : δ} {pauses : List δ} {events rest : List E} {failed result : ρ} (hattempt : attempt events true failed)
    (hrest : Retried attempt pause pauses rest result) :
    Retried attempt pause (d :: pauses) (events ++ pause d :: rest) result

section
variable {attempt : List E → Bool → ρ → Prop} {pause : δ → E} {pauses : List δ} {events : List E} {result : ρ}
  {paused : E → Option δ}

/-- The result is that of the last attempt, which is the last possible one if it asked for another. -/
theorem Retried.last (hpause : ∀ d, paused (pause d) = some d)
    (hattempt : ∀ {events more result}, attempt events more result → events.filterMap paused = [])
    (hretried : Retried attempt pause pauses events result) :
    ∃ used before final more, events = before ++ final ∧ attempt final more result ∧
      events.filterMap paused = pauses.take used ∧ used ≤ pauses.length ∧ (more = true → used = pauses.length) := by
  induction hretried with
  | @done pauses events result hlast =>
    refine ⟨0, [], events, false, rfl, hlast, hattempt hlast, Nat.zero_le _, ?_⟩
    rintro ⟨⟩
  | @spent events result hlast => exact ⟨0, [], events, true, rfl, hlast, hattempt hlast, le_rfl, fun _ => rfl⟩
  | @again d pauses events rest failed result hfirst hrest ih =>
    obtain ⟨used, before, final, more, rfl, hlast, hused, hle, hmore⟩ := ih
    refine ⟨used + 1, events ++ pause d :: before, final, more, by simp, hlast, ?_, by simpa using hle, ?_⟩
    · rw [List.filterMap_append, hattempt hfirst, List.nil_append, List.filterMap_cons, hpause, hused]
      rfl
    · intro hasked
      rw [hmore hasked, List.length_cons]

/-- What all attempts but the last are made of. -/
theorem Retried.before {P : E → Prop} (hpause : ∀ d, P (pause d))
    (hattempt : ∀ {events result}, attempt events true result → ∀ event ∈ events, P event)
    (hretried : Retried attempt pause pauses events result) :
    ∃ before final more, events = before ++ final ∧ attempt final more result ∧ ∀ event ∈ before, P event := by
  induction hretried with
  | @done pauses events result hlast => exact ⟨[], events, false, rfl, hlast, fun event hevent => by cases hevent⟩
  | @spent events result hlast => exact ⟨[], events, true, rfl, hlast, fun event hevent => by cases hevent⟩
  | @again d pauses events rest failed result hfirst hrest ih =>
    obtain ⟨before, final, more, rfl, hlast, hbefore⟩ := ih
    refine ⟨events ++ pause d :: before, final, more, by simp, hlast, fun event hevent => ?_⟩
    obtain hevent | hevent := List.mem_append.mp hevent
    · exact hattempt hfirst event hevent
    · obtain rfl | hevent := List.mem_cons.mp hevent
      · exact hpause d
      · exact hbefore event hevent

/-- What each attempt has between so many and so many events of, all of them have as many times their number. -/
theorem Retried.countP_bounds (hpause : ∀ d, paused (pause d) = some d) {counted : E → Bool} {least most : Nat}
    (hcounted : ∀ d, counted (pause d) = false)
    (hattempt : ∀ {events more result}, attempt events more result → events.filterMap paused = [] ∧
      least ≤ events.countP counted ∧ events.countP counted ≤ most)
    (hretried : Retried attempt pause pauses events result) :
    least * ((events.filterMap paused).length + 1) ≤ events.countP counted ∧
      events.countP counted ≤ most * ((events.filterMap paused).length + 1) := by
  induction hretried with
  | done hlast | spent hlast =>
    obtain ⟨hnone, hleast, hmost⟩ := hattempt hlast
    rw [hnone, List.length_nil, Nat.zero_add, Nat.mul_one, Nat.mul_one]
    exact ⟨hleast, hmost⟩
  | @again d pauses events rest failed result hfirst hrest ih =>
    obtain ⟨hnone, hleast, hmost⟩ := hattempt hfirst
    rw [List.countP_append, List.countP_cons_of_neg (by simp [hcounted]), List.filterMap_append, hnone,
      List.nil_append, List.filterMap_cons, hpause, List.length_cons, Nat.mul_succ least, Nat.mul_succ most]
    omega

/-- Where each attempt has one such event, there are as many as attempts, with the pauses between them. -/
theorem Retried.made (hpause : ∀ d, paused (pause d) = some d) {counted : E → Bool}
    (hcounted : ∀ d, counted (pause d) = false)
    (hattempt : ∀ {events more result}, attempt events more result →
      events.filterMap paused = [] ∧ events.countP counted = 1) {delay : Nat → δ} {left : Nat}
    (hretried : Retried attempt pause ((List.range left).map delay) events result) :
    ∃ made before final more, 1 ≤ made ∧ made ≤ left + 1 ∧ events.countP counted = made ∧
      events.filterMap paused = (List.range (made - 1)).map delay ∧ events = before ++ final ∧
      attempt final more result ∧ (more = true → made = left + 1) := by
  obtain ⟨used, before, final, more, hevents, hfinal, hused, hle, hspent⟩ :=
    hretried.last hpause fun hone => (hattempt hone).1
  have hcount := hretried.countP_bounds hpause hcounted fun hone =>
    ⟨(hattempt hone).1, (hattempt hone).2.ge, (hattempt hone).2.le⟩
  rw [List.length_map, List.length_range] at hle hspent
  rw [hused, List.length_take, List.length_map, List.length_range, Nat.min_eq_left hle] at hcount
  refine ⟨used + 1, before, final, more, by omega, by omega, by omega, ?_, hevents, hfinal, fun hmore => ?_⟩
  · rw [hused, ← List.map_take, List.take_range, Nat.min_eq_left hle, Nat.add_sub_cancel]
  · rw [hspent hmore]

end

/-! Pauses that grow as the Fibonacci numbers do. -/

/-- The pauses of a loop that keeps the last two. -/
def pauses (next : δ → δ → δ) : Nat → δ → δ → List δ
  | 0, _, _ => []
  | left + 1, previous, current => current :: pauses next left current (next previous current)

/-- A loop whose every round is an attempt, and a pause before the next round if there is one, makes retries. -/
theorem retried_of_loop {attempt : List E → Bool → ρ → Prop} {pause : δ → E} {next : δ → δ → δ}
    (loop : Nat → δ → δ → List E → ρ → Prop)
    (hloop : ∀ {left previous current events result}, loop left previous current events result →
      attempt events false result ∨ (left = 0 ∧ attempt events true result) ∨
        ∃ first failed rest before, events = first ++ pause current :: rest ∧ attempt first true failed ∧
          left = before + 1 ∧ loop before current (next previous current) rest result)
    {left : Nat} {previous current : δ} {events : List E} {result : ρ}
    (hrounds : loop left previous current events result) :
    Retried attempt pause (pauses next left previous current) events result := by
  induction left generalizing previous current events with
  | zero =>
    obtain hlast | ⟨_, hlast⟩ | ⟨_, _, _, _, _, _, hleft, _⟩ := hloop hrounds
    · exact .done hlast
    · exact .spent hlast
    · cases hleft
  | succ left ih =>
    obtain hlast | ⟨hleft, _⟩ | ⟨first, failed, rest, before, rfl, hfirst, hleft, hnext⟩ := hloop hrounds
    · exact .done hlast
    · cases hleft
    · cases hleft
      exact .again hfirst (ih hnext)

/-- They are a sequence that has each pause from the two before it. -/
theorem pauses_eq_map {next : δ → δ → δ} {s : Nat → δ} (hnext : ∀ i, next (s i) (s (i + 1)) = s (i + 2))
    (left i : Nat) : pauses next left (s i) (s (i + 1)) = (List.range' i left).map fun j => s (j + 1) := by
  induction left generalizing i with
  | zero => rfl
  | succ left ih => rw [pauses, hnext, ih, List.range'_succ, List.map_cons]

/-- The multiples of a first pause, none but the first above a bound. -/
def capped (first cap : Nat) : Nat → Nat
  | 0 => 0
  | 1 => first
  | i + 2 => min (Nat.fib (i + 2) * first) cap

theorem min_capped_add (first cap i : Nat) :
    min (capped first cap i + capped first cap (i + 1)) cap = capped first cap (i + 2) := by
  match i with
  | 0 => simp [capped]
  | 1 =>
    have htwo : Nat.fib 2 = 1 := rfl
    have hthree : Nat.fib 3 = 2 := rfl
    simp only [capped, htwo, hthree]
    omega
  | i + 2 =>
    have hfib : Nat.fib (i + 4) * first = Nat.fib (i + 2) * first + Nat.fib (i + 3) * first := by
      rw [Nat.fib_add_two, Nat.add_mul]
    have hnext : capped first cap (i + 2 + 2) = min (Nat.fib (i + 2) * first + Nat.fib (i + 3) * first) cap := by
      rw [capped, hfib]
    have hsecond : capped first cap (i + 2 + 1) = min (Nat.fib (i + 3) * first) cap := rfl
    rw [hnext, hsecond, capped]
    omega

end backoff

import MaCore.Reference

open rust
open ma_core.error ma_core.did ma_core.service

namespace ma_core

/-- The same libraries in a build with overflow checks. -/
def Lib.checked (lib : Lib) : Lib := { lib with overflow_checks := true }

namespace msg

variable {lib : Lib} {now created_at exp : UInt64}

/-- The rule of freshness over the unbounded integers. -/
def FreshAt (now created_at exp : UInt64) : Prop :=
  created_at.toNat ≤ now.toNat + 30 ∧ (exp = 0 ∨ now.toNat ≤ exp.toNat + 30)

/-- The deadline of an expiry does not fit into 64 bits, and the check gets as far as computing it. -/
def DeadlineOverflows (now created_at exp : UInt64) : Prop :=
  created_at.toNat ≤ now.toNat + 30 ∧ 2 ^ 64 ≤ exp.toNat + 30

theorem skew_toNat : DEFAULT_MAX_CLOCK_SKEW_SECS.toNat = 30 := rfl

/-- At a time up to `2 ^ 63` only the deadline of the expiry can overflow. -/
theorem validate_message_freshness_eq (hnow : now.toNat ≤ 2 ^ 63) (lib : Lib) (created_at exp : UInt64) :
    validate_message_freshness lib (some now) created_at exp =
      if now.toNat + 30 < created_at.toNat then Err .MessageFromFuture
      else if exp = 0 then .ok ()
      else u64_add lib.overflow_checks exp DEFAULT_MAX_CLOCK_SKEW_SECS >>= fun deadline =>
        reject_if (now > deadline) .MessageTooOld := by
  obtain ⟨hlatest, hsum⟩ := @u64_add_of_lt MaError lib.overflow_checks now DEFAULT_MAX_CLOCK_SKEW_SECS (by
    rw [skew_toNat]
    omega)
  rw [skew_toNat] at hsum
  have hfuture : (created_at > now + DEFAULT_MAX_CLOCK_SKEW_SECS) = (now.toNat + 30 < created_at.toNat) := by
    rw [gt_iff_lt, UInt64.lt_iff_toNat_lt, hsum]
  simp only [validate_message_freshness, now_unix_secs, ok_or, ok_bind, hlatest, hfuture]
  by_cases hlate : now.toNat + 30 < created_at.toNat
  · rw [if_pos hlate, reject_if, if_pos (decide_eq_true hlate)]
    rfl
  · rw [if_neg hlate, reject_if, if_neg (by simpa using hlate), ok_bind]
    rfl

/-- Where the deadline does not overflow the check decides by the rule, in any build. -/
theorem validate_message_freshness_ok_iff (hnow : now.toNat ≤ 2 ^ 63)
    (hfits : ¬ DeadlineOverflows now created_at exp) (lib : Lib) :
    validate_message_freshness lib (some now) created_at exp = .ok () ↔ FreshAt now created_at exp := by
  rw [validate_message_freshness_eq hnow, FreshAt]
  by_cases hlate : now.toNat + 30 < created_at.toNat
  · rw [if_pos hlate]
    constructor
    · intro hok
      cases hok
    · exact fun hfresh => absurd hfresh.1 (by omega)
  · have hcreated : created_at.toNat ≤ now.toNat + 30 := by omega
    have hexp : exp.toNat + DEFAULT_MAX_CLOCK_SKEW_SECS.toNat < 2 ^ 64 := by
      rw [skew_toNat]
      exact Nat.lt_of_not_le fun hoverflow => hfits ⟨hcreated, hoverflow⟩
    obtain ⟨hdeadline, hsum⟩ := @u64_add_of_lt MaError lib.overflow_checks exp _ hexp
    rw [skew_toNat] at hsum
    rw [if_neg hlate, hdeadline, ok_bind]
    by_cases hnever : exp = 0
    · rw [if_pos hnever]
      exact ⟨fun _ => ⟨hcreated, .inl hnever⟩, fun _ => rfl⟩
    · rw [if_neg hnever, reject_if_eq_ok_iff, decide_eq_false_iff_not, gt_iff_lt, UInt64.lt_iff_toNat_lt, hsum,
        Nat.not_lt]
      exact ⟨fun hlive => ⟨hcreated, .inr hlive⟩, fun hfresh => hfresh.2.resolve_left hnever⟩

/-- A build with overflow checks panics exactly where the deadline overflows. -/
theorem validate_message_freshness_returns_iff (hnow : now.toNat ≤ 2 ^ 63) (lib : Lib) (created_at exp : UInt64) :
    Returns (validate_message_freshness lib.checked (some now) created_at exp) ↔
      ¬ DeadlineOverflows now created_at exp := by
  rw [validate_message_freshness_eq hnow]
  by_cases hlate : now.toNat + 30 < created_at.toNat
  · rw [if_pos hlate]
    exact ⟨fun _ hoverflow => absurd hoverflow.1 (by omega), fun _ => returns_err _⟩
  · rw [if_neg hlate]
    by_cases hnever : exp = 0
    · have hzero : exp.toNat = 0 := by
        rw [hnever]
        rfl
      rw [if_pos hnever]
      exact ⟨fun _ hoverflow => absurd hoverflow.2 (by omega), fun _ => returns_ok ()⟩
    · have hadd := @u64_add_checked_returns_iff MaError exp DEFAULT_MAX_CLOCK_SKEW_SECS
      rw [skew_toNat] at hadd
      rw [if_neg hnever]
      constructor
      · intro hreturns hoverflow
        apply hreturns
        have hpanic : u64_add (ε := MaError) true exp DEFAULT_MAX_CLOCK_SKEW_SECS = Panic := by
          by_contra hadds
          exact absurd hoverflow.2 (Nat.not_le.mpr (hadd.mp hadds))
        rw [Lib.checked, hpanic]
        rfl
      · intro hfits
        exact bind_returns (hadd.mpr (Nat.lt_of_not_le fun hoverflow => hfits ⟨by omega, hoverflow⟩))
          fun _ _ => reject_if_returns _ _

/-- Nothing else in the validation of headers can panic. -/
theorem Headers.validate_returns {clock : Clock} {headers : Headers}
    (hfreshness : Returns (validate_message_freshness lib clock headers.created_at headers.exp)) :
    Returns (headers.validate lib clock) := by
  have hid (id : String) : Returns (validate_message_id id) :=
    bind_returns (reject_if_returns _ _) fun _ _ => reject_if_returns _ _
  refine bind_returns (hid _) fun _ _ => ?_
  refine bind_returns (reject_if_returns _ _) fun _ _ => ?_
  refine bind_returns (forM_returns fun id _ => hid id) fun _ _ => ?_
  refine bind_returns (reject_if_returns _ _) fun _ _ => ?_
  refine bind_returns (Did.validate_returns _) fun _ _ => ?_
  dsimp only
  split
  · exact bind_returns (reject_if_returns _ _) fun _ _ => hfreshness
  · refine bind_returns (reject_if_returns _ _) fun _ _ => ?_
    exact bind_returns (map_err_returns (Did.validate_returns _)) fun _ _ => hfreshness

/-- What is asked of the check for one pair of times: it decides by the rule, no sum overflows, no
    headers with these times make the validation panic, and a later expiry is not refused where an
    earlier one is accepted. -/
structure FreshnessLaw (lib : Lib) (now created_at exp : UInt64) : Prop where
  decides : validate_message_freshness lib (some now) created_at exp = .ok () ↔ FreshAt now created_at exp
  no_overflow : Returns (validate_message_freshness lib.checked (some now) created_at exp)
  headers_return : ∀ headers : Headers, headers.created_at = created_at → headers.exp = exp →
    Returns (headers.validate lib.checked (some now))
  monotone : ∀ earlier : UInt64, earlier ≠ 0 → earlier ≤ exp →
    validate_message_freshness lib (some now) created_at earlier = .ok () →
    validate_message_freshness lib (some now) created_at exp = .ok ()

/-- The law of freshness holds for exactly the times for which the deadline is not computed or fits
    into 64 bits. -/
theorem freshness_law_iff (lib : Lib) (created_at exp : UInt64) (hnow : now.toNat ≤ 2 ^ 63) :
    FreshnessLaw lib now created_at exp ↔ now.toNat + 30 < created_at.toNat ∨ exp.toNat + 30 < 2 ^ 64 := by
  have hfits_iff : ¬ DeadlineOverflows now created_at exp ↔
      now.toNat + 30 < created_at.toNat ∨ exp.toNat + 30 < 2 ^ 64 := by
    unfold DeadlineOverflows
    omega
  rw [← hfits_iff]
  constructor
  · exact fun hlaw => (validate_message_freshness_returns_iff hnow lib created_at exp).mp hlaw.no_overflow
  · intro hfits
    have hreturns := (validate_message_freshness_returns_iff hnow lib created_at exp).mpr hfits
    have hdecides := validate_message_freshness_ok_iff hnow hfits lib
    refine ⟨hdecides, hreturns, ?_, ?_⟩
    · rintro headers rfl rfl
      exact Headers.validate_returns hreturns
    · intro earlier hearlier hle hok
      have hle := UInt64.le_iff_toNat_le.mp hle
      have hearlier_fits : ¬ DeadlineOverflows now created_at earlier :=
        fun hoverflow => hfits ⟨hoverflow.1, Nat.le_trans hoverflow.2 (by omega)⟩
      obtain ⟨hcreated, hlive⟩ := (validate_message_freshness_ok_iff hnow hearlier_fits lib).mp hok
      exact hdecides.mpr ⟨hcreated, .inr (Nat.le_trans (hlive.resolve_left hearlier) (by omega))⟩

theorem freshness_law_iff_hour :
    (1000 : UInt64).toNat ≤ 2 ^ 63 ∧ (FreshnessLaw reference.library 1000 900 4500 ↔
      (1000 : UInt64).toNat + 30 < (900 : UInt64).toNat ∨ (4500 : UInt64).toNat + 30 < 2 ^ 64) :=
  ⟨by decide, freshness_law_iff reference.library 900 4500 (by decide)⟩

/-- A message that is to last as long as possible makes a build with overflow checks panic, and is
    taken for expired in one without. -/
theorem last_expiry_overflows :
    validate_message_freshness reference.library (some 1000) 900 18446744073709551615 = Panic ∧
      validate_message_freshness { reference.library with overflow_checks := false } (some 1000) 900
        18446744073709551615 = Err .MessageTooOld ∧
      ¬ ∀ (lib : Lib) (now created_at exp : UInt64), now.toNat ≤ 2 ^ 63 →
        FreshnessLaw lib now created_at exp := by
  refine ⟨by decide, by decide, fun hclaim => ?_⟩
  have hlaw := hclaim reference.library 1000 900 18446744073709551615 (by decide)
  have hfits := (@validate_message_freshness_returns_iff 1000 (by decide) _ _ _).mp hlaw.no_overflow
  exact hfits ⟨by decide, by decide⟩

end msg

end ma_core

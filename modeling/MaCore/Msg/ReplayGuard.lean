import MaCore.Base.Map
import MaCore.Base.Window
import MaCore.Msg.Validate

open rust
open ma_core.error

namespace ma_core.msg

/-- The identifiers seen lately and when. -/
structure ReplayGuard where
  seen : Map String UInt64
  window_secs : UInt64

namespace ReplayGuard

def new (window_secs : UInt64) : ReplayGuard where
  seen := Map.empty
  window_secs

/-- `ReplayGuard::default`. -/
def default : ReplayGuard := new DEFAULT_REPLAY_WINDOW_SECS

def prune_old (clock : Clock) (self : ReplayGuard) : MaResult ReplayGuard := do
  let now ← now_unix_secs clock
  return { self with
    seen := self.seen.retain fun seen_at => saturating_sub now seen_at ≤ self.window_secs }

/-- `ReplayGuard::check_and_insert`: its result and the guard it leaves. -/
def check_and_insert (lib : Lib) (clock : Clock) (self : ReplayGuard) (headers : Headers) :
    MaResult Unit × ReplayGuard :=
  match headers.validate lib clock with
  | .error e => (.error e, self)
  | .ok () =>
    match self.prune_old clock with
    | .error e => (.error e, self)
    | .ok guard =>
      if guard.seen.contains_key headers.id then (Err .ReplayDetected, guard)
      else
        match now_unix_secs clock with
        | .error e => (.error e, guard)
        | .ok now => (.ok (), { guard with seen := guard.seen.insert headers.id now })

/-- The end of each opening function: the guard is asked about the message's
    headers, and the message is returned if it accepts them. -/
def accept (lib : Lib) (clock : Clock) (self : ReplayGuard) (message : Message) :
    MaResult Message × ReplayGuard :=
  let (checked, guard) := self.check_and_insert lib clock (message.headers lib)
  (checked.map fun _ => message, guard)

/-- The guard still refuses this identifier at this time. -/
def Holds (self : ReplayGuard) (now : UInt64) (id : String) : Prop :=
  ∃ seen_at, self.seen.get id = some seen_at ∧ now.toNat - seen_at.toNat ≤ self.window_secs.toNat

section
variable {lib : Lib} {clock : Clock} {guard guard' : ReplayGuard} {headers : Headers}

@[simp] theorem prune_old_some (now : UInt64) (self : ReplayGuard) :
    self.prune_old (some now) = .ok { self with
      seen := self.seen.retain fun seen_at => saturating_sub now seen_at ≤ self.window_secs } :=
  rfl

theorem get_prune_eq_some_iff {now seen_at : UInt64} {id : String} :
    (guard.seen.retain fun seen_at => decide (saturating_sub now seen_at ≤ guard.window_secs)).get id =
      some seen_at ↔
      guard.seen.get id = some seen_at ∧ now.toNat - seen_at.toNat ≤ guard.window_secs.toNat := by
  rw [Map.get_retain_eq_some_iff, decide_eq_true_eq, UInt64.le_iff_toNat_le, saturating_sub_toNat]

/-- An identifier survives pruning exactly when the guard holds it. -/
theorem contains_key_prune_iff {now : UInt64} {id : String} :
    (guard.seen.retain fun seen_at => decide (saturating_sub now seen_at ≤ guard.window_secs)).contains_key
      id = true ↔ guard.Holds now id := by
  simp only [Map.contains_key_iff, get_prune_eq_some_iff, Holds]

theorem check_and_insert_held {now : UInt64} (hvalid : headers.Valid lib (some now))
    (hheld : guard.Holds now headers.id) :
    guard.check_and_insert lib (some now) headers = (Err .ReplayDetected, { guard with
      seen := guard.seen.retain fun seen_at => saturating_sub now seen_at ≤ guard.window_secs }) := by
  simp only [check_and_insert, Headers.validate_eq_ok_iff.mpr hvalid, prune_old_some,
    contains_key_prune_iff.mpr hheld, if_true]

theorem check_and_insert_free {now : UInt64} (hvalid : headers.Valid lib (some now))
    (hfree : ¬ guard.Holds now headers.id) :
    guard.check_and_insert lib (some now) headers = (.ok (), { guard with
      seen := (guard.seen.retain fun seen_at =>
        saturating_sub now seen_at ≤ guard.window_secs).insert headers.id now }) := by
  have habsent := mt contains_key_prune_iff.mp hfree
  simp only [check_and_insert, Headers.validate_eq_ok_iff.mpr hvalid, prune_old_some, habsent, now_unix_secs, ok_or]
  rfl

/-- Everything one call can do: refuse the headers and leave the guard alone,
    detect a replay and only prune, or accept, prune and record the time. -/
theorem check_and_insert_cases (lib : Lib) (clock : Clock) (guard : ReplayGuard) (headers : Headers) :
    (∃ e, headers.validate lib clock = .error e ∧
      guard.check_and_insert lib clock headers = (.error e, guard)) ∨
    ∃ now, clock = some now ∧ headers.Valid lib clock ∧
      ((guard.Holds now headers.id ∧
        guard.check_and_insert lib clock headers = (Err .ReplayDetected, { guard with
          seen := guard.seen.retain fun seen_at => saturating_sub now seen_at ≤ guard.window_secs })) ∨
      (¬ guard.Holds now headers.id ∧
        guard.check_and_insert lib clock headers = (.ok (), { guard with
          seen := (guard.seen.retain fun seen_at =>
            saturating_sub now seen_at ≤ guard.window_secs).insert headers.id now }))) := by
  cases hvalidate : headers.validate lib clock with
  | error e =>
    left
    exact ⟨e, rfl, by simp [check_and_insert, hvalidate]⟩
  | ok _ =>
    right
    have hvalid := Headers.validate_eq_ok_iff.mp hvalidate
    obtain ⟨now, rfl, _⟩ := hvalid.fresh
    refine ⟨now, rfl, hvalid, ?_⟩
    by_cases hholds : guard.Holds now headers.id
    · left
      exact ⟨hholds, check_and_insert_held hvalid hholds⟩
    · right
      exact ⟨hholds, check_and_insert_free hvalid hholds⟩

/-- A call succeeds exactly on valid headers whose identifier is not held. -/
theorem check_and_insert_ok_iff :
    (guard.check_and_insert lib clock headers).1 = .ok () ↔
      headers.Valid lib clock ∧ ∀ now, clock = some now → ¬ guard.Holds now headers.id := by
  rcases check_and_insert_cases lib clock guard headers with
    ⟨e, hvalidate, hcall⟩ | ⟨now, rfl, hvalid, ⟨hholds, hcall⟩ | ⟨hholds, hcall⟩⟩
  · rw [hcall, ← Headers.validate_eq_ok_iff, hvalidate]
    simp
  · rw [hcall]
    constructor
    · intro h
      cases h
    · rintro ⟨_, hfree⟩
      exact absurd hholds (hfree now rfl)
  · rw [hcall]
    refine ⟨fun _ => ⟨hvalid, ?_⟩, fun _ => rfl⟩
    rintro _ ⟨⟩
    exact hholds

/-- An identifier is held from the moment a call accepts it. -/
theorem holds_of_check_and_insert {now : UInt64}
    (haccept : (guard.check_and_insert lib (some now) headers).1 = .ok ()) :
    (guard.check_and_insert lib (some now) headers).2.Holds now headers.id := by
  rcases check_and_insert_cases lib (some now) guard headers with
    ⟨e, _, hcall⟩ | ⟨_, ⟨⟩, _, ⟨_, hcall⟩ | ⟨_, hcall⟩⟩
  · rw [hcall] at haccept
    cases haccept
  · rw [hcall] at haccept
    cases haccept
  · rw [hcall]
    exact ⟨now, by simp, by omega⟩

theorem accept_ok_iff {message m : Message} :
    (guard.accept lib clock message).1 = .ok m ↔
      message = m ∧ (guard.check_and_insert lib clock (m.headers lib)).1 = .ok () := by
  simp only [accept]
  cases hchecked : (guard.check_and_insert lib clock (message.headers lib)).1 with
  | error e =>
    constructor
    · intro h
      cases h
    · rintro ⟨rfl, hok⟩
      rw [hchecked] at hok
      cases hok
  | ok _ =>
    constructor
    · intro h
      cases h
      exact ⟨rfl, hchecked⟩
    · rintro ⟨rfl, _⟩
      rfl

end

/-! The guard as a table of the acceptances so far. -/

/-- The guard stands for a log of the identifiers accepted up to a time. -/
def Tracks (guard : ReplayGuard) (now : Nat) (log : List (String × Nat)) : Prop :=
  window.Tracks guard.window_secs.toNat now (fun id => (guard.seen.get id).map UInt64.toNat) log ∧
    ∀ entry ∈ log, entry.2 ≤ now

namespace Tracks

variable {lib : Lib} {clock : Clock} {guard : ReplayGuard} {headers : Headers} {time : Nat}
  {log : List (String × Nat)}

theorem new (window_secs : UInt64) (now : Nat) : (ReplayGuard.new window_secs).Tracks now [] :=
  ⟨window.Tracks.empty _ _, by simp⟩

theorem later {now : Nat} (htracks : guard.Tracks time log) (hle : time ≤ now) :
    guard.Tracks now log :=
  ⟨htracks.1.later hle, fun entry hmem => Nat.le_trans (htracks.2 entry hmem) hle⟩

theorem holds_iff {now : UInt64} (htracks : guard.Tracks now.toNat log) (id : String) :
    guard.Holds now id ↔ window.Recent guard.window_secs.toNat now.toNat log id := by
  rw [← htracks.1.recent_iff]
  simp only [Holds, Option.map_eq_some_iff]
  constructor
  · rintro ⟨seen_at, hget, hrecent⟩
    exact ⟨seen_at.toNat, ⟨seen_at, hget, rfl⟩, hrecent⟩
  · rintro ⟨_, ⟨seen_at, hget, rfl⟩, hrecent⟩
    exact ⟨seen_at, hget, hrecent⟩

theorem prune {now : UInt64} (htracks : guard.Tracks now.toNat log) :
    ReplayGuard.Tracks { guard with
      seen := guard.seen.retain fun seen_at => saturating_sub now seen_at ≤ guard.window_secs }
      now.toNat log := by
  refine ⟨?_, htracks.2⟩
  have hpruned := htracks.1.prune
  convert hpruned using 2 with id
  ext last
  simp only [Option.map_eq_some_iff, get_prune_eq_some_iff, Option.filter_eq_some_iff,
    decide_eq_true_eq]
  constructor
  · rintro ⟨seen_at, ⟨hget, hrecent⟩, rfl⟩
    exact ⟨⟨seen_at, hget, rfl⟩, hrecent⟩
  · rintro ⟨⟨seen_at, hget, rfl⟩, hrecent⟩
    exact ⟨seen_at, ⟨hget, hrecent⟩, rfl⟩

theorem insert {now : UInt64} (htracks : guard.Tracks now.toNat log) (id : String) :
    ReplayGuard.Tracks { guard with seen := guard.seen.insert id now } now.toNat
      (log ++ [(id, now.toNat)]) := by
  constructor
  · have hinserted := htracks.1.insert htracks.2 id
    convert hinserted using 2 with k
    by_cases hkey : k = id <;> simp [Map.get_insert, hkey]
  · intro entry hmem
    rcases List.mem_append.mp hmem with hold | hnew
    · exact htracks.2 entry hold
    · rw [List.mem_singleton.mp hnew]

/-- A call keeps the guard a table of the log, to which an acceptance is added. -/
theorem check_and_insert {now : UInt64} (htracks : guard.Tracks now.toNat log) (headers : Headers) :
    (guard.check_and_insert lib (some now) headers).2.Tracks now.toNat
      (if (guard.check_and_insert lib (some now) headers).1 = .ok ()
        then log ++ [(headers.id, now.toNat)] else log) := by
  rcases check_and_insert_cases lib (some now) guard headers with
    ⟨e, _, hcall⟩ | ⟨_, ⟨⟩, _, ⟨_, hcall⟩ | ⟨_, hcall⟩⟩
  · rw [hcall, if_neg (by simp)]
    exact htracks
  · rw [hcall, if_neg (by simp)]
    exact htracks.prune
  · rw [hcall, if_pos rfl]
    exact htracks.prune.insert headers.id

end Tracks

end ReplayGuard

end ma_core.msg

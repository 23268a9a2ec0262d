import Mathlib.Data.List.Perm.Subperm
import MaCore.Kubo.Pinning

namespace ma_core.kubo

/-- The CIDs a batch has listed and not tried to unpin since; a batch whose
    listing fails unpins none of them. -/
def track (listed : List String) : (rpc : Rpc) → rpc.Reply → List String
  | .list_named_recursive_pins .., .ok cids => listed ++ cids
  | .list_named_recursive_pins .., .error _ => []
  | .pin_rm _ cid, _ => listed.erase cid
  | _, _ => listed

/-- A batch is to unpin only CIDs it listed, and never the protected one. -/
def monitor (request : PinCleanupRequest) : Prog.Env Rpc Rpc.Reply (List String) where
  allowed listed rpc := ∀ kubo_url cid, rpc = .pin_rm kubo_url cid →
    kubo_url = request.kubo_url ∧ cid ∈ listed ∧ cid ≠ request.protected_cid
  replies listed rpc reply listed' := listed' = track listed rpc reply

/-- A program that keeps to that. -/
abbrev Monitored {α : Type} (request : PinCleanupRequest) (listed : List String) (p : Io α) : Prop :=
  p.wp (monitor request) (fun _ _ => True) listed

section
variable {request : PinCleanupRequest} {listed : List String}

theorem remove_stale_pin_rm_monitored {stale : List String} (hsub : stale.Subperm listed)
    (hstale : ∀ cid ∈ stale, cid ≠ request.protected_cid) (removed_any : Bool) :
    Monitored request listed (remove_stale (pin_rm request.kubo_url) stale removed_any) := by
  induction stale generalizing listed removed_any with
  | nil => trivial
  | cons cid stale ih =>
    have hallowed : (monitor request).allowed listed (.pin_rm request.kubo_url cid) := by
      rintro _ _ ⟨⟩
      exact ⟨rfl, hsub.subset List.mem_cons_self, hstale cid List.mem_cons_self⟩
    refine ⟨hallowed, ?_⟩
    rintro reply listed' rfl
    have hrest : stale.Subperm (listed.erase cid) := by
      have herased := hsub.erase cid
      rwa [List.erase_cons_head] at herased
    have hother : ∀ cid ∈ stale, cid ≠ request.protected_cid :=
      fun cid hmem => hstale cid (List.mem_cons_of_mem _ hmem)
    cases reply with
    | ok _ => exact ih hrest hother true
    | error _ => exact ih hrest hother removed_any

/-- A call of anything but `pin_rm` is allowed. -/
theorem call_monitored {α : Type} {rpc : Rpc} {k : rpc.Reply → Io α}
    (hother : ∀ kubo_url cid, rpc ≠ .pin_rm kubo_url cid)
    (hrest : ∀ reply, Monitored request (track listed rpc reply) (k reply)) :
    Monitored request listed (.call rpc k) := by
  refine ⟨fun kubo_url cid hrm => absurd hrm (hother kubo_url cid), ?_⟩
  rintro reply listed' rfl
  exact hrest reply

theorem cleanup_local_pass_monitored : Monitored request [] (cleanup_local_pass request) := by
  refine call_monitored (by simp) fun final => ?_
  cases final with
  | error _ => trivial
  | ok final_pins =>
    refine call_monitored (by simp) fun temp => ?_
    cases temp with
    | error _ => trivial
    | ok temp_pins =>
      have hstale : ∀ cid ∈ stale_pins (final_pins ++ temp_pins) request.protected_cid,
          cid ≠ request.protected_cid := fun cid hmem => (mem_stale_pins.mp hmem).2
      simp only [Prog.bind]
      split
      · exact remove_stale_pin_rm_monitored (List.filter_sublist.subperm) hstale false
      · split
        · exact call_monitored (by simp) fun _ => trivial
        · trivial

theorem remove_stale_remote_monitored {service : String} (stale : List (String × String))
    (removed_any : Bool) :
    Monitored request listed (remove_stale
      (fun pin : String × String => remote_pin_rm_named request.kubo_url service pin.1 pin.2) stale
      removed_any) := by
  induction stale generalizing removed_any with
  | nil => trivial
  | cons pin stale ih =>
    refine call_monitored (by simp) fun reply => ?_
    cases reply with
    | ok _ => exact ih true
    | error _ => exact ih removed_any

/-- The pass over the remote pins leaves the local ones alone. -/
theorem cleanup_remote_pass_monitored : Monitored request listed (cleanup_remote_pass request) := by
  unfold cleanup_remote_pass
  split
  · trivial
  · refine call_monitored (by simp) fun final => ?_
    cases final with
    | error _ => trivial
    | ok final_pins =>
      refine call_monitored (by simp) fun temp => ?_
      cases temp with
      | error _ => trivial
      | ok temp_pins =>
        simp only [Prog.bind]
        split
        · exact remove_stale_remote_monitored _ false
        · split
          · split
            · refine call_monitored (by simp) fun reply => ?_
              cases reply with
              | error _ => trivial
              | ok _ => exact call_monitored (by simp) fun _ => trivial
            · exact call_monitored (by simp) fun _ => trivial
          · trivial

/-- A batch unpins only what it listed, and never the CID it protects. -/
theorem cleanup_one_batch_monitored : Monitored request [] (cleanup_one_batch request) := by
  have hremote : ∀ listed (local_more : Bool), Monitored request listed
      (if request.remote_service.isSome = true then
        cleanup_remote_pass request >>= fun remote_more => pure (local_more || remote_more)
      else pure (local_more || false)) := by
    intro listed local_more
    split
    · exact Prog.wp_bind.mpr (Prog.wp_mono cleanup_remote_pass_monitored fun _ _ _ => trivial)
    · trivial
  cases hlocal : request.cleanup_local with
  | true =>
    simp only [cleanup_one_batch, hlocal, if_true]
    exact Prog.wp_bind.mpr (Prog.wp_mono cleanup_local_pass_monitored
      fun listed local_more _ => hremote listed local_more)
  | false =>
    simp only [cleanup_one_batch, hlocal, Bool.false_eq_true, if_false]
    exact hremote [] false

end

end ma_core.kubo

import MaCore.Base.Rerun
import MaCore.Kubo.Batch

open rust transition

namespace ma_core.kubo

namespace PinCleanupRequest

section
variable {request : PinCleanupRequest} {failing : Prop} {store : PinStore}

/-- Every command of a batch is a careful one. -/
theorem cleanup_one_batch_careful (store : PinStore) :
    (cleanup_one_batch request).wp (request.env failing) (fun _ _ => True) store :=
  Prog.wp_mono cleanup_one_batch_wp fun _ _ _ => trivial

/-- The batches of one request, run again as long as they ask for it. -/
abbrev Batches (request : PinCleanupRequest) (failing : Prop) :
    Prog.Config Rpc Rpc.Reply PinStore → Prog.RerunEvent Rpc → Prog.Config Rpc Rpc.Reply PinStore → Prop :=
  Prog.Rerun (request.env failing) (cleanup_one_batch request)

/-- The first of them, about to start. -/
abbrev first_batch (request : PinCleanupRequest) (store : PinStore) : Prog.Config Rpc Rpc.Reply PinStore :=
  ⟨store, cleanup_one_batch request⟩

theorem batches_kept {c : Prog.Config Rpc Rpc.Reply PinStore}
    (hreach : Reachable (request.Batches failing) (request.first_batch store) c) :
    request.Kept store c.world :=
  Prog.Rerun.invariant (I := request.Kept store) cleanup_one_batch_careful
    (fun _ _ _ _ hkept hcareful hreply => hkept.step hcareful hreply) Kept.refl hreach

/-- Pins under other names are still there, if only the protected CID may have been renamed. -/
theorem Kept.others {after : PinStore} (hkept : request.Kept store after) :
    (∀ kubo_url cid name, (store.local_pins kubo_url).get cid = some name → ¬ request.Owns name →
      ∃ name', (after.local_pins kubo_url).get cid = some name' ∧
        (name' = name ∨ kubo_url = request.kubo_url ∧ cid = request.protected_cid ∧ name' = request.name)) ∧
    ∀ kubo_url service record, record ∈ store.remote_pins kubo_url service →
      ¬ request.Owns record.2 → record ∈ after.remote_pins kubo_url service := by
  refine ⟨fun url cid name hpin hother => ?_, hkept.remote_others⟩
  by_cases hprotected : url = request.kubo_url ∧ cid = request.protected_cid
  · obtain ⟨rfl, rfl⟩ := hprotected
    rcases hkept.protected_pin name hpin with hsame | hfinal
    · exact ⟨name, hsame, .inl rfl⟩
    · exact ⟨request.name, hfinal, .inr ⟨rfl, rfl, rfl⟩⟩
  · refine ⟨name, hkept.local_others url cid name hpin ?_, .inl rfl⟩
    rintro ⟨hurl, hcid | howned⟩
    · exact hprotected ⟨hurl, hcid⟩
    · exact hother howned

/-- A run that can go no further has ended with a batch that does not ask to be run again. -/
theorem batches_stuck {c : Prog.Config Rpc Rpc.Reply PinStore}
    (hstuck : ∀ event d, ¬ request.Batches failing c event d) : c.rest = .ret false := by
  obtain ⟨w, rest⟩ := c
  cases rest with
  | ret more =>
    cases more with
    | false => rfl
    | true => exact absurd (.again w) (hstuck _ _)
  | call rpc k =>
    obtain ⟨reply, store', hreply⟩ := PinStore.exists_reply failing w rpc
    exact absurd (.issue w store' rpc k reply hreply) (hstuck _ _)

end

/-- The re-run batches of a request end, after at most as many re-runs as there are stale pins, and
    touch nothing under other names. If no request fails, they leave just the protected CID under
    the final name, locally and at the service. -/
theorem cleanup_converges (request : PinCleanupRequest) (store : PinStore) :
    (∀ failing, Acc (fun d c => ∃ event, request.Batches failing c event d) (request.first_batch store)) ∧
    (∀ failing events c, Run (request.Batches failing) (request.first_batch store) events c →
      events.countP Prog.RerunEvent.isAgain ≤ request.stale_count store ∧
      (∀ kubo_url cid name, (store.local_pins kubo_url).get cid = some name → ¬ request.Owns name →
        ∃ name', (c.world.local_pins kubo_url).get cid = some name' ∧
          (name' = name ∨ kubo_url = request.kubo_url ∧ cid = request.protected_cid ∧ name' = request.name)) ∧
      (∀ kubo_url service record, record ∈ store.remote_pins kubo_url service →
        ¬ request.Owns record.2 → record ∈ c.world.remote_pins kubo_url service) ∧
      ((∀ event d, ¬ request.Batches failing c event d) → c.rest = .ret false)) ∧
    ∀ c, Reachable (request.Batches False) (request.first_batch store) c → c.rest = .ret false →
      (request.cleanup_local = true → request.LocalClean c.world) ∧
      ∀ service, request.remote_service = some service → request.HeldRemotely service store →
        request.RemoteClean service c.world := by
  have hcount : ∀ failing store, (cleanup_one_batch request).wp (request.env failing)
      (fun store' more => request.stale_count store' + more.toNat ≤ request.stale_count store) store :=
    fun failing store => Prog.wp_mono cleanup_one_batch_wp fun _ _ hpost => hpost.count
  refine ⟨fun failing => Prog.Rerun.terminates (hcount failing) store, fun failing events c hrun => ?_,
    fun c hreach hend => ?_⟩
  · obtain ⟨hlocal, hremote⟩ := (batches_kept ⟨events, hrun⟩).others
    exact ⟨Prog.Rerun.again_le (hcount failing) hrun, hlocal, hremote, batches_stuck⟩
  · -- What holds at the end of a batch: the protected CID is held, and both places are clean at the last.
    have hpost := Prog.Rerun.wp
      (Q := fun store' more => (request.cleanup_local = true → more = false → request.LocalClean store') ∧
        ∀ service, request.remote_service = some service → request.HeldRemotely service store →
          request.HeldRemotely service store' ∧ (more = false → request.RemoteClean service store'))
      (fun store' hbefore => Prog.wp_mono cleanup_one_batch_wp fun store'' more hafter =>
        ⟨hafter.local_done id, fun service hservice hheld =>
          ⟨hafter.remote_held id service hservice (hbefore.2 service hservice hheld).1,
            hafter.remote_done id service hservice (hbefore.2 service hservice hheld).1⟩⟩)
      (Prog.wp_mono cleanup_one_batch_wp fun store' more hafter =>
        ⟨hafter.local_done id, fun service hservice hheld =>
          ⟨hafter.remote_held id service hservice hheld, hafter.remote_done id service hservice hheld⟩⟩)
      hreach
    rw [hend] at hpost
    obtain ⟨hlocal, hremote⟩ := hpost
    exact ⟨fun hcleanup => hlocal hcleanup rfl,
      fun service hservice hheld => (hremote service hservice hheld).2 rfl⟩

end PinCleanupRequest

end ma_core.kubo

import MaCore.Kubo.Convergence

open rust transition

namespace ma_core.kubo

namespace PinCleanupRequest

section
variable {request : PinCleanupRequest} {store : PinStore} {service : String}

/-- A pass over the local pins whose first listing fails. -/
theorem local_listing_fails :
    Prog.Exec (request.env True)
      (if request.cleanup_local then cleanup_local_pass request else pure false) store false store := by
  split
  · exact ⟨.error "", store, .failed trivial _ _, rfl, rfl⟩
  · exact ⟨rfl, rfl⟩

/-- The stale records are all removed. -/
theorem remove_stale_exec (stale : List (String × String)) (removed_any : Bool) (store : PinStore) :
    ∃ store', Prog.Exec (request.env True) (remove_stale (fun pin : String × String =>
        remote_pin_rm_named request.kubo_url service pin.1 pin.2) stale removed_any)
        store (removed_any || !stale.isEmpty) store' ∧
      ∀ record, record ∈ store'.remote_pins request.kubo_url service ↔
        record ∈ store.remote_pins request.kubo_url service ∧ record ∉ stale := by
  induction stale generalizing removed_any store with
  | nil => exact ⟨store, ⟨by simp, rfl⟩, by simp⟩
  | cons pin stale ih =>
    obtain ⟨store', hexec, hrecords⟩ :=
      ih true (store.remote_unpin request.kubo_url service pin.1 pin.2)
    have hmore : (removed_any || !(pin :: stale).isEmpty) = (true || !stale.isEmpty) := by simp
    rw [hmore]
    refine ⟨store', ⟨.ok (), _, .remote_removed _ _ _ _, hexec⟩, fun record => ?_⟩
    rw [hrecords, PinStore.mem_remote_unpin, List.mem_cons]
    simp only [true_and, Prod.mk.eta]
    tauto

/-- The protected CID is recorded under the in-flight name alone. -/
def Stranded (request : PinCleanupRequest) (service : String) (store : PinStore) : Prop :=
  (request.protected_cid, in_flight_pin_name request.name) ∈ store.remote_pins request.kubo_url service ∧
    (request.protected_cid, request.name) ∉ store.remote_pins request.kubo_url service

/-- A pass that removes the other records, if there are any. -/
theorem remote_pass_clears (hservice : request.remote_service = some service)
    (hstranded : request.Stranded service store) (hstale : request.stale_remote store ≠ ∅) :
    ∃ store', Prog.Exec (request.env True) (cleanup_remote_pass request) store true store' ∧
      request.Stranded service store' ∧ request.stale_remote store' = ∅ := by
  obtain ⟨final_pins, hfinal⟩ := store.exists_remote_listing request.kubo_url service request.name
  obtain ⟨temp_pins, htemp⟩ :=
    store.exists_remote_listing request.kubo_url service (in_flight_pin_name request.name)
  have hrecords := mem_stale_records hservice hfinal htemp
  obtain ⟨store', hexec, hleft⟩ := @remove_stale_exec request service
    ((stale_pins final_pins request.protected_cid).map (·, request.name) ++
      (stale_pins temp_pins request.protected_cid).map (·, in_flight_pin_name request.name)) false store
  have hsome : (!(stale_pins final_pins request.protected_cid).isEmpty ||
      !(stale_pins temp_pins request.protected_cid).isEmpty) = true := by
    obtain ⟨pin, hpin⟩ := Set.nonempty_iff_ne_empty.mpr hstale
    have hlisted := List.ne_nil_of_mem ((hrecords pin).mpr hpin)
    rwa [ne_eq, records_eq_nil_iff, Bool.not_eq_false] at hlisted
  have hprotected : ∀ name, (request.protected_cid, name) ∉ request.stale_remote store :=
    fun name hmem => hmem.1 rfl
  refine ⟨store', ?_, ⟨?_, ?_⟩, ?_⟩
  · simp only [cleanup_remote_pass, hservice]
    refine ⟨.ok final_pins, store, .remote_listed _ _ _ _ hfinal, .ok temp_pins, store,
      .remote_listed _ _ _ _ htemp, ?_⟩
    simp only [Prog.bind]
    rw [if_pos hsome]
    have hmore : (false || !((stale_pins final_pins request.protected_cid).map (·, request.name) ++
        (stale_pins temp_pins request.protected_cid).map (·, in_flight_pin_name request.name)).isEmpty) =
          true := by
      rw [Bool.false_or, Bool.not_eq_true', List.isEmpty_eq_false_iff, ne_eq, records_eq_nil_iff, hsome]
      exact Bool.true_eq_false_eq_False
    rwa [hmore] at hexec
  · exact (hleft _).mpr ⟨hstranded.1, fun hmem => hprotected _ ((hrecords _).mp hmem)⟩
  · exact fun hmem => hstranded.2 ((hleft _).mp hmem).1
  · ext record
    simp only [stale_remote, hservice, Set.mem_ofPred_eq, Option.some.injEq, Set.mem_empty_iff_false,
      iff_false]
    rintro ⟨hne, howned, _, rfl, hmem⟩
    obtain ⟨hbefore, hkept⟩ := (hleft record).mp hmem
    exact hkept ((hrecords record).mpr ⟨hne, howned, service, hservice, hbefore⟩)

/-- A pass over the record alone, in which the second step of its migration fails. -/
theorem remote_pass_loses (hservice : request.remote_service = some service)
    (hstranded : request.Stranded service store) (hnone : request.stale_remote store = ∅) :
    ∃ store', Prog.Exec (request.env True) (cleanup_remote_pass request) store false store' ∧
      ¬ request.HeldRemotely service store' := by
  obtain ⟨final_pins, hfinal⟩ := store.exists_remote_listing request.kubo_url service request.name
  obtain ⟨temp_pins, htemp⟩ :=
    store.exists_remote_listing request.kubo_url service (in_flight_pin_name request.name)
  have hrecords := mem_stale_records hservice hfinal htemp
  have hnil : (stale_pins final_pins request.protected_cid).map (·, request.name) ++
      (stale_pins temp_pins request.protected_cid).map (·, in_flight_pin_name request.name) = [] := by
    rw [List.eq_nil_iff_forall_not_mem]
    intro pin hpin
    rw [hrecords, hnone] at hpin
    exact hpin
  have hin_flight : temp_pins.contains request.protected_cid = true :=
    List.contains_iff_mem.mpr ((htemp _).mpr hstranded.1)
  have hnot_final : (!final_pins.contains request.protected_cid) = true := by
    rw [Bool.not_eq_true', ← Bool.not_eq_true, List.contains_iff_mem, hfinal]
    exact hstranded.2
  refine ⟨store.remote_unpin request.kubo_url service request.protected_cid
    (in_flight_pin_name request.name), ?_, ?_⟩
  · simp only [cleanup_remote_pass, hservice]
    refine ⟨.ok final_pins, store, .remote_listed _ _ _ _ hfinal, .ok temp_pins, store,
      .remote_listed _ _ _ _ htemp, ?_⟩
    simp only [Prog.bind]
    rw [records_eq_nil_iff.mp hnil, if_neg Bool.false_ne_true, if_pos hin_flight, if_pos hnot_final]
    exact ⟨.ok (), _, .remote_removed _ _ _ _, .error "", _, .failed trivial _ _, rfl, rfl⟩
  · rintro ⟨name, rfl | rfl, hrecord⟩
    · exact hstranded.2 (PinStore.mem_remote_unpin.mp hrecord).2
    · exact (PinStore.mem_remote_unpin.mp hrecord).1 ⟨rfl, rfl, rfl⟩

/-- A batch in which the local listing fails. -/
theorem batch_exec {more : Bool} {store' : PinStore} (hservice : request.remote_service = some service)
    (hremote : Prog.Exec (request.env True) (cleanup_remote_pass request) store more store') :
    Prog.Exec (request.env True) (cleanup_one_batch request) store more store' := by
  have hsome : request.remote_service.isSome = true := by rw [hservice, Option.isSome_some]
  rw [cleanup_one_batch_eq, Prog.exec_bind]
  refine ⟨false, store, local_listing_fails, ?_⟩
  rw [Prog.exec_bind, if_pos hsome]
  exact ⟨more, store', hremote, (Bool.false_or more).symm, rfl⟩

/-- Some run loses a stranded CID. -/
theorem stranded_is_lost (hservice : request.remote_service = some service)
    (hstranded : request.Stranded service store) :
    ∃ c, Reachable (request.Batches True) (request.first_batch store) c ∧
      ¬ request.HeldRemotely service c.world := by
  by_cases hnone : request.stale_remote store = ∅
  · obtain ⟨store', hexec, hlost⟩ := remote_pass_loses hservice hstranded hnone
    exact ⟨_, Prog.Rerun.of_exec (batch_exec hservice hexec), hlost⟩
  · obtain ⟨store₁, hfirst, hstranded₁, hnone₁⟩ := remote_pass_clears hservice hstranded hnone
    obtain ⟨store', hsecond, hlost⟩ := remote_pass_loses hservice hstranded₁ hnone₁
    obtain ⟨_, hrun₁⟩ := Prog.Rerun.of_exec (p := cleanup_one_batch request) (batch_exec hservice hfirst)
    obtain ⟨_, hrun₂⟩ := Prog.Rerun.of_exec (p := cleanup_one_batch request) (batch_exec hservice hsecond)
    exact ⟨_, ⟨_, hrun₁.append (.cons (.again store₁) hrun₂)⟩, hlost⟩

end

/-- The protected CID stays pinned in every run of the batches, whatever fails, locally always and
    at the service exactly if it is not recorded there under the in-flight name alone. -/
theorem protected_survives_iff (request : PinCleanupRequest) (store : PinStore) :
    (∀ c, Reachable (request.Batches True) (request.first_batch store) c →
      (request.HeldLocally store → request.HeldLocally c.world) ∧
      ∀ service, request.remote_service = some service → request.HeldRemotely service store →
        request.HeldRemotely service c.world) ↔
      ∀ service, request.remote_service = some service → ¬ request.Stranded service store := by
  constructor
  · intro hsurvives service hservice hstranded
    obtain ⟨c, hreach, hlost⟩ := stranded_is_lost hservice hstranded
    have hheld : request.HeldRemotely service store := ⟨_, .inr rfl, hstranded.1⟩
    exact hlost ((hsurvives c hreach).2 service hservice hheld)
  · intro hnot c hreach
    have hkept := batches_kept hreach
    refine ⟨hkept.held_locally, fun service hservice hheld => ?_⟩
    have hfinal : (request.protected_cid, request.name) ∈ store.remote_pins request.kubo_url service := by
      obtain ⟨name, rfl | rfl, hrecord⟩ := hheld
      · exact hrecord
      · by_contra hmissing
        exact hnot service hservice ⟨hrecord, hmissing⟩
    exact ⟨request.name, .inl rfl, hkept.protected_record _ _ hfinal⟩

/-- One record under the in-flight name, and nothing else. -/
def stranded_store : PinStore where
  local_pins _ := Map.empty
  remote_pins _ _ := {("cid", "doc~new")}
  finite _ := by
    refine Set.finite_empty.subset ?_
    rintro cid ⟨name, hname⟩
    cases hname

theorem protected_is_lost :
    ¬ ∀ (request : PinCleanupRequest) (store : PinStore) c,
      Reachable (request.Batches True) (request.first_batch store) c →
        (request.HeldLocally store → request.HeldLocally c.world) ∧
        ∀ service, request.remote_service = some service → request.HeldRemotely service store →
          request.HeldRemotely service c.world := by
  intro hsurvives
  have hstranded : Stranded ⟨"http://127.0.0.1:5001", "doc", "cid", false, some "pinata"⟩ "pinata"
      stranded_store := by
    constructor <;> decide
  obtain ⟨c, hreach, hlost⟩ := stranded_is_lost rfl hstranded
  have hheld : HeldRemotely ⟨"http://127.0.0.1:5001", "doc", "cid", false, some "pinata"⟩ "pinata"
      stranded_store := ⟨_, .inr rfl, hstranded.1⟩
  exact hlost ((hsurvives _ _ c hreach).2 "pinata" rfl hheld)

end PinCleanupRequest

end ma_core.kubo

import Mathlib.Data.Set.Card
import MaCore.Kubo.Store

open rust

namespace ma_core.kubo

section
variable {α W : Type} {env : Prog.Env Rpc Rpc.Reply W} {rm : α → Io (Except String Unit)}
  {F : W → Prop} {Removable : W → α → Prop} {m : W → Nat}

/-- The loop over the stale pins reports a removal only if there are fewer of them then, and if no
    removal can fail it reports one. -/
theorem remove_stale_wp (failing : Prop) (Stale : W → α → Prop)
    (hrm : ∀ pin w, F w → Removable w pin → (rm pin).wp env (fun w' reply =>
      match reply with
      | .ok () => F w' ∧ m w' ≤ m w ∧ (Stale w pin → m w' < m w) ∧
        ∀ other, Removable w other → Removable w' other
      | .error _ => failing ∧ w' = w) w)
    {stale : List α} {removed_any : Bool} {w : W} {n : Nat} (hframe : F w)
    (hremovable : ∀ pin ∈ stale, Removable w pin)
    (hstale : removed_any = false → ∀ pin ∈ stale, Stale w pin) (hcount : m w + removed_any.toNat ≤ n)
    (hprogress : ¬ failing → removed_any = true ∨ stale ≠ []) :
    (remove_stale rm stale removed_any).wp env
      (fun w' more => F w' ∧ m w' + more.toNat ≤ n ∧ (¬ failing → more = true)) w := by
  induction stale generalizing removed_any w with
  | nil => exact ⟨hframe, hcount, fun hsound => (hprogress hsound).resolve_right fun hne => hne rfl⟩
  | cons pin stale ih =>
    rw [remove_stale, Prog.wp_bind]
    refine Prog.wp_mono (hrm pin w hframe (hremovable pin List.mem_cons_self)) fun w' reply hreply => ?_
    cases reply with
    | ok _ =>
      obtain ⟨hframe', hle, hlt, hkeeps⟩ := hreply
      have hlower : m w' + 1 ≤ n := by
        cases removed_any with
        | true =>
          rw [Bool.toNat_true] at hcount
          omega
        | false =>
          have hless := hlt (hstale rfl pin List.mem_cons_self)
          rw [Bool.toNat_false] at hcount
          omega
      exact ih hframe' (fun other hother => hkeeps other (hremovable other (List.mem_cons_of_mem _ hother)))
        (fun hnone => by cases hnone) hlower (fun _ => .inl rfl)
    | error _ =>
      obtain ⟨hfailing, rfl⟩ := hreply
      exact ih hframe (fun other hother => hremovable other (List.mem_cons_of_mem _ hother))
        (fun hnone other hother => hstale hnone other (List.mem_cons_of_mem _ hother)) hcount
        (fun hsound => absurd hfailing hsound)

end

namespace PinCleanupRequest

/-- The CIDs pinned locally under the names of a cleanup that it does not protect. -/
def stale_local (request : PinCleanupRequest) (store : PinStore) : Set String :=
  {cid | cid ≠ request.protected_cid ∧
    ∃ name, request.Owns name ∧ (store.local_pins request.kubo_url).get cid = some name}

/-- The records of other CIDs at its remote service. -/
def stale_remote (request : PinCleanupRequest) (store : PinStore) : Set (String × String) :=
  {record | record.1 ≠ request.protected_cid ∧ request.Owns record.2 ∧
    ∃ service, request.remote_service = some service ∧
      record ∈ store.remote_pins request.kubo_url service}

noncomputable def stale_count (request : PinCleanupRequest) (store : PinStore) : Nat :=
  (request.stale_local store).ncard + (request.stale_remote store).ncard

/-- Only the protected CID is pinned locally under either name, and that under the final one. -/
def LocalClean (request : PinCleanupRequest) (store : PinStore) : Prop :=
  ∀ cid name, request.Owns name →
    ((store.local_pins request.kubo_url).get cid = some name ↔
      cid = request.protected_cid ∧ name = request.name)

def RemoteClean (request : PinCleanupRequest) (service : String) (store : PinStore) : Prop :=
  ∀ cid name, request.Owns name →
    ((cid, name) ∈ store.remote_pins request.kubo_url service ↔
      cid = request.protected_cid ∧ name = request.name)

section
variable {request : PinCleanupRequest} {failing : Prop} {store : PinStore}

theorem stale_local_finite : (request.stale_local store).Finite :=
  (store.finite request.kubo_url).subset fun _ ⟨_, name, _, hname⟩ => ⟨name, hname⟩

theorem stale_remote_finite : (request.stale_remote store).Finite := by
  cases hservice : request.remote_service with
  | none =>
    refine Set.finite_empty.subset ?_
    rintro _ ⟨_, _, service, hsome, _⟩
    rw [hservice] at hsome
    cases hsome
  | some service =>
    refine (store.remote_pins request.kubo_url service).finite_toSet.subset ?_
    rintro record ⟨_, _, s, hsome, hrecord⟩
    rw [hservice] at hsome
    cases hsome
    exact hrecord

theorem stale_local_unpin (cid : String) :
    request.stale_local (store.unpin request.kubo_url cid) = request.stale_local store \ {cid} := by
  ext k
  simp only [stale_local, Set.mem_ofPred_eq, Set.mem_sdiff, Set.mem_singleton_iff, PinStore.get_unpin,
    true_and]
  by_cases hk : k = cid <;> simp [hk]

theorem stale_local_pin (name : String) :
    request.stale_local (store.pin request.kubo_url request.protected_cid name) = request.stale_local store := by
  ext k
  simp only [stale_local, Set.mem_ofPred_eq, PinStore.get_pin, true_and]
  by_cases hk : k = request.protected_cid <;> simp [hk]

theorem stale_remote_unpin {service : String} (hservice : request.remote_service = some service)
    (cid name : String) :
    request.stale_remote (store.remote_unpin request.kubo_url service cid name) =
      request.stale_remote store \ {(cid, name)} := by
  ext record
  simp only [stale_remote, hservice, Set.mem_ofPred_eq, Set.mem_sdiff, Set.mem_singleton_iff,
    PinStore.mem_remote_unpin, Option.some.injEq, true_and]
  constructor
  · rintro ⟨hne, howned, _, rfl, hother, hrecord⟩
    exact ⟨⟨hne, howned, _, rfl, hrecord⟩, fun hsame => hother ⟨rfl, hsame⟩⟩
  · rintro ⟨⟨hne, howned, _, rfl, hrecord⟩, hother⟩
    exact ⟨hne, howned, _, rfl, fun hsame => hother hsame.2, hrecord⟩

theorem stale_remote_pin {service : String} (name : String) :
    request.stale_remote (store.remote_pin request.kubo_url service request.protected_cid name) =
      request.stale_remote store := by
  ext record
  simp only [stale_remote, Set.mem_ofPred_eq, PinStore.mem_remote_pin, true_and]
  constructor
  · rintro ⟨hne, howned, s, hs, ⟨_, rfl⟩ | hrecord⟩
    · exact absurd rfl hne
    · exact ⟨hne, howned, s, hs, hrecord⟩
  · rintro ⟨hne, howned, s, hs, hrecord⟩
    exact ⟨hne, howned, s, hs, .inr hrecord⟩

theorem local_clean_of (hnone : request.stale_local store = ∅)
    (hpin : (store.local_pins request.kubo_url).get request.protected_cid = some request.name) :
    request.LocalClean store := by
  intro cid name howned
  constructor
  · intro hname
    have hcid : cid = request.protected_cid := by
      by_contra hne
      have hstale : cid ∈ request.stale_local store := ⟨hne, name, howned, hname⟩
      rw [hnone] at hstale
      exact hstale
    rw [hcid, hpin] at hname
    exact ⟨hcid, (Option.some.inj hname).symm⟩
  · rintro ⟨rfl, rfl⟩
    exact hpin

/-- Removing a stale local pin. -/
theorem pin_rm_wp {cid : String} {remote : String → String → Finset (String × String)}
    (hframe : store.remote_pins = remote) (hne : cid ≠ request.protected_cid)
    (howned : ∀ name, (store.local_pins request.kubo_url).get cid = some name → request.Owns name) :
    (pin_rm request.kubo_url cid).wp (request.env failing) (fun store' reply =>
      match reply with
      | .ok () => store'.remote_pins = remote ∧ request.stale_count store' ≤ request.stale_count store ∧
        (cid ∈ request.stale_local store → request.stale_count store' < request.stale_count store) ∧
        ∀ other, (other ≠ request.protected_cid ∧ ∀ name,
          (store.local_pins request.kubo_url).get other = some name → request.Owns name) →
            other ≠ request.protected_cid ∧ ∀ name,
              (store'.local_pins request.kubo_url).get other = some name → request.Owns name
      | .error _ => failing ∧ store' = store) store := by
  refine ⟨⟨rfl, hne, howned⟩, fun reply store' hreply => ?_⟩
  cases hreply with
  | failed hfailing => exact ⟨hfailing, rfl⟩
  | removed =>
    have hremote : request.stale_remote (store.unpin request.kubo_url cid) = request.stale_remote store := rfl
    refine ⟨hframe, ?_, fun hstale => ?_, fun other hother => ⟨hother.1, fun name hname => ?_⟩⟩
    · rw [stale_count, stale_count, stale_local_unpin, hremote]
      have hle := Set.ncard_sdiff_singleton_le (request.stale_local store) cid
      omega
    · rw [stale_count, stale_count, stale_local_unpin, hremote]
      have hlt := Set.ncard_sdiff_singleton_lt_of_mem hstale stale_local_finite
      omega
    · rw [PinStore.get_unpin] at hname
      split at hname
      · cases hname
      · exact hother.2 name hname

/-- A pass over the local pins leaves the remote ones alone and, if it asks to be run again, fewer
    stale pins. Without failures it ends when the names are clean. -/
theorem cleanup_local_pass_wp :
    (cleanup_local_pass request).wp (request.env failing) (fun store' more =>
      store'.remote_pins = store.remote_pins ∧
        request.stale_count store' + more.toNat ≤ request.stale_count store ∧
        (¬ failing → more = false → request.LocalClean store')) store := by
  refine ⟨trivial, fun reply₁ store₁ hreply₁ => ?_⟩
  cases hreply₁ with
  | failed hfailing => exact ⟨rfl, Nat.le_refl _, fun hsound => absurd hfailing hsound⟩
  | listed _ _ final_pins hfinal =>
    refine ⟨trivial, fun reply₂ store₂ hreply₂ => ?_⟩
    cases hreply₂ with
    | failed hfailing => exact ⟨rfl, Nat.le_refl _, fun hsound => absurd hfailing hsound⟩
    | listed _ _ temp_pins htemp =>
      have hstale : ∀ cid, cid ∈ stale_pins (final_pins ++ temp_pins) request.protected_cid ↔
          cid ∈ request.stale_local store := by
        intro cid
        simp only [mem_stale_pins, List.mem_append, hfinal, htemp, stale_local, Owns, Set.mem_ofPred_eq,
          or_and_right, exists_or, exists_eq_left]
        tauto
      simp only [Prog.bind]
      split
      · rename_i hsome
        rw [Bool.not_eq_true', List.isEmpty_eq_false_iff] at hsome
        refine Prog.wp_mono (remove_stale_wp (m := request.stale_count) failing
          (fun store cid => cid ∈ request.stale_local store)
          (fun cid store hframe hcid => pin_rm_wp hframe hcid.1 hcid.2) rfl (fun cid hcid => ?_)
          (fun _ cid hcid => (hstale cid).mp hcid) (Nat.le_refl _) (fun _ => .inr hsome)) ?_
        · obtain ⟨hne, name, howned, hname⟩ := (hstale cid).mp hcid
          refine ⟨hne, fun other hother => ?_⟩
          rw [hname] at hother
          cases hother
          exact howned
        · rintro store' more ⟨hframe, hcount, hmore⟩
          refine ⟨hframe, hcount, fun hsound hdone => ?_⟩
          rw [hmore hsound] at hdone
          cases hdone
      · rename_i hnone
        rw [Bool.not_eq_true', List.isEmpty_eq_false_iff, not_not] at hnone
        have hclean : request.stale_local store = ∅ := by
          ext cid
          rw [← hstale cid, hnone]
          simp
        split
        · refine ⟨⟨rfl, rfl, rfl⟩, fun reply₃ store₃ hreply₃ => ?_⟩
          cases hreply₃ with
          | failed hfailing => exact ⟨rfl, Nat.le_refl _, fun hsound => absurd hfailing hsound⟩
          | added =>
            refine ⟨rfl, ?_, fun _ _ => local_clean_of ?_ ?_⟩
            · rw [stale_count, stale_count, stale_local_pin]
              exact Nat.le_refl _
            · rw [stale_local_pin, hclean]
            · rw [PinStore.get_pin, if_pos ⟨rfl, rfl⟩]
        · rename_i hfound
          rw [Bool.not_eq_true', Bool.not_eq_false, List.contains_iff_mem] at hfound
          exact ⟨rfl, Nat.le_refl _, fun _ _ => local_clean_of hclean ((hfinal _).mp hfound)⟩

theorem stale_count_remote_unpin_le {service : String} (hservice : request.remote_service = some service)
    (cid name : String) :
    request.stale_count (store.remote_unpin request.kubo_url service cid name) ≤ request.stale_count store := by
  have hlocal : request.stale_local (store.remote_unpin request.kubo_url service cid name) =
      request.stale_local store := rfl
  have hle := Set.ncard_sdiff_singleton_le (request.stale_remote store) (cid, name)
  rw [stale_count, stale_count, hlocal, stale_remote_unpin hservice]
  omega

theorem stale_count_remote_unpin_lt {service : String} (hservice : request.remote_service = some service)
    {cid name : String} (hstale : (cid, name) ∈ request.stale_remote store) :
    request.stale_count (store.remote_unpin request.kubo_url service cid name) < request.stale_count store := by
  have hlocal : request.stale_local (store.remote_unpin request.kubo_url service cid name) =
      request.stale_local store := rfl
  have hlt := Set.ncard_sdiff_singleton_lt_of_mem hstale stale_remote_finite
  rw [stale_count, stale_count, hlocal, stale_remote_unpin hservice]
  omega

theorem stale_count_remote_pin {service : String} (name : String) :
    request.stale_count (store.remote_pin request.kubo_url service request.protected_cid name) =
      request.stale_count store := by
  have hlocal : request.stale_local (store.remote_pin request.kubo_url service request.protected_cid name) =
      request.stale_local store := rfl
  rw [stale_count, stale_count, hlocal, stale_remote_pin]

theorem remote_clean_of {service : String} (hservice : request.remote_service = some service)
    (hnone : request.stale_remote store = ∅)
    (hfinal : (request.protected_cid, request.name) ∈ store.remote_pins request.kubo_url service)
    (htemp : (request.protected_cid, in_flight_pin_name request.name) ∉
      store.remote_pins request.kubo_url service) :
    request.RemoteClean service store := by
  intro cid name howned
  constructor
  · intro hrecord
    have hcid : cid = request.protected_cid := by
      by_contra hne
      have hstale : (cid, name) ∈ request.stale_remote store := ⟨hne, howned, service, hservice, hrecord⟩
      rw [hnone] at hstale
      exact hstale
    refine ⟨hcid, howned.resolve_right ?_⟩
    rintro rfl
    exact htemp (hcid ▸ hrecord)
  · rintro ⟨rfl, rfl⟩
    exact hfinal

/-- With the protected CID under both names, dropping the in-flight record leaves the names clean. -/
theorem remote_clean_unpin {service : String} (hservice : request.remote_service = some service)
    (hnone : request.stale_remote store = ∅)
    (hfinal : (request.protected_cid, request.name) ∈ store.remote_pins request.kubo_url service) :
    request.HeldRemotely service (store.remote_unpin request.kubo_url service request.protected_cid
        (in_flight_pin_name request.name)) ∧
      request.RemoteClean service (store.remote_unpin request.kubo_url service request.protected_cid
        (in_flight_pin_name request.name)) := by
  have hkept : (request.protected_cid, request.name) ∈ (store.remote_unpin request.kubo_url service
      request.protected_cid (in_flight_pin_name request.name)).remote_pins request.kubo_url service := by
    refine PinStore.mem_remote_unpin.mpr ⟨?_, hfinal⟩
    rintro ⟨_, _, hsame⟩
    exact in_flight_pin_name_ne request.name (Prod.mk.inj hsame).2.symm
  refine ⟨⟨request.name, .inl rfl, hkept⟩, remote_clean_of hservice ?_ hkept ?_⟩
  · rw [stale_remote_unpin hservice, hnone, Set.empty_sdiff]
  · intro hrecord
    exact (PinStore.mem_remote_unpin.mp hrecord).1 ⟨rfl, rfl, rfl⟩

/-- Recording it under the final name after that does so, too. -/
theorem remote_clean_migrated {service : String} (hservice : request.remote_service = some service)
    (hnone : request.stale_remote store = ∅) :
    request.HeldRemotely service ((store.remote_unpin request.kubo_url service request.protected_cid
        (in_flight_pin_name request.name)).remote_pin request.kubo_url service request.protected_cid
        request.name) ∧
      request.RemoteClean service ((store.remote_unpin request.kubo_url service request.protected_cid
        (in_flight_pin_name request.name)).remote_pin request.kubo_url service request.protected_cid
        request.name) := by
  have hadded : (request.protected_cid, request.name) ∈ ((store.remote_unpin request.kubo_url service
      request.protected_cid (in_flight_pin_name request.name)).remote_pin request.kubo_url service
      request.protected_cid request.name).remote_pins request.kubo_url service :=
    PinStore.mem_remote_pin.mpr (.inl ⟨rfl, rfl, rfl⟩)
  refine ⟨⟨request.name, .inl rfl, hadded⟩, remote_clean_of hservice ?_ hadded ?_⟩
  · rw [stale_remote_pin, stale_remote_unpin hservice, hnone, Set.empty_sdiff]
  · rw [PinStore.mem_remote_pin, PinStore.mem_remote_unpin]
    rintro (⟨_, _, hsame⟩ | ⟨hother, _⟩)
    · exact in_flight_pin_name_ne request.name (Prod.mk.inj hsame).2
    · exact hother ⟨rfl, rfl, rfl⟩

/-- Removing a stale record. -/
theorem remote_pin_rm_named_wp {service : String} {pin : String × String} {pins : Pins} {held : Prop}
    (hservice : request.remote_service = some service)
    (hframe : store.local_pins = pins ∧ (held → request.HeldRemotely service store))
    (hpin : pin.1 ≠ request.protected_cid ∧ request.Owns pin.2) :
    (remote_pin_rm_named request.kubo_url service pin.1 pin.2).wp (request.env failing)
      (fun store' reply =>
        match reply with
        | .ok () => (store'.local_pins = pins ∧ (held → request.HeldRemotely service store')) ∧
          request.stale_count store' ≤ request.stale_count store ∧
          (pin ∈ request.stale_remote store → request.stale_count store' < request.stale_count store) ∧
          ∀ other : String × String, (other.1 ≠ request.protected_cid ∧ request.Owns other.2) →
            other.1 ≠ request.protected_cid ∧ request.Owns other.2
        | .error _ => failing ∧ store' = store) store := by
  refine ⟨⟨rfl, hservice, hpin.2, fun hsame => absurd hsame hpin.1⟩, fun reply store' hreply => ?_⟩
  cases hreply with
  | failed hfailing => exact ⟨hfailing, rfl⟩
  | remote_removed =>
    refine ⟨⟨hframe.1, fun hheld => ?_⟩, stale_count_remote_unpin_le hservice _ _,
      fun hstale => stale_count_remote_unpin_lt hservice hstale, fun _ hother => hother⟩
    obtain ⟨name, howned, hrecord⟩ := hframe.2 hheld
    refine ⟨name, howned, PinStore.mem_remote_unpin.mpr ⟨?_, hrecord⟩⟩
    rintro ⟨_, _, hsame⟩
    exact hpin.1 (Prod.mk.inj hsame).1.symm

theorem records_eq_nil_iff {stale_final stale_temp : List String} {name temp_name : String} :
    stale_final.map (·, name) ++ stale_temp.map (·, temp_name) = [] ↔
      (!stale_final.isEmpty || !stale_temp.isEmpty) = false := by
  cases stale_final <;> cases stale_temp <;> simp

/-- The listed records of other CIDs are the stale ones. -/
theorem mem_stale_records {service : String} {final_pins temp_pins : List String}
    (hservice : request.remote_service = some service)
    (hfinal : ∀ cid, cid ∈ final_pins ↔ (cid, request.name) ∈ store.remote_pins request.kubo_url service)
    (htemp : ∀ cid, cid ∈ temp_pins ↔
      (cid, in_flight_pin_name request.name) ∈ store.remote_pins request.kubo_url service)
    (pin : String × String) :
    pin ∈ (stale_pins final_pins request.protected_cid).map (·, request.name) ++
        (stale_pins temp_pins request.protected_cid).map (·, in_flight_pin_name request.name) ↔
      pin ∈ request.stale_remote store := by
  obtain ⟨cid, name⟩ := pin
  simp only [List.mem_append, List.mem_map, mem_stale_pins, hfinal, htemp, Prod.mk.injEq, stale_remote,
    Owns, hservice, Set.mem_ofPred_eq, Option.some.injEq]
  constructor
  · rintro (⟨_, ⟨hrecord, hne⟩, rfl, rfl⟩ | ⟨_, ⟨hrecord, hne⟩, rfl, rfl⟩)
    · exact ⟨hne, .inl rfl, service, rfl, hrecord⟩
    · exact ⟨hne, .inr rfl, service, rfl, hrecord⟩
  · rintro ⟨hne, rfl | rfl, _, rfl, hrecord⟩
    · exact .inl ⟨cid, ⟨hrecord, hne⟩, rfl, rfl⟩
    · exact .inr ⟨cid, ⟨hrecord, hne⟩, rfl, rfl⟩

/-- A pass over the remote pins does the same there. Without failures it does not lose the
    protected CID. -/
theorem cleanup_remote_pass_wp {service : String} (hservice : request.remote_service = some service) :
    (cleanup_remote_pass request).wp (request.env failing) (fun store' more =>
      store'.local_pins = store.local_pins ∧
        request.stale_count store' + more.toNat ≤ request.stale_count store ∧
        (¬ failing → request.HeldRemotely service store →
          request.HeldRemotely service store' ∧ (more = false → request.RemoteClean service store')))
      store := by
  simp only [cleanup_remote_pass, hservice]
  refine ⟨trivial, fun reply₁ store₁ hreply₁ => ?_⟩
  cases hreply₁ with
  | failed hfailing => exact ⟨rfl, Nat.le_refl _, fun hsound => absurd hfailing hsound⟩
  | remote_listed _ _ _ final_pins hfinal =>
    refine ⟨trivial, fun reply₂ store₂ hreply₂ => ?_⟩
    cases hreply₂ with
    | failed hfailing => exact ⟨rfl, Nat.le_refl _, fun hsound => absurd hfailing hsound⟩
    | remote_listed _ _ _ temp_pins htemp =>
      have hstale := mem_stale_records hservice hfinal htemp
      simp only [Prog.bind]
      split
      · rename_i hsome
        have hpins : (stale_pins final_pins request.protected_cid).map (·, request.name) ++
            (stale_pins temp_pins request.protected_cid).map (·, in_flight_pin_name request.name) ≠ [] := by
          rw [ne_eq, records_eq_nil_iff, hsome]
          exact Bool.true_eq_false_eq_False
        refine Prog.wp_mono (remove_stale_wp (m := request.stale_count) failing
          (fun store pin => pin ∈ request.stale_remote store)
          (fun pin store hframe hpin => remote_pin_rm_named_wp hservice hframe hpin)
          ⟨rfl, id⟩ (fun pin hpin => ?_) (fun _ pin hpin => (hstale pin).mp hpin) (Nat.le_refl _)
          (fun _ => .inr hpins)) ?_
        · obtain ⟨hne, howned, _⟩ := (hstale pin).mp hpin
          exact ⟨hne, howned⟩
        · rintro store' more ⟨⟨hframe, hheld⟩, hcount, hmore⟩
          refine ⟨hframe, hcount, fun hsound hbefore => ⟨hheld hbefore, fun hdone => ?_⟩⟩
          rw [hmore hsound] at hdone
          cases hdone
      · rename_i hnone
        have hclean : request.stale_remote store = ∅ := by
          ext pin
          rw [← hstale pin]
          simp_all
        split
        · split
          · refine ⟨⟨rfl, hservice, .inr rfl, fun _ => rfl⟩, fun reply₃ store₃ hreply₃ => ?_⟩
            cases hreply₃ with
            | failed hfailing => exact ⟨rfl, Nat.le_refl _, fun hsound => absurd hfailing hsound⟩
            | remote_removed =>
              have hcount := @stale_count_remote_unpin_le request store service hservice
                request.protected_cid (in_flight_pin_name request.name)
              refine ⟨⟨rfl, hservice, rfl, rfl⟩, fun reply₄ store₄ hreply₄ => ?_⟩
              cases hreply₄ with
              | failed hfailing => exact ⟨rfl, hcount, fun hsound => absurd hfailing hsound⟩
              | remote_added =>
                obtain ⟨hheld, hdone⟩ := remote_clean_migrated hservice hclean
                rw [← @stale_count_remote_pin request _ service request.name] at hcount
                exact ⟨rfl, hcount, fun _ _ => ⟨hheld, fun _ => hdone⟩⟩
          · rename_i hfound
            rw [Bool.not_eq_true', Bool.not_eq_false, List.contains_iff_mem, hfinal] at hfound
            refine ⟨⟨rfl, hservice, .inr rfl, fun _ => rfl⟩, fun reply₃ store₃ hreply₃ => ?_⟩
            cases hreply₃ with
            | failed hfailing => exact ⟨rfl, Nat.le_refl _, fun hsound => absurd hfailing hsound⟩
            | remote_removed =>
              obtain ⟨hheld, hdone⟩ := remote_clean_unpin hservice hclean hfound
              exact ⟨rfl, stale_count_remote_unpin_le hservice _ _, fun _ _ => ⟨hheld, fun _ => hdone⟩⟩
        · rename_i habsent
          rw [Bool.not_eq_true, ← Bool.not_eq_true, List.contains_iff_mem, htemp] at habsent
          refine ⟨rfl, Nat.le_refl _, fun _ hheld => ⟨hheld, fun _ => ?_⟩⟩
          obtain ⟨name, rfl | rfl, hrecord⟩ := hheld
          · exact remote_clean_of hservice hclean hrecord habsent
          · exact absurd hrecord habsent

/-- What a batch leaves of the stale pins and of what is held, and how it leaves both places if no
    request fails and it does not ask to be run again. -/
structure BatchPost (request : PinCleanupRequest) (failing : Prop) (store store' : PinStore) (more : Bool) :
    Prop where
  count : request.stale_count store' + more.toNat ≤ request.stale_count store
  local_done : ¬ failing → request.cleanup_local = true → more = false → request.LocalClean store'
  remote_held : ¬ failing → ∀ service, request.remote_service = some service →
    request.HeldRemotely service store → request.HeldRemotely service store'
  remote_done : ¬ failing → ∀ service, request.remote_service = some service →
    request.HeldRemotely service store → more = false → request.RemoteClean service store'

theorem cleanup_one_batch_eq (request : PinCleanupRequest) : cleanup_one_batch request =
    (if request.cleanup_local then cleanup_local_pass request else pure false) >>= fun local_more =>
      (if request.remote_service.isSome then cleanup_remote_pass request else pure false) >>=
        fun remote_more => pure (local_more || remote_more) := by
  unfold cleanup_one_batch
  cases request.cleanup_local <;> cases request.remote_service.isSome <;> rfl

theorem cleanup_one_batch_wp :
    (cleanup_one_batch request).wp (request.env failing) (request.BatchPost failing store) store := by
  have hlocal : (if request.cleanup_local then cleanup_local_pass request else pure false : Io Bool).wp
      (request.env failing) (fun store' more => store'.remote_pins = store.remote_pins ∧
        request.stale_count store' + more.toNat ≤ request.stale_count store ∧
        (¬ failing → request.cleanup_local = true → more = false → request.LocalClean store')) store := by
    split
    · refine Prog.wp_mono cleanup_local_pass_wp ?_
      rintro store' more ⟨hremote, hcount, hdone⟩
      exact ⟨hremote, hcount, fun hsound _ => hdone hsound⟩
    · rename_i hskip
      exact ⟨rfl, Nat.le_refl _, fun _ hlocal => absurd hlocal hskip⟩
  have hremote : ∀ store₁ : PinStore,
      (if request.remote_service.isSome then cleanup_remote_pass request else pure false : Io Bool).wp
        (request.env failing) (fun store' more => store'.local_pins = store₁.local_pins ∧
          request.stale_count store' + more.toNat ≤ request.stale_count store₁ ∧
          (¬ failing → ∀ service, request.remote_service = some service →
            request.HeldRemotely service store₁ → request.HeldRemotely service store' ∧
              (more = false → request.RemoteClean service store'))) store₁ := by
    intro store₁
    cases hservice : request.remote_service with
    | none => exact ⟨rfl, Nat.le_refl _, fun _ _ hsome => by cases hsome⟩
    | some service =>
      refine Prog.wp_mono (cleanup_remote_pass_wp hservice) ?_
      rintro store' more ⟨hlocal, hcount, hdone⟩
      refine ⟨hlocal, hcount, fun hsound s hs => ?_⟩
      cases hs
      exact hdone hsound
  rw [cleanup_one_batch_eq, Prog.wp_bind]
  refine Prog.wp_mono hlocal ?_
  rintro store₁ local_more ⟨hremotes, hcount₁, hclean₁⟩
  rw [Prog.wp_bind]
  refine Prog.wp_mono (hremote store₁) ?_
  rintro store₂ remote_more ⟨hlocals, hcount₂, hclean₂⟩
  have hheld : ∀ service, request.HeldRemotely service store → request.HeldRemotely service store₁ := by
    intro service hheld
    rwa [HeldRemotely, hremotes]
  refine ⟨?_, fun hsound hcleanup hdone => ?_, fun hsound s hs hbefore => ?_, fun hsound s hs hbefore hdone => ?_⟩
  · cases local_more <;> cases remote_more <;> simp only [Bool.toNat_true, Bool.toNat_false,
      Bool.or_false, Bool.or_true] at hcount₁ hcount₂ ⊢ <;> omega
  · rw [LocalClean, hlocals]
    exact hclean₁ hsound hcleanup (Bool.or_eq_false_iff.mp hdone).1
  · exact (hclean₂ hsound s hs (hheld s hbefore)).1
  · exact (hclean₂ hsound s hs (hheld s hbefore)).2 (Bool.or_eq_false_iff.mp hdone).2

end

end PinCleanupRequest

end ma_core.kubo

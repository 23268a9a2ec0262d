import MaCore.Iroh.Eviction

open rust transition
open ma_core.error ma_core.key ma_core.doc ma_core.msg ma_core.service ma_core.outbox

namespace ma_core.iroh

/-- A protocol was registered when this many registrations had been made, and
    has not been removed since. -/
def Kept (registrations : List Registration) (since : Nat) (name : String) : Prop :=
  Registration.registered (registrations.take since) name = true ∧
    ∀ protocol, .remove_service protocol ∈ registrations.drop since → normalize_protocol protocol ≠ name

section
variable {registrations : List Registration} {since : Nat} {name : String}

theorem kept_length : Kept registrations registrations.length name ↔
    Registration.registered registrations name = true := by
  unfold Kept
  rw [List.take_length, List.drop_length]
  exact and_iff_left fun _ hmem => absurd hmem List.not_mem_nil

theorem kept_append (hsince : since ≤ registrations.length) (call : Registration) :
    Kept (registrations ++ [call]) since name ↔ Kept registrations since name ∧
      ∀ protocol, call = .remove_service protocol → normalize_protocol protocol ≠ name := by
  unfold Kept
  rw [List.take_append_of_le_length hsince, List.drop_append_of_le_length hsince, and_assoc]
  apply and_congr_right
  intro _
  simp only [List.mem_append, List.mem_singleton]
  constructor
  · intro hall
    exact ⟨fun protocol hmem => hall protocol (.inl hmem), fun protocol hcall => hall protocol (.inr hcall.symm)⟩
  · rintro ⟨hold, hnew⟩ protocol (hmem | hcall)
    · exact hold protocol hmem
    · exact hnew protocol hcall.symm

/-- What was kept is registered. -/
theorem Kept.registered (hkept : Kept registrations since name) :
    Registration.registered registrations name = true := by
  obtain ⟨hthen, hnone⟩ := hkept
  have hsplit : registrations = registrations.take since ++ registrations.drop since :=
    (List.take_append_drop since registrations).symm
  rw [hsplit]
  generalize registrations.drop since = later at hnone
  induction later using List.reverseRecOn with
  | nil =>
    rw [List.append_nil]
    exact hthen
  | append_singleton later call ih =>
    have hbefore := ih fun protocol hmem => hnone protocol (List.mem_append_left _ hmem)
    rw [← List.append_assoc, Registration.registered_append]
    split
    · rename_i hname
      cases call with
      | service protocol => rfl
      | remove_service protocol =>
        have hother := hnone protocol (List.mem_append_right _ (List.mem_singleton.mpr rfl))
        exact absurd hname hother
    · exact hbefore

end

/-- The inboxes of an endpoint are those registered, and are there. -/
structure Registered (id : String) (registrations : List Registration) (endpoint : IrohEndpoint) : Prop where
  inv : Registration.Inv id registrations endpoint
  inboxes : ∀ name inbox, endpoint.inboxes.get name = some inbox → inbox < endpoint.queues.length

/-- What was looked up under a protocol, when this many registrations had been
    made, is what is registered now just if the protocol was kept. -/
structure Captured (endpoint : IrohEndpoint) (registrations : List Registration) (name : String) (since : Nat)
    (captured : Option Inbox) : Prop where
  made : since ≤ registrations.length
  old : ∀ inbox, captured = some inbox → inbox < endpoint.queues.length
  current : ∀ inbox, endpoint.inboxes.get name = some inbox →
    (captured = some inbox ↔ Kept registrations since name)

section
variable {endpoint endpoint' : IrohEndpoint} {registrations : List Registration} {id name : String} {since : Nat}
  {captured : Option Inbox}

theorem Registered.same (hregistered : Registered id registrations endpoint)
    (hsame : SameServices endpoint endpoint') :
    Registered id registrations endpoint' := by
  refine ⟨⟨hsame.id.trans hregistered.inv.id, fun name => ?_, fun name => ?_⟩, fun name inbox hget => ?_⟩
  · rw [hsame.inboxes]
    exact hregistered.inv.inboxes name
  · rw [hsame.protocols]
    exact hregistered.inv.protocols name
  · rw [hsame.inboxes] at hget
    rw [hsame.queues]
    exact hregistered.inboxes name inbox hget

theorem Captured.same (hcaptured : Captured endpoint registrations name since captured)
    (hsame : SameServices endpoint endpoint') : Captured endpoint' registrations name since captured := by
  refine ⟨hcaptured.made, fun inbox hinbox => ?_, fun inbox hget => ?_⟩
  · rw [hsame.queues]
    exact hcaptured.old inbox hinbox
  · rw [hsame.inboxes] at hget
    exact hcaptured.current inbox hget

theorem Registered.apply (hregistered : Registered id registrations endpoint) (call : Registration) :
    Registered id (registrations ++ [call]) (call.apply endpoint) := by
  refine ⟨Registration.apply_inv hregistered.inv call, fun name inbox hget => ?_⟩
  cases call with
  | service protocol =>
    obtain ⟨_, _, hservice⟩ | ⟨_, router, hservice⟩ := endpoint.service_cases protocol
    · rw [Registration.apply, hservice] at hget ⊢
      exact hregistered.inboxes name inbox hget
    · rw [Registration.apply, hservice] at hget ⊢
      dsimp only at hget ⊢
      rw [Map.get_insert] at hget
      rw [List.length_append, List.length_singleton]
      split at hget
      · cases hget
        exact Nat.lt_succ_self _
      · exact Nat.lt_succ_of_lt (hregistered.inboxes name inbox hget)
  | remove_service protocol =>
    obtain ⟨_, hremove⟩ | ⟨_, router, hremove⟩ := endpoint.remove_service_cases protocol
    · rw [Registration.apply, hremove] at hget ⊢
      exact hregistered.inboxes name inbox hget
    · rw [Registration.apply, hremove] at hget ⊢
      dsimp only at hget ⊢
      rw [Map.get_remove] at hget
      split at hget
      · cases hget
      · exact hregistered.inboxes name inbox hget

/-- A registration made since: an inbox that is made anew is not the one that
    was looked up. -/
theorem Captured.apply (hcaptured : Captured endpoint registrations name since captured)
    (hregistered : Registered id registrations endpoint) (call : Registration) :
    Captured (call.apply endpoint) (registrations ++ [call]) name since captured := by
  have hsince : since ≤ (registrations ++ [call]).length :=
    Nat.le_trans hcaptured.made (by simp)
  cases call with
  | service protocol =>
    have hkept : Kept (registrations ++ [.service protocol]) since name ↔ Kept registrations since name := by
      rw [kept_append hcaptured.made]
      exact and_iff_left fun _ hcall => by cases hcall
    obtain ⟨_, _, hservice⟩ | ⟨hnone, router, hservice⟩ := endpoint.service_cases protocol
    · refine ⟨hsince, ?_, ?_⟩
      · rw [Registration.apply, hservice]
        exact hcaptured.old
      · rw [Registration.apply, hservice, hkept]
        exact hcaptured.current
    · refine ⟨hsince, fun inbox hinbox => ?_, fun inbox hget => ?_⟩
      · rw [Registration.apply, hservice]
        dsimp only
        rw [List.length_append, List.length_singleton]
        exact Nat.lt_succ_of_lt (hcaptured.old inbox hinbox)
      · rw [Registration.apply, hservice] at hget
        dsimp only at hget
        rw [Map.get_insert] at hget
        rw [hkept]
        split at hget
        · rename_i hname
          cases hget
          refine iff_of_false (fun hcaught => ?_) fun hkept => ?_
          · exact Nat.lt_irrefl _ (hcaptured.old _ hcaught)
          · have hisSome := hregistered.inv.inboxes name
            rw [hkept.registered, hname, hnone] at hisSome
            cases hisSome
        · exact hcaptured.current inbox hget
  | remove_service protocol =>
    refine ⟨hsince, fun inbox hinbox => ?_, fun inbox hget => ?_⟩
    · obtain ⟨_, hremove⟩ | ⟨_, router, hremove⟩ := endpoint.remove_service_cases protocol
      · rw [Registration.apply, hremove]
        exact hcaptured.old inbox hinbox
      · rw [Registration.apply, hremove]
        exact hcaptured.old inbox hinbox
    · rw [Registration.apply, IrohEndpoint.remove_service_inboxes] at hget
      split at hget
      · cases hget
      · rename_i hname
        rw [kept_append hcaptured.made, hcaptured.current inbox hget]
        refine (and_iff_left ?_).symm
        rintro protocol' hcall rfl
        cases hcall
        exact hname rfl

/-- What is looked up now. -/
theorem Registered.lookup (hregistered : Registered id registrations endpoint) (name : String) :
    Captured endpoint registrations name registrations.length (endpoint.inboxes.get name) := by
  refine ⟨Nat.le_refl _, fun inbox => hregistered.inboxes name inbox, fun inbox hget => ?_⟩
  refine iff_of_true hget ?_
  rw [kept_length, ← hregistered.inv.inboxes, hget]
  rfl

end

end ma_core.iroh

import MaCore.TtlQueue.Ops

namespace ma_core.ttl_queue

/-- An entry that has not expired: its expiry is zero or still to come. -/
abbrev Live {T : Type} (now : UInt64) (entry : Entry T) : Prop := entry.1 = 0 ∨ now < entry.1

/-- One expiry time is no later than another, where zero is the latest. -/
def NoLater (left right : UInt64) : Prop := right = 0 ∨ left ≠ 0 ∧ left ≤ right

namespace TtlQueue

variable {T : Type}

/-- The stored entries that have not expired, oldest first. -/
def live (self : TtlQueue T) (now : UInt64) : List (Entry T) := self.buf.filter (Live now ·)

/-- At this time the queue hands out exactly what has not expired. -/
structure Exact (queue : TtlQueue T) (now : UInt64) : Prop where
  drain : (queue.drain now).1 = (queue.live now).map Prod.snd
  pop : (queue.pop now).1 = (queue.live now).head?.map Prod.snd
  peek : (queue.peek now).1 = (queue.live now).head?.map Prod.snd

/-- The entries a push keeps. -/
def kept (self : TtlQueue T) (now : UInt64) : List (Entry T) :=
  if self.capacity ≤ (self.evict now).buf.length then (self.evict now).buf.tail else (self.evict now).buf

/-- A push that puts its item behind none that expires later. -/
def PushedInOrder (self : TtlQueue T) (now expires_at : UInt64) : Prop :=
  ∀ entry ∈ self.kept now, NoLater entry.1 expires_at

/-- The live entries a push removes from the queue. -/
def discarded (self : TtlQueue T) (now expires_at : UInt64) (item : T) : List (Entry T) :=
  (((Op.push now expires_at item).removed self).map (·.entry)).filter (Live now ·)

/-- A push gives up a live entry only where live entries fill the queue, and
    then the oldest of them. -/
def SparesLive (self : TtlQueue T) (now expires_at : UInt64) (item : T) : Prop :=
  self.discarded now expires_at item = [] ∨
    (self.live now).length = self.capacity ∧ (∀ entry ∈ self.buf, Live now entry) ∧
      self.discarded now expires_at item = (self.live now).take 1

/-- A full queue whose oldest entry is live holds none that has expired. -/
def Unclogged (self : TtlQueue T) (now : UInt64) : Prop :=
  self.buf.length = self.capacity → (∀ oldest ∈ self.buf.head?, Live now oldest) →
    ∀ entry ∈ self.buf, Live now entry

section
variable {self : TtlQueue T} {now expires_at : UInt64} {item : T}

theorem expired_eq_true_iff {entry : Entry T} : expired now entry = true ↔ ¬ Live now entry := by
  rw [← Bool.not_eq_false, expired_eq_false_iff]

theorem live_eq_filter : self.live now = self.buf.filter fun entry => !expired now entry := by
  apply List.filter_congr
  intro entry _
  by_cases hlive : Live now entry
  · simp [hlive, expired_eq_false_iff.mpr hlive]
  · simp [hlive, expired_eq_true_iff.mpr hlive]

theorem head?_evict : (self.evict now).buf.head? = (self.live now).head? := by
  rw [live_eq_filter]
  exact fifo.head?_dropWhile (expired now) self.buf

/-- Popping and peeking find the oldest live entry in every queue. -/
theorem pop_eq : (self.pop now).1 = (self.live now).head?.map Prod.snd := by
  rw [← head?_evict]
  rfl

theorem peek_eq : (self.peek now).1 = (self.live now).head?.map Prod.snd := by
  rw [← head?_evict]
  rfl

/-- What a drain returns includes the live entries, so it is those exactly if it is as long. -/
theorem drain_eq_iff :
    (self.drain now).1 = (self.live now).map Prod.snd ↔
      self.buf.Pairwise fun a b => expired now b = true → expired now a = true := by
  have hsublist := fifo.filter_sublist_dropWhile (expired now) self.buf
  rw [← fifo.dropWhile_eq_filter_iff, live_eq_filter]
  show (self.buf.dropWhile (expired now)).map Prod.snd = _ ↔ _
  constructor
  · intro hdrain
    have hlength := congrArg List.length hdrain
    rw [List.length_map, List.length_map] at hlength
    exact (hsublist.eq_of_length hlength.symm).symm
  · intro hbuf
    rw [hbuf]

theorem exact_iff :
    self.Exact now ↔ self.buf.Pairwise fun a b => expired now b = true → expired now a = true :=
  ⟨fun hexact => drain_eq_iff.mp hexact.drain, fun hbuf => ⟨drain_eq_iff.mpr hbuf, pop_eq, peek_eq⟩⟩

theorem expired_eq_true_iff_le {entry : Entry T} :
    expired now entry = true ↔ entry.1 ≠ 0 ∧ entry.1 ≤ now := by
  rw [expired_eq_true_iff, not_or, UInt64.not_lt]

/-- An item expires no later than another if whenever that one has expired it has. -/
theorem noLater_iff {left right : Entry T} :
    NoLater left.1 right.1 ↔ ∀ now, expired now right = true → expired now left = true := by
  simp only [expired_eq_true_iff_le]
  constructor
  · rintro (hzero | ⟨hne, hle⟩) now ⟨hright, hnow⟩
    · exact absurd hzero hright
    · exact ⟨hne, UInt64.le_trans hle hnow⟩
  · intro hall
    by_cases hzero : right.1 = 0
    · exact .inl hzero
    · exact .inr (hall right.1 ⟨hzero, UInt64.le_refl right.1⟩)

/-- A queue is exact at every time if its entries stand in the order they expire in. -/
theorem exact_always_iff :
    (∀ now, self.Exact now) ↔ self.buf.Pairwise fun a b => NoLater a.1 b.1 := by
  simp only [exact_iff, List.pairwise_iff_forall_sublist, noLater_iff]
  constructor
  · intro hall a b hsublist now
    exact hall now hsublist
  · intro hall now a b hsublist
    exact hall hsublist now

/-! Runs of calls. -/

theorem kept_sublist : (self.kept now).Sublist self.buf := by
  have hevict : (self.evict now).buf.Sublist self.buf := List.dropWhile_sublist _
  unfold kept
  split
  · exact (List.tail_sublist _).trans hevict
  · exact hevict

/-- Calls other than pushes leave part of the queue. -/
theorem run_sublist {op : Op T} (hop : op.pushed = []) : (op.run self).2.buf.Sublist self.buf := by
  have hmoves := op.removed_moves self
  rw [hop, fifo.Moves, List.append_nil] at hmoves
  rw [hmoves]
  exact List.sublist_append_right _ _

end

section
variable {capacity : Nat} {ops : List (Op T)} {queue : TtlQueue T}

theorem run_ordered {op : Op T} (hordered : queue.buf.Pairwise fun a b => NoLater a.1 b.1)
    (hpush : ∀ now expires_at item, op = .push now expires_at item →
      queue.PushedInOrder now expires_at) :
    (op.run queue).2.buf.Pairwise fun a b => NoLater a.1 b.1 := by
  cases op with
  | push now expires_at item =>
    have hkept : (queue.kept now).Pairwise fun a b => NoLater a.1 b.1 := hordered.sublist kept_sublist
    show (queue.kept now ++ [(expires_at, item)]).Pairwise fun a b => NoLater a.1 b.1
    refine List.pairwise_append.mpr ⟨hkept, List.pairwise_singleton _ _, ?_⟩
    intro entry hmem other hother
    rw [List.mem_singleton.mp hother]
    exact hpush now expires_at item rfl entry hmem
  | pop now => exact hordered.sublist (run_sublist rfl)
  | peek now => exact hordered.sublist (run_sublist rfl)
  | drain now => exact hordered.sublist (run_sublist rfl)

/-- From a queue in order, the queue stays in order exactly if every push is in order. -/
theorem throughout_exact_iff (hordered : queue.buf.Pairwise fun a b => NoLater a.1 b.1) :
    Op.Throughout (fun queue => ∀ now, queue.Exact now) queue ops ↔
      Op.EachPush (fun queue now expires_at _ => queue.PushedInOrder now expires_at) queue ops := by
  induction ops generalizing queue with
  | nil => exact ⟨fun _ => trivial, fun _ => exact_always_iff.mpr hordered⟩
  | cons op ops ih =>
    constructor
    · rintro ⟨_, hrest⟩
      have hnext : (op.run queue).2.buf.Pairwise fun a b => NoLater a.1 b.1 := by
        cases ops with
        | nil => exact exact_always_iff.mp hrest
        | cons _ _ => exact exact_always_iff.mp hrest.1
      refine ⟨?_, (ih hnext).mp hrest⟩
      rintro now expires_at item rfl entry hmem
      have hpushed : (queue.kept now ++ [(expires_at, item)]).Pairwise fun a b => NoLater a.1 b.1 := hnext
      exact (List.pairwise_append.mp hpushed).2.2 entry hmem _ (List.mem_singleton.mpr rfl)
    · rintro ⟨hpush, hrest⟩
      exact ⟨exact_always_iff.mpr hordered, (ih (run_ordered hordered hpush)).mpr hrest⟩

/-- In every state of a run the queue hands out exactly what has not expired,
    whatever the time, if and only if each push of the run puts its item behind
    none that expires later. Of one queue at one time that holds exactly if no
    entry that has expired stands behind one that has not. -/
theorem exact_iff_pushed_in_order (hcapacity : 0 < capacity) (ops : List (Op T)) :
    (Op.Throughout (fun queue => ∀ now, queue.Exact now) (new capacity hcapacity) ops ↔
      Op.EachPush (fun queue now expires_at _ => queue.PushedInOrder now expires_at)
        (new capacity hcapacity) ops) ∧
    ∀ now, (Op.after (new capacity hcapacity) ops).Exact now ↔
      (Op.after (new capacity hcapacity) ops).buf.Pairwise fun a b =>
        expired now b = true → expired now a = true :=
  ⟨throughout_exact_iff .nil, fun _ => exact_iff⟩

theorem exact_iff_pushed_in_order_two :
    Op.Throughout (fun queue => ∀ now, queue.Exact now) (new 2 (by decide))
      [.push 1 5 'a', .push 2 0 'b', .drain 9] := by
  refine (exact_iff_pushed_in_order (by decide) _).1.mpr ⟨?_, ?_, ?_, trivial⟩
  · rintro now expires_at item ⟨⟩ entry hmem
    cases hmem
  · rintro now expires_at item ⟨⟩ entry hmem
    exact .inl rfl
  · rintro now expires_at item ⟨⟩

/-- An item that has expired is handed out from behind one that never does. -/
theorem expired_item_drained :
    ¬ ∀ (capacity : Nat) (hcapacity : 0 < capacity) (ops : List (Op Char)) (now : UInt64),
      (Op.after (new capacity hcapacity) ops).Exact now := by
  intro hclaim
  have hdrain := (hclaim 2 (by decide) [.push 1 0 'a', .push 1 2 'b'] 3).drain
  exact absurd hdrain (by decide)

/-! What a push gives up. -/

theorem discarded_eq {expires_at : UInt64} {item : T} (now : UInt64) :
    queue.discarded now expires_at item =
      if queue.capacity ≤ (queue.evict now).buf.length then (queue.live now).take 1 else [] := by
  have hevicted : (queue.buf.takeWhile (expired now)).filter (Live now ·) = [] := by
    refine List.filter_eq_nil_iff.mpr fun entry hmem hlive => ?_
    exact expired_eq_true_iff.mp (List.mem_takeWhile_imp hmem) (of_decide_eq_true hlive)
  have htaken : ((queue.evict now).buf.take 1).filter (Live now ·) = (queue.live now).take 1 := by
    rw [List.take_one, List.take_one, head?_evict]
    cases hhead : (queue.live now).head? with
    | none => rfl
    | some oldest =>
      have hlive := (List.mem_filter.mp (List.mem_of_mem_head? hhead)).2
      simpa using hlive
  rw [discarded, Op.removed_entries, List.filter_append]
  show (queue.buf.takeWhile (expired now)).filter (Live now ·) ++
    (if queue.capacity ≤ (queue.evict now).buf.length then (queue.evict now).buf.take 1 else []).filter
      (Live now ·) = _
  rw [hevicted, List.nil_append]
  split
  · exact htaken
  · rfl

theorem live_eq_buf_iff {now : UInt64} : queue.live now = queue.buf ↔ ∀ entry ∈ queue.buf, Live now entry := by
  simp [live, List.filter_eq_self]

/-- A push spares the live entries of a queue unless an expired one clogs it. -/
theorem sparesLive_iff {now expires_at : UInt64} {item : T} :
    queue.SparesLive now expires_at item ↔ queue.Unclogged now := by
  have hsublist : (queue.evict now).buf.Sublist queue.buf := List.dropWhile_sublist _
  unfold SparesLive
  rw [discarded_eq]
  by_cases hfull : queue.capacity ≤ (queue.evict now).buf.length
  · -- Nothing was evicted, so the oldest entry is live and is the one the push drops.
    have hlength := hsublist.length_le
    have hbounded := queue.bounded
    have hbuf : (queue.evict now).buf = queue.buf := hsublist.eq_of_length (by omega)
    have hsize : queue.buf.length = queue.capacity := by omega
    have holdest : ∀ oldest ∈ queue.buf.head?, Live now oldest := by
      intro oldest holdest
      rw [← hbuf, head?_evict] at holdest
      simpa using (List.mem_filter.mp (List.mem_of_mem_head? holdest)).2
    rw [if_pos hfull]
    constructor
    · rintro (hnone | ⟨_, hall, _⟩) _ _
      · have hempty : (queue.live now).head? = none := by
          rw [List.take_one] at hnone
          simpa using hnone
        rw [← head?_evict, hbuf, List.head?_eq_none_iff] at hempty
        simp [hempty]
      · exact hall
    · intro hunclogged
      have hall := hunclogged hsize holdest
      have hlive := live_eq_buf_iff.mpr hall
      exact .inr ⟨by rw [hlive, hsize], hall, rfl⟩
  · rw [if_neg hfull]
    refine ⟨fun _ hsize holdest => ?_, fun _ => .inl rfl⟩
    exfalso
    have hhead : queue.buf.head?.all (fun oldest => !expired now oldest) = true := by
      cases hhead : queue.buf.head? with
      | none => rfl
      | some oldest => simpa using expired_eq_false_iff.mpr (holdest oldest hhead)
    have hbuf : (queue.evict now).buf = queue.buf := by
      show queue.buf.dropWhile (expired now) = queue.buf
      cases hbuf : queue.buf with
      | nil => rfl
      | cons oldest rest =>
        rw [hbuf] at hhead
        have hoff : expired now oldest = false := by simpa using hhead
        rw [List.dropWhile_cons, hoff]
        rfl
    rw [hbuf] at hfull
    omega

/-- Every push of a run gives up a live entry only where live entries fill the
    queue, and then the oldest, if and only if each is made on a queue that has
    room, whose oldest entry has expired, or in which none has. -/
theorem pushes_spare_live_iff (hcapacity : 0 < capacity) (ops : List (Op T)) :
    Op.EachPush SparesLive (new capacity hcapacity) ops ↔
      Op.EachPush (fun queue now _ _ => queue.Unclogged now) (new capacity hcapacity) ops := by
  have hiff : (SparesLive : TtlQueue T → UInt64 → UInt64 → T → Prop) =
      fun queue now _ _ => queue.Unclogged now := by
    funext queue now expires_at item
    exact propext sparesLive_iff
  rw [hiff]

theorem pushes_spare_live_iff_full :
    Op.EachPush SparesLive (new 2 (by decide)) [.push 1 0 'a', .push 1 5 'b', .push 2 0 'c'] := by
  refine (pushes_spare_live_iff (by decide) _).mpr ⟨?_, ?_, ?_, trivial⟩
  · rintro now expires_at item ⟨⟩ _ _
    decide
  · rintro now expires_at item ⟨⟩ _ _
    decide
  · rintro now expires_at item ⟨⟩ _ _
    decide

/-- A live item is dropped while one that has expired keeps its place. -/
theorem live_item_dropped :
    ¬ ∀ (capacity : Nat) (hcapacity : 0 < capacity) (ops : List (Op Char)),
      Op.EachPush SparesLive (new capacity hcapacity) ops := by
  intro hclaim
  have hclogged := (pushes_spare_live_iff (by decide) _).mp
    (hclaim 2 (by decide) [.push 1 0 'a', .push 1 2 'b', .push 3 0 'c'])
  have hlive := hclogged.2.2.1 3 0 'c' rfl rfl (by decide) (2, 'b') (by decide)
  exact absurd hlive (by decide)

end

end TtlQueue

end ma_core.ttl_queue

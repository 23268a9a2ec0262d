import MaCore.Base.Result

namespace ma_core.ttl_queue

/-- A bounded queue of items with their expiry times. -/
structure TtlQueue (T : Type) where
  buf : List (UInt64 × T)
  capacity : Nat
  capacity_pos : 0 < capacity
  bounded : buf.length ≤ capacity

namespace TtlQueue

variable {T : Type}

/-- `TtlQueue::new`; what it asserts is the hypothesis. -/
def new (capacity : Nat) (hcapacity : 0 < capacity) : TtlQueue T where
  buf := []
  capacity
  capacity_pos := hcapacity
  bounded := Nat.zero_le _

def expired (now : UInt64) (entry : UInt64 × T) : Bool := entry.1 > 0 && entry.1 ≤ now

/-- The entries left after removing expired ones from the front. -/
def evicted (now : UInt64) (buf : List (UInt64 × T)) : List (UInt64 × T) :=
  buf.dropWhile (expired now)

theorem evicted_length_le (now : UInt64) (buf : List (UInt64 × T)) :
    (evicted now buf).length ≤ buf.length :=
  (List.dropWhile_sublist _).length_le

def evict (now : UInt64) (self : TtlQueue T) : TtlQueue T :=
  { self with
    buf := evicted now self.buf
    bounded := Nat.le_trans (evicted_length_le now self.buf) self.bounded }

/-- Without its oldest entry; an empty queue stays as it is. -/
def pop_front (self : TtlQueue T) : TtlQueue T :=
  { self with
    buf := self.buf.tail
    bounded := by
      have hlength := self.bounded
      rw [List.length_tail]
      omega }

theorem push_bounded (self : TtlQueue T) (entry : UInt64 × T) :
    ((if self.capacity ≤ self.buf.length then self.buf.tail else self.buf) ++ [entry]).length ≤
      self.capacity := by
  have hpos := self.capacity_pos
  have hlength := self.bounded
  rw [List.length_append, List.length_singleton]
  split
  · rw [List.length_tail]
    omega
  · omega

def push (now expires_at : UInt64) (item : T) (self : TtlQueue T) : TtlQueue T :=
  let evicted := self.evict now
  { evicted with
    buf := (if evicted.capacity ≤ evicted.buf.length then evicted.buf.tail else evicted.buf) ++
      [(expires_at, item)]
    bounded := push_bounded evicted _ }

def pop (now : UInt64) (self : TtlQueue T) : Option T × TtlQueue T :=
  let evicted := self.evict now
  (evicted.buf.head?.map Prod.snd, evicted.pop_front)

def peek (now : UInt64) (self : TtlQueue T) : Option T × TtlQueue T :=
  let evicted := self.evict now
  (evicted.buf.head?.map Prod.snd, evicted)

def drain (now : UInt64) (self : TtlQueue T) : List T × TtlQueue T :=
  let evicted := self.evict now
  (evicted.buf.map Prod.snd, { evicted with buf := [], bounded := Nat.zero_le _ })

def len (self : TtlQueue T) : Nat := self.buf.length

def is_empty (self : TtlQueue T) : Bool := self.buf.isEmpty

theorem mem_evict {now : UInt64} {self : TtlQueue T} {entry : UInt64 × T}
    (hmem : entry ∈ (self.evict now).buf) : entry ∈ self.buf :=
  (List.dropWhile_sublist _).mem hmem

/-- A push stores nothing but the pushed item. -/
theorem mem_push {now expires_at : UInt64} {item : T} {self : TtlQueue T} {entry : UInt64 × T}
    (hmem : entry ∈ (self.push now expires_at item).buf) :
    entry = (expires_at, item) ∨ entry ∈ self.buf := by
  rcases List.mem_append.mp hmem with hold | hnew
  · right
    split at hold
    · exact mem_evict (List.mem_of_mem_tail hold)
    · exact mem_evict hold
  · exact .inl (List.mem_singleton.mp hnew)

/-- What `pop` hands out was stored, and it stores nothing. -/
theorem mem_pop {now : UInt64} {self : TtlQueue T} {item : T}
    (hpop : (self.pop now).1 = some item) : ∃ expires_at, (expires_at, item) ∈ self.buf := by
  simp only [pop, Option.map_eq_some_iff] at hpop
  obtain ⟨⟨expires_at, _⟩, hhead, rfl⟩ := hpop
  exact ⟨expires_at, mem_evict (List.mem_of_mem_head? hhead)⟩

theorem mem_of_mem_pop {now : UInt64} {self : TtlQueue T} {entry : UInt64 × T}
    (hmem : entry ∈ (self.pop now).2.buf) : entry ∈ self.buf :=
  mem_evict (List.mem_of_mem_tail hmem)

theorem mem_drain {now : UInt64} {self : TtlQueue T} {item : T}
    (hdrain : item ∈ (self.drain now).1) : ∃ expires_at, (expires_at, item) ∈ self.buf := by
  obtain ⟨⟨expires_at, _⟩, hmem, rfl⟩ := List.mem_map.mp hdrain
  exact ⟨expires_at, mem_evict hmem⟩

/-- What is pushed into an empty queue is popped if it has not expired. -/
theorem pop_push {pushed popped expires_at : UInt64} {item : T} {self : TtlQueue T}
    (hempty : self.buf = []) :
    ((self.push pushed expires_at item).pop popped).1 =
      if expired popped (expires_at, item) then none else some item := by
  have hcapacity : ¬ self.capacity ≤ 0 := Nat.not_le.mpr self.capacity_pos
  have hbuf : (self.push pushed expires_at item).buf = [(expires_at, item)] := by
    simp [push, evict, evicted, hempty, hcapacity]
  simp only [pop, evict, evicted, hbuf, List.dropWhile_cons, List.dropWhile_nil]
  split <;> rfl

theorem expired_eq_false_iff {now : UInt64} {entry : UInt64 × T} :
    expired now entry = false ↔ entry.1 = 0 ∨ now < entry.1 := by
  have hzero : entry.1 = 0 ↔ entry.1.toNat = 0 := UInt64.toNat_inj.symm
  simp only [expired, Bool.and_eq_false_iff, decide_eq_false_iff_not, gt_iff_lt,
    UInt64.lt_iff_toNat_lt, UInt64.le_iff_toNat_le, UInt64.toNat_zero, hzero]
  omega

end TtlQueue

end ma_core.ttl_queue

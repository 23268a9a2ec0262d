import MaCore.Base.Fifo
import MaCore.TtlQueue
import Mathlib.Data.List.DropRight
import Mathlib.Data.List.TakeWhile

namespace ma_core.ttl_queue

abbrev Entry (T : Type) := UInt64 × T

/-- A call that changes a queue. -/
inductive Op (T : Type) where
  | push (now expires_at : UInt64) (item : T)
  | pop (now : UInt64)
  | peek (now : UInt64)
  | drain (now : UInt64)

/-- How an entry leaves a queue. -/
inductive Fate where
  | handed
  | evicted
  | dropped
deriving DecidableEq, Repr

/-- An entry that left a queue, in which call, and what the queue held after
    the eviction the call starts with. -/
structure Removal (T : Type) where
  op : Op T
  found : List (Entry T)
  fate : Fate
  entry : Entry T

namespace Op

variable {T : Type}

def now : Op T → UInt64
  | .push now _ _ => now
  | .pop now => now
  | .peek now => now
  | .drain now => now

/-- The items a call returns, and the queue after it. -/
def run : Op T → TtlQueue T → List T × TtlQueue T
  | .push now expires_at item, queue => ([], queue.push now expires_at item)
  | .pop now, queue => ((queue.pop now).1.toList, (queue.pop now).2)
  | .peek now, queue => ((queue.peek now).1.toList, (queue.peek now).2)
  | .drain now, queue => queue.drain now

/-- A peek returns an item that stays where it is. -/
def hands_out : Op T → Bool
  | .peek _ => false
  | _ => true

def pushed : Op T → List (Entry T)
  | .push _ expires_at item => [(expires_at, item)]
  | _ => []

/-- What a call itself takes off the front once it has evicted. -/
def taken : Op T → TtlQueue T → List (Entry T)
  | .push .., queue => if queue.capacity ≤ queue.buf.length then queue.buf.take 1 else []
  | .pop _, queue => queue.buf.take 1
  | .peek _, _ => []
  | .drain _, queue => queue.buf

/-- How it leaves: a push loses it, the others hand it out. -/
def fate : Op T → Fate
  | .push .. => .dropped
  | _ => .handed

def removed (op : Op T) (queue : TtlQueue T) : List (Removal T) :=
  let found := queue.evict op.now
  let evicted := queue.buf.takeWhile (TtlQueue.expired op.now)
  evicted.map ({ op, found := found.buf, fate := .evicted, entry := · }) ++
    (op.taken found).map ({ op, found := found.buf, fate := op.fate, entry := · })

/-- What these calls return, one after another. -/
def results : List (Op T) → TtlQueue T → List (List T)
  | [], _ => []
  | op :: ops, queue => (op.run queue).1 :: results ops (op.run queue).2

/-- The queue after these calls. -/
def after (queue : TtlQueue T) (ops : List (Op T)) : TtlQueue T :=
  ops.foldl (fun queue op => (op.run queue).2) queue

/-- What holds of the queue before, between and after these calls. -/
def Throughout (P : TtlQueue T → Prop) : TtlQueue T → List (Op T) → Prop
  | queue, [] => P queue
  | queue, op :: ops => P queue ∧ Throughout P (op.run queue).2 ops

/-- What holds of each push among these calls and the queue it is made on. -/
def EachPush (P : TtlQueue T → UInt64 → UInt64 → T → Prop) : TtlQueue T → List (Op T) → Prop
  | _, [] => True
  | queue, op :: ops =>
    (∀ now expires_at item, op = .push now expires_at item → P queue now expires_at item) ∧
      EachPush P (op.run queue).2 ops

end Op

/-- What has to hold of an entry to leave a queue of this capacity as it did. -/
def Removal.Lawful {T : Type} (capacity : Nat) (removal : Removal T) : Prop :=
  match removal.fate with
  | .handed => (∃ now, removal.op = .pop now) ∨ ∃ now, removal.op = .drain now
  | .evicted => 0 < removal.entry.1 ∧ removal.entry.1 ≤ removal.op.now
  | .dropped => (∃ now expires_at item, removal.op = .push now expires_at item) ∧
    removal.found.length = capacity ∧ removal.found.head? = some removal.entry

namespace Op

variable {T : Type} {op : Op T} {queue : TtlQueue T}

@[simp] theorem run_capacity (op : Op T) (queue : TtlQueue T) :
    (op.run queue).2.capacity = queue.capacity := by
  cases op <;> rfl

theorem removed_entries (op : Op T) (queue : TtlQueue T) :
    (op.removed queue).map (·.entry) =
      queue.buf.takeWhile (TtlQueue.expired op.now) ++ op.taken (queue.evict op.now) := by
  simp [removed, Function.comp_def]

/-- Once a call has evicted, it takes entries off the front and puts the one it
    pushes at the back. -/
theorem taken_moves (op : Op T) (queue : TtlQueue T) :
    fifo.Moves (queue.evict op.now).buf op.pushed (op.taken (queue.evict op.now)) (op.run queue).2.buf := by
  have hhead (buf : List (Entry T)) : buf = buf.take 1 ++ buf.tail := by
    rw [← List.drop_one, List.take_append_drop]
  cases op with
  | push now expires_at item =>
    show (queue.evict now).buf ++ [(expires_at, item)] =
      (if (queue.evict now).capacity ≤ (queue.evict now).buf.length then (queue.evict now).buf.take 1
        else []) ++
      ((if (queue.evict now).capacity ≤ (queue.evict now).buf.length then (queue.evict now).buf.tail
        else (queue.evict now).buf) ++ [(expires_at, item)])
    split
    · rw [← List.append_assoc, ← hhead]
    · rfl
  | pop now =>
    show (queue.evict now).buf ++ [] = (queue.evict now).buf.take 1 ++ (queue.evict now).buf.tail
    rw [List.append_nil, ← hhead]
  | peek now => exact fifo.Moves.none _
  | drain now => rfl

/-- Every call moves entries in at the back and out at the front only. -/
theorem removed_moves (op : Op T) (queue : TtlQueue T) :
    fifo.Moves queue.buf op.pushed ((op.removed queue).map (·.entry)) (op.run queue).2.buf := by
  have hevict : fifo.Moves queue.buf [] (queue.buf.takeWhile (TtlQueue.expired op.now))
      (queue.evict op.now).buf := by
    rw [fifo.Moves, List.append_nil]
    exact (List.takeWhile_append_dropWhile).symm
  rw [removed_entries]
  exact hevict.trans (op.taken_moves queue)

theorem removed_lawful (op : Op T) (queue : TtlQueue T) :
    ∀ removal ∈ op.removed queue, removal.Lawful queue.capacity := by
  intro removal hmem
  obtain hevicted | htaken := List.mem_append.mp hmem
  · obtain ⟨entry, hentry, rfl⟩ := List.mem_map.mp hevicted
    have hexpired := List.mem_takeWhile_imp hentry
    simpa [Removal.Lawful, TtlQueue.expired] using hexpired
  · obtain ⟨entry, hentry, rfl⟩ := List.mem_map.mp htaken
    cases op with
    | push now expires_at item =>
      simp only [taken] at hentry
      split at hentry
      · rename_i hfull
        rw [List.take_one, Option.mem_toList] at hentry
        exact ⟨⟨now, expires_at, item, rfl⟩, Nat.le_antisymm (queue.evict now).bounded hfull, hentry⟩
      · cases hentry
    | pop now => exact .inl ⟨now, rfl⟩
    | peek now => cases hentry
    | drain now => exact .inr ⟨now, rfl⟩

/-- What is handed out is what left the queue that way. -/
theorem removed_handed (op : Op T) (queue : TtlQueue T) :
    ((op.removed queue).filter (·.fate = .handed)).map (·.entry.2) =
      if op.hands_out then (op.run queue).1 else [] := by
  have hgone {gone : Fate} (hgone : gone ≠ .handed) (found entries : List (Entry T)) :
      (entries.map fun entry => ({ op, found, fate := gone, entry } : Removal T)).filter
        (·.fate = .handed) = [] := by
    rw [List.filter_map]
    simp [Function.comp_def, hgone]
  have hkept (found entries : List (Entry T)) :
      (entries.map fun entry => ({ op, found, fate := .handed, entry } : Removal T)).filter
        (·.fate = .handed) = entries.map fun entry => { op, found, fate := .handed, entry } := by
    rw [List.filter_map]
    simp [Function.comp_def]
  have hevicted : Fate.evicted ≠ .handed := by decide
  have hdropped : Fate.dropped ≠ .handed := by decide
  simp only [removed, List.filter_append, hgone hevicted, List.nil_append]
  cases op with
  | push now expires_at item => simp only [fate, hgone hdropped, List.map_nil, hands_out, run, if_true]
  | pop now =>
    simp only [fate, hkept, List.map_map, Function.comp_def, hands_out, run, TtlQueue.pop, taken, Op.now,
      List.take_one, if_true]
    cases (queue.evict now).buf.head? <;> rfl
  | peek now => rfl
  | drain now =>
    simp only [fate, hkept, List.map_map, Function.comp_def, hands_out, run, TtlQueue.drain, taken,
      Op.now, if_true]

theorem evict_evict (now : UInt64) (queue : TtlQueue T) :
    (queue.evict now).evict now = queue.evict now := by
  simp only [TtlQueue.evict, TtlQueue.evicted, List.dropWhile_idempotent]

/-- Every call evicts first, so one at the time of a peek does as it would without the peek. -/
theorem run_peek (op : Op T) (queue : TtlQueue T) : op.run (queue.peek op.now).2 = op.run queue := by
  cases op <;>
    simp only [run, Op.now, TtlQueue.push, TtlQueue.pop, TtlQueue.peek, TtlQueue.drain, evict_evict]

theorem results_peek {now : UInt64} {ops : List (Op T)} (hnow : ∀ op ∈ ops, op.now = now)
    (queue : TtlQueue T) : results ops (queue.peek now).2 = results ops queue := by
  cases ops with
  | nil => rfl
  | cons op ops =>
    obtain rfl := hnow op List.mem_cons_self
    rw [results, results, run_peek]

end Op

end ma_core.ttl_queue

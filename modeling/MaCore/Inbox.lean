import MaCore.Base.Transition
import MaCore.TtlQueue.Ops

open transition
open ma_core.ttl_queue

namespace ma_core.inbox

/-- The queues behind the `Arc<Mutex<_>>` of every inbox. -/
abbrev Queues (T : Type) := List (TtlQueue T)

/-- A handle: which queue it shares with its clones. -/
structure Inbox where
  queue : Nat
deriving DecidableEq, Repr

namespace Inbox

variable {T α : Type}

def new (capacity : Nat) (hcapacity : 0 < capacity) (queues : Queues T) : Inbox × Queues T :=
  (⟨queues.length⟩, queues ++ [TtlQueue.new capacity hcapacity])

def clone (self : Inbox) : Inbox := ⟨self.queue⟩

/-- A call holds the lock from start to end and takes a poisoned one all the
    same, so it is one step on the queue. -/
def locked (self : Inbox) (queues : Queues T) (call : TtlQueue T → α × TtlQueue T) :
    Option α × Queues T :=
  (queues[self.queue]?.map fun queue => (call queue).1,
    queues.modify self.queue fun queue => (call queue).2)

def push (self : Inbox) (now expires_at : UInt64) (item : T) (queues : Queues T) : Queues T :=
  (self.locked queues fun queue => ((), queue.push now expires_at item)).2

def pop (self : Inbox) (now : UInt64) (queues : Queues T) : Option T × Queues T :=
  let (item, queues) := self.locked queues (·.pop now)
  (item.join, queues)

def peek (self : Inbox) (now : UInt64) (queues : Queues T) : Option T × Queues T :=
  let (item, queues) := self.locked queues (·.peek now)
  (item.join, queues)

def drain (self : Inbox) (now : UInt64) (queues : Queues T) : List T × Queues T :=
  let (items, queues) := self.locked queues (·.drain now)
  (items.getD [], queues)

def len (self : Inbox) (queues : Queues T) : Nat := queues[self.queue]?.elim 0 TtlQueue.len

def is_empty (self : Inbox) (queues : Queues T) : Bool := queues[self.queue]?.all TtlQueue.is_empty

/-- The call through this handle. -/
def call (self : Inbox) (queues : Queues T) : Op T → List T × Queues T
  | .push now expires_at item => ([], self.push now expires_at item queues)
  | .pop now => ((self.pop now queues).1.toList, (self.pop now queues).2)
  | .peek now => ((self.peek now queues).1.toList, (self.peek now queues).2)
  | .drain now => self.drain now queues

/-- A call through a handle is the call on the queue it refers to. -/
theorem call_eq {self : Inbox} {queues : Queues T} {queue : TtlQueue T} (op : Op T)
    (hqueue : queues[self.queue]? = some queue) :
    self.call queues op = ((op.run queue).1, queues.set self.queue (op.run queue).2) := by
  have hmodify (f : TtlQueue T → TtlQueue T) : queues.modify self.queue f = queues.set self.queue (f queue) := by
    have : Inhabited (TtlQueue T) := ⟨queue⟩
    rw [List.modify_eq_set, hqueue, Option.getD_some]
  cases op <;>
    simp [call, push, pop, peek, drain, locked, Op.run, hqueue, hmodify]

end Inbox

/-- An inbox in use: its handles, and what has happened to what was pushed. -/
structure System (T : Type) where
  queues : Queues T
  handles : List Inbox
  pushed : List (Entry T)
  removed : List (Removal T)
  handed : List T

inductive Event (T : Type) where
  | clone (handle : Inbox)
  | call (handle : Inbox) (op : Op T)

namespace System

variable {T : Type}

/-- A new inbox and its first handle. -/
def start (capacity : Nat) (hcapacity : 0 < capacity) (queues : Queues T) : System T where
  queues := (Inbox.new capacity hcapacity queues).2
  handles := [(Inbox.new capacity hcapacity queues).1]
  pushed := []
  removed := []
  handed := []

/-- After a call through this handle, which found this queue. -/
def called (s : System T) (handle : Inbox) (op : Op T) (queue : TtlQueue T) : System T where
  queues := (handle.call s.queues op).2
  handles := s.handles
  pushed := s.pushed ++ op.pushed
  removed := s.removed ++ op.removed queue
  handed := s.handed ++ if op.hands_out then (handle.call s.queues op).1 else []

/-- Any holder of a handle clones it or calls through it. -/
inductive Step : System T → Event T → System T → Prop
  | clone (s : System T) (handle : Inbox) (hheld : handle ∈ s.handles) :
    Step s (.clone handle) { s with handles := s.handles ++ [handle.clone] }
  | call (s : System T) (handle : Inbox) (op : Op T) (queue : TtlQueue T) (hheld : handle ∈ s.handles)
    (hqueue : s.queues[handle.queue]? = some queue) :
    Step s (.call handle op) (s.called handle op queue)

/-- What a run keeps true of an inbox of this capacity and the queue behind it. -/
structure Inv (capacity : Nat) (s : System T) (queue : TtlQueue T) : Prop where
  shared : ∀ handle ∈ s.handles, s.queues[handle.queue]? = some queue
  together : ∀ handle ∈ s.handles, ∀ other ∈ s.handles, handle = other
  size : queue.capacity = capacity
  moves : fifo.Moves [] s.pushed (s.removed.map (·.entry)) queue.buf
  lawful : ∀ removal ∈ s.removed, removal.Lawful capacity
  handed : s.handed = (s.removed.filter (·.fate = .handed)).map (·.entry.2)

theorem start_inv (capacity : Nat) (hcapacity : 0 < capacity) (queues : Queues T) :
    Inv capacity (start capacity hcapacity queues) (TtlQueue.new capacity hcapacity) where
  shared handle hmem := by
    rw [List.mem_singleton.mp hmem]
    simp [start, Inbox.new]
  together handle hmem other hother := (List.mem_singleton.mp hmem).trans (List.mem_singleton.mp hother).symm
  size := rfl
  moves := fifo.Moves.none []
  lawful _ hmem := by cases hmem
  handed := rfl

variable {capacity : Nat} {s t : System T} {event : Event T} {queue : TtlQueue T}

/-- One step: a clone changes nothing, a call moves its entries and keeps count of them. -/
theorem step_inv (hinv : Inv capacity s queue) (hstep : Step s event t) : ∃ next, Inv capacity t next := by
  cases hstep with
  | clone handle hheld =>
    refine ⟨queue, { hinv with shared := ?_, together := ?_ }⟩
    · intro other hmem
      obtain hmem | hmem := List.mem_append.mp hmem
      · exact hinv.shared other hmem
      · rw [List.mem_singleton.mp hmem]
        exact hinv.shared handle hheld
    · have hsame (other : Inbox) (hmem : other ∈ s.handles ++ [handle.clone]) : other = handle := by
        obtain hmem | hmem := List.mem_append.mp hmem
        · exact hinv.together other hmem handle hheld
        · exact List.mem_singleton.mp hmem
      intro left hleft right hright
      rw [hsame left hleft, hsame right hright]
  | call handle op found hheld hfound =>
    obtain rfl : found = queue := Option.some.inj (hfound.symm.trans (hinv.shared handle hheld))
    have hcalled : s.called handle op found = {
        queues := s.queues.set handle.queue (op.run found).2
        handles := s.handles
        pushed := s.pushed ++ op.pushed
        removed := s.removed ++ op.removed found
        handed := s.handed ++ if op.hands_out then (op.run found).1 else [] } := by
      rw [called, Inbox.call_eq op hfound]
    rw [hcalled]
    refine ⟨(op.run found).2, ?_, hinv.together, ?_, ?_, ?_, ?_⟩
    · intro other hmem
      rw [hinv.together other hmem handle hheld]
      exact List.getElem?_set_self (List.getElem?_eq_some_iff.mp hfound).1
    · rw [Op.run_capacity, hinv.size]
    · rw [List.map_append]
      exact hinv.moves.trans (op.removed_moves found)
    · intro removal hmem
      obtain hmem | hmem := List.mem_append.mp hmem
      · exact hinv.lawful removal hmem
      · rw [← hinv.size]
        exact op.removed_lawful found removal hmem
    · rw [List.filter_append, List.map_append, ← hinv.handed, op.removed_handed]

theorem reachable_inv {hcapacity : 0 < capacity} {queues : Queues T}
    (hreach : Reachable Step (start capacity hcapacity queues) s) : ∃ queue, Inv capacity s queue := by
  refine hreach.invariant (I := fun s => ∃ queue, Inv capacity s queue) ⟨_, start_inv _ _ _⟩ ?_
  rintro s event t ⟨queue, hinv⟩ hstep
  exact step_inv hinv hstep

/-- What is true of an inbox at every moment: what was pushed is, in order, what
    has left, each item in one lawful way, and then what is stored. -/
structure Conserved (capacity : Nat) (s : System T) (queue : TtlQueue T) : Prop where
  once : s.pushed = s.removed.map (·.entry) ++ queue.buf
  lawful : ∀ removal ∈ s.removed, removal.Lawful capacity
  handed : s.handed = (s.removed.filter (·.fate = .handed)).map (·.entry.2)
  order : s.handed.Sublist (s.pushed.map Prod.snd)
  bounded : queue.buf.length ≤ capacity
  peek : ∀ now ops, (∀ op ∈ ops, op.now = now) →
    Op.results ops (queue.peek now).2 = Op.results ops queue

theorem Inv.conserved (hinv : Inv capacity s queue) : Conserved capacity s queue where
  once := hinv.moves.of_empty
  lawful := hinv.lawful
  handed := hinv.handed
  order := by
    have hremoved : (s.removed.map (·.entry.2)).Sublist (s.pushed.map Prod.snd) := by
      simpa [Function.comp_def] using hinv.moves.taken_sublist.map Prod.snd
    rw [hinv.handed]
    exact (List.filter_sublist.map _).trans hremoved
  bounded := by
    rw [← hinv.size]
    exact queue.bounded
  peek _ _ hnow := Op.results_peek hnow queue

/-- Whoever clones its handles and calls through them, in whatever order, at
    whatever times, an inbox loses no item, hands none out twice and keeps them
    in the order they were pushed. -/
theorem inbox_conserves (hcapacity : 0 < capacity) (queues : Queues T)
    (hreach : Reachable Step (start capacity hcapacity queues) s) :
    ∃ queue, (∀ handle ∈ s.handles, s.queues[handle.queue]? = some queue) ∧ Conserved capacity s queue := by
  obtain ⟨queue, hinv⟩ := reachable_inv hreach
  exact ⟨queue, hinv.shared, hinv.conserved⟩

/-- A second item pushed into an inbox for one is the one its clone pops. -/
theorem inbox_conserves_clone : ∃ (s : System Char) (queue : TtlQueue Char),
    s.pushed = [(0, 'a'), (0, 'b')] ∧ s.handed = ['b'] ∧ Conserved 1 s queue := by
  let inbox : Inbox := ⟨0⟩
  let queue : TtlQueue Char := TtlQueue.new 1 (by decide)
  let cloned : System Char := { start 1 (by decide) [] with handles := [inbox, inbox.clone] }
  let first := cloned.called inbox (.push 1 0 'a') queue
  let second := first.called inbox (.push 1 0 'b') (queue.push 1 0 'a')
  let third := second.called inbox.clone (.pop 2) ((queue.push 1 0 'a').push 1 0 'b')
  have hclone : Step (start 1 (by decide) []) (.clone inbox) cloned :=
    .clone _ inbox (List.mem_singleton.mpr rfl)
  have hfirst : Step cloned (.call inbox (.push 1 0 'a')) first :=
    .call cloned inbox _ queue List.mem_cons_self rfl
  have hsecond : Step first (.call inbox (.push 1 0 'b')) second :=
    .call first inbox _ _ List.mem_cons_self rfl
  have hthird : Step second (.call inbox.clone (.pop 2)) third :=
    .call second inbox.clone _ _ List.mem_cons_self rfl
  have hrun := (((Run.single hclone).snoc hfirst).snoc hsecond).snoc hthird
  obtain ⟨queue, _, hconserved⟩ := inbox_conserves (by decide) [] ⟨_, hrun⟩
  exact ⟨third, queue, rfl, rfl, hconserved⟩

end System

end ma_core.inbox

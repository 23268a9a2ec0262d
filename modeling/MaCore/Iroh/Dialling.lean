import MaCore.Iroh.Node

open rust
open ma_core.error ma_core.key transition

namespace ma_core.iroh

namespace SingleFlight

/-- What `get_or_connect` returns. -/
abbrev Outcome := Except (Failure Error) Connection

/-- Tasks of `get_or_connect` with one key. A task that was dropped is none any more. -/
structure Pool where
  world : Node
  established : List Connection
  tasks : List (Option (Call Outcome))

inductive Event where
  | start (addr : EndpointAddr)
  | issue (i : Nat) (c : Command) (r : c.Reply)
  | close (connection : Connection)
  | drop (i : Nat)
  | evict
  | other

/-- The connection a reply establishes. -/
def established_by : (c : Command) → c.Reply → List Connection
  | .connect _ _, .ok connection => [connection]
  | _, _ => []

/-- The commands that wait, at which a task can be dropped. -/
def Awaits : Command → Prop
  | .connect_lock _ | .connect .. => True
  | _ => False

/-- A task that is dropped leaves its lock. -/
def leave (w : Node) (cache_key : String × String) (i : Nat) : Node :=
  if w.connect_locks.get cache_key = some i then
    { w with connect_locks := w.connect_locks.remove cache_key }
  else w

/-- What else happens at the endpoint: it makes no entry of the key, loses none that is open, and leaves the lock
    alone. -/
structure Apart (cache_key : String × String) (w w' : Node) : Prop where
  entry : ∀ cached, w'.connection_cache.get cache_key = some cached → w.connection_cache.get cache_key = some cached
  keeps : ∀ cached, w.connection_cache.get cache_key = some cached → cached ∉ w.closed →
    w'.connection_cache.get cache_key = some cached
  locked : w'.connect_locks.get cache_key = w.connect_locks.get cache_key
  connections : ∀ connection ∈ w.connections, connection ∈ w'.connections
  closed : ∀ connection ∈ w.closed, connection ∈ w'.closed

inductive Step (endpoint_id protocol : String) : Pool → Event → Pool → Prop
  | start (s : Pool) (addr : EndpointAddr) : Step endpoint_id protocol s (.start addr)
      { s with tasks := s.tasks ++ [some (get_or_connect endpoint_id addr protocol).run] }
  | issue (s : Pool) (i : Nat) (c : Command) (k : c.Reply → Call Outcome) (r : c.Reply) (world : Node)
    (htask : s.tasks[i]? = some (some (.call c k))) (hreply : Node.Replies i s.world c r world) :
    Step endpoint_id protocol s (.issue i c r)
      ⟨world, established_by c r ++ s.established, s.tasks.set i (some (k r))⟩
  | close (s : Pool) (connection : Connection) (hconnection : connection ∈ s.world.connections) :
    Step endpoint_id protocol s (.close connection)
      { s with world := { s.world with closed := connection :: s.world.closed } }
  | drop (s : Pool) (i : Nat) (c : Command) (k : c.Reply → Call Outcome)
    (htask : s.tasks[i]? = some (some (.call c k))) (hawaits : Awaits c) :
    Step endpoint_id protocol s (.drop i)
      { s with world := leave s.world (endpoint_id, protocol) i, tasks := s.tasks.set i none }
  -- another function that finds the connection closed evicts it, without the lock
  | evict (s : Pool) : Step endpoint_id protocol s .evict
      { s with world := s.world.evict_if_closed (endpoint_id, protocol) }
  | other (s : Pool) (world : Node) (hother : Apart (endpoint_id, protocol) s.world world) :
    Step endpoint_id protocol s .other { s with world }

/-! What is left of a task, by what it does next. -/

section
variable (cache_key : String × String)

def unlocking (result : Outcome) : Call Outcome :=
  .call (.connect_unlock cache_key) fun _ => .ret result

def spawning (connection : Connection) : Call Outcome :=
  .call (.spawn_outbound_accept_loop connection cache_key.2) fun _ => unlocking cache_key (.ok connection)

def inserting (connection : Connection) : Call Outcome :=
  .call (.insert cache_key connection) fun _ => spawning cache_key connection

def connecting (addr : EndpointAddr) : Call Outcome :=
  .call (.connect addr cache_key.2) fun result =>
    match result with
    | .ok connection => inserting cache_key connection
    | .error e => unlocking cache_key (Err (.Transport ("connect failed: " ++ e)))

def reevicting (addr : EndpointAddr) : Call Outcome :=
  .call (.evict_if_closed cache_key) fun _ => connecting cache_key addr

def rechecking (addr : EndpointAddr) (conn : Connection) : Call Outcome :=
  .call (.close_reason conn) fun closed =>
    match closed with
    | true => reevicting cache_key addr
    | false => unlocking cache_key (.ok conn)

def relooking (addr : EndpointAddr) : Call Outcome :=
  .call (.get cache_key) fun cached =>
    match cached with
    | none => connecting cache_key addr
    | some conn => rechecking cache_key addr conn

def locking (addr : EndpointAddr) : Call Outcome :=
  .call (.connect_lock cache_key) fun _ => relooking cache_key addr

def evicting (addr : EndpointAddr) : Call Outcome :=
  .call (.evict_if_closed cache_key) fun _ => locking cache_key addr

def checking (addr : EndpointAddr) (conn : Connection) : Call Outcome :=
  .call (.close_reason conn) fun closed =>
    match closed with
    | true => evicting cache_key addr
    | false => .ret (.ok conn)

def looking (addr : EndpointAddr) : Call Outcome :=
  .call (.get cache_key) fun cached =>
    match cached with
    | none => locking cache_key addr
    | some conn => checking cache_key addr conn

end

/-- What is done under the lock, -/
theorem locking_eq (endpoint_id protocol : String) (addr : EndpointAddr) :
    (with_connect_guard (endpoint_id, protocol) (do
      match ← cached_connection (endpoint_id, protocol) with
      | some conn => return conn
      | none =>
        let connection ← transport_err "connect failed: " (connect addr protocol)
        cache_dialled (endpoint_id, protocol) protocol connection
        return connection)).run = locking (endpoint_id, protocol) addr := by
  refine congrArg (Prog.call _) (funext fun _ => congrArg (Prog.call _) (funext fun cached => ?_))
  cases cached with
  | none =>
    refine congrArg (Prog.call _) (funext fun result => ?_)
    cases result with
    | ok connection => rfl
    | error e => rfl
  | some conn =>
    refine congrArg (Prog.call _) (funext fun closed => ?_)
    cases closed with
    | true =>
      refine congrArg (Prog.call _) (funext fun _ => congrArg (Prog.call _) (funext fun result => ?_))
      cases result with
      | ok connection => rfl
      | error e => rfl
    | false => rfl

/-- and what before. -/
theorem get_or_connect_run (endpoint_id protocol : String) (addr : EndpointAddr) :
    (get_or_connect endpoint_id addr protocol).run = looking (endpoint_id, protocol) addr := by
  refine congrArg (Prog.call _) (funext fun cached => ?_)
  cases cached with
  | none => exact locking_eq endpoint_id protocol addr
  | some conn =>
    refine congrArg (Prog.call _) (funext fun closed => ?_)
    cases closed with
    | true => exact congrArg (Prog.call _) (funext fun _ => locking_eq endpoint_id protocol addr)
    | false => rfl

/-- Where a task is. -/
inductive Point where
  | looking (addr : EndpointAddr)
  | checking (addr : EndpointAddr) (conn : Connection)
  | evicting (addr : EndpointAddr)
  | locking (addr : EndpointAddr)
  | relooking (addr : EndpointAddr)
  | rechecking (addr : EndpointAddr) (conn : Connection)
  | reevicting (addr : EndpointAddr)
  | connecting (addr : EndpointAddr)
  | inserting (connection : Connection)
  | spawning (connection : Connection)
  | unlocking (result : Outcome)
  | returned (result : Outcome)

namespace Point

def rest (cache_key : String × String) : Point → Call Outcome
  | looking addr => SingleFlight.looking cache_key addr
  | checking addr conn => SingleFlight.checking cache_key addr conn
  | evicting addr => SingleFlight.evicting cache_key addr
  | locking addr => SingleFlight.locking cache_key addr
  | relooking addr => SingleFlight.relooking cache_key addr
  | rechecking addr conn => SingleFlight.rechecking cache_key addr conn
  | reevicting addr => SingleFlight.reevicting cache_key addr
  | connecting addr => SingleFlight.connecting cache_key addr
  | inserting connection => SingleFlight.inserting cache_key connection
  | spawning connection => SingleFlight.spawning cache_key connection
  | unlocking result => SingleFlight.unlocking cache_key result
  | returned result => .ret result

/-- The points at which a task has the lock. -/
def Guarded : Point → Prop
  | looking _ | checking .. | evicting _ | locking _ | returned _ => False
  | relooking _ | rechecking .. | reevicting _ | connecting _ | inserting _ | spawning _ | unlocking _ => True

/-- What a task with the lock knows of the entry: nobody else makes one. -/
def Knows (cache_key : String × String) (w : Node) : Point → Prop
  | rechecking _ conn => ∀ cached, w.connection_cache.get cache_key = some cached → cached = conn
  | reevicting _ | connecting _ | inserting _ =>
    ∀ cached, w.connection_cache.get cache_key = some cached → cached ∈ w.closed
  | _ => True

end Point

/-- The next point of the task at an index, by the reply to its command. -/
inductive Next (cache_key : String × String) (i : Nat) (w : Node) :
    Point → (c : Command) → c.Reply → Point → Node → Prop
  | look_none {addr : EndpointAddr} (hcached : w.connection_cache.get cache_key = none) :
    Next cache_key i w (.looking addr) (.get cache_key) none (.locking addr) w
  | look_some {addr : EndpointAddr} {conn : Connection} (hcached : w.connection_cache.get cache_key = some conn) :
    Next cache_key i w (.looking addr) (.get cache_key) (some conn) (.checking addr conn) w
  | check_closed {addr : EndpointAddr} {conn : Connection} (hclosed : conn ∈ w.closed) :
    Next cache_key i w (.checking addr conn) (.close_reason conn) true (.evicting addr) w
  | check_open {addr : EndpointAddr} {conn : Connection} (hopen : conn ∉ w.closed) :
    Next cache_key i w (.checking addr conn) (.close_reason conn) false (.returned (.ok conn)) w
  | evict {addr : EndpointAddr} : Next cache_key i w (.evicting addr) (.evict_if_closed cache_key) () (.locking addr)
      (w.evict_if_closed cache_key)
  | lock {addr : EndpointAddr} (hfree : w.connect_locks.get cache_key = none) :
    Next cache_key i w (.locking addr) (.connect_lock cache_key) () (.relooking addr)
      { w with connect_locks := w.connect_locks.insert cache_key i }
  | relook_none {addr : EndpointAddr} (hcached : w.connection_cache.get cache_key = none) :
    Next cache_key i w (.relooking addr) (.get cache_key) none (.connecting addr) w
  | relook_some {addr : EndpointAddr} {conn : Connection} (hcached : w.connection_cache.get cache_key = some conn) :
    Next cache_key i w (.relooking addr) (.get cache_key) (some conn) (.rechecking addr conn) w
  | recheck_closed {addr : EndpointAddr} {conn : Connection} (hclosed : conn ∈ w.closed) :
    Next cache_key i w (.rechecking addr conn) (.close_reason conn) true (.reevicting addr) w
  | recheck_open {addr : EndpointAddr} {conn : Connection} (hopen : conn ∉ w.closed) :
    Next cache_key i w (.rechecking addr conn) (.close_reason conn) false (.unlocking (.ok conn)) w
  | reevict {addr : EndpointAddr} : Next cache_key i w (.reevicting addr) (.evict_if_closed cache_key) ()
      (.connecting addr) (w.evict_if_closed cache_key)
  | connected {addr : EndpointAddr} {connection : Connection} (hnew : connection ∉ w.connections) :
    Next cache_key i w (.connecting addr) (.connect addr cache_key.2) (.ok connection) (.inserting connection)
      { w with connections := connection :: w.connections }
  | connect_failed {addr : EndpointAddr} {text : String} :
    Next cache_key i w (.connecting addr) (.connect addr cache_key.2) (.error text)
      (.unlocking (Err (.Transport ("connect failed: " ++ text)))) w
  | insert {connection : Connection} : Next cache_key i w (.inserting connection) (.insert cache_key connection) ()
      (.spawning connection) { w with connection_cache := w.connection_cache.insert cache_key connection }
  | spawn {connection : Connection} {dialled : List Dialled} :
    Next cache_key i w (.spawning connection) (.spawn_outbound_accept_loop connection cache_key.2) ()
      (.unlocking (.ok connection)) { w with dialled }
  | unlock {result : Outcome} :
    Next cache_key i w (.unlocking result) (.connect_unlock cache_key) () (.returned result)
      { w with connect_locks := w.connect_locks.remove cache_key }

section
variable {cache_key : String × String} {i : Nat} {w w' : Node} {p p' : Point} {c : Command} {r : c.Reply}

/-- A task moves on from point to point. -/
theorem next_of_reply {k : c.Reply → Call Outcome} (hrest : p.rest cache_key = .call c k)
    (hreply : Node.Replies i w c r w') : ∃ p', k r = p'.rest cache_key ∧ Next cache_key i w p c r p' w' := by
  cases p with
  | looking addr =>
    cases hrest
    cases hreply
    generalize hcached : w.connection_cache.get cache_key = cached
    cases cached with
    | none => exact ⟨.locking addr, rfl, .look_none hcached⟩
    | some conn => exact ⟨.checking addr conn, rfl, .look_some hcached⟩
  | checking addr conn =>
    cases hrest
    cases hreply
    generalize hreason : decide (conn ∈ w.closed) = closed
    cases closed with
    | true => exact ⟨.evicting addr, rfl, .check_closed (of_decide_eq_true hreason)⟩
    | false => exact ⟨.returned (.ok conn), rfl, .check_open (of_decide_eq_false hreason)⟩
  | evicting addr =>
    cases hrest
    cases hreply
    exact ⟨.locking addr, rfl, .evict⟩
  | locking addr =>
    cases hrest
    cases hreply with
    | connect_lock _ hfree => exact ⟨.relooking addr, rfl, .lock hfree⟩
  | relooking addr =>
    cases hrest
    cases hreply
    generalize hcached : w.connection_cache.get cache_key = cached
    cases cached with
    | none => exact ⟨.connecting addr, rfl, .relook_none hcached⟩
    | some conn => exact ⟨.rechecking addr conn, rfl, .relook_some hcached⟩
  | rechecking addr conn =>
    cases hrest
    cases hreply
    generalize hreason : decide (conn ∈ w.closed) = closed
    cases closed with
    | true => exact ⟨.reevicting addr, rfl, .recheck_closed (of_decide_eq_true hreason)⟩
    | false => exact ⟨.unlocking (.ok conn), rfl, .recheck_open (of_decide_eq_false hreason)⟩
  | reevicting addr =>
    cases hrest
    cases hreply
    exact ⟨.connecting addr, rfl, .reevict⟩
  | connecting addr =>
    cases hrest
    cases hreply with
    | connected _ _ connection hnew => exact ⟨.inserting connection, rfl, .connected hnew⟩
    | connect_failed _ _ text => exact ⟨_, rfl, .connect_failed⟩
  | inserting connection =>
    cases hrest
    cases hreply
    exact ⟨.spawning connection, rfl, .insert⟩
  | spawning connection =>
    cases hrest
    cases hreply
    exact ⟨.unlocking (.ok connection), rfl, .spawn⟩
  | unlocking result =>
    cases hrest
    cases hreply
    exact ⟨.returned result, rfl, .unlock⟩
  | returned result => cases hrest

/-- Looked up and removed under one lock, only a closed connection goes. -/
theorem evict_cached (w : Node) (cached : Connection) :
    (w.evict_if_closed cache_key).connection_cache.get cache_key = some cached ↔
      w.connection_cache.get cache_key = some cached ∧ cached ∉ w.closed := by
  unfold Node.evict_if_closed
  cases hcached : w.connection_cache.get cache_key with
  | none =>
    dsimp only
    rw [hcached]
    exact iff_of_false (fun h => by cases h) fun h => by cases h.1
  | some conn =>
    dsimp only
    split
    · rename_i hclosed
      rw [Map.get_remove_self]
      refine iff_of_false (fun h => by cases h) ?_
      rintro ⟨hconn, hopen⟩
      exact hopen (Option.some.inj hconn ▸ hclosed)
    · rename_i hopen
      rw [hcached]
      constructor
      · rintro hconn
        exact ⟨hconn, Option.some.inj hconn ▸ hopen⟩
      · exact And.left

theorem evict_apart (w : Node) (cache_key : String × String) : Apart cache_key w (w.evict_if_closed cache_key) := by
  obtain ⟨connection_cache, hevict⟩ := w.evict_if_closed_eq cache_key
  refine ⟨?_, ?_, ?_, ?_, ?_⟩
  · intro cached hcached
    exact ((evict_cached w cached).mp hcached).1
  · intro cached hcached hopen
    exact (evict_cached w cached).mpr ⟨hcached, hopen⟩
  · rw [hevict]
  · rw [hevict]
    exact fun _ hconnection => hconnection
  · rw [hevict]
    exact fun _ hclosed => hclosed

/-- A task that is not about to insert a connection makes no entry. -/
theorem Next.entry (hnext : Next cache_key i w p c r p' w') :
    (∃ connection, p = .inserting connection) ∨
      ∀ cached, w'.connection_cache.get cache_key = some cached →
        w.connection_cache.get cache_key = some cached := by
  cases hnext with
  | insert => exact .inl ⟨_, rfl⟩
  | evict | reevict => exact .inr fun cached hcached => ((evict_cached w cached).mp hcached).1
  | _ => exact .inr fun _ hcached => hcached

theorem Next.closed (hnext : Next cache_key i w p c r p' w') : w'.closed = w.closed := by
  cases hnext with
  | evict | reevict =>
    obtain ⟨connection_cache, hevict⟩ := w.evict_if_closed_eq cache_key
    rw [hevict]
  | _ => rfl

/-- The lock is taken where it is free and left by the task that has it. -/
theorem Next.locks (hnext : Next cache_key i w p c r p' w') :
    (w'.connect_locks.get cache_key = w.connect_locks.get cache_key ∧ (p'.Guarded ↔ p.Guarded)) ∨
    (w.connect_locks.get cache_key = none ∧ w'.connect_locks.get cache_key = some i ∧ p'.Guarded) ∨
    (p.Guarded ∧ w'.connect_locks.get cache_key = none ∧ ¬ p'.Guarded) := by
  cases hnext with
  | lock hfree => exact .inr (.inl ⟨hfree, Map.get_insert_self _ _ _, trivial⟩)
  | unlock => exact .inr (.inr ⟨trivial, Map.get_remove_self _ _, fun hguarded => hguarded⟩)
  | evict | reevict =>
    obtain ⟨connection_cache, hevict⟩ := w.evict_if_closed_eq cache_key
    rw [hevict]
    exact .inl ⟨rfl, Iff.rfl⟩
  | _ => exact .inl ⟨rfl, Iff.rfl⟩

/-- Only a connection that is new is established. -/
theorem Next.established (hnext : Next cache_key i w p c r p' w') :
    (established_by c r = [] ∧ w'.connections = w.connections) ∨
    ∃ connection, established_by c r = [connection] ∧ p' = .inserting connection ∧
      connection ∉ w.connections ∧ w'.connections = connection :: w.connections := by
  cases hnext with
  | connected hnew => exact .inr ⟨_, rfl, rfl, hnew, rfl⟩
  | evict | reevict =>
    obtain ⟨connection_cache, hevict⟩ := w.evict_if_closed_eq cache_key
    rw [hevict]
    exact .inl ⟨rfl, rfl⟩
  | _ => exact .inl ⟨rfl, rfl⟩

/-- An open entry stays, as long as what tasks with the lock know is so. -/
theorem Next.keeps {connection : Connection} (hnext : Next cache_key i w p c r p' w') (hknows : p.Knows cache_key w)
    (hcached : w.connection_cache.get cache_key = some connection) (hopen : connection ∉ w.closed) :
    w'.connection_cache.get cache_key = some connection := by
  cases hnext with
  | insert => exact absurd (hknows connection hcached) hopen
  | evict | reevict => exact (evict_cached w connection).mpr ⟨hcached, hopen⟩
  | _ => exact hcached

theorem Next.inserted {connection : Connection} (hnext : Next cache_key i w (.inserting connection) c r p' w') :
    w'.connection_cache.get cache_key = some connection := by
  cases hnext with
  | insert => exact Map.get_insert_self _ _ _

theorem Next.knows (hnext : Next cache_key i w p c r p' w') (hknows : p.Knows cache_key w) :
    p'.Knows cache_key w' := by
  cases hnext with
  | relook_none hnone =>
    intro cached hcached
    cases hnone.symm.trans hcached
  | relook_some hconn =>
    intro cached hcached
    exact Option.some.inj (hcached.symm.trans hconn)
  | recheck_closed hclosed =>
    intro cached hcached
    rw [hknows cached hcached]
    exact hclosed
  | reevict =>
    intro cached hcached
    obtain ⟨hbefore, hopen⟩ := (evict_cached w cached).mp hcached
    exact absurd (hknows cached hbefore) hopen
  | connected hnew => exact hknows
  | _ => trivial

theorem Point.Knows.mono (hknows : p.Knows cache_key w)
    (hentry : ∀ cached, w'.connection_cache.get cache_key = some cached →
      w.connection_cache.get cache_key = some cached)
    (hclosed : ∀ connection ∈ w.closed, connection ∈ w'.closed) : p.Knows cache_key w' := by
  cases p with
  | rechecking addr conn => exact fun cached hcached => hknows cached (hentry cached hcached)
  | reevicting addr => exact fun cached hcached => hclosed cached (hknows cached (hentry cached hcached))
  | connecting addr => exact fun cached hcached => hclosed cached (hknows cached (hentry cached hcached))
  | inserting connection => exact fun cached hcached => hclosed cached (hknows cached (hentry cached hcached))
  | _ => trivial

theorem Point.knows_of_not_guarded (hnot : ¬ p.Guarded) (w : Node) : p.Knows cache_key w := by
  cases p with
  | looking addr | checking addr conn | evicting addr | locking addr | returned result => trivial
  | _ => exact absurd trivial hnot

end

/-- The lock is with the task that is past it, and every open connection is cached or about to be. -/
structure Inv (cache_key : String × String) (w : Node) (established : List Connection)
    (points : List (Option Point)) :
    Prop where
  lock : ∀ i, w.connect_locks.get cache_key = some i ↔ ∃ p, points[i]? = some (some p) ∧ p.Guarded
  held : ∀ connection ∈ established, connection ∉ w.closed →
    w.connection_cache.get cache_key = some connection ∨ ∃ i : Nat, points[i]? = some (some (.inserting connection))
  knows : ∀ (i : Nat) p, points[i]? = some (some p) → p.Knows cache_key w
  known : ∀ connection ∈ established, connection ∈ w.connections
  nodup : established.Nodup

section
variable {cache_key : String × String} {i j : Nat} {w w' : Node} {p p' q : Point} {c : Command} {r : c.Reply}
  {established : List Connection} {points : List (Option Point)}

theorem Inv.guarded_same (hinv : Inv cache_key w established points) (hp : points[i]? = some (some p))
    (hguarded : p.Guarded) (hq : points[j]? = some (some q)) (hother : q.Guarded) : i = j := by
  have hi := (hinv.lock i).mpr ⟨p, hp, hguarded⟩
  have hj := (hinv.lock j).mpr ⟨q, hq, hother⟩
  exact Option.some.inj (hi.symm.trans hj)

/-- The points after one of them has changed. -/
theorem set_point (hp : points[i]? = some (some p)) (new : Option Point) (j : Nat) :
    (points.set i new)[j]? = if i = j then some new else points[j]? := by
  have hlt : i < points.length := (List.getElem?_eq_some_iff.mp hp).1
  rw [List.getElem?_set]
  simp [hlt]

theorem Inv.next_lock (hinv : Inv cache_key w established points) (hp : points[i]? = some (some p))
    (hnext : Next cache_key i w p c r p' w') (j : Nat) :
    w'.connect_locks.get cache_key = some j ↔ ∃ q, (points.set i (some p'))[j]? = some (some q) ∧ q.Guarded := by
  have hmoved : (∃ q, (points.set i (some p'))[j]? = some (some q) ∧ q.Guarded) ↔
      if i = j then p'.Guarded else ∃ q, points[j]? = some (some q) ∧ q.Guarded := by
    rw [set_point hp]
    split
    · constructor
      · rintro ⟨q, hq, hguarded⟩
        cases hq
        exact hguarded
      · exact fun hguarded => ⟨p', rfl, hguarded⟩
    · exact Iff.rfl
  have hstays : (∃ q, points[i]? = some (some q) ∧ q.Guarded) ↔ p.Guarded := by
    rw [hp]
    constructor
    · rintro ⟨q, hq, hguarded⟩
      cases hq
      exact hguarded
    · exact fun hguarded => ⟨p, rfl, hguarded⟩
  rw [hmoved]
  obtain ⟨hsame, hguarded⟩ | ⟨hfree, htaken, hguarded⟩ | ⟨hguarded, hleft, hnot⟩ := hnext.locks
  · rw [hsame, hinv.lock]
    split
    · rename_i hij
      rw [← hij, hstays, hguarded]
    · exact Iff.rfl
  · rw [htaken]
    split
    · rename_i hij
      exact iff_of_true (congrArg some hij) hguarded
    · rename_i hij
      refine iff_of_false (fun h => hij (Option.some.inj h)) fun hother => ?_
      cases hfree.symm.trans ((hinv.lock j).mpr hother)
  · rw [hleft]
    split
    · exact iff_of_false (fun h => by cases h) hnot
    · rename_i hij
      refine iff_of_false (fun h => by cases h) ?_
      rintro ⟨q, hq, hother⟩
      exact hij (hinv.guarded_same hp hguarded hq hother)

theorem Inv.next_held (hinv : Inv cache_key w established points) (hp : points[i]? = some (some p))
    (hnext : Next cache_key i w p c r p' w') {connection : Connection}
    (hconnection : connection ∈ established_by c r ++ established) (hopen : connection ∉ w'.closed) :
    w'.connection_cache.get cache_key = some connection ∨
      ∃ j : Nat, (points.set i (some p'))[j]? = some (some (.inserting connection)) := by
  rw [hnext.closed] at hopen
  obtain hnew | hold := List.mem_append.mp hconnection
  · obtain ⟨hnone, _⟩ | ⟨dialled, hdialled, rfl, _⟩ := hnext.established
    · rw [hnone] at hnew
      cases hnew
    · rw [hdialled, List.mem_singleton] at hnew
      refine .inr ⟨i, ?_⟩
      rw [set_point hp, if_pos rfl, hnew]
  · obtain hcached | ⟨j, hj⟩ := hinv.held connection hold hopen
    · exact .inl (hnext.keeps (hinv.knows i p hp) hcached hopen)
    · by_cases hij : i = j
      · subst hij
        cases hp.symm.trans hj
        exact .inl hnext.inserted
      · refine .inr ⟨j, ?_⟩
        rw [set_point hp, if_neg hij]
        exact hj

theorem Inv.next_knows (hinv : Inv cache_key w established points) (hp : points[i]? = some (some p))
    (hnext : Next cache_key i w p c r p' w') (hq : (points.set i (some p'))[j]? = some (some q)) :
    q.Knows cache_key w' := by
  rw [set_point hp] at hq
  split at hq
  · cases hq
    exact hnext.knows (hinv.knows i p hp)
  · rename_i hij
    obtain ⟨connection, rfl⟩ | hentry := hnext.entry
    · -- the task that inserts has the lock, so the other one does not
      refine Point.knows_of_not_guarded (fun hguarded => hij ?_) w'
      exact hinv.guarded_same hp trivial hq hguarded
    · refine (hinv.knows j q hq).mono hentry ?_
      rw [hnext.closed]
      exact fun _ hmem => hmem

theorem Inv.next (hinv : Inv cache_key w established points) (hp : points[i]? = some (some p))
    (hnext : Next cache_key i w p c r p' w') :
    Inv cache_key w' (established_by c r ++ established) (points.set i (some p')) where
  lock := hinv.next_lock hp hnext
  held _ hconnection hopen := hinv.next_held hp hnext hconnection hopen
  knows _ _ hq := hinv.next_knows hp hnext hq
  known connection hconnection := by
    obtain ⟨hnone, hsame⟩ | ⟨dialled, hdialled, _, _, hmore⟩ := hnext.established
    · rw [hnone] at hconnection
      rw [hsame]
      exact hinv.known connection hconnection
    · rw [hdialled, List.singleton_append, List.mem_cons] at hconnection
      rw [hmore, List.mem_cons]
      exact hconnection.imp_right (hinv.known connection)
  nodup := by
    obtain ⟨hnone, _⟩ | ⟨dialled, hdialled, _, hnew, _⟩ := hnext.established
    · rw [hnone]
      exact hinv.nodup
    · rw [hdialled, List.singleton_append]
      exact hinv.nodup.cons fun hmem => hnew (hinv.known dialled hmem)

/-- What the others do, and a connection that closes, make no entry and move no lock. -/
theorem Inv.apart (hinv : Inv cache_key w established points) (hapart : Apart cache_key w w') :
    Inv cache_key w' established points where
  lock i := by
    rw [hapart.locked]
    exact hinv.lock i
  held connection hconnection hopen := by
    have hbefore : connection ∉ w.closed := fun hclosed => hopen (hapart.closed connection hclosed)
    obtain hcached | hinserting := hinv.held connection hconnection hbefore
    · exact .inl (hapart.keeps connection hcached hbefore)
    · exact .inr hinserting
  knows i p hp := (hinv.knows i p hp).mono hapart.entry hapart.closed
  known connection hconnection := hapart.connections connection (hinv.known connection hconnection)
  nodup := hinv.nodup

theorem started_point {new : Point} : (points ++ [some new])[j]? = some (some q) ↔
    points[j]? = some (some q) ∨ (j = points.length ∧ q = new) := by
  rw [List.getElem?_append]
  split
  · rename_i hlt
    exact (or_iff_left fun h => by omega).symm
  · rename_i hge
    have hnone : points[j]? = none := List.getElem?_eq_none (Nat.le_of_not_lt hge)
    rw [hnone, List.getElem?_singleton]
    split
    · rename_i hzero
      have hlength : j = points.length := by omega
      simp [hlength, eq_comm]
    · rename_i hne
      refine iff_of_false (fun h => by cases h) ?_
      rintro (h | ⟨h, _⟩)
      · cases h
      · omega

/-- A task that starts does not have the lock. -/
theorem Inv.start (hinv : Inv cache_key w established points) (addr : EndpointAddr) :
    Inv cache_key w established (points ++ [some (.looking addr)]) where
  lock i := by
    rw [hinv.lock]
    constructor
    · rintro ⟨p, hp, hguarded⟩
      exact ⟨p, started_point.mpr (.inl hp), hguarded⟩
    · rintro ⟨p, hp, hguarded⟩
      obtain hold | ⟨_, rfl⟩ := started_point.mp hp
      · exact ⟨p, hold, hguarded⟩
      · exact hguarded.elim
  held connection hconnection hopen := by
    obtain hcached | ⟨i, hi⟩ := hinv.held connection hconnection hopen
    · exact .inl hcached
    · exact .inr ⟨i, started_point.mpr (.inl hi)⟩
  knows i p hp := by
    obtain hold | ⟨_, rfl⟩ := started_point.mp hp
    · exact hinv.knows i p hold
    · trivial
  known := hinv.known
  nodup := hinv.nodup

theorem leave_same (w : Node) (cache_key : String × String) (i : Nat) :
    ∃ connect_locks, leave w cache_key i = { w with connect_locks } := by
  unfold leave
  split
  · exact ⟨_, rfl⟩
  · exact ⟨w.connect_locks, rfl⟩

theorem leave_locks (w : Node) (cache_key : String × String) (i j : Nat) :
    (leave w cache_key i).connect_locks.get cache_key = some j ↔
      w.connect_locks.get cache_key = some j ∧ j ≠ i := by
  unfold leave
  split
  · rename_i hlocked
    rw [hlocked, Map.get_remove_self]
    refine iff_of_false (fun h => by cases h) ?_
    rintro ⟨hj, hne⟩
    exact hne (Option.some.inj hj).symm
  · rename_i hnot
    refine (and_iff_left_of_imp ?_).symm
    rintro hj rfl
    exact hnot hj

/-- A task that is dropped was not about to insert a connection. -/
theorem Inv.drop (hinv : Inv cache_key w established points) (hp : points[i]? = some (some p))
    (hwaits : ∀ connection, p ≠ .inserting connection) :
    Inv cache_key (leave w cache_key i) established (points.set i none) := by
  obtain ⟨connect_locks, hleave⟩ := leave_same w cache_key i
  have hothers {j : Nat} {q : Point} :
      (points.set i none)[j]? = some (some q) ↔ points[j]? = some (some q) ∧ j ≠ i := by
    rw [set_point hp]
    split
    · rename_i hij
      exact iff_of_false (fun h => by cases h) fun h => h.2 hij.symm
    · rename_i hij
      exact (and_iff_left (Ne.symm hij)).symm
  constructor
  · intro j
    rw [leave_locks, hinv.lock]
    simp only [hothers]
    constructor
    · rintro ⟨⟨q, hq, hguarded⟩, hne⟩
      exact ⟨q, ⟨hq, hne⟩, hguarded⟩
    · rintro ⟨q, ⟨hq, hne⟩, hguarded⟩
      exact ⟨⟨q, hq, hguarded⟩, hne⟩
  · intro connection hconnection hopen
    rw [hleave] at hopen ⊢
    obtain hcached | ⟨j, hj⟩ := hinv.held connection hconnection hopen
    · exact .inl hcached
    · refine .inr ⟨j, hothers.mpr ⟨hj, ?_⟩⟩
      rintro rfl
      cases hp.symm.trans hj
      exact hwaits connection rfl
  · intro j q hq
    rw [hleave]
    exact (hinv.knows j q (hothers.mp hq).1).mono (fun _ hcached => hcached) fun _ hclosed => hclosed
  · intro connection hconnection
    rw [hleave]
    exact hinv.known connection hconnection
  · exact hinv.nodup

end

/-! What a task has done on its way. -/

section
variable (cache_key : String × String) (i : Nat) (connection : Connection) (events : List Event)

/-- The task found the connection in the cache, -/
def Found : Prop := Event.issue i (.get cache_key) (some connection) ∈ events

/-- and then that it was open. -/
def Checked : Prop :=
  ∃ before after, events = before ++ .issue i (.close_reason connection) false :: after ∧
    Found cache_key i connection before

/-- The task dialled the connection. -/
def DialledBy : Prop := ∃ addr, Event.issue i (.connect addr cache_key.2) (.ok connection) ∈ events

/-- What has happened by the time a task is where it is. -/
def Point.Recorded : Point → Prop
  | checking _ conn | rechecking _ conn => Found cache_key i conn events
  | inserting connection | spawning connection => DialledBy cache_key i connection events
  | unlocking (.ok connection) | returned (.ok connection) =>
    DialledBy cache_key i connection events ∨ Checked cache_key i connection events
  | _ => True

end

section
variable {cache_key : String × String} {i : Nat} {w w' : Node} {p p' : Point} {c : Command} {r : c.Reply}
  {events : List Event}

theorem Found.append {connection : Connection} (hfound : Found cache_key i connection events) (event : Event) :
    Found cache_key i connection (events ++ [event]) :=
  List.mem_append_left _ hfound

theorem Checked.append {connection : Connection} (hchecked : Checked cache_key i connection events) (event : Event) :
    Checked cache_key i connection (events ++ [event]) := by
  obtain ⟨before, after, rfl, hfound⟩ := hchecked
  exact ⟨before, after ++ [event], by rw [List.append_assoc, List.cons_append], hfound⟩

theorem DialledBy.append {connection : Connection} (hdialled : DialledBy cache_key i connection events)
    (event : Event) : DialledBy cache_key i connection (events ++ [event]) := by
  obtain ⟨addr, hmem⟩ := hdialled
  exact ⟨addr, List.mem_append_left _ hmem⟩

theorem Point.Recorded.append (hrecorded : p.Recorded cache_key i events) (event : Event) :
    p.Recorded cache_key i (events ++ [event]) := by
  cases p with
  | checking addr conn => exact Found.append hrecorded event
  | rechecking addr conn => exact Found.append hrecorded event
  | inserting connection => exact DialledBy.append hrecorded event
  | spawning connection => exact DialledBy.append hrecorded event
  | unlocking result =>
    cases result with
    | ok connection => exact hrecorded.imp (fun h => h.append event) fun h => h.append event
    | error e => trivial
  | returned result =>
    cases result with
    | ok connection => exact hrecorded.imp (fun h => h.append event) fun h => h.append event
    | error e => trivial
  | _ => trivial

/-- A check follows the lookup it is about. -/
theorem Found.checked {connection : Connection} (hfound : Found cache_key i connection events) :
    Checked cache_key i connection (events ++ [.issue i (.close_reason connection) false]) :=
  ⟨events, [], rfl, hfound⟩

theorem Next.recorded (hnext : Next cache_key i w p c r p' w') (hrecorded : p.Recorded cache_key i events) :
    p'.Recorded cache_key i (events ++ [.issue i c r]) := by
  cases hnext with
  | look_some hcached => exact List.mem_append_right _ (List.mem_singleton.mpr rfl)
  | relook_some hcached => exact List.mem_append_right _ (List.mem_singleton.mpr rfl)
  | check_open hopen => exact .inr (Found.checked hrecorded)
  | recheck_open hopen => exact .inr (Found.checked hrecorded)
  | connected hnew => exact ⟨_, List.mem_append_right _ (List.mem_singleton.mpr rfl)⟩
  | insert => exact DialledBy.append hrecorded _
  | spawn => exact .inl (DialledBy.append hrecorded _)
  | @unlock result =>
    cases result with
    | ok connection => exact hrecorded.imp (fun h => h.append _) fun h => h.append _
    | error e => trivial
  | _ => trivial

/-- The tasks are at points that keep to the invariant, and have come there. -/
def Traced (cache_key : String × String) (events : List Event) (s : Pool) : Prop :=
  ∃ points : List (Option Point), s.tasks = points.map (Option.map (Point.rest cache_key)) ∧
    Inv cache_key s.world s.established points ∧
    ∀ (i : Nat) p, points[i]? = some (some p) → p.Recorded cache_key i events

theorem point_of_task {points : List (Option Point)} {rest : Call Outcome}
    (htask : (points.map (Option.map (Point.rest cache_key)))[i]? = some (some rest)) :
    ∃ p, points[i]? = some (some p) ∧ p.rest cache_key = rest := by
  rw [List.getElem?_map] at htask
  obtain ⟨point, hpoint, hrest⟩ := Option.map_eq_some_iff.mp htask
  obtain ⟨p, rfl, hsame⟩ := Option.map_eq_some_iff.mp hrest
  exact ⟨p, hpoint, hsame⟩

theorem Step.traced {endpoint_id protocol : String} {s t : Pool} {event : Event}
    (htraced : Traced (endpoint_id, protocol) events s) (hstep : Step endpoint_id protocol s event t) :
    Traced (endpoint_id, protocol) (events ++ [event]) t := by
  obtain ⟨points, htasks, hinv, hrecorded⟩ := htraced
  cases hstep with
  | start addr =>
    refine ⟨points ++ [some (.looking addr)], ?_, hinv.start addr, ?_⟩
    · rw [htasks, List.map_append, get_or_connect_run]
      rfl
    · intro i p hp
      obtain hold | ⟨_, rfl⟩ := started_point.mp hp
      · exact (hrecorded i p hold).append _
      · trivial
  | issue i c k r world htask hreply =>
    rw [htasks] at htask
    obtain ⟨p, hp, hrest⟩ := point_of_task htask
    obtain ⟨p', hk, hnext⟩ := next_of_reply hrest hreply
    refine ⟨points.set i (some p'), ?_, hinv.next hp hnext, ?_⟩
    · rw [htasks, List.map_set, hk]
      rfl
    · intro j q hq
      rw [set_point hp] at hq
      split at hq
      · rename_i hij
        subst hij
        cases hq
        exact hnext.recorded (hrecorded i p hp)
      · exact (hrecorded j q hq).append _
  | close connection hconnection =>
    have hapart : Apart (endpoint_id, protocol) s.world { s.world with closed := connection :: s.world.closed } :=
      ⟨fun _ hcached => hcached, fun _ hcached _ => hcached, rfl, fun _ hmem => hmem,
        fun _ hmem => List.mem_cons_of_mem _ hmem⟩
    refine ⟨points, htasks, hinv.apart hapart, ?_⟩
    intro i p hp
    exact (hrecorded i p hp).append _
  | drop i c k htask hawaits =>
    rw [htasks] at htask
    obtain ⟨p, hp, hrest⟩ := point_of_task htask
    refine ⟨points.set i none, ?_, hinv.drop hp ?_, ?_⟩
    · rw [htasks, List.map_set]
      rfl
    · rintro connection rfl
      cases hrest
      exact hawaits
    · intro j q hq
      rw [set_point hp] at hq
      split at hq
      · cases hq
      · exact (hrecorded j q hq).append _
  | evict =>
    refine ⟨points, htasks, hinv.apart (evict_apart s.world (endpoint_id, protocol)), ?_⟩
    intro i p hp
    exact (hrecorded i p hp).append _
  | other world hother =>
    refine ⟨points, htasks, hinv.apart hother, ?_⟩
    intro i p hp
    exact (hrecorded i p hp).append _

end

/-- An endpoint at which no task runs yet. -/
def Pool.start (id : String) (recipient_key : EncryptionKey) : Pool := ⟨Node.start id recipient_key, [], []⟩

section
variable {id endpoint_id protocol : String} {recipient_key : EncryptionKey} {events : List Event} {s : Pool}

theorem run_traced (hrun : Run (Step endpoint_id protocol) (Pool.start id recipient_key) events s) :
    Traced (endpoint_id, protocol) events s := by
  refine hrun.invariant (I := Traced (endpoint_id, protocol)) ?_ fun htraced hstep => hstep.traced htraced
  refine ⟨[], rfl, ⟨?_, ?_, ?_, ?_, List.nodup_nil⟩, ?_⟩
  · intro i
    exact iff_of_false (fun h => by cases h) fun ⟨p, hp, _⟩ => by cases hp
  · intro connection hconnection
    cases hconnection
  · intro i p hp
    cases hp
  · intro connection hconnection
    cases hconnection
  · intro i p hp
    cases hp

theorem length_le_one {α : Type} {l : List α} (hnodup : l.Nodup) (hsame : ∀ a ∈ l, ∀ b ∈ l, a = b) :
    l.length ≤ 1 := by
  match l, hnodup, hsame with
  | [], _, _ => exact Nat.zero_le 1
  | [a], _, _ => exact Nat.le_refl 1
  | a :: b :: rest, hnodup, hsame =>
    have hab := hsame a List.mem_cons_self b (List.mem_cons_of_mem a List.mem_cons_self)
    exact absurd (hab ▸ List.mem_cons_self) (List.nodup_cons.mp hnodup).1

theorem close_reason_reply {i : Nat} {w w' : Node} {connection : Connection} {closed : Bool}
    (hreply : Node.Replies i w (.close_reason connection) closed w') : closed = decide (connection ∈ w.closed) := by
  cases hreply
  rfl

/-- Two open connections would both be the entry, or both be about to be. -/
theorem Inv.open_same {cache_key : String × String} {w : Node} {established : List Connection}
    {points : List (Option Point)} (hinv : Inv cache_key w established points) {first second : Connection}
    (hfirst : first ∈ established) (hfirst_open : first ∉ w.closed) (hsecond : second ∈ established)
    (hsecond_open : second ∉ w.closed) : first = second := by
  obtain hfirst_cached | ⟨i, hi⟩ := hinv.held first hfirst hfirst_open
  · obtain hsecond_cached | ⟨j, hj⟩ := hinv.held second hsecond hsecond_open
    · exact Option.some.inj (hfirst_cached.symm.trans hsecond_cached)
    · exact absurd (hinv.knows j _ hj first hfirst_cached) hfirst_open
  · obtain hsecond_cached | ⟨j, hj⟩ := hinv.held second hsecond hsecond_open
    · exact absurd (hinv.knows i _ hi second hsecond_cached) hsecond_open
    · obtain rfl := hinv.guarded_same hi trivial hj trivial
      cases hi.symm.trans hj
      rfl

/-- Whatever the tasks of a key do side by side, one connection at most is open, it is cached or about to be, and a
    cached connection that is returned was open when it was checked. -/
theorem single_flight (hrun : Run (Step endpoint_id protocol) (Pool.start id recipient_key) events s) :
    (s.established.filter fun connection => connection ∉ s.world.closed).length ≤ 1 ∧
    (∀ connection ∈ s.established, connection ∉ s.world.closed →
      s.world.connection_cache.get (endpoint_id, protocol) = some connection ∨
      ∃ i k, s.world.connect_locks.get (endpoint_id, protocol) = some i ∧
        s.tasks[i]? = some (some (.call (.insert (endpoint_id, protocol) connection) k))) ∧
    ∀ (i : Nat) connection, s.tasks[i]? = some (some (.ret (.ok connection))) →
      (∃ addr, Event.issue i (.connect addr protocol) (.ok connection) ∈ events) ∨
      ∃ before after checked, events = before ++ .issue i (.close_reason connection) false :: after ∧
        Event.issue i (.get (endpoint_id, protocol)) (some connection) ∈ before ∧
        Run (Step endpoint_id protocol) (Pool.start id recipient_key) before checked ∧
        connection ∉ checked.world.closed := by
  obtain ⟨points, htasks, hinv, hrecorded⟩ := run_traced hrun
  refine ⟨?_, ?_, ?_⟩
  · apply length_le_one (hinv.nodup.filter _)
    intro first hfirst second hsecond
    rw [List.mem_filter, decide_eq_true_iff] at hfirst hsecond
    exact hinv.open_same hfirst.1 hfirst.2 hsecond.1 hsecond.2
  · intro connection hconnection hopen
    obtain hcached | ⟨i, hi⟩ := hinv.held connection hconnection hopen
    · exact .inl hcached
    · have hlocked := (hinv.lock i).mpr ⟨_, hi, trivial⟩
      refine .inr ⟨i, fun _ => spawning (endpoint_id, protocol) connection, hlocked, ?_⟩
      rw [htasks, List.getElem?_map, hi]
      rfl
  · intro i connection htask
    rw [htasks] at htask
    obtain ⟨p, hp, hrest⟩ := point_of_task htask
    have hreturned : p = .returned (.ok connection) := by
      cases p with
      | returned result =>
        cases hrest
        rfl
      | _ => cases hrest
    subst hreturned
    obtain hdialled | ⟨before, after, rfl, hfound⟩ := hrecorded i _ hp
    · exact .inl hdialled
    · refine .inr ⟨before, after, ?_⟩
      obtain ⟨checked, _, hbefore, hcheck, _⟩ := hrun.split
      refine ⟨checked, rfl, hfound, hbefore, ?_⟩
      cases hcheck with
      | issue _ _ k _ world _ hreply => exact of_decide_eq_false (close_reason_reply hreply).symm

end

/-! Two tasks for one peer. -/

def peer_addr : EndpointAddr := ⟨"peer", none⟩

def peer_connection : Connection := ⟨0, "peer"⟩

/-- One task dials while the other looks the connection up, waits for the lock, and finds what was dialled. -/
theorem pair_run (id : String) (recipient_key : EncryptionKey) :
    ∃ events s, Run (Step "peer" "/ma/inbox/0.0.1") (Pool.start id recipient_key) events s ∧
      s.tasks = [some (.ret (.ok peer_connection)), some (.ret (.ok peer_connection))] := by
  have h := @Run.nil _ _ (Step "peer" "/ma/inbox/0.0.1") (Pool.start id recipient_key)
  have h := h.snoc (.start _ peer_addr)
  have h := h.snoc (.start _ peer_addr)
  have h := h.snoc (.issue _ 0 _ _ none _ rfl (.get _))
  have h := h.snoc (.issue _ 1 _ _ none _ rfl (.get _))
  have h := h.snoc (.issue _ 0 _ _ () _ rfl (.connect_lock _ rfl))
  have h := h.snoc (.issue _ 0 _ _ none _ rfl (.get _))
  have h := h.snoc (.issue _ 0 _ _ (Except.ok peer_connection) _ rfl
    (.connected _ _ peer_connection List.not_mem_nil rfl))
  have h := h.snoc (.issue _ 0 _ _ () _ rfl (.insert _ _))
  have h := h.snoc (.issue _ 0 _ _ () _ rfl (.spawn_outbound_accept_loop _ _))
  have h := h.snoc (.issue _ 0 _ _ () _ rfl (.connect_unlock _))
  have h := h.snoc (.issue _ 1 _ _ () _ rfl (.connect_lock _ rfl))
  have h := h.snoc (.issue _ 1 _ _ (some peer_connection) _ rfl (.get _))
  have h := h.snoc (.issue _ 1 _ _ false _ rfl (.close_reason _))
  have h := h.snoc (.issue _ 1 _ _ () _ rfl (.connect_unlock _))
  exact ⟨_, _, h, rfl⟩

theorem single_flight_pair :
    ∃ events s, Run (Step "peer" "/ma/inbox/0.0.1") (Pool.start "self" (reference.encryptionKey 2)) events s ∧
      s.tasks = [some (.ret (.ok peer_connection)), some (.ret (.ok peer_connection))] ∧
      (s.established.filter fun connection => connection ∉ s.world.closed).length ≤ 1 ∧
      ((∃ addr, Event.issue 1 (.connect addr "/ma/inbox/0.0.1") (.ok peer_connection) ∈ events) ∨
        ∃ before after checked, events = before ++ .issue 1 (.close_reason peer_connection) false :: after ∧
          Event.issue 1 (.get ("peer", "/ma/inbox/0.0.1")) (some peer_connection) ∈ before ∧
          Run (Step "peer" "/ma/inbox/0.0.1") (Pool.start "self" (reference.encryptionKey 2)) before checked ∧
          peer_connection ∉ checked.world.closed) := by
  obtain ⟨events, s, hrun, htasks⟩ := pair_run "self" (reference.encryptionKey 2)
  obtain ⟨hone, _, hreturned⟩ := single_flight hrun
  have htask : s.tasks[1]? = some (some (.ret (.ok peer_connection))) := by
    rw [htasks]
    rfl
  exact ⟨events, s, hrun, htasks, hone, hreturned 1 peer_connection htask⟩

end SingleFlight

end ma_core.iroh

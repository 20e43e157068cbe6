import NryNet.Relay.ClientConnections

/-!
# Idle work connections (`server/relay/work_connection_pool.go`)

An agent may open data connections ahead of need.  They wait in `workConnectionPool`, at most
`maxIdle` of them for each client, until a visitor takes one or the client is disconnected.  Each
worker remembers the connection generation its client had when the worker authenticated; the pool
itself never compares it with anything.
-/

namespace NryNet.Relay

/-- `idleWorkConnection`. -/
structure IdleWorkConnection where
  conn : Closer
  clientID : String
  generation : ℕ
  deriving DecidableEq, Repr

/-- `workConnectionPool`. -/
structure WorkConnectionPool where
  maxIdle : ℕ
  idle : GoMap String (List IdleWorkConnection)

/-- `defaultWorkConnectionPoolSize`. -/
def defaultWorkConnectionPoolSize : ℕ := 8

namespace WorkConnectionPool

/-- `newWorkConnectionPool`. -/
def newWorkConnectionPool (maxIdle : ℕ) : WorkConnectionPool where
  maxIdle := maxIdle
  idle := ∅

/-- The value of `p.idle[clientID]`; a missing slice is an empty one. -/
def workersOf (p : WorkConnectionPool) (clientID : String) : List IdleWorkConnection :=
  (p.idle.lookup clientID).getD []

/-- `add`: refused when the client's slice is full. -/
def add (p : WorkConnectionPool) (worker : IdleWorkConnection) : WorkConnectionPool × Bool :=
  let workers := p.workersOf worker.clientID
  if workers.length ≥ p.maxIdle then (p, false)
  else ({ p with idle := p.idle.insert worker.clientID (workers ++ [worker]) }, true)

/-- What `take` leaves behind: an emptied slice is removed from the map. -/
def setWorkers (p : WorkConnectionPool) (clientID : String) (workers : List IdleWorkConnection) :
    WorkConnectionPool :=
  { p with
    idle := if workers.isEmpty then p.idle.erase clientID else p.idle.insert clientID workers }

/-- `take`: the worker that was added last. -/
def take (p : WorkConnectionPool) (clientID : String) :
    WorkConnectionPool × Option IdleWorkConnection :=
  match (p.workersOf clientID).getLast? with
  | none => (p, none)
  | some worker => (p.setWorkers clientID (p.workersOf clientID).dropLast, some worker)

/-- `closeClient`: the new pool and the workers whose connection is closed. -/
def closeClient (p : WorkConnectionPool) (clientID : String) :
    WorkConnectionPool × List IdleWorkConnection :=
  ({ p with idle := p.idle.erase clientID }, p.workersOf clientID)

/-- `closeAll`: the new pool and the workers whose connection is closed. -/
def closeAll (p : WorkConnectionPool) : WorkConnectionPool × List IdleWorkConnection :=
  ({ p with idle := ∅ }, (p.idle.valuesWhere fun _ _ => true).flatten)

/-! ## One specification lemma for each operation -/

variable {p : WorkConnectionPool} {worker : IdleWorkConnection} {clientID : String}

theorem workersOf_add (other : String) :
    (p.add worker).1.workersOf other =
      if (p.add worker).2 ∧ other = worker.clientID then p.workersOf other ++ [worker]
      else p.workersOf other := by
  by_cases full : (p.workersOf worker.clientID).length ≥ p.maxIdle
  · simp [add, full]
  · simp only [add, if_neg full, true_and]
    unfold workersOf
    rw [GoMap.lookup_insert_if]
    split
    · rename_i same
      subst same
      rfl
    · rfl

theorem mem_of_mem_add {other : String} {idle : IdleWorkConnection}
    (member : idle ∈ (p.add worker).1.workersOf other) :
    idle ∈ p.workersOf other ∨ idle = worker ∧ other = worker.clientID := by
  rw [workersOf_add] at member
  split at member
  · rename_i accepted
    rcases List.mem_append.mp member with old | new
    · exact Or.inl old
    · exact Or.inr ⟨List.mem_singleton.mp new, accepted.2⟩
  · exact Or.inl member

theorem workersOf_setWorkers (workers : List IdleWorkConnection) (other : String) :
    (p.setWorkers clientID workers).workersOf other =
      if other = clientID then workers else p.workersOf other := by
  by_cases gone : workers.isEmpty = true
  · simp only [setWorkers, workersOf, if_pos gone, GoMap.lookup_erase_if]
    split
    · exact (List.isEmpty_iff.mp gone).symm
    · rfl
  · simp only [setWorkers, workersOf, if_neg gone, GoMap.lookup_insert_if]
    split <;> rfl

/-- A worker that was taken stood last in its client's slice, and only that slice changes. -/
theorem take_some {p' : WorkConnectionPool} (taken : p.take clientID = (p', some worker)) :
    p.workersOf clientID = p'.workersOf clientID ++ [worker] ∧
      ∀ other, other ≠ clientID → p'.workersOf other = p.workersOf other := by
  unfold take at taken
  cases last : (p.workersOf clientID).getLast? with
  | none => simp [last] at taken
  | some found =>
      simp only [last, Prod.mk.injEq, Option.some.injEq] at taken
      obtain ⟨rfl, rfl⟩ := taken
      refine ⟨?_, fun other different => ?_⟩
      · rw [workersOf_setWorkers, if_pos rfl]
        exact (List.dropLast_append_getLast? found last).symm
      · rw [workersOf_setWorkers, if_neg different]

/-- Nothing is taken exactly from an empty slice, and then nothing changes. -/
theorem take_none {p' : WorkConnectionPool} (taken : p.take clientID = (p', none)) :
    p' = p ∧ p.workersOf clientID = [] := by
  unfold take at taken
  cases last : (p.workersOf clientID).getLast? with
  | none =>
      simp only [last, Prod.mk.injEq, and_true] at taken
      exact ⟨taken.symm, List.getLast?_eq_none_iff.mp last⟩
  | some found => simp [last] at taken

/-- Taking, successfully or not, leaves no worker that was not there before. -/
theorem mem_of_mem_take {p' : WorkConnectionPool} {result : Option IdleWorkConnection}
    (taken : p.take clientID = (p', result)) {other : String} {idle : IdleWorkConnection}
    (member : idle ∈ p'.workersOf other) : idle ∈ p.workersOf other := by
  cases result with
  | none => exact (take_none taken).1 ▸ member
  | some worker =>
      obtain ⟨whole, others⟩ := take_some taken
      by_cases same : other = clientID
      · subst same
        rw [whole]
        exact List.mem_append_left _ member
      · rw [← others other same]
        exact member

theorem workersOf_closeClient (other : String) :
    (p.closeClient clientID).1.workersOf other =
      if other = clientID then [] else p.workersOf other := by
  simp only [closeClient, workersOf, GoMap.lookup_erase_if]
  split <;> rfl

@[simp] theorem workersOf_closeAll (other : String) : p.closeAll.1.workersOf other = [] := rfl

/-- The client of every pooled worker is the key it is stored under. -/
def Keyed (p : WorkConnectionPool) : Prop :=
  ∀ clientID, ∀ worker ∈ p.workersOf clientID, worker.clientID = clientID

theorem Keyed.add (keyed : p.Keyed) : (p.add worker).1.Keyed := by
  intro clientID idle member
  rcases mem_of_mem_add member with old | ⟨rfl, same⟩
  · exact keyed clientID idle old
  · exact same.symm

theorem Keyed.take (keyed : p.Keyed) : (p.take clientID).1.Keyed := fun other idle member =>
  keyed other idle (mem_of_mem_take rfl member)

theorem Keyed.closeClient (keyed : p.Keyed) : (p.closeClient clientID).1.Keyed := by
  intro other idle member
  rw [workersOf_closeClient] at member
  split at member
  · cases member
  · exact keyed other idle member

end WorkConnectionPool

end NryNet.Relay

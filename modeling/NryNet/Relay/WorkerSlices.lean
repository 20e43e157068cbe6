import NryNet.Lib.GoSlice
import NryNet.Relay.WorkConnectionPool
import Mathlib.Data.List.ReduceOption

/-!
# The slices of the worker pool (`server/relay/work_connection_pool.go`)

`WorkConnectionPool` has a list of idle workers for each client.  The code has slices: `add` appends to
the slice of the client, in place when its array has room, and `take` overwrites the last place with the
zero worker and keeps the array for the next `add`.  Here the pool is written with headers and arrays.

The headers of different clients name different arrays (`Sound`), so no operation on one client writes
into the workers of another, and what the headers cover are workers and never the zero worker.
`toPool` reads the slices, and every operation is the one of `WorkConnectionPool` (`perform_toPool`).
-/

namespace NryNet.Relay

/-- What a place of an array holds; `none` is `idleWorkConnection{}`. -/
abbrev WorkerPlace := Option IdleWorkConnection

/-- `workConnectionPool`, with the arrays that its slices point into. -/
structure WorkConnectionSlices where
  maxIdle : ℕ
  idle : GoMap String GoSlice
  heap : GoHeap WorkerPlace

/-- A call of the pool.  When `add` needs a new array, `spare` is the room that the runtime leaves in it. -/
inductive PoolCall where
  | add (worker : IdleWorkConnection) (spare : ℕ)
  | take (clientID : String)
  | closeClient (clientID : String)
  | closeAll
  deriving DecidableEq, Repr

/-- What a call did. -/
inductive PoolEvent where
  | added (worker : IdleWorkConnection)
  | refused (worker : IdleWorkConnection)
  | taken (clientID : String) (worker : IdleWorkConnection)
  | missed (clientID : String)
  /-- the connections that were closed, by `closeClient` or by `closeAll` -/
  | closed (clientID : Option String) (workers : List IdleWorkConnection)
  deriving DecidableEq, Repr

namespace WorkConnectionSlices

/-- `newWorkConnectionPool`. -/
def newWorkConnectionPool (maxIdle : ℕ) : WorkConnectionSlices where
  maxIdle := maxIdle
  idle := ∅
  heap := ⟨[]⟩

/-- `p.idle[clientID]`; what is missing reads as a nil slice. -/
def sliceOf (p : WorkConnectionSlices) (clientID : String) : GoSlice :=
  (p.idle.lookup clientID).getD GoSlice.nil

/-- `add`. -/
def add (p : WorkConnectionSlices) (worker : IdleWorkConnection) (spare : ℕ) :
    WorkConnectionSlices × Bool :=
  let workers := p.sliceOf worker.clientID
  if workers.len ≥ p.maxIdle then (p, false)
  else
    let appended := workers.append p.heap (some worker) spare none
    ({ p with idle := p.idle.insert worker.clientID appended.2, heap := appended.1 }, true)

/-- `take`: the last place of the slice, if there is one. -/
def take (p : WorkConnectionSlices) (clientID : String) : WorkConnectionSlices × Option WorkerPlace :=
  let workers := p.sliceOf clientID
  if workers.len = 0 then (p, none)
  else
    let last := workers.len - 1
    let worker := workers.get p.heap last
    let heap := workers.set p.heap last none
    let workers := workers.reslice last
    ({ p with
        idle := if workers.len = 0 then p.idle.erase clientID else p.idle.insert clientID workers
        heap := heap }, some (worker.getD none))

/-- `closeClient`: the new pool, and the places over which the loop goes. -/
def closeClient (p : WorkConnectionSlices) (clientID : String) : WorkConnectionSlices × List WorkerPlace :=
  ({ p with idle := p.idle.erase clientID }, (p.sliceOf clientID).values p.heap)

/-- `closeAll`: the new pool, and the places over which the loops go. -/
def closeAll (p : WorkConnectionSlices) : WorkConnectionSlices × List WorkerPlace :=
  ({ p with idle := ∅ }, ((p.idle.entries.map fun entry => entry.2.values p.heap).flatten))

/-- One call.  The zero worker has no connection: to close it is a panic, and so is to use it. -/
def perform (p : WorkConnectionSlices) : PoolCall → Option (WorkConnectionSlices × PoolEvent)
  | .add worker spare =>
      let added := p.add worker spare
      some (added.1, if added.2 then .added worker else .refused worker)
  | .take clientID =>
      match p.take clientID with
      | (p', none) => some (p', .missed clientID)
      | (p', some worker) => worker.map fun worker => (p', .taken clientID worker)
  | .closeClient clientID =>
      let closed := p.closeClient clientID
      (closed.2.mapM id).map fun workers => (closed.1, .closed (some clientID) workers)
  | .closeAll =>
      let closed := p.closeAll
      (closed.2.mapM id).map fun workers => (closed.1, .closed none workers)

/-- One call after others, with what they did. -/
def runCall (state : Option (WorkConnectionSlices × List PoolEvent)) (call : PoolCall) :
    Option (WorkConnectionSlices × List PoolEvent) :=
  state.bind fun (p, events) => (p.perform call).map fun (p', event) => (p', events ++ [event])

/-- Some calls one after the other. -/
def runAll (calls : List PoolCall) (p : WorkConnectionSlices) :
    Option (WorkConnectionSlices × List PoolEvent) :=
  calls.foldl runCall (some (p, []))

end WorkConnectionSlices

/-- One call of the pool of lists. -/
def WorkConnectionPool.perform (p : WorkConnectionPool) : PoolCall → WorkConnectionPool × PoolEvent
  | .add worker _ => ((p.add worker).1, if (p.add worker).2 then .added worker else .refused worker)
  | .take clientID =>
      ((p.take clientID).1,
        match (p.take clientID).2 with
        | none => .missed clientID
        | some worker => .taken clientID worker)
  | .closeClient clientID => ((p.closeClient clientID).1, .closed (some clientID) (p.closeClient clientID).2)
  | .closeAll => (p.closeAll.1, .closed none p.closeAll.2)

namespace WorkConnectionSlices

/-- The pool that the slices stand for. -/
def toPool (p : WorkConnectionSlices) : WorkConnectionPool where
  maxIdle := p.maxIdle
  idle := p.idle.view fun _ workers => (workers.values p.heap).reduceOption

/-- Every slice covers workers in an array of its own. -/
structure Sound (p : WorkConnectionSlices) : Prop where
  stored : ∀ clientID workers, p.idle.lookup clientID = some workers → workers.array ≠ none
  valid : ∀ clientID workers, p.idle.lookup clientID = some workers → workers.Valid p.heap
  apart : ∀ clientID other workers others, clientID ≠ other → p.idle.lookup clientID = some workers →
    p.idle.lookup other = some others → workers.Apart others
  filled : ∀ clientID workers, p.idle.lookup clientID = some workers →
    none ∉ workers.values p.heap

variable {p : WorkConnectionSlices} {worker : IdleWorkConnection} {clientID : String} {spare : ℕ}

theorem sound_newWorkConnectionPool (maxIdle : ℕ) : (newWorkConnectionPool maxIdle).Sound where
  stored := fun _ _ impossible => nomatch impossible
  valid := fun _ _ impossible => nomatch impossible
  apart := fun _ _ _ _ _ impossible => nomatch impossible
  filled := fun _ _ impossible => nomatch impossible

/-! ## Reading a slice -/

/-- A list without the zero worker is a list of workers. -/
theorem map_reduceOption {places : List WorkerPlace} (filled : none ∉ places) :
    places.reduceOption.map some = places := by
  induction places with
  | nil => rfl
  | cons place rest ih =>
      rw [List.mem_cons, not_or] at filled
      cases place with
      | none => exact absurd rfl filled.1
      | some worker => rw [List.reduceOption_cons_of_some, List.map_cons, ih filled.2]

theorem reduceOption_map_some (workers : List IdleWorkConnection) :
    (workers.map some).reduceOption = workers := by
  unfold List.reduceOption
  rw [List.filterMap_map]
  exact List.filterMap_some

@[simp] theorem maxIdle_toPool (p : WorkConnectionSlices) : p.toPool.maxIdle = p.maxIdle := rfl

theorem workersOf_toPool (p : WorkConnectionSlices) (clientID : String) :
    p.toPool.workersOf clientID = ((p.sliceOf clientID).values p.heap).reduceOption := by
  unfold WorkConnectionPool.workersOf toPool sliceOf
  rw [GoMap.lookup_view]
  cases p.idle.lookup clientID <;> rfl

theorem Sound.valid_sliceOf (sound : p.Sound) (clientID : String) : (p.sliceOf clientID).Valid p.heap := by
  unfold sliceOf
  cases found : p.idle.lookup clientID with
  | none => exact GoSlice.valid_nil p.heap
  | some workers => exact sound.valid clientID workers found

/-- What a slice covers are the workers of the client. -/
theorem Sound.values_sliceOf (sound : p.Sound) (clientID : String) :
    (p.sliceOf clientID).values p.heap = (p.toPool.workersOf clientID).map some := by
  rw [workersOf_toPool]
  refine (map_reduceOption ?_).symm
  unfold sliceOf
  cases found : p.idle.lookup clientID with
  | none => exact List.not_mem_nil
  | some workers => exact sound.filled clientID workers found

theorem Sound.len_sliceOf (sound : p.Sound) (clientID : String) :
    (p.sliceOf clientID).len = (p.toPool.workersOf clientID).length := by
  rw [← GoSlice.length_values (sound.valid_sliceOf clientID), sound.values_sliceOf, List.length_map]

/-- The slice of one client is apart from those of the others. -/
theorem Sound.apart_sliceOf (sound : p.Sound) {other : String} {others : GoSlice} (different : other ≠ clientID)
    (found : p.idle.lookup other = some others) : (p.sliceOf clientID).Apart others := by
  unfold sliceOf
  cases own : p.idle.lookup clientID with
  | none => exact (sound.stored other others found).symm
  | some workers => exact sound.apart clientID other workers others (Ne.symm different) own found

/-! ## One operation on one client

`add` and `take` put one slice into the table and write into the array behind it. -/

/-- A write that the other clients do not see. -/
def Spares (p : WorkConnectionSlices) (clientID : String) (heap : GoHeap WorkerPlace) : Prop :=
  ∀ other others, other ≠ clientID → p.idle.lookup other = some others →
    others.Valid heap ∧ others.values heap = others.values p.heap

/-- A slice that is put into the table after a write. -/
structure Written (p : WorkConnectionSlices) (clientID : String) (heap : GoHeap WorkerPlace)
    (workers : GoSlice) : Prop where
  stored : workers.array ≠ none
  valid : workers.Valid heap
  filled : none ∉ workers.values heap
  apart : ∀ other others, other ≠ clientID → p.idle.lookup other = some others → workers.Apart others
  spares : Spares p clientID heap

/-- The table with the new slice. -/
theorem Sound.insert {heap : GoHeap WorkerPlace} {workers : GoSlice} (sound : p.Sound)
    (written : Written p clientID heap workers) :
    ({ p with idle := p.idle.insert clientID workers, heap := heap } : WorkConnectionSlices).Sound where
  stored := by
    intro other others found
    rw [GoMap.lookup_insert_if] at found
    split at found
    · cases found
      exact written.stored
    · exact sound.stored other others found
  valid := by
    intro other others found
    rw [GoMap.lookup_insert_if] at found
    split at found
    · cases found
      exact written.valid
    · rename_i different
      exact (written.spares other others different found).1
  apart := by
    intro first second workers' others different found also
    rw [GoMap.lookup_insert_if] at found also
    split at found
    · rename_i same
      cases found
      rw [if_neg (same ▸ Ne.symm different)] at also
      exact written.apart second others (same ▸ Ne.symm different) also
    · rename_i elsewhere
      split at also
      · cases also
        exact Ne.symm (written.apart first workers' elsewhere found)
      · exact sound.apart first second workers' others different found also
  filled := by
    intro other others found
    rw [GoMap.lookup_insert_if] at found
    split at found
    · cases found
      exact written.filled
    · rename_i different
      rw [(written.spares other others different found).2]
      exact sound.filled other others found

/-- The table without the slice, after a write to it. -/
theorem Sound.erase {heap : GoHeap WorkerPlace} (sound : p.Sound)
    (spares : Spares p clientID heap) :
    ({ p with idle := p.idle.erase clientID, heap := heap } : WorkConnectionSlices).Sound := by
  have left {other : String} {slice : GoSlice} (found : (p.idle.erase clientID).lookup other = some slice) :
      other ≠ clientID ∧ p.idle.lookup other = some slice := by
    rw [GoMap.lookup_erase_if] at found
    split at found
    · cases found
    · rename_i different
      exact ⟨different, found⟩
  refine ⟨fun other slice found => ?_, fun other slice found => ?_,
    fun first second slice slice' different found also => ?_, fun other slice found => ?_⟩
  · exact sound.stored other slice (left found).2
  · exact (spares other slice (left found).1 (left found).2).1
  · exact sound.apart first second slice slice' different (left found).2 (left also).2
  · rw [(spares other slice (left found).1 (left found).2).2]
    exact sound.filled other slice (left found).2

/-- The pool of lists sees the new slice, and the others as they were. -/
theorem toPool_insert {heap : GoHeap WorkerPlace} {workers : GoSlice}
    (written : Written p clientID heap workers)
    {list : List IdleWorkConnection} (read : (workers.values heap).reduceOption = list) :
    ({ p with idle := p.idle.insert clientID workers, heap := heap } : WorkConnectionSlices).toPool =
      { p.toPool with idle := p.toPool.idle.insert clientID list } := by
  unfold toPool
  rw [GoMap.view_insert_congr workers read fun other others different found => ?_]
  rw [(written.spares other others different found).2]

theorem toPool_erase {heap : GoHeap WorkerPlace} (spares : Spares p clientID heap) :
    ({ p with idle := p.idle.erase clientID, heap := heap } : WorkConnectionSlices).toPool =
      { p.toPool with idle := p.toPool.idle.erase clientID } := by
  unfold toPool
  simp only
  rw [← GoMap.view_erase]
  have same : GoMap.view (p.idle.erase clientID) (fun _ workers => (workers.values heap).reduceOption) =
      GoMap.view (p.idle.erase clientID) fun _ workers => (workers.values p.heap).reduceOption := by
    refine GoMap.view_congr fun other slice found => ?_
    rw [GoMap.lookup_erase_if] at found
    split at found
    · cases found
    · rename_i different
      rw [(spares other slice different found).2]
  rw [same]

theorem spares_self (p : WorkConnectionSlices) (sound : p.Sound) (clientID : String) :
    Spares p clientID p.heap :=
  fun other others _ found => ⟨sound.valid other others found, rfl⟩

/-! ## The operations -/

/-- Appending a worker to the slice of its client. -/
theorem Sound.written_append (sound : p.Sound) (clientID : String) (worker : IdleWorkConnection) (spare : ℕ) :
    Written p clientID ((p.sliceOf clientID).append p.heap (some worker) spare none).1
      ((p.sliceOf clientID).append p.heap (some worker) spare none).2 where
  stored := by
    obtain ⟨array, located, -⟩ := GoSlice.array_append p.heap (p.sliceOf clientID) (some worker) spare none
    rw [located]
    exact nofun
  valid := GoSlice.valid_append (sound.valid_sliceOf clientID)
  filled := by
    rw [GoSlice.values_append (sound.valid_sliceOf clientID), sound.values_sliceOf]
    simp
  apart := fun other others different found =>
    GoSlice.apart_append (sound.apart_sliceOf different found) (sound.valid other others found)
  spares := fun other others different found =>
    ⟨GoSlice.valid_append_of_apart (sound.apart_sliceOf different found) (sound.valid other others found),
      GoSlice.values_append_of_apart (sound.apart_sliceOf different found) (sound.valid other others found)⟩

/-- **`add` is the `add` of the lists.** -/
theorem add_toPool (sound : p.Sound) (worker : IdleWorkConnection) (spare : ℕ) :
    (p.add worker spare).1.Sound ∧ (p.add worker spare).1.toPool = (p.toPool.add worker).1 ∧
      (p.add worker spare).2 = (p.toPool.add worker).2 := by
  unfold add WorkConnectionPool.add
  simp only
  rw [sound.len_sliceOf, maxIdle_toPool]
  by_cases full : (p.toPool.workersOf worker.clientID).length ≥ p.maxIdle
  · rw [if_pos full, if_pos full]
    exact ⟨sound, rfl, rfl⟩
  · rw [if_neg full, if_neg full]
    have written := sound.written_append worker.clientID worker spare
    refine ⟨sound.insert written, ?_, rfl⟩
    refine toPool_insert written ?_
    rw [GoSlice.values_append (sound.valid_sliceOf worker.clientID), List.reduceOption_append,
      workersOf_toPool]
    rfl

/-- The slice without its last worker, after the place has been overwritten. -/
theorem Sound.spares_set (sound : p.Sound) (i : ℕ) (place : WorkerPlace) :
    Spares p clientID ((p.sliceOf clientID).set p.heap i place) :=
  fun other others different found =>
    ⟨GoSlice.valid_set_of_apart (sound.apart_sliceOf different found) (sound.valid other others found),
      GoSlice.values_set_of_apart (sound.apart_sliceOf different found)⟩

section Take

variable {rest : List IdleWorkConnection} (sound : p.Sound)
  (whole : p.toPool.workersOf clientID = rest ++ [worker])

include sound whole

/-- What is left of the slice. -/
theorem values_shrunk : ((p.sliceOf clientID).reslice rest.length).values
    ((p.sliceOf clientID).set p.heap rest.length none) = rest.map some := by
  have len := sound.len_sliceOf clientID
  rw [whole, List.length_append] at len
  rw [GoSlice.values_reslice_set (sound.valid_sliceOf clientID) (by omega), sound.values_sliceOf, whole,
    List.map_append, List.take_append_of_le_length (by rw [List.length_map]),
    List.take_of_length_le (by rw [List.length_map])]

theorem Sound.written_shrunk : Written p clientID ((p.sliceOf clientID).set p.heap rest.length none)
    ((p.sliceOf clientID).reslice rest.length) where
  stored := by
    unfold sliceOf
    cases found : p.idle.lookup clientID with
    | none =>
        have len := sound.len_sliceOf clientID
        unfold sliceOf at len
        rw [found, whole, List.length_append] at len
        cases len
    | some workers => exact sound.stored clientID workers found
  valid := by
    have len := sound.len_sliceOf clientID
    rw [whole, List.length_append] at len
    exact GoSlice.valid_reslice (GoSlice.valid_set (sound.valid_sliceOf clientID)) (by omega)
  filled := by
    rw [values_shrunk sound whole]
    simp
  apart := fun other others different found => sound.apart_sliceOf different found
  spares := sound.spares_set rest.length none

/-- The worker that is taken stood in the last place. -/
theorem take_of_append : p.take clientID =
    ({ p with
        idle := if rest = [] then p.idle.erase clientID
          else p.idle.insert clientID ((p.sliceOf clientID).reslice rest.length)
        heap := (p.sliceOf clientID).set p.heap rest.length none }, some (some worker)) := by
  have len := sound.len_sliceOf clientID
  rw [whole, List.length_append, List.length_singleton] at len
  have found : (p.sliceOf clientID).get p.heap rest.length = some (some worker) := by
    unfold GoSlice.get
    rw [sound.values_sliceOf, whole, List.map_append,
      List.getElem?_append_right (by rw [List.length_map]), List.length_map, Nat.sub_self]
    rfl
  unfold take
  simp only
  rw [len, if_neg (Nat.succ_ne_zero _), Nat.add_sub_cancel, found]
  show ({ p with
            idle := if rest.length = 0 then _ else _
            heap := _ }, _) = _
  simp only [List.length_eq_zero_iff]
  rfl

end Take

/-- **`take` is the `take` of the lists.** -/
theorem take_toPool (sound : p.Sound) (clientID : String) :
    (p.take clientID).1.Sound ∧ (p.take clientID).1.toPool = (p.toPool.take clientID).1 ∧
      (p.take clientID).2 = (p.toPool.take clientID).2.map some := by
  cases last : (p.toPool.workersOf clientID).getLast? with
  | none =>
      have len := sound.len_sliceOf clientID
      rw [List.getLast?_eq_none_iff.mp last] at len
      have missed : p.take clientID = (p, none) := if_pos len
      unfold WorkConnectionPool.take
      rw [missed, last]
      exact ⟨sound, rfl, rfl⟩
  | some worker =>
      have whole := (List.dropLast_append_getLast? worker last).symm
      unfold WorkConnectionPool.take WorkConnectionPool.setWorkers
      rw [take_of_append sound whole, last]
      have written := sound.written_shrunk whole
      by_cases emptied : (p.toPool.workersOf clientID).dropLast = []
      · simp only [emptied, if_true, List.isEmpty_nil]
        exact ⟨sound.erase (sound.spares_set _ none), toPool_erase (sound.spares_set _ none), rfl⟩
      · simp only [emptied, if_false, List.isEmpty_iff]
        refine ⟨sound.insert written, toPool_insert written ?_, rfl⟩
        rw [values_shrunk sound whole]
        exact reduceOption_map_some _

/-- **`closeClient` is the `closeClient` of the lists.** -/
theorem closeClient_toPool (sound : p.Sound) (clientID : String) :
    (p.closeClient clientID).1.Sound ∧ (p.closeClient clientID).1.toPool = (p.toPool.closeClient clientID).1 ∧
      (p.closeClient clientID).2 = (p.toPool.closeClient clientID).2.map some :=
  ⟨sound.erase (spares_self p sound clientID), toPool_erase (spares_self p sound clientID),
    sound.values_sliceOf clientID⟩

/-- **`closeAll` is the `closeAll` of the lists.** -/
theorem closeAll_toPool (sound : p.Sound) :
    p.closeAll.1.Sound ∧ p.closeAll.1.toPool = p.toPool.closeAll.1 ∧
      p.closeAll.2 = p.toPool.closeAll.2.map some := by
  refine ⟨⟨fun _ _ impossible => (nomatch impossible), fun _ _ impossible => (nomatch impossible),
    fun _ _ _ _ _ impossible => (nomatch impossible), fun _ _ impossible => (nomatch impossible)⟩, rfl, ?_⟩
  unfold closeAll WorkConnectionPool.closeAll toPool
  simp only
  rw [GoMap.valuesWhere_view, List.map_flatten, List.map_map]
  refine congrArg List.flatten (List.map_congr_left fun entry member => ?_)
  exact (map_reduceOption (sound.filled entry.1 entry.2
    (GoMap.mem_lookup_iff_mem_entries.mpr member))).symm

/-! ## Calls -/

theorem mapM_map_some (workers : List IdleWorkConnection) :
    (workers.map some).mapM id = some workers := by
  induction workers with
  | nil => rfl
  | cons worker rest ih => rw [List.map_cons, List.mapM_cons, ih]; rfl

/-- **A call of the pool of slices does not panic, and does what the pool of lists does.** -/
theorem perform_toPool (sound : p.Sound) (call : PoolCall) :
    ∃ p', p.perform call = some (p', (p.toPool.perform call).2) ∧ p'.Sound ∧
      p'.toPool = (p.toPool.perform call).1 := by
  cases call with
  | add worker spare =>
      obtain ⟨sound', same, result⟩ := add_toPool sound worker spare
      refine ⟨(p.add worker spare).1, ?_, sound', same⟩
      show some ((p.add worker spare).1, if (p.add worker spare).2 then PoolEvent.added worker
        else .refused worker) = _
      rw [result]
      rfl
  | take clientID =>
      obtain ⟨sound', same, result⟩ := take_toPool sound clientID
      rcases taken : p.take clientID with ⟨p', place⟩
      rcases found : p.toPool.take clientID with ⟨pool, worker⟩
      rw [taken] at sound' same result
      rw [found] at same result
      unfold perform WorkConnectionPool.perform
      simp only [taken, found]
      simp only at result
      subst result
      exact ⟨p', by cases worker <;> rfl, sound', same⟩
  | closeClient clientID =>
      obtain ⟨sound', same, result⟩ := closeClient_toPool sound clientID
      refine ⟨(p.closeClient clientID).1, ?_, sound', same⟩
      show ((p.closeClient clientID).2.mapM id).map _ = _
      rw [result, mapM_map_some]
      rfl
  | closeAll =>
      obtain ⟨sound', same, result⟩ := closeAll_toPool sound
      refine ⟨p.closeAll.1, ?_, sound', same⟩
      show (p.closeAll.2.mapM id).map _ = _
      rw [result, mapM_map_some]
      rfl

end WorkConnectionSlices

end NryNet.Relay

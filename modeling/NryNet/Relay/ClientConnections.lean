import NryNet.Lib.GoMap
import Mathlib.Data.Finset.Basic

/-!
# Active data channels of a client (`server/relay/client_connections.go`)

`clientConnections` keeps, for each client, the set of data channels that currently relay a
visitor, and a generation counter.  A channel captures the generation when it authenticates and
`register` refuses it once the counter has moved on; `disconnect` moves the counter, empties the
client's set and closes what was in it.

Connections are compared by pointer, so the model allocates them on a `heap` and the inner map of
`active` is a finite set of heap positions.  A position is never reused: an unregister closure that
outlives a disconnect still names its own connection and no other.  The generation is a `uint64`
counter; nothing below depends on its width, and it is a natural number here.

`ConnectionsLog` adds the history a specification needs: which closures have been called, which
connections a disconnect has removed, and which ones have had `Close` called on their two ends.
The calls of `ConnectionsLog.run` come in any order, closures any number of times.
-/

namespace NryNet.Relay

/-- An `io.Closer` the broker was handed: the agent's end of a data channel or the visitor's. -/
inductive Closer where
  | data (id : ℕ)
  | visitor (id : ℕ)
  deriving DecidableEq, Repr

/-- `activeConnection`.  The last two fields are ghosts: the client and the generation under which
the connection was registered.  No branch of the code reads them. -/
structure ActiveConnection where
  requestID : String
  data : Closer
  visitor : Closer
  clientID : String
  generation : ℕ
  deriving DecidableEq, Repr

/-- `clientConnections`, with the heap its pointers point into. -/
structure ClientConnections where
  generations : GoMap String ℕ
  active : GoMap String (Finset ℕ)
  heap : List ActiveConnection

namespace ClientConnections

/-- `newClientConnections`. -/
def newClientConnections : ClientConnections where
  generations := ∅
  active := ∅
  heap := []

/-- `generationFor`: a client without an entry is at generation zero. -/
def generationFor (c : ClientConnections) (clientID : String) : ℕ :=
  (c.generations.lookup clientID).getD 0

/-- The value of `c.active[clientID]`, a missing inner map reading as an empty one. -/
def connectionsOf (c : ClientConnections) (clientID : String) : Finset ℕ :=
  (c.active.lookup clientID).getD ∅

/-- `register`.  The result is the pointer the returned unregister closure captures, or `none`
when the generation is not the current one. -/
def register (c : ClientConnections) (clientID : String) (generation : ℕ) (requestID : String)
    (data visitor : Closer) : ClientConnections × Option ℕ :=
  if c.generationFor clientID ≠ generation then (c, none)
  else
    let connection := c.heap.length
    ({ c with
        active := c.active.insert clientID (insert connection (c.connectionsOf clientID))
        heap := c.heap ++ [⟨requestID, data, visitor, clientID, generation⟩] },
      some connection)

/-- `closeRequest`: the connections of the client that carry the request.  They are closed and
stay registered. -/
def closeRequest (c : ClientConnections) (clientID requestID : String) : Finset ℕ :=
  (c.connectionsOf clientID).filter fun connection =>
    (c.heap[connection]?).any fun record => record.requestID == requestID

/-- `remove`, the body of an unregister closure. -/
def remove (c : ClientConnections) (clientID : String) (connection : ℕ) : ClientConnections :=
  let inner := (c.connectionsOf clientID).erase connection
  { c with
    active := if inner = ∅ then c.active.erase clientID else c.active.insert clientID inner }

/-- `disconnect`: the new tables and the connections whose two ends are closed. -/
def disconnect (c : ClientConnections) (clientID : String) : ClientConnections × Finset ℕ :=
  ({ c with
      generations := c.generations.insert clientID (c.generationFor clientID + 1)
      active := c.active.erase clientID },
    c.connectionsOf clientID)

/-! ## One specification lemma for each operation -/

variable {c : ClientConnections} {clientID requestID : String} {generation connection : ℕ}
variable {data visitor : Closer}

/-- A generation other than the current one is refused and changes nothing. -/
theorem register_stale (stale : generation ≠ c.generationFor clientID) :
    c.register clientID generation requestID data visitor = (c, none) :=
  if_pos (Ne.symm stale)

/-- At the current generation a fresh connection is registered. -/
theorem register_current :
    c.register clientID (c.generationFor clientID) requestID data visitor =
      ({ c with
          active := c.active.insert clientID (insert c.heap.length (c.connectionsOf clientID))
          heap := c.heap ++ [⟨requestID, data, visitor, clientID, c.generationFor clientID⟩] },
        some c.heap.length) :=
  if_neg (not_not_intro rfl)

theorem connectionsOf_register_current (other : String) :
    (c.register clientID (c.generationFor clientID) requestID data visitor).1.connectionsOf other =
      if other = clientID then insert c.heap.length (c.connectionsOf clientID)
      else c.connectionsOf other := by
  rw [register_current]
  simp only [connectionsOf, GoMap.lookup_insert_if]
  split <;> rfl

@[simp] theorem generationFor_register (other : String) :
    (c.register clientID generation requestID data visitor).1.generationFor other =
      c.generationFor other := by
  unfold register
  split <;> rfl

@[simp] theorem generationFor_remove (other : String) :
    (c.remove clientID connection).generationFor other = c.generationFor other := rfl

@[simp] theorem heap_remove : (c.remove clientID connection).heap = c.heap := rfl

/-- Removing the last connection of a client drops its inner map. -/
theorem active_remove_last (gone : (c.connectionsOf clientID).erase connection = ∅) :
    (c.remove clientID connection).active = c.active.erase clientID := if_pos gone

theorem active_remove_of_ne (left : (c.connectionsOf clientID).erase connection ≠ ∅) :
    (c.remove clientID connection).active =
      c.active.insert clientID ((c.connectionsOf clientID).erase connection) := if_neg left

theorem connectionsOf_remove (other : String) :
    (c.remove clientID connection).connectionsOf other =
      if other = clientID then (c.connectionsOf clientID).erase connection
      else c.connectionsOf other := by
  by_cases gone : (c.connectionsOf clientID).erase connection = ∅
  · rw [connectionsOf, active_remove_last gone, GoMap.lookup_erase_if]
    split
    · exact gone.symm
    · rfl
  · rw [connectionsOf, active_remove_of_ne gone, GoMap.lookup_insert_if]
    split <;> rfl

theorem generationFor_disconnect (other : String) :
    (c.disconnect clientID).1.generationFor other =
      if other = clientID then c.generationFor clientID + 1 else c.generationFor other := by
  simp only [disconnect, generationFor, GoMap.lookup_insert_if]
  split <;> rfl

theorem connectionsOf_disconnect (other : String) :
    (c.disconnect clientID).1.connectionsOf other =
      if other = clientID then ∅ else c.connectionsOf other := by
  simp only [disconnect, connectionsOf, GoMap.lookup_erase_if]
  split <;> rfl

@[simp] theorem heap_disconnect : (c.disconnect clientID).1.heap = c.heap := rfl

@[simp] theorem closed_by_disconnect : (c.disconnect clientID).2 = c.connectionsOf clientID := rfl

/-- `active` never maps a client to an empty inner map. -/
def NoEmptyInner (c : ClientConnections) : Prop :=
  ∀ clientID, c.active.lookup clientID ≠ some ∅

theorem NoEmptyInner.register (proper : c.NoEmptyInner) :
    (c.register clientID generation requestID data visitor).1.NoEmptyInner := by
  by_cases current : generation = c.generationFor clientID
  · subst current
    intro other
    rw [register_current, GoMap.lookup_insert_if]
    split
    · simp
    · exact proper other
  · rw [register_stale current]
    exact proper

theorem NoEmptyInner.remove (proper : c.NoEmptyInner) :
    (c.remove clientID connection).NoEmptyInner := by
  intro other
  by_cases gone : (c.connectionsOf clientID).erase connection = ∅
  · rw [active_remove_last gone, GoMap.lookup_erase_if]
    split
    · simp
    · exact proper other
  · rw [active_remove_of_ne gone, GoMap.lookup_insert_if]
    split
    · simpa using gone
    · exact proper other

theorem NoEmptyInner.disconnect (proper : c.NoEmptyInner) :
    (c.disconnect clientID).1.NoEmptyInner := by
  intro other
  simp only [ClientConnections.disconnect, GoMap.lookup_erase_if]
  split
  · simp
  · exact proper other

/-- Without empty inner maps, a client with no connection has no entry at all. -/
theorem NoEmptyInner.lookup_eq_none (proper : c.NoEmptyInner)
    (empty : c.connectionsOf clientID = ∅) : c.active.lookup clientID = none := by
  cases found : c.active.lookup clientID with
  | none => rfl
  | some inner =>
      have : inner = ∅ := by simpa [connectionsOf, found] using empty
      exact absurd (this ▸ found) (proper clientID)

end ClientConnections

/-! ## Histories of calls -/

/-- The tables together with what has been done to each connection so far. -/
structure ConnectionsLog where
  state : ClientConnections
  /-- Connections whose unregister closure has been called. -/
  unregistered : Finset ℕ
  /-- Connections a `disconnect` has taken out of `active`. -/
  disconnected : Finset ℕ
  /-- Connections whose two ends have been closed by `disconnect` or `closeRequest`. -/
  closed : Finset ℕ

/-- A call on a `clientConnections`; an unregister closure is named by its connection. -/
inductive ConnectionsCall where
  | generationFor (clientID : String)
  | register (clientID : String) (generation : ℕ) (requestID : String) (data visitor : Closer)
  | unregister (connection : ℕ)
  | closeRequest (clientID requestID : String)
  | disconnect (clientID : String)

namespace ConnectionsLog

/-- The log of a fresh `clientConnections`. -/
def start : ConnectionsLog := ⟨.newClientConnections, ∅, ∅, ∅⟩

/-- One call.  A closure exists only for a connection that was registered, and it captured the
client it was registered for. -/
def call (log : ConnectionsLog) : ConnectionsCall → ConnectionsLog
  | .generationFor _ => log
  | .register clientID generation requestID data visitor =>
      { log with state := (log.state.register clientID generation requestID data visitor).1 }
  | .unregister connection =>
      match log.state.heap[connection]? with
      | none => log
      | some record =>
          { log with
            state := log.state.remove record.clientID connection
            unregistered := insert connection log.unregistered }
  | .closeRequest clientID requestID =>
      { log with closed := log.closed ∪ log.state.closeRequest clientID requestID }
  | .disconnect clientID =>
      { log with
        state := (log.state.disconnect clientID).1
        disconnected := log.disconnected ∪ (log.state.disconnect clientID).2
        closed := log.closed ∪ (log.state.disconnect clientID).2 }

/-- The log after a sequence of calls on a fresh `clientConnections`. -/
def run (calls : List ConnectionsCall) : ConnectionsLog := calls.foldl call start

/-- The connection was registered for the client. -/
def Registered (log : ConnectionsLog) (clientID : String) (connection : ℕ) : Prop :=
  ∃ record, log.state.heap[connection]? = some record ∧ record.clientID = clientID

/-- What every history of calls maintains. -/
structure Sound (log : ConnectionsLog) : Prop where
  /-- `active` holds exactly what was registered and has been neither unregistered nor
  disconnected. -/
  mem_iff : ∀ clientID connection, connection ∈ log.state.connectionsOf clientID ↔
    log.Registered clientID connection ∧ connection ∉ log.unregistered ∧
      connection ∉ log.disconnected
  /-- What is active was registered under the current generation. -/
  current : ∀ clientID connection record, connection ∈ log.state.connectionsOf clientID →
    log.state.heap[connection]? = some record →
      record.generation = log.state.generationFor clientID
  proper : log.state.NoEmptyInner
  /-- Only allocated connections have been touched. -/
  allocated : ∀ connection, connection ∈ log.unregistered ∪ log.disconnected →
    connection < log.state.heap.length
  closed_of_disconnected : log.disconnected ⊆ log.closed

variable {log : ConnectionsLog}

theorem start_sound : start.Sound where
  mem_iff := by
    intro clientID connection
    simp [start, Registered, ClientConnections.newClientConnections,
      ClientConnections.connectionsOf]
  current := by
    intro clientID connection record member
    simp [start, ClientConnections.newClientConnections,
      ClientConnections.connectionsOf] at member
  proper := by
    intro clientID
    simp [start, ClientConnections.newClientConnections]
  allocated := by simp [start]
  closed_of_disconnected := by simp [start]

/-- A connection that is active is allocated. -/
theorem Sound.lt_length (sound : log.Sound) {clientID : String} {connection : ℕ}
    (member : connection ∈ log.state.connectionsOf clientID) :
    connection < log.state.heap.length := by
  obtain ⟨⟨record, found, -⟩, -⟩ := (sound.mem_iff clientID connection).mp member
  exact (List.getElem?_eq_some_iff.mp found).1

theorem Sound.register (sound : log.Sound) (clientID : String) (generation : ℕ)
    (requestID : String) (data visitor : Closer) :
    (log.call (.register clientID generation requestID data visitor)).Sound := by
  by_cases same : generation = log.state.generationFor clientID
  swap
  · rw [call, ClientConnections.register_stale same]
    exact sound
  subst same
  have fresh : log.state.heap.length ∉ log.unregistered ∪ log.disconnected := fun member =>
    Nat.lt_irrefl _ (sound.allocated _ member)
  rw [Finset.mem_union, not_or] at fresh
  -- The new connection is the only one whose status changes; `heap.length` is its pointer.
  refine ⟨?_, ?_, sound.proper.register, ?_, sound.closed_of_disconnected⟩
  · intro other connection
    simp only [call, ClientConnections.connectionsOf_register_current]
    rw [Registered, ClientConnections.register_current]
    rcases Nat.lt_trichotomy connection log.state.heap.length with before | rfl | after
    · have unchanged := sound.mem_iff other connection
      simp only [Registered, List.getElem?_append_left before] at unchanged ⊢
      rw [← unchanged]
      split
      · rename_i same
        simp [same, Nat.ne_of_lt before]
      · rfl
    · have absent : log.state.heap.length ∉ log.state.connectionsOf other := fun member =>
        Nat.lt_irrefl _ (sound.lt_length member)
      simp only [List.getElem?_concat_length]
      split
      · rename_i same
        simp [same, fresh]
      · rename_i different
        simp [absent, Ne.symm different]
    · have absent : connection ∉ log.state.connectionsOf other := fun member =>
        Nat.lt_asymm after (sound.lt_length member)
      have unallocated : (log.state.heap ++ [⟨requestID, data, visitor, clientID,
          log.state.generationFor clientID⟩])[connection]? = none := by
        rw [List.getElem?_eq_none]
        simpa using Nat.succ_le_of_lt after
      simp only [unallocated]
      split
      · rename_i same
        subst same
        simp [absent, Nat.ne_of_gt after]
      · simp [absent]
  · intro other connection record member found
    simp only [call, ClientConnections.connectionsOf_register_current,
      ClientConnections.generationFor_register] at member ⊢
    rw [call, ClientConnections.register_current] at found
    by_cases new : connection = log.state.heap.length
    · subst new
      simp only [List.getElem?_concat_length, Option.some.injEq] at found
      subst found
      split at member
      · rename_i same
        rw [same]
      · exact absurd (sound.lt_length member) (Nat.lt_irrefl _)
    · have old : connection ∈ log.state.connectionsOf other := by
        split at member
        · rename_i same
          rw [Finset.mem_insert] at member
          exact same ▸ member.resolve_left new
        · exact member
      simp only [List.getElem?_append_left (sound.lt_length old)] at found
      exact sound.current other connection record old found
  · intro connection member
    rw [call, ClientConnections.register_current]
    have := sound.allocated connection member
    simp only [List.length_append, List.length_singleton]
    omega

theorem Sound.unregister (sound : log.Sound) (connection : ℕ) :
    (log.call (.unregister connection)).Sound := by
  cases found : log.state.heap[connection]? with
  | none => simpa [call, found] using sound
  | some record =>
      simp only [call, found]
      refine ⟨?_, ?_, sound.proper.remove, ?_, sound.closed_of_disconnected⟩
      · intro clientID other
        simp only [ClientConnections.connectionsOf_remove, Registered,
          ClientConnections.heap_remove, Finset.mem_insert, not_or]
        have unchanged := sound.mem_iff clientID other
        rw [Registered] at unchanged
        split
        · rename_i same
          subst same
          rw [Finset.mem_erase, unchanged]
          tauto
        · rename_i different
          rw [unchanged]
          constructor
          · rintro ⟨⟨record', found', owner⟩, kept, stays⟩
            refine ⟨⟨record', found', owner⟩, ⟨?_, kept⟩, stays⟩
            -- The closure's own connection belongs to another client.
            rintro rfl
            rw [found, Option.some.injEq] at found'
            exact different (owner ▸ found' ▸ rfl)
          · rintro ⟨registered, ⟨-, kept⟩, stays⟩
            exact ⟨registered, kept, stays⟩
      · intro clientID other record' member found'
        refine sound.current clientID other record' ?_ found'
        simp only [ClientConnections.connectionsOf_remove] at member
        split at member
        · rename_i same
          exact same ▸ Finset.mem_of_mem_erase member
        · exact member
      · intro other member
        simp only [Finset.mem_union, Finset.mem_insert, or_assoc] at member
        rcases member with rfl | old
        · exact (List.getElem?_eq_some_iff.mp found).1
        · exact sound.allocated other (Finset.mem_union.mpr old)

theorem Sound.disconnect (sound : log.Sound) (clientID : String) :
    (log.call (.disconnect clientID)).Sound := by
  refine ⟨?_, ?_, sound.proper.disconnect, ?_, ?_⟩
  · intro other connection
    simp only [call, ClientConnections.connectionsOf_disconnect, Registered,
      ClientConnections.heap_disconnect, ClientConnections.closed_by_disconnect,
      Finset.mem_union, not_or]
    have unchanged := sound.mem_iff other connection
    rw [Registered] at unchanged
    split
    · rename_i same
      subst same
      rw [unchanged]
      simp only [Finset.notMem_empty, false_iff]
      rintro ⟨registered, kept, stays, absent⟩
      exact absent ⟨registered, kept, stays⟩
    · rename_i different
      rw [unchanged]
      constructor
      · rintro ⟨⟨record, found, owner⟩, kept, stays⟩
        refine ⟨⟨record, found, owner⟩, kept, stays, fun member => ?_⟩
        obtain ⟨⟨record', found', owner'⟩, -⟩ := (sound.mem_iff clientID connection).mp member
        rw [found, Option.some.injEq] at found'
        exact different (owner ▸ owner' ▸ found' ▸ rfl)
      · rintro ⟨registered, kept, stays, -⟩
        exact ⟨registered, kept, stays⟩
  · intro other connection record member found
    simp only [call, ClientConnections.connectionsOf_disconnect,
      ClientConnections.generationFor_disconnect] at member ⊢
    split at member
    · simp at member
    · rename_i different
      rw [if_neg different]
      exact sound.current other connection record member found
  · intro connection member
    simp only [call, ClientConnections.closed_by_disconnect, Finset.mem_union] at member
    rcases member with old | old | closing
    · exact sound.allocated connection (Finset.mem_union_left _ old)
    · exact sound.allocated connection (Finset.mem_union_right _ old)
    · exact sound.lt_length closing
  · exact Finset.union_subset_union_left sound.closed_of_disconnected

/-- Every call keeps the history sound. -/
theorem Sound.call (sound : log.Sound) (call : ConnectionsCall) : (log.call call).Sound := by
  cases call with
  | generationFor clientID => exact sound
  | register clientID generation requestID data visitor =>
      exact sound.register clientID generation requestID data visitor
  | unregister connection => exact sound.unregister connection
  | closeRequest clientID requestID =>
      exact ⟨sound.mem_iff, sound.current, sound.proper, sound.allocated,
        sound.closed_of_disconnected.trans Finset.subset_union_left⟩
  | disconnect clientID => exact sound.disconnect clientID

/-- Every sequence of calls is sound. -/
theorem run_sound (calls : List ConnectionsCall) : (run calls).Sound := by
  induction calls using List.reverseRecOn with
  | nil => exact start_sound
  | append_singleton calls last hypothesis =>
      rw [run, List.foldl_append]
      exact hypothesis.call last

/-- An unregister closure takes its own connection out of `active` and nothing else. -/
theorem Sound.mem_unregister (sound : log.Sound) (connection : ℕ) (clientID : String)
    (other : ℕ) :
    other ∈ (log.call (.unregister connection)).state.connectionsOf clientID ↔
      other ∈ log.state.connectionsOf clientID ∧ other ≠ connection := by
  rw [(sound.unregister connection).mem_iff, sound.mem_iff]
  cases found : log.state.heap[connection]? with
  | none =>
      simp only [ConnectionsLog.call, found]
      constructor
      · rintro ⟨⟨record, allocated, owner⟩, kept⟩
        refine ⟨⟨⟨record, allocated, owner⟩, kept⟩, ?_⟩
        rintro rfl
        rw [found] at allocated
        cases allocated
      · rintro ⟨kept, -⟩
        exact kept
  | some record =>
      simp only [ConnectionsLog.call, found, Registered, ClientConnections.heap_remove,
        Finset.mem_insert, not_or]
      tauto

/-- **The `clientConnections` invariant.**  After any sequence of calls: what is active for a
client was registered under its current generation; another generation is refused without effect;
`disconnect` closes exactly the client's connections that are registered and not yet unregistered
(those an earlier disconnect removed had been closed by it); a closure removes only its own
connection; and no inner map is empty. -/
theorem clientConnections_invariant (calls : List ConnectionsCall) :
    (∀ clientID connection, connection ∈ (run calls).state.connectionsOf clientID →
      ∃ record, (run calls).state.heap[connection]? = some record ∧
        record.clientID = clientID ∧
        record.generation = (run calls).state.generationFor clientID) ∧
    (∀ clientID generation requestID data visitor,
      generation ≠ (run calls).state.generationFor clientID →
      (run calls).state.register clientID generation requestID data visitor =
        ((run calls).state, none)) ∧
    (∀ clientID connection,
      (connection ∈ ((run calls).state.disconnect clientID).2 ↔
        (run calls).Registered clientID connection ∧ connection ∉ (run calls).unregistered ∧
          connection ∉ (run calls).disconnected) ∧
      (connection ∈ ((run calls).call (.disconnect clientID)).closed ↔
        connection ∈ (run calls).closed ∨
          ((run calls).Registered clientID connection ∧
            connection ∉ (run calls).unregistered))) ∧
    (∀ connection clientID other,
      other ∈ ((run calls).call (.unregister connection)).state.connectionsOf clientID ↔
        other ∈ (run calls).state.connectionsOf clientID ∧ other ≠ connection) ∧
    (∀ clientID, (run calls).state.active.lookup clientID ≠ some ∅) := by
  have sound := run_sound calls
  refine ⟨?_, ?_, ?_, sound.mem_unregister, sound.proper⟩
  · intro clientID connection member
    obtain ⟨⟨record, found, owner⟩, -⟩ := (sound.mem_iff clientID connection).mp member
    exact ⟨record, found, owner, sound.current clientID connection record member found⟩
  · intro clientID generation requestID data visitor stale
    exact ClientConnections.register_stale stale
  · intro clientID connection
    have closes := sound.mem_iff clientID connection
    refine ⟨closes, ?_⟩
    simp only [ConnectionsLog.call, ClientConnections.closed_by_disconnect, Finset.mem_union]
    rw [closes]
    have already := @sound.closed_of_disconnected connection
    tauto

end ConnectionsLog

end NryNet.Relay

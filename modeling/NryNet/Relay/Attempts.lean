import NryNet.Relay.Generations

/-!
# Attempts at one visitor (`server/relay/connection_failures.go`)

A visitor may be offered to its agent more than once: to an idle worker, by an `open_connection`, and
by another one when the agent comes back.  Whoever claims it first relays it; the others find it gone
and close their own connection.  But an attempt that fails reports the request ID and nothing else,
and `Fail` closes every active connection that carries it.

Which attempt a report comes from is not written down anywhere, so it is a note of the goroutine
here: `attempts` is the data plane in which a goroutine may carry the data connection of the attempt
it runs for.  A worker's own connection is known; the note of a `connection_failed` that arrives is
the environment's.

`finishWorkConnection` calls `Fail` first and closes its worker when that has returned, which is the last
step of a report here.

The code does what it should exactly as long as the winner is not registered among the active
connections when the `closeRequest` of another attempt runs (`Apart`): it has claimed the visitor but
not got to `register` yet, or its relay has ended.
-/

namespace NryNet.Relay

open ThreadPool

/-! ## The model -/

/-- The attempt a goroutine runs for. -/
def Goroutine.attempt : Goroutine → Option Closer → Option Closer
  | .assign worker _, _ => some worker.conn
  | _, note => note

/-- The data plane, with the attempts its goroutines run for. -/
def attempts : Machine Broker (Goroutine × Option Closer) Choice :=
  dataPlane.annotate Goroutine.attempt none

def attemptsStart (store : Store) (now : Time) : Config Broker (Goroutine × Option Closer) where
  shared := .newBroker store now
  threads := []

/-- The client and the request of a failure report: `Fail`, and what its caller does after it. -/
def Goroutine.reports : Goroutine → Option (String × String)
  | .fail clientID requestID _ _ | .failSend clientID requestID _ _ _
  | .failClose clientID requestID _ | .failed clientID requestID _ => some (clientID, requestID)
  | _ => none

/-- The worker that was not ready, for which `finishWorkConnection` calls `Fail`. -/
def Goroutine.worker : Goroutine → Option Closer
  | .fail _ _ _ worker | .failSend _ _ _ _ worker | .failClose _ _ worker | .failed _ _ worker =>
      worker
  | _ => none

/-- What the caller of `Fail` closes itself: the worker, when `Fail` has returned. -/
def Goroutine.spent : Goroutine → List Closer
  | .failed _ _ worker => worker.toList
  | _ => []

/-- A visitor of the client was claimed under this request ID, by this data connection. -/
def Broker.Claimed (b : Broker) (clientID requestID : String) (conn : Closer) : Prop :=
  ∃ record ∈ b.entries, record.requestID = requestID ∧ record.tunnel.clientID = clientID ∧
    ∃ generation current, .claimed conn generation current ∈ record.removals

/-- Request IDs are drawn by `uuid.NewString`, which returns none of them again.  When a `Fail` gets
to its `closeRequest`, no other attempt has an active connection for the request. -/
def Apart (config : Config Broker (Goroutine × Option Closer)) : Goroutine × Option Closer → Prop
  | (.visitor requestID _ _ _, _) => ∀ record ∈ config.shared.entries, record.requestID ≠ requestID
  | (.failClose clientID requestID _, note) =>
      ∀ connection ∈ config.shared.connections.connectionsOf clientID,
        ∀ active ∈ config.shared.connections.heap[connection]?, active.requestID = requestID →
          note = some active.data
  | _ => True

instance (config : Config Broker (Goroutine × Option Closer)) (thread : Goroutine × Option Closer) :
    Decidable (Apart config thread) := by
  unfold Apart
  split <;> infer_instance

/-! ## The table of entries

Entries keep their request ID and their tunnel, and what was noted about their removal. -/

/-- The entries of one list go on in another one. -/
structure Extends (entries entries' : List PendingConn) : Prop where
  requests : entries'.map PendingConn.requestID = entries.map PendingConn.requestID
  records : ∀ (entry : ℕ) record, entries[entry]? = some record →
    ∃ record', entries'[entry]? = some record' ∧ record'.requestID = record.requestID ∧
      record'.tunnel = record.tunnel ∧ ∀ reason ∈ record.removals, reason ∈ record'.removals

namespace Extends

variable {b b' : Broker} {entry : ℕ} {requestID clientID : String}

theorem refl (entries : List PendingConn) : Extends entries entries :=
  ⟨rfl, fun _ record located => ⟨record, located, rfl, rfl, fun _ => id⟩⟩

theorem modify {set : PendingConn → PendingConn}
    (keeps : ∀ record, (set record).requestID = record.requestID ∧
      (set record).tunnel = record.tunnel ∧ ∀ reason ∈ record.removals, reason ∈ (set record).removals) :
    Extends b.entries (b.entries.modify entry set) := by
  constructor
  · apply List.ext_getElem?
    intro position
    rw [List.getElem?_map, List.getElem?_map, List.getElem?_modify]
    cases b.entries[position]? with
    | none => rfl
    | some record =>
        show some _ = some _
        split
        · exact congrArg some (keeps record).1
        · rfl
  · intro position record located
    rw [List.getElem?_modify, located]
    refine ⟨_, rfl, ?_⟩
    split
    · exact keeps record
    · exact ⟨rfl, rfl, fun _ => id⟩

theorem removePending (requestID : String) {reason : Removal} :
    Extends b.entries (b.removePending requestID entry reason).entries :=
  modify fun _ => ⟨rfl, rfl, fun _ => List.mem_append_left _⟩

theorem sendDone {result : GoError} (sent : b.sendDone entry result = some b') :
    Extends b.entries b'.entries := by
  unfold Broker.sendDone at sent
  split at sent
  · cases sent
  · split at sent
    · cases sent
      exact modify fun _ => ⟨rfl, rfl, fun _ => id⟩
    · cases sent

theorem trySendDone {result : GoError} :
    Extends b.entries (b.trySendDone entry result).entries := by
  unfold Broker.trySendDone
  cases sent : b.sendDone entry result with
  | none => exact refl _
  | some broker => exact sendDone sent

theorem receiveDone {result : GoError} (received : b.receiveDone entry = some (b', result)) :
    Extends b.entries b'.entries := by
  unfold Broker.receiveDone at received
  split at received
  · cases received
  · split at received
    · cases received
    · cases received
      exact modify fun _ => ⟨rfl, rfl, fun _ => id⟩

theorem trans {first second third : List PendingConn} (earlier : Extends first second)
    (later : Extends second third) : Extends first third := by
  refine ⟨later.requests.trans earlier.requests, fun entry record located => ?_⟩
  obtain ⟨middle, between, request, tunnel, removals⟩ := earlier.records entry record located
  obtain ⟨last, located', request', tunnel', removals'⟩ := later.records entry middle between
  exact ⟨last, located', request'.trans request, tunnel'.trans tunnel,
    fun reason member => removals' reason (removals reason member)⟩

theorem claim {conn : Closer} {generation : ℕ}
    (claimed : b.claimPendingForClient conn clientID requestID generation = .ok (b', entry)) :
    Extends b.entries b'.entries := by
  obtain ⟨record, -, -, -, rfl⟩ := Broker.claimPendingForClient_ok claimed
  exact trans (removePending requestID) (modify fun _ => ⟨rfl, rfl, fun _ => id⟩)

theorem failPendingClient : Extends b.entries (b.failPendingClient clientID).entries := by
  constructor
  · apply List.ext_getElem?
    intro position
    rw [List.getElem?_map, List.getElem?_map, Broker.entries_failPendingClient]
    cases b.entries[position]? with
    | none => rfl
    | some record =>
        show some _ = some _
        split <;> rfl
  · intro position record located
    rw [Broker.entries_failPendingClient, located]
    refine ⟨_, rfl, ?_⟩
    split
    · exact ⟨rfl, rfl, fun _ => List.mem_append_left _⟩
    · exact ⟨rfl, rfl, fun _ => id⟩

end Extends

section Actions

variable {b b' : Broker} {goroutine goroutine' : Goroutine} {spawned : List Goroutine}

/-- Entries go on, and a visitor brings a new one. -/
theorem action_extends (action : Action b goroutine b' goroutine' spawned) :
    Extends b.entries b'.entries ∨
    ∃ requestID conn tunnel caller, goroutine = .visitor requestID conn tunnel caller ∧
      b'.entries = b.entries ++ [⟨requestID, conn, tunnel, 0, none, 0, 0, 0, []⟩] := by
  cases action with
  | claim claimed => exact Or.inl (.claim claimed)
  | complete sent => exact Or.inl (.sendDone sent)
  | @visitor requestID conn tunnel caller b' entry registered =>
      refine Or.inr ⟨requestID, conn, tunnel, caller, rfl, ?_⟩
      unfold Broker.registerPending at registered
      split at registered
      · cases registered
      · split at registered <;> cases registered
        rfl
  | waitDone received => exact Or.inl (.receiveDone received)
  | awaitDone received => exact Or.inl (.receiveDone received)
  | @timeOut entry requestID conns present => exact Or.inl (.removePending requestID)
  | @cancel entry requestID conns present => exact Or.inl (.removePending requestID)
  | @fail clientID requestID entry cause cause' worker present =>
      exact Or.inl (.removePending requestID)
  | failSend clientID requestID cause entry worker conns => exact Or.inl .trySendDone
  | failClient clientID next => exact Or.inl .failPendingClient
  | failOne clientID next conns listed => exact Or.inl .trySendDone
  | _ => exact Or.inl (.refl _)

/-- An entry that was there is there after an action, and no removal of it is forgotten. -/
theorem entry_of_action (action : Action b goroutine b' goroutine' spawned) {entry : ℕ}
    {record : PendingConn} (located : b.entries[entry]? = some record) :
    ∃ record', b'.entries[entry]? = some record' ∧ record'.requestID = record.requestID ∧
      record'.tunnel = record.tunnel ∧ ∀ reason ∈ record.removals, reason ∈ record'.removals := by
  rcases action_extends action with extends' | ⟨requestID, conn, tunnel, caller, -, appended⟩
  · exact extends'.records entry record located
  · refine ⟨record, ?_, rfl, rfl, fun _ => id⟩
    rw [appended, List.getElem?_append_left (List.getElem?_eq_some_iff.mp located).1]
    exact located

theorem Broker.Claimed.action {clientID requestID : String} {conn : Closer}
    (claimed : b.Claimed clientID requestID conn)
    (action : Action b goroutine b' goroutine' spawned) : b'.Claimed clientID requestID conn := by
  obtain ⟨record, member, request, client, generation, current, removed⟩ := claimed
  obtain ⟨entry, located⟩ := List.mem_iff_getElem?.mp member
  obtain ⟨record', located', request', tunnel, kept⟩ := entry_of_action action located
  refine ⟨record', List.mem_of_getElem? located', request'.trans request, ?_, generation, current,
    kept _ removed⟩
  rw [tunnel]
  exact client

/-! ## The invariant -/

/-- What the goroutine has done to its entry is noted there. -/
def Goroutine.Backed (b : Broker) : Goroutine → Prop
  | .relayPending conn entry => ∃ record, b.entries[entry]? = some record ∧
      ∃ generation current, .claimed conn generation current ∈ record.removals
  | .failSend _ requestID _ entry _ => ∃ record, b.entries[entry]? = some record ∧
      record.requestID = requestID ∧ .failed ∈ record.removals
  | _ => True

/-- Request IDs are not used twice, and every active connection has claimed a visitor. -/
structure Traced (b : Broker) : Prop where
  keyed : b.Keyed
  distinct : (b.entries.map PendingConn.requestID).Nodup
  channels : ∀ clientID, ∀ connection ∈ b.connections.connectionsOf clientID,
    ∃ active, b.connections.heap[connection]? = some active ∧
      b.Claimed clientID active.requestID active.data

theorem Goroutine.Backed.action {other : Goroutine} (backed : other.Backed b)
    (action : Action b goroutine b' goroutine' spawned) : other.Backed b' := by
  cases other with
  | relayPending conn entry =>
      obtain ⟨record, located, generation, current, claimed⟩ := backed
      obtain ⟨record', located', -, -, kept⟩ := entry_of_action action located
      exact ⟨record', located', generation, current, kept _ claimed⟩
  | failSend clientID requestID cause entry worker =>
      obtain ⟨record, located, request, failed⟩ := backed
      obtain ⟨record', located', request', -, kept⟩ := entry_of_action action located
      exact ⟨record', located', request'.trans request, kept _ failed⟩
  | _ => trivial

/-- What an action leaves to be done is noted in the entry. -/
theorem backed_of_action (keyed : b.Keyed) (action : Action b goroutine b' goroutine' spawned) :
    goroutine'.Backed b' ∧ ∀ fresh ∈ spawned, fresh.Backed b' := by
  have alone : ∀ fresh ∈ ([] : List Goroutine), fresh.Backed b' := fun _ member => by
    cases member
  cases action with
  | @claim conn clientID requestID generation entry b' claimed =>
      refine ⟨?_, alone⟩
      obtain ⟨record, -, located, -, rfl⟩ := Broker.claimPendingForClient_ok claimed
      refine ⟨{ record with
        connectionGeneration := generation
        paired := record.paired + 1
        removals := record.removals ++
          [.claimed conn generation (b.connections.generationFor clientID)] },
        ?_, generation, b.connections.generationFor clientID, ?_⟩
      · simp only [Broker.modifyEntry, Broker.removePending, List.getElem?_modify_eq, located]
        rfl
      · exact List.mem_append_right _ List.mem_cons_self
  | @fail clientID requestID entry cause cause' worker present =>
      refine ⟨?_, alone⟩
      obtain ⟨record, located, request⟩ := keyed requestID entry present
      refine ⟨{ record with removals := record.removals ++ [.failed] }, ?_, request, ?_⟩
      · simp only [Broker.removePending, List.getElem?_modify_eq, located]
        rfl
      · exact List.mem_append_right _ List.mem_cons_self
  | lookup other looking stepped =>
      refine ⟨?_, alone⟩
      cases goroutine <;> trivial
  | visitor caller registered =>
      refine ⟨?_, alone⟩
      cases caller <;> trivial
  | takeWorker located taken =>
      refine ⟨trivial, fun fresh member => ?_⟩
      rw [List.mem_singleton.mp member]
      trivial
  | failReturns clientID next =>
      refine ⟨?_, alone⟩
      cases next <;> trivial
  | _ => exact ⟨trivial, alone⟩

/-- **One action keeps the invariant**, if a visitor brings a new request ID. -/
theorem traced_of_action (traced : Traced b) (backed : goroutine.Backed b)
    (drawn : ∀ requestID conn tunnel caller, goroutine = .visitor requestID conn tunnel caller →
      ∀ record ∈ b.entries, record.requestID ≠ requestID)
    (action : Action b goroutine b' goroutine' spawned) : Traced b' := by
  refine ⟨action_keyed action traced.keyed, ?_, ?_⟩
  · rcases action_extends action with extends' | ⟨requestID, conn, tunnel, caller, rfl, appended⟩
    · rw [extends'.requests]
      exact traced.distinct
    · rw [appended]
      exact Table.nodup_insert traced.distinct (drawn requestID conn tunnel caller rfl)
  · intro clientID connection member
    have kept (old : connection ∈ b.connections.connectionsOf clientID)
        (heap : ∀ active, b.connections.heap[connection]? = some active →
          b'.connections.heap[connection]? = some active) :
        ∃ active, b'.connections.heap[connection]? = some active ∧
          b'.Claimed clientID active.requestID active.data := by
      obtain ⟨active, located, claimed⟩ := traced.channels clientID connection old
      exact ⟨active, heap active located, claimed.action action⟩
    rcases action_connections action with same | ⟨conn, entry, record, rfl, located, current, same⟩ |
      ⟨owner, removed, same⟩ | ⟨owner, next, -, -, -, same⟩
    · rw [same] at member
      refine kept member fun active => ?_
      rw [same]
      exact fun found => found
    · rw [current, ClientConnections.register_current] at same
      have heap : b'.connections.heap = b.connections.heap ++
          [⟨record.requestID, conn, record.visitor, record.tunnel.clientID,
            b.connections.generationFor record.tunnel.clientID⟩] := by
        rw [same]
      have old (active : ActiveConnection) (found : b.connections.heap[connection]? = some active) :
          b'.connections.heap[connection]? = some active := by
        rw [heap, List.getElem?_append_left (List.getElem?_eq_some_iff.mp found).1]
        exact found
      rw [same, ← ClientConnections.register_current, ClientConnections.connectionsOf_register_current]
        at member
      split at member
      · rename_i own
        rcases Finset.mem_insert.mp member with new | earlier
        · -- the channel that has just been registered has claimed its entry
          obtain ⟨claimed, found, generation, moment, removed⟩ := backed
          rw [located] at found
          cases found
          have claimed : b.Claimed clientID record.requestID conn :=
            ⟨record, List.mem_of_getElem? located, rfl, own.symm, generation, moment, removed⟩
          refine ⟨⟨record.requestID, conn, record.visitor, record.tunnel.clientID,
            b.connections.generationFor record.tunnel.clientID⟩, ?_, claimed.action action⟩
          rw [heap, new]
          exact List.getElem?_concat_length
        · rw [← own] at earlier
          exact kept earlier old
      · exact kept member old
    · rw [same, ClientConnections.connectionsOf_remove] at member
      refine kept ?_ fun active => ?_
      · split at member
        · rename_i own
          rw [own]
          exact Finset.mem_of_mem_erase member
        · exact member
      · rw [same]
        exact fun found => found
    · rw [same, ClientConnections.connectionsOf_disconnect] at member
      refine kept ?_ fun active => ?_
      · split at member
        · cases member
        · exact member
      · rw [same]
        exact fun found => found

/-- What a step of a failure report closes. -/
theorem closed_of_reports {choice : Choice} {clientID requestID : String}
    (reports : goroutine.reports = some (clientID, requestID))
    (stepped : b.step goroutine choice = some (b', goroutine', spawned)) :
    b'.closed = b.closed ++ goroutine.spent ∨
    (∃ cause entry worker, goroutine = .failSend clientID requestID cause entry worker) ∨
    (∃ worker, goroutine = .failClose clientID requestID worker ∧
      b'.closed = b.closed ++ b.endsOf (b.connections.closeRequest clientID requestID)) := by
  cases goroutine with
  | fail client request cause worker =>
      cases reports
      refine Or.inl ((?_ : b'.closed = b.closed).trans (List.append_nil _).symm)
      cases choice with
      | go =>
          have ran : b.run (.fail clientID requestID cause worker) =
              some (b', goroutine', spawned) := stepped
          rw [Broker.run] at ran
          split at ran
          · cases ran
            rfl
          · split at ran <;> cases ran
            · rename_i failed
              obtain ⟨-, rfl⟩ := Broker.failPending_some failed
              rfl
            · rfl
      | _ => cases stepped
  | failSend client request cause entry worker =>
      cases reports
      exact Or.inr (Or.inl ⟨cause, entry, worker, rfl⟩)
  | failClose client request worker =>
      cases reports
      cases choice <;> cases stepped
      exact Or.inr (Or.inr ⟨worker, rfl, rfl⟩)
  | failed client request worker =>
      cases reports
      cases choice <;> cases stepped
      exact Or.inl rfl
  | _ => cases reports

/-- A worker that `Fail` is called for is the attempt its goroutine runs for. -/
theorem worker_of_action (action : Action b goroutine b' goroutine' spawned) {note : Option Closer}
    (own : ∀ worker ∈ goroutine.worker, note = some worker) :
    (∀ worker ∈ goroutine'.worker, goroutine.attempt note = some worker) ∧
      ∀ fresh ∈ spawned, fresh.worker = none := by
  have alone : ∀ fresh ∈ ([] : List Goroutine), fresh.worker = none := fun _ member => by
    cases member
  have free (none : goroutine'.worker = none) :
      ∀ worker ∈ goroutine'.worker, goroutine.attempt note = some worker := fun worker member => by
    rw [none] at member
    cases member
  cases action with
  | refused worker entry requestID cause => exact ⟨fun _ member => member, alone⟩
  | fail cause cause' worker present => exact ⟨own, alone⟩
  | failMissing clientID requestID cause worker => exact ⟨own, alone⟩
  | failUnnamed clientID requestID cause worker => exact ⟨own, alone⟩
  | failSend clientID requestID cause entry worker conns => exact ⟨own, alone⟩
  | failClose clientID requestID worker conns => exact ⟨own, alone⟩
  | lookup other looking stepped =>
      refine ⟨free ?_, alone⟩
      cases goroutine <;> first | rfl | cases looking
  | visitor caller registered =>
      refine ⟨free ?_, alone⟩
      cases caller <;> rfl
  | takeWorker located taken =>
      refine ⟨free rfl, fun fresh member => ?_⟩
      rw [List.mem_singleton.mp member]
      rfl
  | failReturns clientID next =>
      refine ⟨free ?_, alone⟩
      cases next <;> rfl
  | _ => exact ⟨free rfl, alone⟩

end Actions

/-! ## Every run -/

section Runs

variable {store : Store} {now : Time} {config : Config Broker (Goroutine × Option Closer)}

theorem traced_of_apart
    (reached : attempts.Run (Machine.AtStep Apart) (attemptsStart store now) config) :
    Traced config.shared ∧ ∀ thread ∈ config.threads, thread.1.Backed config.shared := by
  refine reached.pool_invariant Traced (fun b thread => thread.1.Backed b) ?_ ?_ ?_
  · refine ⟨⟨fun _ _ found => (nomatch found), List.nodup_nil, ?_⟩, fun _ member => (nomatch member)⟩
    intro clientID connection member
    cases member
  · rintro b ⟨goroutine, note⟩ - arrives
    cases goroutine <;> first | exact trivial | cases arrives
  · intro config index choice thread b' thread' spawned traced backed present apart stepped
    obtain ⟨spawned', below, -, rfl⟩ := Machine.of_annotate_step stepped
    have action := Broker.action_of_step below
    have own := backed thread (List.mem_of_getElem? present)
    obtain ⟨next, born⟩ := backed_of_action traced.keyed action
    refine ⟨traced_of_action traced own ?_ action, next, ?_, ?_⟩
    · intro requestID conn tunnel caller visitor
      have drawn := apart thread present
      rw [← Prod.mk.eta (p := thread), visitor] at drawn
      exact drawn
    · intro fresh member
      obtain ⟨spawned, isSpawned, rfl⟩ := List.mem_map.mp member
      exact born spawned isSpawned
    · intro other _ other'
      exact other'.action action

/-- In every run a worker that `Fail` is called for is the attempt of its goroutine. -/
theorem worker_of_run {allowed : Config Broker (Goroutine × Option Closer) →
      Move (Goroutine × Option Closer) Choice → Prop}
    (reached : attempts.Run allowed (attemptsStart store now) config) :
    ∀ thread ∈ config.threads, ∀ worker ∈ thread.1.worker, thread.2 = some worker := by
  refine (reached.pool_invariant (fun _ => True)
    (fun _ thread => ∀ worker ∈ thread.1.worker, thread.2 = some worker) ?_ ?_ ?_).2
  · exact ⟨trivial, fun _ member => (nomatch member)⟩
  · rintro b ⟨goroutine, note⟩ - arrives worker member
    cases goroutine with
    | fail clientID requestID cause carried =>
        cases carried with
        | none => cases member
        | some own => cases arrives
    | failSend clientID requestID cause entry carried => cases arrives
    | failClose clientID requestID carried => cases arrives
    | failed clientID requestID carried => cases arrives
    | _ => cases member
  · intro config index choice thread b' thread' spawned _ carried present _ stepped
    obtain ⟨spawned', below, renewed, rfl⟩ := Machine.of_annotate_step stepped
    have own := carried thread (List.mem_of_getElem? present)
    obtain ⟨next, born⟩ := worker_of_action (Broker.action_of_step below) own
    refine ⟨trivial, fun worker member => renewed.trans (next worker member), ?_, ?_⟩
    · intro fresh member worker own
      obtain ⟨spawned, isSpawned, rfl⟩ := List.mem_map.mp member
      rw [born spawned isSpawned] at own
      cases own
    · intro other _ other'
      exact other'

/-- Two entries with one request ID are the same entry. -/
theorem Traced.eq_of_request {b : Broker} (traced : Traced b) {record other : PendingConn}
    (member : record ∈ b.entries) (present : other ∈ b.entries)
    (same : record.requestID = other.requestID) : record = other :=
  Table.eq_of_column_eq traced.distinct member present same

/-- An entry is removed once. -/
theorem eq_of_removals
    (reached : attempts.Run (Machine.AtStep Apart) (attemptsStart store now) config)
    {record : PendingConn} (member : record ∈ config.shared.entries) {reason other : Removal}
    (first : reason ∈ record.removals) (second : other ∈ record.removals) : reason = other := by
  obtain ⟨entry, located⟩ := List.mem_iff_getElem?.mp member
  obtain ⟨once, -⟩ := pending_lifecycle reached.erase entry record located
  split at once
  · rw [once] at first
    cases first
  · obtain ⟨only, removals⟩ := once
    rw [removals, List.mem_singleton] at first second
    rw [first, second]

/-- What the caller of `Fail` closes is a worker it was called for. -/
theorem Goroutine.worker_of_spent {goroutine : Goroutine} {own : Closer}
    (member : own ∈ goroutine.spent) : own ∈ goroutine.worker := by
  cases goroutine with
  | failed clientID requestID worker => exact Option.mem_toList.mp member
  | _ => cases member

/-- **A losing attempt spares the winner.**  In every run in which no other attempt has an active
connection for the request when a `Fail` gets to its `closeRequest`: once a data connection has
claimed a visitor, no step of a failure report that another attempt causes for the same request closes
anything, but for the worker that was not ready, which is the connection of that attempt. -/
theorem losing_attempt_spares_winner
    (reached : attempts.Run (Machine.AtStep Apart) (attemptsStart store now) config)
    {next : Config Broker (Goroutine × Option Closer)} {index : ℕ} {choice : Choice}
    (permitted : Machine.AtStep Apart config (.run index choice))
    (moved : attempts.exec config (.run index choice) = some next)
    {goroutine : Goroutine} {note : Option Closer}
    (present : config.threads[index]? = some (goroutine, note)) {clientID requestID : String}
    (reports : goroutine.reports = some (clientID, requestID)) {conn : Closer}
    (claimed : config.shared.Claimed clientID requestID conn) (other : note ≠ some conn) :
    next.shared.closed = config.shared.closed ++ goroutine.spent ∧
      (∀ own ∈ goroutine.spent, note = some own) ∧ conn ∉ goroutine.spent := by
  have mine : ∀ own ∈ goroutine.spent, note = some own := fun own member =>
    worker_of_run reached _ (List.mem_of_getElem? present) own (Goroutine.worker_of_spent member)
  refine ⟨?_, mine, fun member => other (mine conn member)⟩
  obtain ⟨traced, backed⟩ := traced_of_apart reached
  obtain ⟨record, member, request, client, generation, current, removed⟩ := claimed
  obtain ⟨thread, b', thread', spawned, present', stepped, rfl⟩ := Machine.exec_run moved
  rw [present] at present'
  cases present'
  obtain ⟨spawned', below, -, -⟩ := Machine.of_annotate_step stepped
  rcases closed_of_reports reports below with same | ⟨cause, entry, worker, rfl⟩ | ⟨worker, rfl, closes⟩
  · exact same
  · -- the entry was removed by the failure, so nobody has claimed it
    obtain ⟨failing, located, request', failed⟩ := backed _ (List.mem_of_getElem? present)
    have same := traced.eq_of_request (List.mem_of_getElem? located) member
      (request'.trans request.symm)
    subst same
    cases eq_of_removals reached member failed removed
  · have none : config.shared.connections.closeRequest clientID requestID = ∅ := by
      rw [Finset.eq_empty_iff_forall_notMem]
      intro connection selected
      obtain ⟨active', own⟩ := Finset.mem_filter.mp selected
      obtain ⟨active, located, claimed⟩ := traced.channels clientID connection active'
      rw [located] at own
      have carries : active.requestID = requestID := by simpa using own
      have reporter : note = some active.data :=
        permitted _ present connection active' active located carries
      -- the channel has claimed the same visitor as the winner, so it is the winner
      obtain ⟨record', member', request', -, generation', current', removed'⟩ := claimed
      have same := traced.eq_of_request member' member
        (request'.trans (carries.trans request.symm))
      subst same
      cases eq_of_removals reached member removed removed'
      exact other reporter
    rw [closes, none]
    unfold Broker.endsOf
    simp [Goroutine.spent]

end Runs

/-- A move of the data plane, made for no attempt in particular. -/
def unnoted : Move Goroutine Choice → Move (Goroutine × Option Closer) Choice
  | .arrive goroutine => .arrive (goroutine, none)
  | .run index choice => .run index choice

/-- An idle worker is offered the visitor.  Before it answers, a stream for the same request claims
the visitor, as goroutine 3; the worker has left the client record in the cache. -/
def offeredTwice : List (Move Goroutine Choice) :=
  workerMoves 0 ++ [.run 0 .go] ++ visitorMoves 1 .tryAndWait ++ [.run 1 .go, .run 1 .go] ++
    [.arrive (.stream (.data 1) ⟨"token-1", "device-1", "request-1"⟩), .run 3 .go,
      .run 3 (.lookup .proceed), .run 3 .go] ++
    loadMoves 3 ++ [.run 3 .go, .run 3 .go]

/-- The worker answers that it is not ready, and its failure is reported up to `closeRequest`. -/
def refusedMoves : List (Move Goroutine Choice) :=
  [.run 2 (.started (.refused "connection refused")), .run 2 .go]

/-- The stream has claimed the visitor and is relaying it when the worker answers that it is not
ready: `Fail` closes the stream and the visitor, and then the worker is closed. -/
theorem winner_killed_by_worker :
    ∃ config goroutine next last,
      attempts.Reachable (attemptsStart Auth.office 0) config ∧
      config.threads[2]? = some (goroutine, some (.data 2)) ∧
      goroutine.reports = some ("client-1", "request-1") ∧
      config.shared.Claimed "client-1" "request-1" (.data 1) ∧
      0 ∈ config.shared.connections.connectionsOf "client-1" ∧
      config.shared.connections.heap[0]? =
        some ⟨"request-1", .data 1, .visitor 1, "client-1", 0⟩ ∧
      attempts.exec config (.run 2 .go) = some next ∧ attempts.exec next (.run 2 .go) = some last ∧
      config.shared.closed = [] ∧ next.shared.closed = [.data 1, .visitor 1] ∧
      last.shared.closed = [.data 1, .visitor 1, .data 2] := by
  obtain ⟨config, reached, thread, record, active, stored, closed, step, done⟩ :
      ∃ config, attempts.Reachable (attemptsStart Auth.office 0) config ∧
        (config.threads[2]?).map (fun thread => (thread.1.reports, thread.2)) =
          some (some ("client-1", "request-1"), some (.data 2)) ∧
        (config.shared.entries[0]?).map (fun record =>
          (record.requestID, record.tunnel.clientID, record.removals)) =
          some ("request-1", "client-1", [.claimed (.data 1) 0 0]) ∧
        0 ∈ config.shared.connections.connectionsOf "client-1" ∧
        config.shared.connections.heap[0]? =
          some ⟨"request-1", .data 1, .visitor 1, "client-1", 0⟩ ∧
        config.shared.closed = [] ∧
        (attempts.exec config (.run 2 .go)).map (fun next => next.shared.closed) =
          some [.data 1, .visitor 1] ∧
        ((attempts.exec config (.run 2 .go)).bind fun next => attempts.exec next (.run 2 .go)).map
          (fun last => last.shared.closed) = some [.data 1, .visitor 1, .data 2] := by
    refine Machine.exists_run_of_replay
      ((offeredTwice ++ [Move.run 3 Choice.go] ++ refusedMoves).map unnoted) ?_
    decide +kernel
  obtain ⟨⟨goroutine, note⟩, present, reports⟩ := Option.map_eq_some_iff.mp thread
  obtain ⟨entry, located, fields⟩ := Option.map_eq_some_iff.mp record
  obtain ⟨next, moved, closed'⟩ := Option.map_eq_some_iff.mp step
  rw [moved] at done
  obtain ⟨last, moved', closed''⟩ := Option.map_eq_some_iff.mp done
  simp only [Prod.mk.injEq] at reports fields
  obtain ⟨reports, rfl⟩ := reports
  refine ⟨config, goroutine, next, last, reached, present, reports, ?_, active, stored, moved, moved',
    closed, closed', closed''⟩
  refine ⟨entry, List.mem_of_getElem? located, fields.1, fields.2.1, 0, 0, ?_⟩
  rw [fields.2.2]
  exact List.mem_cons_self

/-- The worker is quicker: its report is dealt with before the stream is registered, and closes nothing
but the worker. -/
theorem losing_worker_spares_winner :
    ∃ config goroutine next,
      attempts.Run (Machine.AtStep Apart) (attemptsStart Auth.office 0) config ∧
      config.shared.Claimed "client-1" "request-1" (.data 1) ∧
      attempts.exec config (.run 2 .go) = some next ∧
      next.shared.closed = config.shared.closed ++ Goroutine.spent goroutine ∧
      goroutine.spent = [.data 2] ∧ .data 1 ∉ goroutine.spent := by
  obtain ⟨config, reached, thread, record, permitted, step⟩ :
      ∃ config, attempts.Run (Machine.AtStep Apart) (attemptsStart Auth.office 0) config ∧
        (config.threads[2]?).map (fun thread => (thread.1.reports, thread.1.spent, thread.2)) =
          some (some ("client-1", "request-1"), [.data 2], some (.data 2)) ∧
        (config.shared.entries[0]?).map (fun record =>
          (record.requestID, record.tunnel.clientID, record.removals)) =
          some ("request-1", "client-1", [.claimed (.data 1) 0 0]) ∧
        Machine.AtStep Apart config (.run 2 Choice.go) ∧
        (attempts.exec config (.run 2 .go)).isSome = true := by
    refine Machine.exists_run_of_replay
      ((offeredTwice ++ refusedMoves ++ [Move.run 2 Choice.go]).map unnoted) ?_
    decide +kernel
  obtain ⟨⟨goroutine, note⟩, present, reports⟩ := Option.map_eq_some_iff.mp thread
  obtain ⟨entry, located, fields⟩ := Option.map_eq_some_iff.mp record
  obtain ⟨next, moved⟩ := Option.isSome_iff_exists.mp step
  simp only [Prod.mk.injEq] at reports fields
  obtain ⟨reports, spent, noted⟩ := reports
  have claimed : config.shared.Claimed "client-1" "request-1" (.data 1) := by
    refine ⟨entry, List.mem_of_getElem? located, fields.1, fields.2.1, 0, 0, ?_⟩
    rw [fields.2.2]
    exact List.mem_cons_self
  have other : note ≠ some (.data 1) := by
    rw [noted]
    decide
  obtain ⟨closed, -, spared⟩ :=
    losing_attempt_spares_winner reached permitted moved present reports claimed other
  exact ⟨config, goroutine, next, reached, claimed, moved, closed, spent, spared⟩

end NryNet.Relay

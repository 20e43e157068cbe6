import NryNet.Lib.ThreadPool
import NryNet.Relay.Broker

/-!
# The data plane (`server/relay`, `server/api/clients.go`)

The goroutines that run over the broker's tables, one atomic action at a time:

* data connections and work connections (`handleDataConn`, `handleWorkConnection`), which look up
  their client and token, capture the client's generation, and then claim a visitor or join the
  pool of idle workers;
* QUIC data streams (`HandleAuthenticatedStream`), which capture the generation between the two
  lookups;
* visitors (`handleRelayedVisitor`, `Pair`), which register, may be offered to an idle worker, and
  wait or cancel;
* assignments of pooled workers (`assignWorkConnection`), failure reports (`Fail`), disconnects
  (`DisconnectActiveClient`, `DisconnectClient`), and the administrator's `clientHandler.update`.

An action is a critical section, a statement on the database or a channel operation together with
the local computation up to the next one.  What lies outside is left to `Choice`: how a relayed
stream ends, what the agent answers to an assignment, when a timer fires, which entry a loop over a
map visits next.  `Manager.DisconnectClient` also ends the control session; that does not touch the
broker, and the delayed `DisconnectActiveClient` it may cause is one more disconnect that arrives.
-/

namespace NryNet.Relay

open ThreadPool

/-- The `role` of a handshake that opens a data connection or a work connection. -/
inductive DataRole where
  | data
  | workConnection
  deriving DecidableEq, Repr

/-- `initialHandshake`. -/
structure InitialHandshake where
  role : DataRole
  token : String
  deviceID : String
  requestID : String
  deriving DecidableEq, Repr

/-- What `HandleAuthenticatedStream` is called with. -/
structure StreamHandshake where
  tokenID : String
  deviceID : String
  requestID : String
  deriving DecidableEq, Repr

/-- What the caller of `RegisterPending` does next.  No caller both waits and cancels. -/
inductive Caller where
  /-- `handleRelayedVisitor`: `TryWorkConnection`, then `Wait` -/
  | tryAndWait
  /-- `Pair`: `Wait` -/
  | wait
  /-- `Cancel` -/
  | cancel
  deriving DecidableEq, Repr

/-- The outcome of `startWorkConnection`. -/
inductive StartOutcome where
  | ready
  | refused (message : String)
  | broken
  deriving DecidableEq, Repr

/-- What follows `DisconnectActiveClient`.  `update` stands for the rest of `clientHandler.update`
and remembers how often the client had been enabled when it was disabled. -/
inductive Aftermath where
  | nothing
  | failPending
  | update (enabledAt : ℕ)
  deriving DecidableEq, Repr

/-- A goroutine at one of its program points. -/
inductive Goroutine where
  | clock
  /-- `authenticateDataClient`, in `clientByDevice` -/
  | dataClient (conn : Closer) (initial : InitialHandshake) (pc : LookupPC)
  /-- `authenticateDataClient`, in `authenticate` -/
  | dataToken (conn : Closer) (initial : InitialHandshake) (client : Client) (pc : LookupPC)
  /-- `HandleAuthenticatedStream`, called -/
  | stream (conn : Closer) (handshake : StreamHandshake)
  /-- `claimAuthenticatedPending`, in `clientByDevice` -/
  | streamClient (conn : Closer) (handshake : StreamHandshake) (pc : LookupPC)
  /-- `claimAuthenticatedPending`, in `tokenByID` -/
  | streamToken (conn : Closer) (handshake : StreamHandshake) (client : Client) (generation : ℕ)
      (pc : LookupPC)
  /-- before `claimPendingForClient` -/
  | claim (conn : Closer) (clientID requestID : String) (generation : ℕ)
  /-- before `workers.add` -/
  | add (worker : IdleWorkConnection)
  /-- before `connections.register` of `relayPending` -/
  | relayPending (conn : Closer) (entry : ℕ)
  /-- in `relay` -/
  | relaying (entry connection : ℕ)
  /-- before the deferred unregister closure -/
  | unregister (entry connection : ℕ) (result : GoError)
  /-- before `pending.done <- err` -/
  | complete (entry : ℕ) (result : GoError)
  /-- before `RegisterPending` -/
  | visitor (requestID : String) (conn : Closer) (tunnel : Tunnel) (caller : Caller)
  /-- `TryWorkConnection`, before it reads `pending` -/
  | tryWorkConnection (entry : ℕ) (requestID : String)
  /-- `TryWorkConnection`, before `take` -/
  | takeWorker (entry : ℕ) (requestID : String) (found : ℕ)
  /-- in the `select` of `Wait` -/
  | wait (entry : ℕ) (requestID : String)
  /-- `Wait`, its timer having fired -/
  | expired (entry : ℕ) (requestID : String)
  /-- `Wait`, before its last `<-pending.Done()` -/
  | awaitDone (entry : ℕ)
  /-- the caller of an entry that is not waited for; it may call `Cancel` any number of times -/
  | cancel (entry : ℕ) (requestID : String)
  /-- `assignWorkConnection`, before `startWorkConnection` -/
  | assign (worker : IdleWorkConnection) (entry : ℕ)
  /-- before `Fail`; `worker` is what `finishWorkConnection` closes when `Fail` has returned -/
  | fail (clientID requestID : String) (cause : GoError) (worker : Option Closer)
  /-- `Fail`, before it closes the visitor and sends -/
  | failSend (clientID requestID : String) (cause : GoError) (entry : ℕ) (worker : Option Closer)
  /-- `Fail`, before `closeRequest` -/
  | failClose (clientID requestID : String) (worker : Option Closer)
  /-- `Fail` has returned to its caller -/
  | failed (clientID requestID : String) (worker : Option Closer)
  /-- `DisconnectActiveClient`, before `connections.disconnect` -/
  | disconnect (clientID : String) (next : Aftermath)
  /-- `DisconnectActiveClient`, before `workers.closeClient` -/
  | drain (clientID : String) (next : Aftermath)
  /-- before the critical section of `FailPendingClient` -/
  | failClient (clientID : String) (next : Aftermath)
  /-- `FailPendingClient`, with the entries that are still to be sent to -/
  | failSends (entries : List ℕ) (clientID : String) (next : Aftermath)
  /-- `clientHandler.update`, before the first statement of `UpdateClient` -/
  | update (id name : String) (disabled : Option Bool)
  /-- `clientHandler.update`, before `setClientDisabled` -/
  | updateFlag (id name : String) (disabled : Option Bool)
  /-- `clientHandler.update`, before `invalidateClientAuthCache` -/
  | invalidate (id : String) (enabledAt : Option ℕ)
  /-- `clientHandler.update` has returned; `enabledAt` is set when it disabled the client -/
  | updated (id : String) (enabledAt : Option ℕ)
  /-- before `CloseIdleWorkConnections` -/
  | closeIdle
  | finished

/-- What the environment decides. -/
inductive Choice where
  | go
  | tick (elapsed : ℕ)
  | lookup (choice : LookupChoice)
  /-- how a relayed stream ended -/
  | relayed (result : GoError)
  /-- what became of an assignment to a worker -/
  | started (outcome : StartOutcome)
  /-- `Wait` takes the branch of `Paired()` -/
  | paired
  /-- `Wait` takes the branch of its timer -/
  | timeout
  /-- the entry that is sent to next -/
  | entry (entry : ℕ)

namespace Broker

/-- A step of a cache lookup.  The broker looks up with the background context, which is never
cancelled. -/
def lookupStep (b : Broker) (lookup : AuthLookup) (pc : LookupPC) :
    Choice → Option (Broker × LookupPC)
  | .lookup choice =>
      if choice = .cancel then none
      else (lookup.step b.auth pc choice).map fun result => ({ b with auth := result.1 }, result.2)
  | _ => none

/-- The end of `authenticateDataClient`: both records are checked and the generation is captured. -/
def authorizeData (b : Broker) (conn : Closer) (initial : InitialHandshake) (client : Client)
    (token : Token) : Broker × Goroutine :=
  if client.disabled ∨ client.tokenID ≠ token.id then (b.close [conn], .finished)
  else
    let generation := b.connections.generationFor client.id
    (b, match initial.role with
      | .data => .claim conn client.id initial.requestID generation
      | .workConnection => .add ⟨conn, client.id, generation⟩)

/-- The end of `claimAuthenticatedPending`, up to the claim itself. -/
def authorizeStream (b : Broker) (conn : Closer) (handshake : StreamHandshake) (client : Client)
    (generation : ℕ) (token : Token) : Broker × Goroutine :=
  if client.disabled ∨ token.disabled ∨ client.tokenID ≠ handshake.tokenID then
    (b.close [conn], .finished)
  else (b, .claim conn client.id handshake.requestID generation)

/-- `relayPending` up to and including `register`. -/
def startRelay (b : Broker) (conn : Closer) (entry : ℕ) (record : PendingConn) :
    Broker × Goroutine :=
  let result := b.connections.register record.tunnel.clientID record.connectionGeneration
    record.requestID conn record.visitor
  match result.2 with
  | none => (b.close [conn, record.visitor], .complete entry (some errClientDisconnected))
  | some connection => ({ b with connections := result.1 }, .relaying entry connection)

/-- Where the caller of `RegisterPending` goes on. -/
def afterRegister (caller : Caller) (entry : ℕ) (requestID : String) : Goroutine :=
  match caller with
  | .tryAndWait => .tryWorkConnection entry requestID
  | .wait => .wait entry requestID
  | .cancel => .cancel entry requestID

/-- Where `FailPendingClient` returns to. -/
def afterFailPending (clientID : String) : Aftermath → Goroutine
  | .update enabledAt => .invalidate clientID (some enabledAt)
  | _ => .finished

/-- The cause `Fail` reports. -/
def failCause (cause : GoError) : GoError :=
  some (cause.getD "agent failed to open the connection")

/-- The message `finishWorkConnection` reports for a worker that is not ready. -/
def refusal (message : String) : String :=
  if message = "" then "agent failed to open local service" else message

/-- The statement of `setClientDisabled` in `clientHandler.update`, and what follows it. -/
def setDisabled (b : Broker) (id : String) (flag : Bool) (store : Store) : Broker × Goroutine :=
  if flag then
    ({ b with auth := b.auth.mutate store }, .disconnect id (.update (b.enables id)))
  else
    ({ b with
        auth := b.auth.mutate store
        enables := fun other => b.enables other + if other = id then 1 else 0 },
      .invalidate id none)

/-- The goroutines whose next action leaves nothing to the environment. -/
def run (b : Broker) : Goroutine → Option (Broker × Goroutine × List Goroutine)
  | .stream conn handshake =>
      if handshake.tokenID = "" ∨ handshake.deviceID = "" ∨ handshake.requestID = "" then
        some (b.close [conn], .finished, [])
      else some (b, .streamClient conn handshake .probe, [])
  | .claim conn clientID requestID generation =>
      match b.claimPendingForClient conn clientID requestID generation with
      | .error _ => some (b.close [conn], .finished, [])
      | .ok (b', entry) => some (b', .relayPending conn entry, [])
  | .add worker =>
      if (b.workers.add worker).2 then
        some ({ b with workers := (b.workers.add worker).1 }, .finished, [])
      else some (b.close [worker.conn], .finished, [])
  | .relayPending conn entry =>
      (b.entries[entry]?).map fun record =>
        ((b.startRelay conn entry record).1, (b.startRelay conn entry record).2, [])
  | .unregister entry connection result =>
      (b.entries[entry]?).map fun record =>
        ({ b with connections := b.connections.remove record.tunnel.clientID connection },
          .complete entry result, [])
  | .complete entry result => (b.sendDone entry result).map fun b' => (b', .finished, [])
  | .visitor requestID conn tunnel caller =>
      match b.registerPending requestID conn tunnel with
      | .error _ => some (b.close [conn], .finished, [])
      | .ok (b', entry) => some (b', afterRegister caller entry requestID, [])
  | .tryWorkConnection entry requestID =>
      match b.pending.lookup requestID with
      | none => some (b, .wait entry requestID, [])
      | some found => some (b, .takeWorker entry requestID found, [])
  | .takeWorker entry requestID found =>
      (b.entries[found]?).map fun record =>
        match b.workers.take record.tunnel.clientID with
        | (_, none) => (b, .wait entry requestID, [])
        | (workers, some worker) =>
            ({ b with workers := workers }, .wait entry requestID, [.assign worker found])
  | .expired entry requestID =>
      match b.cancelPending requestID entry .timedOut with
      | (b', true) => some (b'.close (b.visitorOf entry), .finished, [])
      | (_, false) => some (b, .awaitDone entry, [])
  | .awaitDone entry => (b.receiveDone entry).map fun result => (result.1, .finished, [])
  | .cancel entry requestID =>
      match b.cancelPending requestID entry .cancelled with
      | (b', true) => some (b'.close (b.visitorOf entry), .cancel entry requestID, [])
      | (_, false) => some (b, .cancel entry requestID, [])
  | .fail clientID requestID cause worker =>
      if requestID = "" then some (b, .failed clientID requestID worker, [])
      else
        match b.failPending clientID requestID with
        | (b', some entry) =>
            some (b', .failSend clientID requestID (failCause cause) entry worker, [])
        | (_, none) => some (b, .failClose clientID requestID worker, [])
  | .failSend clientID requestID cause entry worker =>
      some ((b.trySendDone entry cause).close (b.visitorOf entry),
        .failClose clientID requestID worker, [])
  | .failClose clientID requestID worker =>
      some (b.close (b.endsOf (b.connections.closeRequest clientID requestID)),
        .failed clientID requestID worker, [])
  | .failed _ _ worker => some (b.close worker.toList, .finished, [])
  | .disconnect clientID next =>
      some ({ b.close (b.endsOf (b.connections.disconnect clientID).2) with
          connections := (b.connections.disconnect clientID).1 },
        .drain clientID next, [])
  | .drain clientID next =>
      some ({ b.close ((b.workers.closeClient clientID).2.map fun worker => worker.conn) with
          workers := (b.workers.closeClient clientID).1 },
        if next = .nothing then .finished else .failClient clientID next, [])
  | .failClient clientID next =>
      some (b.failPendingClient clientID, .failSends (b.pendingOf clientID) clientID next, [])
  | .update id name disabled =>
      some (if name ≠ "" then
          { b with auth := b.auth.mutate (b.auth.store.setClientName id name) }
        else b, .updateFlag id name disabled, [])
  | .updateFlag id name disabled =>
      match disabled with
      | none =>
          if name = "" then some (b.close [], .finished, []) else some (b, .invalidate id none, [])
      | some flag =>
          match b.auth.store.setClientDisabled id flag with
          | .error _ => some (b.close [], .finished, [])
          | .ok store => some ((b.setDisabled id flag store).1, (b.setDisabled id flag store).2, [])
  | .invalidate id enabledAt =>
      some ({ b with auth := b.auth.invalidate fun c => c.invalidateClient id },
        .updated id enabledAt, [])
  | .closeIdle =>
      some ({ b.close (b.workers.closeAll.2.map fun worker => worker.conn) with
          workers := b.workers.closeAll.1 },
        .finished, [])
  | _ => none

/-- A goroutine in a lookup: the lookup advances, or its result is used. -/
def afterLookup (b : Broker) (lookup : AuthLookup) (pc : LookupPC) (choice : Choice)
    (conn : Closer) (advance : LookupPC → Goroutine)
    (found : RelayTokenEntry → Broker × Goroutine) :
    Option (Broker × Goroutine × List Goroutine) :=
  match pc, choice with
  | .done (.error _), .go => some (b.close [conn], .finished, [])
  | .done (.ok entry), .go => some ((found entry).1, (found entry).2, [])
  | _, _ =>
      (b.lookupStep lookup pc choice).map fun result => (result.1, advance result.2, [])

/-- One atomic action of a goroutine. -/
def step (b : Broker) (goroutine : Goroutine) (choice : Choice) :
    Option (Broker × Goroutine × List Goroutine) :=
  match goroutine with
  | .clock =>
      match choice with
      | .tick elapsed =>
          some ({ b with auth := { b.auth with now := b.auth.now + elapsed } }, .clock, [])
      | _ => none
  | .dataClient conn initial pc =>
      b.afterLookup (.clientByDevice initial.deviceID) pc choice conn
        (fun pc => .dataClient conn initial pc)
        fun entry => (b, .dataToken conn initial entry.client .probe)
  | .dataToken conn initial client pc =>
      b.afterLookup (.authenticate initial.token) pc choice conn
        (fun pc => .dataToken conn initial client pc)
        fun entry => b.authorizeData conn initial client entry.token
  | .streamClient conn handshake pc =>
      b.afterLookup (.clientByDevice handshake.deviceID) pc choice conn
        (fun pc => .streamClient conn handshake pc)
        fun entry => (b, .streamToken conn handshake entry.client
          (b.connections.generationFor entry.client.id) .probe)
  | .streamToken conn handshake client generation pc =>
      b.afterLookup (.tokenByID handshake.tokenID) pc choice conn
        (fun pc => .streamToken conn handshake client generation pc)
        fun entry => b.authorizeStream conn handshake client generation entry.token
  | .relaying entry connection =>
      match choice with
      | .relayed result => some (b, .unregister entry connection result, [])
      | _ => none
  | .wait entry requestID =>
      match choice with
      | .go => (b.receiveDone entry).map fun result => (result.1, .finished, [])
      | .paired =>
          (b.entries[entry]?).bind fun record =>
            if 0 < record.paired then some (b, .awaitDone entry, []) else none
      | .timeout => some (b, .expired entry requestID, [])
      | _ => none
  | .assign worker entry =>
      match choice with
      | .started outcome =>
          (b.entries[entry]?).map fun record =>
            match outcome with
            | .ready =>
                (b, .claim worker.conn worker.clientID record.requestID worker.generation, [])
            | .refused message =>
                (b, .fail worker.clientID record.requestID (some (refusal message))
                  (some worker.conn), [])
            | .broken =>
                match b.workers.take worker.clientID with
                | (_, none) => (b.close [worker.conn], .finished, [])
                | (workers, some other) =>
                    ({ b.close [worker.conn] with workers := workers }, .assign other entry, [])
      | _ => none
  | .failSends entries clientID next =>
      match choice with
      | .entry entry =>
          if entry ∈ entries then
            some ((b.trySendDone entry (some errClientDisconnected)).close (b.visitorOf entry),
              .failSends (entries.erase entry) clientID next, [])
          else none
      | .go =>
          match entries with
          | [] => some (b, afterFailPending clientID next, [])
          | _ => none
      | _ => none
  | goroutine =>
      match choice with
      | .go => b.run goroutine
      | _ => none

end Broker

/-- The goroutines that start on their own. -/
def Goroutine.arrives : Goroutine → Bool
  | .clock | .stream _ _ | .visitor _ _ _ _ | .fail _ _ _ none | .update _ _ _ | .closeIdle => true
  | .dataClient _ _ .probe => true
  | .disconnect _ .nothing | .disconnect _ .failPending => true
  | _ => false

/-- The data plane: any number of goroutines of every kind. -/
def dataPlane : Machine Broker Goroutine Choice where
  entry := Goroutine.arrives
  step := Broker.step

/-- A broker that has just started on some database. -/
def dataPlaneStart (store : Store) (now : Time) : Config Broker Goroutine where
  shared := .newBroker store now
  threads := []

/-! ## What one action does

`Action` lists every branch of `step` once, with its guard.  Proofs about the data plane are case
analyses over it and never unfold `step`. -/

namespace Goroutine

/-- The goroutine has taken the entry out of `pending` and will report its outcome. -/
def holds (entry : ℕ) : Goroutine → ℕ
  | .relayPending _ held => if held = entry then 1 else 0
  | .relaying held _ => if held = entry then 1 else 0
  | .unregister held _ _ => if held = entry then 1 else 0
  | .complete held _ => if held = entry then 1 else 0
  | .failSend _ _ _ held _ => if held = entry then 1 else 0
  | .failSends held _ _ => held.count entry
  | _ => 0

/-- The goroutine is in, or will call, the `Wait` of the entry. -/
def waits (entry : ℕ) : Goroutine → ℕ
  | .tryWorkConnection owned _ => if owned = entry then 1 else 0
  | .takeWorker owned _ _ => if owned = entry then 1 else 0
  | .wait owned _ => if owned = entry then 1 else 0
  | .expired owned _ => if owned = entry then 1 else 0
  | .awaitDone owned => if owned = entry then 1 else 0
  | _ => 0

/-- The goroutine is the caller of the entry and does not wait for it. -/
def cancels (entry : ℕ) : Goroutine → ℕ
  | .cancel owned _ => if owned = entry then 1 else 0
  | _ => 0

/-- The goroutine has no entry to report on or to wait for, and no call to return from. -/
def idle : Goroutine → Bool
  | .dataClient _ _ _ | .dataToken _ _ _ _ | .stream _ _ | .streamClient _ _ _
  | .streamToken _ _ _ _ _ | .claim _ _ _ _ | .add _ | .visitor _ _ _ _ | .assign _ _
  | .failed _ _ _ | .updateFlag _ _ _ => true
  | _ => false

/-- The lookup a goroutine is in. -/
def looking : Goroutine → Option (AuthLookup × LookupPC)
  | .dataClient _ initial pc => some (.clientByDevice initial.deviceID, pc)
  | .dataToken _ initial _ pc => some (.authenticate initial.token, pc)
  | .streamClient _ handshake pc => some (.clientByDevice handshake.deviceID, pc)
  | .streamToken _ handshake _ _ pc => some (.tokenByID handshake.tokenID, pc)
  | _ => none

/-- The goroutine with its lookup advanced. -/
def setLookup (pc : LookupPC) : Goroutine → Goroutine
  | .dataClient conn initial _ => .dataClient conn initial pc
  | .dataToken conn initial client _ => .dataToken conn initial client pc
  | .streamClient conn handshake _ => .streamClient conn handshake pc
  | .streamToken conn handshake client generation _ =>
      .streamToken conn handshake client generation pc
  | other => other

end Goroutine

/-- The branches of `step`. -/
inductive Action (b : Broker) : Goroutine → Broker → Goroutine → List Goroutine → Prop
  | tick (elapsed : ℕ) :
      Action b .clock { b with auth := { b.auth with now := b.auth.now + elapsed } } .clock []
  | quit (goroutine : Goroutine) (conns : List Closer) (idle : goroutine.idle = true) :
      Action b goroutine (b.close conns) .finished []
  | lookup (goroutine : Goroutine) {lookup : AuthLookup} {pc pc' : LookupPC} {auth : AuthState}
      {choice : LookupChoice} (looking : goroutine.looking = some (lookup, pc))
      (stepped : lookup.step b.auth pc choice = some (auth, pc')) :
      Action b goroutine { b with auth := auth } (goroutine.setLookup pc') []
  | dataClient (conn : Closer) (initial : InitialHandshake) (entry : RelayTokenEntry) :
      Action b (.dataClient conn initial (.done (.ok entry))) b
        (.dataToken conn initial entry.client .probe) []
  | captureData (conn : Closer) (initial : InitialHandshake) (client : Client)
      (entry : RelayTokenEntry) (enabled : client.disabled = false)
      (bound : client.tokenID = entry.token.id) :
      Action b (.dataToken conn initial client (.done (.ok entry))) b
        (.claim conn client.id initial.requestID (b.connections.generationFor client.id)) []
  | captureWorker (conn : Closer) (initial : InitialHandshake) (client : Client)
      (entry : RelayTokenEntry) (enabled : client.disabled = false)
      (bound : client.tokenID = entry.token.id) :
      Action b (.dataToken conn initial client (.done (.ok entry))) b
        (.add ⟨conn, client.id, b.connections.generationFor client.id⟩) []
  | stream (conn : Closer) (handshake : StreamHandshake) :
      Action b (.stream conn handshake) b (.streamClient conn handshake .probe) []
  | captureStream (conn : Closer) (handshake : StreamHandshake) (entry : RelayTokenEntry) :
      Action b (.streamClient conn handshake (.done (.ok entry))) b
        (.streamToken conn handshake entry.client
          (b.connections.generationFor entry.client.id) .probe) []
  | authorizeStream (conn : Closer) (handshake : StreamHandshake) (client : Client)
      (generation : ℕ) (entry : RelayTokenEntry) (enabled : client.disabled = false) :
      Action b (.streamToken conn handshake client generation (.done (.ok entry))) b
        (.claim conn client.id handshake.requestID generation) []
  | claim {conn : Closer} {clientID requestID : String} {generation entry : ℕ} {b' : Broker}
      (claimed : b.claimPendingForClient conn clientID requestID generation = .ok (b', entry)) :
      Action b (.claim conn clientID requestID generation) b' (.relayPending conn entry) []
  | add (worker : IdleWorkConnection) (accepted : (b.workers.add worker).2 = true) :
      Action b (.add worker) { b with workers := (b.workers.add worker).1 } .finished []
  | refuse {conn : Closer} {entry : ℕ} {record : PendingConn}
      (located : b.entries[entry]? = some record)
      (stale : record.connectionGeneration ≠
        b.connections.generationFor record.tunnel.clientID) :
      Action b (.relayPending conn entry) (b.close [conn, record.visitor])
        (.complete entry (some errClientDisconnected)) []
  | register {conn : Closer} {entry : ℕ} {record : PendingConn}
      (located : b.entries[entry]? = some record)
      (current : record.connectionGeneration =
        b.connections.generationFor record.tunnel.clientID) :
      Action b (.relayPending conn entry)
        { b with
          connections := (b.connections.register record.tunnel.clientID
            record.connectionGeneration record.requestID conn record.visitor).1 }
        (.relaying entry b.connections.heap.length) []
  | relayed (entry connection : ℕ) (result : GoError) :
      Action b (.relaying entry connection) b (.unregister entry connection result) []
  | unregister {entry connection : ℕ} {result : GoError} {record : PendingConn}
      (located : b.entries[entry]? = some record) :
      Action b (.unregister entry connection result)
        { b with connections := b.connections.remove record.tunnel.clientID connection }
        (.complete entry result) []
  | complete {entry : ℕ} {result : GoError} {b' : Broker}
      (sent : b.sendDone entry result = some b') :
      Action b (.complete entry result) b' .finished []
  | visitor {requestID : String} {conn : Closer} {tunnel : Tunnel} (caller : Caller)
      {b' : Broker} {entry : ℕ}
      (registered : b.registerPending requestID conn tunnel = .ok (b', entry)) :
      Action b (.visitor requestID conn tunnel caller) b'
        (Broker.afterRegister caller entry requestID) []
  | noRequest (entry : ℕ) (requestID : String) :
      Action b (.tryWorkConnection entry requestID) b (.wait entry requestID) []
  | findRequest {entry found : ℕ} {requestID : String}
      (present : b.pending.lookup requestID = some found) :
      Action b (.tryWorkConnection entry requestID) b (.takeWorker entry requestID found) []
  | noWorker (entry found : ℕ) (requestID : String) :
      Action b (.takeWorker entry requestID found) b (.wait entry requestID) []
  | takeWorker {entry found : ℕ} {requestID : String} {record : PendingConn}
      {workers : WorkConnectionPool} {worker : IdleWorkConnection}
      (located : b.entries[found]? = some record)
      (taken : b.workers.take record.tunnel.clientID = (workers, some worker)) :
      Action b (.takeWorker entry requestID found) { b with workers := workers }
        (.wait entry requestID) [.assign worker found]
  | waitDone {entry : ℕ} {requestID : String} {b' : Broker} {result : GoError}
      (received : b.receiveDone entry = some (b', result)) :
      Action b (.wait entry requestID) b' .finished []
  | waitPaired (entry : ℕ) (requestID : String) :
      Action b (.wait entry requestID) b (.awaitDone entry) []
  | waitTimeout (entry : ℕ) (requestID : String) :
      Action b (.wait entry requestID) b (.expired entry requestID) []
  | timeOut {entry : ℕ} {requestID : String} (conns : List Closer)
      (present : b.pending.lookup requestID = some entry) :
      Action b (.expired entry requestID)
        ((b.removePending requestID entry .timedOut).close conns) .finished []
  | tooLate (entry : ℕ) (requestID : String) :
      Action b (.expired entry requestID) b (.awaitDone entry) []
  | awaitDone {entry : ℕ} {b' : Broker} {result : GoError}
      (received : b.receiveDone entry = some (b', result)) :
      Action b (.awaitDone entry) b' .finished []
  | cancel {entry : ℕ} {requestID : String} (conns : List Closer)
      (present : b.pending.lookup requestID = some entry) :
      Action b (.cancel entry requestID)
        ((b.removePending requestID entry .cancelled).close conns) (.cancel entry requestID) []
  | cancelLate (entry : ℕ) (requestID : String) :
      Action b (.cancel entry requestID) b (.cancel entry requestID) []
  | ready (worker : IdleWorkConnection) (entry : ℕ) (requestID : String) :
      Action b (.assign worker entry) b
        (.claim worker.conn worker.clientID requestID worker.generation) []
  | refused (worker : IdleWorkConnection) (entry : ℕ) (requestID : String) (cause : GoError) :
      Action b (.assign worker entry) b
        (.fail worker.clientID requestID cause (some worker.conn)) []
  | retry {worker other : IdleWorkConnection} {entry : ℕ} {workers : WorkConnectionPool}
      (taken : b.workers.take worker.clientID = (workers, some other)) :
      Action b (.assign worker entry) { b.close [worker.conn] with workers := workers }
        (.assign other entry) []
  | fail {clientID requestID : String} {entry : ℕ} (cause cause' : GoError) (worker : Option Closer)
      (present : b.pending.lookup requestID = some entry) :
      Action b (.fail clientID requestID cause worker) (b.removePending requestID entry .failed)
        (.failSend clientID requestID cause' entry worker) []
  | failMissing (clientID requestID : String) (cause : GoError) (worker : Option Closer) :
      Action b (.fail clientID requestID cause worker) b (.failClose clientID requestID worker) []
  | failUnnamed (clientID requestID : String) (cause : GoError) (worker : Option Closer) :
      Action b (.fail clientID requestID cause worker) b (.failed clientID requestID worker) []
  | failSend (clientID requestID : String) (cause : GoError) (entry : ℕ) (worker : Option Closer)
      (conns : List Closer) :
      Action b (.failSend clientID requestID cause entry worker)
        ((b.trySendDone entry cause).close conns) (.failClose clientID requestID worker) []
  | failClose (clientID requestID : String) (worker : Option Closer) (conns : List Closer) :
      Action b (.failClose clientID requestID worker) (b.close conns)
        (.failed clientID requestID worker) []
  | disconnect (clientID : String) (next : Aftermath) (conns : List Closer) :
      Action b (.disconnect clientID next)
        { b.close conns with connections := (b.connections.disconnect clientID).1 }
        (.drain clientID next) []
  | drain (clientID : String) (conns : List Closer) :
      Action b (.drain clientID .nothing)
        { b.close conns with workers := (b.workers.closeClient clientID).1 } .finished []
  | drainOn (clientID : String) {next : Aftermath} (conns : List Closer)
      (more : next ≠ .nothing) :
      Action b (.drain clientID next)
        { b.close conns with workers := (b.workers.closeClient clientID).1 }
        (.failClient clientID next) []
  | failClient (clientID : String) (next : Aftermath) :
      Action b (.failClient clientID next) (b.failPendingClient clientID)
        (.failSends (b.pendingOf clientID) clientID next) []
  | failOne {entries : List ℕ} {entry : ℕ} (clientID : String) (next : Aftermath)
      (conns : List Closer) (listed : entry ∈ entries) :
      Action b (.failSends entries clientID next)
        ((b.trySendDone entry (some errClientDisconnected)).close conns)
        (.failSends (entries.erase entry) clientID next) []
  | failReturns (clientID : String) (next : Aftermath) :
      Action b (.failSends [] clientID next) b (Broker.afterFailPending clientID next) []
  | rename (id name : String) (disabled : Option Bool) :
      Action b (.update id name disabled)
        { b with auth := b.auth.mutate (b.auth.store.setClientName id name) }
        (.updateFlag id name disabled) []
  | noRename (id name : String) (disabled : Option Bool) :
      Action b (.update id name disabled) b (.updateFlag id name disabled) []
  | renamed (id name : String) (disabled : Option Bool) :
      Action b (.updateFlag id name disabled) b (.invalidate id none) []
  | disable {id name : String} {store : Store}
      (written : b.auth.store.setClientDisabled id true = .ok store) :
      Action b (.updateFlag id name (some true)) { b with auth := b.auth.mutate store }
        (.disconnect id (.update (b.enables id))) []
  | enable {id name : String} {store : Store}
      (written : b.auth.store.setClientDisabled id false = .ok store) :
      Action b (.updateFlag id name (some false))
        { b with
          auth := b.auth.mutate store
          enables := fun other => b.enables other + if other = id then 1 else 0 }
        (.invalidate id none) []
  | invalidate (id : String) (enabledAt : Option ℕ) :
      Action b (.invalidate id enabledAt)
        { b with auth := b.auth.invalidate fun c => c.invalidateClient id }
        (.updated id enabledAt) []
  | closeIdle (conns : List Closer) :
      Action b .closeIdle { b.close conns with workers := b.workers.closeAll.1 } .finished []

namespace Broker

variable {b b' : Broker} {goroutine goroutine' : Goroutine} {spawned : List Goroutine}
variable {choice : Choice}

/-- A lookup step of a goroutine is a step of the lookup it is in. -/
theorem lookupStep_some {lookup : AuthLookup} {pc pc' : LookupPC}
    (stepped : b.lookupStep lookup pc choice = some (b', pc')) :
    ∃ auth choice', lookup.step b.auth pc choice' = some (auth, pc') ∧
      b' = { b with auth := auth } := by
  unfold lookupStep at stepped
  split at stepped
  · split at stepped
    · cases stepped
    · obtain ⟨⟨auth, pc''⟩, looked, equal⟩ := Option.map_eq_some_iff.mp stepped
      simp only [Prod.mk.injEq] at equal
      obtain ⟨rfl, rfl⟩ := equal
      exact ⟨auth, _, looked, rfl⟩
  · cases stepped

/-- The three outcomes of a goroutine that is in a lookup. -/
theorem afterLookup_action {lookup : AuthLookup} {pc : LookupPC} {conn : Closer}
    {found : RelayTokenEntry → Broker × Goroutine}
    (looking : goroutine.looking = some (lookup, pc)) (idle : goroutine.idle = true)
    (answers : ∀ entry, pc = .done (.ok entry) →
      Action b goroutine (found entry).1 (found entry).2 [])
    (stepped : b.afterLookup lookup pc choice conn (fun pc => goroutine.setLookup pc) found =
      some (b', goroutine', spawned)) :
    Action b goroutine b' goroutine' spawned := by
  unfold afterLookup at stepped
  split at stepped
  · cases stepped
    exact .quit goroutine _ idle
  · cases stepped
    exact answers _ rfl
  · obtain ⟨⟨broker, pc'⟩, looked, equal⟩ := Option.map_eq_some_iff.mp stepped
    cases equal
    obtain ⟨auth, choice', looked', rfl⟩ := lookupStep_some looked
    exact .lookup goroutine looking looked'

theorem authorizeData_action {conn : Closer} {initial : InitialHandshake} {client : Client}
    {entry : RelayTokenEntry} :
    Action b (.dataToken conn initial client (.done (.ok entry)))
      (b.authorizeData conn initial client entry.token).1
      (b.authorizeData conn initial client entry.token).2 [] := by
  unfold authorizeData
  split
  · exact .quit _ _ rfl
  · rename_i authorized
    simp only [not_or, not_not, Bool.not_eq_true] at authorized
    cases initial.role with
    | data => exact .captureData conn initial client entry authorized.1 authorized.2
    | workConnection => exact .captureWorker conn initial client entry authorized.1 authorized.2

theorem authorizeStream_action {conn : Closer} {handshake : StreamHandshake} {client : Client}
    {generation : ℕ} {entry : RelayTokenEntry} :
    Action b (.streamToken conn handshake client generation (.done (.ok entry)))
      (b.authorizeStream conn handshake client generation entry.token).1
      (b.authorizeStream conn handshake client generation entry.token).2 [] := by
  unfold authorizeStream
  split
  · exact .quit _ _ rfl
  · rename_i authorized
    simp only [not_or, not_not, Bool.not_eq_true] at authorized
    exact .authorizeStream conn handshake client generation entry authorized.1

theorem startRelay_action {conn : Closer} {entry : ℕ} {record : PendingConn}
    (located : b.entries[entry]? = some record) :
    Action b (.relayPending conn entry) (b.startRelay conn entry record).1
      (b.startRelay conn entry record).2 [] := by
  by_cases current :
      record.connectionGeneration = b.connections.generationFor record.tunnel.clientID
  · have registered : Action b (.relayPending conn entry) _ _ _ := .register located current
    unfold startRelay
    rw [current, ClientConnections.register_current] at registered ⊢
    exact registered
  · unfold startRelay
    rw [ClientConnections.register_stale current]
    exact .refuse located current

theorem setDisabled_action {id name : String} {flag : Bool} {store : Store}
    (written : b.auth.store.setClientDisabled id flag = .ok store) :
    Action b (.updateFlag id name (some flag)) (b.setDisabled id flag store).1
      (b.setDisabled id flag store).2 [] := by
  cases flag with
  | true => exact .disable written
  | false => exact .enable written

/-- What `run` does is one of the listed actions. -/
theorem action_of_run (ran : b.run goroutine = some (b', goroutine', spawned)) :
    Action b goroutine b' goroutine' spawned := by
  cases goroutine with
  | stream conn handshake =>
      rw [run] at ran
      split at ran <;> cases ran
      · exact .quit _ _ rfl
      · exact .stream conn handshake
  | claim conn clientID requestID generation =>
      rw [run] at ran
      split at ran <;> cases ran
      · exact .quit _ _ rfl
      · rename_i claimed
        exact .claim claimed
  | add worker =>
      rw [run] at ran
      split at ran <;> cases ran
      · rename_i accepted
        exact .add worker accepted
      · exact .quit _ _ rfl
  | relayPending conn entry =>
      obtain ⟨record, located, equal⟩ := Option.map_eq_some_iff.mp ran
      cases equal
      exact startRelay_action located
  | unregister entry connection result =>
      obtain ⟨record, located, equal⟩ := Option.map_eq_some_iff.mp ran
      cases equal
      exact .unregister located
  | complete entry result =>
      obtain ⟨broker, sent, equal⟩ := Option.map_eq_some_iff.mp ran
      cases equal
      exact .complete sent
  | visitor requestID conn tunnel caller =>
      rw [run] at ran
      split at ran <;> cases ran
      · exact .quit _ _ rfl
      · rename_i registered
        exact .visitor caller registered
  | tryWorkConnection entry requestID =>
      rw [run] at ran
      split at ran <;> cases ran
      · exact .noRequest entry requestID
      · rename_i present
        exact .findRequest present
  | takeWorker entry requestID found =>
      obtain ⟨record, located, equal⟩ := Option.map_eq_some_iff.mp ran
      split at equal <;> cases equal
      · exact .noWorker entry found requestID
      · rename_i taken
        exact .takeWorker located taken
  | expired entry requestID =>
      rw [run] at ran
      split at ran <;> cases ran
      · rename_i cancelled
        obtain ⟨present, rfl⟩ := cancelPending_true cancelled
        exact .timeOut _ present
      · exact .tooLate entry requestID
  | awaitDone entry =>
      obtain ⟨⟨broker, result⟩, received, equal⟩ := Option.map_eq_some_iff.mp ran
      cases equal
      exact .awaitDone received
  | cancel entry requestID =>
      rw [run] at ran
      split at ran <;> cases ran
      · rename_i cancelled
        obtain ⟨present, rfl⟩ := cancelPending_true cancelled
        exact .cancel _ present
      · exact .cancelLate entry requestID
  | fail clientID requestID cause worker =>
      rw [run] at ran
      split at ran
      · cases ran
        exact .failUnnamed clientID requestID cause worker
      · split at ran <;> cases ran
        · rename_i failed
          obtain ⟨present, rfl⟩ := failPending_some failed
          exact .fail cause _ worker present
        · exact .failMissing clientID requestID cause worker
  | failSend clientID requestID cause entry worker =>
      cases ran
      exact .failSend clientID requestID cause entry worker _
  | failClose clientID requestID worker =>
      cases ran
      exact .failClose clientID requestID worker _
  | failed clientID requestID worker =>
      cases ran
      exact .quit _ _ rfl
  | disconnect clientID next =>
      cases ran
      exact .disconnect clientID next _
  | drain clientID next =>
      rw [run] at ran
      cases ran
      split
      · rename_i last
        subst last
        exact .drain clientID _
      · rename_i more
        exact .drainOn clientID _ more
  | failClient clientID next =>
      cases ran
      exact .failClient clientID next
  | update id name disabled =>
      rw [run] at ran
      cases ran
      split
      · exact .rename id name disabled
      · exact .noRename id name disabled
  | updateFlag id name disabled =>
      cases disabled with
      | none =>
          rw [run] at ran
          split at ran <;> cases ran
          · exact .quit _ _ rfl
          · exact .renamed id name none
      | some flag =>
          rw [run] at ran
          split at ran <;> cases ran
          · exact .quit _ _ rfl
          · rename_i written
            exact setDisabled_action written
  | invalidate id enabledAt =>
      cases ran
      exact .invalidate id enabledAt
  | closeIdle =>
      cases ran
      exact .closeIdle _
  | _ => cases ran

/-- Every step is one of the listed actions. -/
theorem action_of_step (stepped : b.step goroutine choice = some (b', goroutine', spawned)) :
    Action b goroutine b' goroutine' spawned := by
  cases goroutine with
  | clock =>
      cases choice <;> cases stepped
      exact .tick _
  | dataClient conn initial pc =>
      refine afterLookup_action rfl rfl ?_ stepped
      rintro entry rfl
      exact .dataClient conn initial entry
  | dataToken conn initial client pc =>
      refine afterLookup_action rfl rfl ?_ stepped
      rintro entry rfl
      exact authorizeData_action
  | streamClient conn handshake pc =>
      refine afterLookup_action rfl rfl ?_ stepped
      rintro entry rfl
      exact .captureStream conn handshake entry
  | streamToken conn handshake client generation pc =>
      refine afterLookup_action rfl rfl ?_ stepped
      rintro entry rfl
      exact authorizeStream_action
  | relaying entry connection =>
      cases choice <;> cases stepped
      exact .relayed entry connection _
  | wait entry requestID =>
      cases choice with
      | go =>
          obtain ⟨⟨broker, result⟩, received, equal⟩ := Option.map_eq_some_iff.mp stepped
          cases equal
          exact .waitDone received
      | paired =>
          obtain ⟨record, -, equal⟩ := Option.bind_eq_some_iff.mp stepped
          split at equal <;> cases equal
          exact .waitPaired entry requestID
      | timeout =>
          cases stepped
          exact .waitTimeout entry requestID
      | _ => cases stepped
  | assign worker entry =>
      cases choice with
      | started outcome =>
          obtain ⟨record, -, equal⟩ := Option.map_eq_some_iff.mp stepped
          cases outcome with
          | ready =>
              cases equal
              exact .ready worker entry _
          | refused message =>
              cases equal
              exact .refused worker entry _ _
          | broken =>
              dsimp only at equal
              split at equal <;> cases equal
              · exact .quit _ _ rfl
              · rename_i taken
                exact .retry taken
      | _ => cases stepped
  | failSends entries clientID next =>
      cases choice with
      | entry entry =>
          rw [step] at stepped
          split at stepped <;> cases stepped
          rename_i listed
          exact .failOne clientID next _ listed
      | go =>
          cases entries with
          | nil =>
              cases stepped
              exact .failReturns clientID next
          | cons entry entries => cases stepped
      | _ => cases stepped
  | _ =>
      cases choice <;> first | exact action_of_run stepped | cases stepped

end Broker

/-! ## Moves of concrete runs -/

/-- The five actions of a lookup that misses the cache and finds its record. -/
def loadMoves (index : ℕ) : List (Move Goroutine Choice) :=
  List.replicate 5 (.run index (.lookup .proceed))

/-- A stream of the office client for `request-1` arrives as goroutine `index` and goes on until it
has a client record in hand. -/
def streamMoves (index : ℕ) : List (Move Goroutine Choice) :=
  [.arrive (.stream (.data 1) ⟨"token-1", "device-1", "request-1"⟩), .run index .go] ++
    loadMoves index

/-- A visitor of the office tunnel arrives as goroutine `index` and is registered under
`request-1`. -/
def visitorMoves (index : ℕ) (caller : Caller) : List (Move Goroutine Choice) :=
  [.arrive (.visitor "request-1" (.visitor 1) Auth.officeTunnel caller), .run index .go]

end NryNet.Relay

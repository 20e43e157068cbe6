import NryNet.Control.Delivery
import NryNet.Control.Hub

/-!
# Control sessions and their write queues (`server/client/hub.go`, `hub_transport.go`)

`NryNet.Control.ControlPlane` follows a client through its handshake and its rows in the database;
there a write queue is only the thing that may fail.  This module is about the other half of a
session: the three tables of the hub, the write queue each session brings with it, and everybody who
reads a queue from the tables and then writes to it, closes it or gives up on its session.

## The model

`State` is the hub, whose `register`, `unregister` and `forgetQueue` are those of
`NryNet.Control.Hub`, together with the write queue of every session.  A session gets its number
when it registers: between `newControlWriteQueue` and `register` nobody else has seen its queue.

The goroutines (`Task`) are those of `serveTransport`, the writers of the queues with their
`onError`, `Hub.Disconnect`, `Hub.send` and `Hub.sendOpenConnection`.  Closing a queue is its
critical section followed by one completion after the other, and whoever does it goes on from there
(`Then`); what follows an `unregister` is `After`.

The goroutine of a call of `sendOpenConnection` keeps its program point in the state
(`OpenCall.point`), next to the ghost `attempts`: the messages of the call that were accepted by
some queue.  `retired` is a ghost as well: the sessions that a `register` or an `unregister` that
has returned replaced or removed.
-/

namespace NryNet.Control.Sessions

open ThreadPool

/-- The errors of `Hub.sendOpenConnection`. -/
inductive SendError where
  /-- `errClientOffline` -/
  | offline
  | write (error : WriteError)
  deriving DecidableEq, Repr

def isRetryableOpenConnectionError : SendError → Bool
  | .offline | .write .queueClosed | .write .queueFull => true
  | .write (.context _) | .write (.transport _) => false

/-- Where a call of `sendOpenConnection` stands. -/
inductive OpenPoint where
  /-- before `sendOpenConnectionOnce` -/
  | attempt
  /-- `sendOpenConnectionOnce`, before `enqueueWait` -/
  | enqueue (queue conn : ℕ)
  /-- `sendOpenConnectionOnce`, in the `select` of `enqueueWait` -/
  | waiting (queue conn ticket : ℕ)
  /-- `sendOpenConnectionOnce` returns this error, after `unregister` if it calls it -/
  | failed (err : SendError)
  | returned (err : Option SendError)
  deriving DecidableEq, Repr

/-- A message that was accepted: the queue and the ticket it has there. -/
structure Attempt where
  queue : ℕ
  ticket : ℕ
  deriving DecidableEq, Repr

/-- A call of `sendOpenConnection`. -/
structure OpenCall where
  clientID : String
  message : ControlMessage
  point : OpenPoint
  attempts : List Attempt
  deriving DecidableEq, Repr

/-- The record of a call that has not been made. -/
def OpenCall.unused : OpenCall where
  clientID := ""
  message := ⟨.error, "", "", []⟩
  point := .attempt
  attempts := []

/-- The hub, the write queue of every session and the calls of `sendOpenConnection`. -/
structure State where
  hub : Hub
  sessions : ℕ
  queue : ℕ → WriteQueue
  calls : ℕ
  opens : ℕ → OpenCall
  retired : List ℕ

/-- What follows an `unregister`. -/
inductive After where
  | nothing
  /-- `sendHeartbeatAck` returns an error and the read loop ends -/
  | readLoop
  /-- the deferred calls of `serveTransport` -/
  | deferred
  | openConnection (call : ℕ)
  deriving DecidableEq, Repr

/-- What follows the closing of a queue. -/
inductive Then where
  /-- `register` returns, having replaced a session -/
  | registered (conn : ℕ) (clientID : String) (replaced : Option ℕ)
  /-- `unregister` returns, having removed a session -/
  | unregistered (conn : ℕ) (clientID : String) (after : After)
  /-- the deferred closure of `serveTransport` goes on -/
  | forget (conn : ℕ) (clientID : String)
  deriving DecidableEq, Repr

/-- A goroutine at one of its program points. -/
inductive Task where
  /-- `serveTransport`, after `acceptHello` -/
  | accepted (clientID : String)
  /-- in `readLoop` -/
  | serving (conn : ℕ) (clientID : String)
  /-- `sendHeartbeatAck`, before `enqueueWait` -/
  | ack (queue conn : ℕ) (clientID : String) (message : ControlMessage)
  /-- `sendHeartbeatAck`, in the `select` of `enqueueWait` -/
  | ackWaiting (queue conn ticket : ℕ) (clientID : String)
  /-- the goroutine of a write queue -/
  | writer (conn : ℕ) (clientID : String)
  /-- before `send` -/
  | send (clientID : String) (message : ControlMessage)
  /-- `send`, before `enqueue` -/
  | enqueue (queue conn : ℕ) (clientID : String) (message : ControlMessage)
  /-- before `sendOpenConnection` -/
  | openConnection (clientID : String) (message : ControlMessage)
  /-- in `sendOpenConnection` -/
  | opening (call : ℕ)
  /-- before `Hub.Disconnect` -/
  | disconnect (clientID : String)
  /-- before `unregister` -/
  | unregister (conn : ℕ) (clientID : String) (after : After)
  /-- before the critical section of `close` -/
  | close (queue : ℕ) (next : Then)
  /-- `close`, with what is still to be completed -/
  | closing (queue : ℕ) (pending : List QueuedControlMessage) (next : Then)
  /-- the deferred closure, before its critical section -/
  | forget (conn : ℕ) (clientID : String)
  | finished
  deriving DecidableEq, Repr

/-- What the environment decides. -/
inductive Choice where
  | go
  /-- `WriteJSON` returns this error -/
  | failed (message : String)
  /-- the context of `enqueueWait` is done -/
  | cancelled (error : ContextError)
  /-- a heartbeat is read -/
  | heartbeat (requestID : String)
  /-- the read loop ends, or the retry window of `sendOpenConnection` is over -/
  | ended
  deriving DecidableEq, Repr

/-- The goroutine after `unregister` has returned. -/
def After.resume (conn : ℕ) (clientID : String) : After → Task
  | .nothing => .finished
  | .readLoop => .unregister conn clientID .deferred
  | .deferred => .close conn (.forget conn clientID)
  | .openConnection call => .opening call

namespace State

/-- The transport and the queue `send` and its siblings read under the lock. -/
def current (s : State) (clientID : String) : Option (ℕ × ℕ) :=
  match s.hub.conns.lookup clientID, s.hub.writeQueues.lookup clientID with
  | some conn, some queue => some (conn, queue)
  | _, _ => none

def setQueue (s : State) (queue : ℕ) (w : WriteQueue) : State :=
  { s with queue := Function.update s.queue queue w }

def setPoint (s : State) (call : ℕ) (point : OpenPoint) : State :=
  { s with opens := Function.update s.opens call { s.opens call with point := point } }

/-- A queue has been closed, and whoever closed it goes on. -/
def resume (s : State) : Then → State × Task
  | .registered conn clientID replaced =>
      ({ s with retired := s.retired ++ replaced.toList }, .serving conn clientID)
  | .unregistered conn clientID after =>
      ({ s with retired := s.retired ++ [conn] }, after.resume conn clientID)
  | .forget conn clientID => (s, .forget conn clientID)

/-- A queue is closed, if there is one. -/
def closeThen (s : State) (queue : Option ℕ) (next : Then) : State × Task :=
  match queue with
  | none => s.resume next
  | some queue => (s, .close queue next)

/-- `newControlWriteQueue` and `register`. -/
def register (s : State) (clientID : String) : State × Task :=
  closeThen
    { s with
      hub := s.hub.register clientID s.sessions
      sessions := s.sessions + 1 }
    (s.hub.writeQueues.lookup clientID)
    (.registered s.sessions clientID (s.hub.conns.lookup clientID))

/-- `unregister`. -/
def unregister (s : State) (conn : ℕ) (clientID : String) (after : After) : State × Task :=
  match s.hub.unregister clientID conn with
  | (hub, true) =>
      closeThen { s with hub := hub } (s.hub.writeQueues.lookup clientID)
        (.unregistered conn clientID after)
  | (_, false) => (s, after.resume conn clientID)

/-- `sendOpenConnectionOnce`, once `enqueueWait` has returned. -/
def afterWait (s : State) (call conn : ℕ) (err : Option WriteError) : State × Task :=
  match err with
  | none => (s.setPoint call (.returned none), .opening call)
  | some .queueFull => (s.setPoint call (.failed (.write .queueFull)), .opening call)
  | some err =>
      (s.setPoint call (.failed (.write err)),
        .unregister conn (s.opens call).clientID (.openConnection call))

/-- `enqueueWait` in `sendOpenConnectionOnce`, up to its `select`. -/
def tryOpen (s : State) (call queue conn : ℕ) : State × Task :=
  match (s.queue queue).enqueueItem (s.opens call).message true with
  | (w, some err) => (s.setQueue queue w).afterWait call conn (some err)
  | (w, none) =>
      ({ s.setQueue queue w with
          opens := Function.update s.opens call
            { s.opens call with
              point := .waiting queue conn (s.queue queue).calls
              attempts := (s.opens call).attempts ++ [⟨queue, (s.queue queue).calls⟩] } },
        .opening call)

/-- One action of a call of `sendOpenConnection`. -/
def stepOpen (s : State) (call : ℕ) (choice : Choice) : Option (State × Task) :=
  match (s.opens call).point, choice with
  | .attempt, .go =>
      match s.current (s.opens call).clientID with
      | none => some (s.setPoint call (.failed .offline), .opening call)
      | some (conn, queue) => some (s.setPoint call (.enqueue queue conn), .opening call)
  | .enqueue queue conn, .go => some (s.tryOpen call queue conn)
  | .waiting queue conn ticket, .go =>
      ((s.queue queue).receive ticket).map fun received =>
        (s.setQueue queue received.1).afterWait call conn received.2
  | .waiting _ conn _, .cancelled error => some (s.afterWait call conn (some (.context error)))
  | .failed err, .go =>
      if isRetryableOpenConnectionError err then some (s.setPoint call .attempt, .opening call)
      else some (s.setPoint call (.returned (some err)), .opening call)
  | .failed err, .ended => some (s.setPoint call (.returned (some err)), .opening call)
  | _, _ => none

/-- One action of a writer; `onError` starts an `unregister`. -/
def stepWriter (s : State) (conn : ℕ) (clientID : String) (failure : Option String) :
    Option (State × Task × List Task) :=
  ((s.queue conn).run failure).map fun w =>
    (s.setQueue conn w, .writer conn clientID,
      match (s.queue conn).writer with
      | .failing [] _ => [.unregister conn clientID .nothing]
      | _ => [])

/-- `sendHeartbeatAck`, once `enqueueWait` has returned. -/
def afterAck (conn : ℕ) (clientID : String) : Option WriteError → Task
  | none => .serving conn clientID
  | some _ => .unregister conn clientID .readLoop

/-- The tasks whose next action leaves nothing to the environment. -/
def run (s : State) : Task → Option (State × Task × List Task)
  | .accepted clientID =>
      some ((s.register clientID).1, (s.register clientID).2, [.writer s.sessions clientID])
  | .ack queue conn clientID message =>
      match (s.queue queue).enqueueItem message true with
      | (w, some err) => some (s.setQueue queue w, afterAck conn clientID (some err), [])
      | (w, none) =>
          some (s.setQueue queue w, .ackWaiting queue conn (s.queue queue).calls clientID, [])
  | .ackWaiting queue conn ticket clientID =>
      ((s.queue queue).receive ticket).map fun received =>
        (s.setQueue queue received.1, afterAck conn clientID received.2, [])
  | .send clientID message =>
      match s.current clientID with
      | none => some (s, .finished, [])
      | some (conn, queue) => some (s, .enqueue queue conn clientID message, [])
  | .enqueue queue conn clientID message =>
      match (s.queue queue).enqueueItem message false with
      | (w, none) => some (s.setQueue queue w, .finished, [])
      | (w, some .queueFull) => some (s.setQueue queue w, .finished, [])
      | (w, some _) => some (s.setQueue queue w, .unregister conn clientID .nothing, [])
  | .openConnection clientID message =>
      some
        ({ s with
            calls := s.calls + 1
            opens := Function.update s.opens s.calls
              { clientID := clientID, message := message, point := .attempt, attempts := [] } },
          .opening s.calls, [])
  | .disconnect clientID =>
      match s.hub.conns.lookup clientID with
      | none => some (s, .finished, [])
      | some conn => some (s, .unregister conn clientID .nothing, [])
  | .unregister conn clientID after =>
      some ((s.unregister conn clientID after).1, (s.unregister conn clientID after).2, [])
  | .close queue next =>
      some (s.setQueue queue (s.queue queue).close,
        .closing queue (s.queue queue).queue.items next, [])
  | .closing queue (item :: rest) next =>
      ((s.queue queue).complete item (some .queueClosed)).map fun w =>
        (s.setQueue queue w, .closing queue rest next, [])
  | .closing _ [] next => some ((s.resume next).1, (s.resume next).2, [])
  | .forget conn clientID =>
      some ({ s with hub := s.hub.forgetQueue clientID conn }, .finished, [])
  | _ => none

/-- One action of a task. -/
def step (s : State) (task : Task) (choice : Choice) : Option (State × Task × List Task) :=
  match task, choice with
  | .serving conn clientID, .heartbeat requestID =>
      match s.current clientID with
      | none => some (s, .unregister conn clientID .deferred, [])
      | some (current, queue) =>
          if current = conn then
            some (s, .ack queue conn clientID ⟨.heartbeatAck, requestID, "", []⟩, [])
          else some (s, .unregister conn clientID .deferred, [])
  | .serving conn clientID, .ended => some (s, .unregister conn clientID .deferred, [])
  | .ackWaiting _ conn _ clientID, .cancelled error =>
      some (s, afterAck conn clientID (some (.context error)), [])
  | .writer conn clientID, .go => s.stepWriter conn clientID none
  | .writer conn clientID, .failed message => s.stepWriter conn clientID (some message)
  | .opening call, choice => (s.stepOpen call choice).map fun moved => (moved.1, moved.2, [])
  | task, .go => s.run task
  | _, _ => none

end State

/-- What may start at any time. -/
def Task.arrives : Task → Bool
  | .accepted _ | .send _ _ | .openConnection _ _ | .disconnect _ => true
  | _ => false

/-- The sessions of the hub and everybody who uses them. -/
def controlSessions : Machine State Task Choice where
  entry := Task.arrives
  step := State.step

/-- A hub that has just started. -/
def controlSessionsStart (store : Store) (now : Time) : Config State Task where
  shared :=
    { hub := .newHub store now
      sessions := 0
      queue := fun _ => .new
      calls := 0
      opens := fun _ => .unused
      retired := [] }
  threads := []

/-! ## What one action does

`Action` lists the branches of `step`, with their guards. -/

/-- The branches of `step`. -/
inductive Action (s : State) : Task → State → Task → List Task → Prop
  | register (clientID : String) :
      Action s (.accepted clientID) (s.register clientID).1 (s.register clientID).2
        [.writer s.sessions clientID]
  | leaves (conn : ℕ) (clientID : String) :
      Action s (.serving conn clientID) s (.unregister conn clientID .deferred) []
  | heartbeat {conn queue : ℕ} {clientID : String} (message : ControlMessage)
      (current : s.current clientID = some (conn, queue)) :
      Action s (.serving conn clientID) s (.ack queue conn clientID message) []
  | ackRefused {queue conn : ℕ} {clientID : String} {message : ControlMessage} {w : WriteQueue}
      {err : WriteError} (enqueued : (s.queue queue).enqueueItem message true = (w, some err)) :
      Action s (.ack queue conn clientID message) (s.setQueue queue w)
        (.unregister conn clientID .readLoop) []
  | ackQueued {queue conn : ℕ} {clientID : String} {message : ControlMessage} {w : WriteQueue}
      (enqueued : (s.queue queue).enqueueItem message true = (w, none)) :
      Action s (.ack queue conn clientID message) (s.setQueue queue w)
        (.ackWaiting queue conn (s.queue queue).calls clientID) []
  | acked {queue conn ticket : ℕ} {clientID : String} {w : WriteQueue} {err : Option WriteError}
      (received : (s.queue queue).receive ticket = some (w, err)) :
      Action s (.ackWaiting queue conn ticket clientID) (s.setQueue queue w)
        (State.afterAck conn clientID err) []
  | ackTimeout (queue conn ticket : ℕ) (clientID : String) :
      Action s (.ackWaiting queue conn ticket clientID) s (.unregister conn clientID .readLoop) []
  | writer {conn : ℕ} {clientID : String} {failure : Option String} {w : WriteQueue}
      {spawned : List Task} (ran : (s.queue conn).run failure = some w)
      (onError : spawned = [] ∨ spawned = [.unregister conn clientID .nothing]) :
      Action s (.writer conn clientID) (s.setQueue conn w) (.writer conn clientID) spawned
  | offline (clientID : String) (message : ControlMessage) :
      Action s (.send clientID message) s .finished []
  | send {conn queue : ℕ} {clientID : String} (message : ControlMessage)
      (current : s.current clientID = some (conn, queue)) :
      Action s (.send clientID message) s (.enqueue queue conn clientID message) []
  | sent {queue conn : ℕ} {clientID : String} {message : ControlMessage} {w : WriteQueue}
      {err : Option WriteError} (enqueued : (s.queue queue).enqueueItem message false = (w, err)) :
      Action s (.enqueue queue conn clientID message) (s.setQueue queue w) .finished []
  | sendFails {queue conn : ℕ} {clientID : String} {message : ControlMessage} {w : WriteQueue}
      {err : WriteError} (enqueued : (s.queue queue).enqueueItem message false = (w, some err)) :
      Action s (.enqueue queue conn clientID message) (s.setQueue queue w)
        (.unregister conn clientID .nothing) []
  | openConnection (clientID : String) (message : ControlMessage) :
      Action s (.openConnection clientID message)
        { s with
          calls := s.calls + 1
          opens := Function.update s.opens s.calls
            { clientID := clientID, message := message, point := .attempt, attempts := [] } }
        (.opening s.calls) []
  | opening {call : ℕ} {choice : Choice} {s' : State} {task' : Task}
      (stepped : s.stepOpen call choice = some (s', task')) :
      Action s (.opening call) s' task' []
  | disconnected (clientID : String) : Action s (.disconnect clientID) s .finished []
  | disconnect {conn : ℕ} {clientID : String} (current : s.hub.conns.lookup clientID = some conn) :
      Action s (.disconnect clientID) s (.unregister conn clientID .nothing) []
  | unregister (conn : ℕ) (clientID : String) (after : After) :
      Action s (.unregister conn clientID after) (s.unregister conn clientID after).1
        (s.unregister conn clientID after).2 []
  | close (queue : ℕ) (next : Then) :
      Action s (.close queue next) (s.setQueue queue (s.queue queue).close)
        (.closing queue (s.queue queue).queue.items next) []
  | complete {queue : ℕ} {item : QueuedControlMessage} {w : WriteQueue}
      (rest : List QueuedControlMessage) (next : Then)
      (completes : (s.queue queue).complete item (some .queueClosed) = some w) :
      Action s (.closing queue (item :: rest) next) (s.setQueue queue w)
        (.closing queue rest next) []
  | closed (queue : ℕ) (next : Then) :
      Action s (.closing queue [] next) (s.resume next).1 (s.resume next).2 []
  | forget (conn : ℕ) (clientID : String) :
      Action s (.forget conn clientID) { s with hub := s.hub.forgetQueue clientID conn } .finished []

section Inversion

variable {s s' : State} {task task' : Task} {choice : Choice} {spawned : List Task}

theorem action_of_stepWriter {conn : ℕ} {clientID : String} {failure : Option String}
    (stepped : s.stepWriter conn clientID failure = some (s', task', spawned)) :
    Action s (.writer conn clientID) s' task' spawned := by
  unfold State.stepWriter at stepped
  obtain ⟨w, ran, built⟩ := Option.map_eq_some_iff.mp stepped
  cases built
  refine .writer ran ?_
  split
  · exact Or.inr rfl
  · exact Or.inl rfl

/-- What `run` does is one of the listed actions. -/
theorem action_of_run (ran : s.run task = some (s', task', spawned)) :
    Action s task s' task' spawned := by
  cases task with
  | accepted clientID =>
      cases ran
      exact .register clientID
  | ack queue conn clientID message =>
      rw [State.run] at ran
      split at ran <;> rename_i enqueued <;> cases ran
      · exact .ackRefused enqueued
      · exact .ackQueued enqueued
  | ackWaiting queue conn ticket clientID =>
      obtain ⟨⟨w, err⟩, received, built⟩ := Option.map_eq_some_iff.mp ran
      cases built
      exact .acked received
  | send clientID message =>
      rw [State.run] at ran
      split at ran <;> cases ran
      · exact .offline clientID message
      · rename_i current
        exact .send message current
  | enqueue queue conn clientID message =>
      rw [State.run] at ran
      split at ran <;> rename_i enqueued <;> cases ran
      · exact .sent enqueued
      · exact .sent enqueued
      · exact .sendFails enqueued
  | openConnection clientID message =>
      cases ran
      exact .openConnection clientID message
  | disconnect clientID =>
      rw [State.run] at ran
      split at ran <;> cases ran
      · exact .disconnected clientID
      · rename_i current
        exact .disconnect current
  | unregister conn clientID after =>
      cases ran
      exact .unregister conn clientID after
  | close queue next =>
      cases ran
      exact .close queue next
  | closing queue pending next =>
      cases pending with
      | nil =>
          cases ran
          exact .closed queue next
      | cons item rest =>
          obtain ⟨w, completes, built⟩ := Option.map_eq_some_iff.mp ran
          cases built
          exact .complete rest next completes
  | forget conn clientID =>
      cases ran
      exact .forget conn clientID
  | _ => cases ran

/-- Every step is one of the listed actions. -/
theorem action_of_step (stepped : s.step task choice = some (s', task', spawned)) :
    Action s task s' task' spawned := by
  unfold State.step at stepped
  split at stepped
  · split at stepped
    · cases stepped
      exact .leaves _ _
    · rename_i current
      split at stepped <;> cases stepped
      · rename_i same
        subst same
        exact .heartbeat _ current
      · exact .leaves _ _
  · cases stepped
    exact .leaves _ _
  · cases stepped
    exact .ackTimeout _ _ _ _
  · exact action_of_stepWriter stepped
  · exact action_of_stepWriter stepped
  · obtain ⟨⟨next, moved⟩, opened, built⟩ := Option.map_eq_some_iff.mp stepped
    cases built
    exact .opening opened
  · exact action_of_run stepped
  · cases stepped

end Inversion

/-! ## What never goes back -/

/-- A queue stays closed, and its logs only grow. -/
structure Grows (w w' : WriteQueue) : Prop where
  closed : w.queue.closed = true → w'.queue.closed = true
  accepted : ∀ item ∈ w.accepted, item ∈ w'.accepted
  outcomes : ∀ entry ∈ w.outcomes, entry ∈ w'.outcomes
  completed : ∀ entry ∈ w.completed, entry ∈ w'.completed

namespace Grows

variable {w w' : WriteQueue} {item : QueuedControlMessage} {err : Option WriteError}

theorem refl (w : WriteQueue) : Grows w w :=
  ⟨id, fun _ => id, fun _ => id, fun _ => id⟩

/-- `accepted` grows with what is put into the queue. -/
theorem accepted_of_event (event : QueueEvent w w') : ∀ item ∈ w.accepted, item ∈ w'.accepted := by
  intro item member
  cases event with
  | none queue accepted taken => rwa [accepted]
  | enqueued other queue accepted taken =>
      rw [accepted]
      exact List.mem_append_left _ member
  | dequeued other queue accepted taken => rwa [accepted]
  | drained queue accepted taken => rwa [accepted]

theorem of_event (event : QueueEvent w w') (outcomes : ∀ entry ∈ w.outcomes, entry ∈ w'.outcomes)
    (completed : ∀ entry ∈ w.completed, entry ∈ w'.completed) : Grows w w' :=
  ⟨fun closed => (event.closed closed).2, accepted_of_event event, outcomes, completed⟩

theorem enqueueItem {message : ControlMessage} {waits : Bool}
    (enqueued : w.enqueueItem message waits = (w', err)) : Grows w w' := by
  have event : QueueEvent w (w.enqueueItem message waits).1 := event_of_enqueueItem message waits
  have logs : (w.enqueueItem message waits).1.outcomes = w.outcomes ∧
      (w.enqueueItem message waits).1.completed = w.completed := by
    unfold WriteQueue.enqueueItem
    split <;> exact ⟨rfl, rfl⟩
  rw [enqueued] at event logs
  refine of_event event ?_ ?_
  · rw [logs.1]
    exact fun _ => id
  · rw [logs.2]
    exact fun _ => id

theorem receive {n : ℕ} (received : w.receive n = some (w', err)) : Grows w w' := by
  obtain ⟨value, -, built⟩ := Option.map_eq_some_iff.mp received
  cases built
  exact ⟨id, fun _ => id, fun _ => id, fun _ => id⟩

theorem close : Grows w w.close :=
  ⟨fun _ => rfl, fun _ => id, fun _ => id, fun _ => id⟩

theorem complete (completes : w.complete item err = some w') (writer : Writer) :
    Grows w { w' with writer := writer } := by
  obtain ⟨done, rfl, -⟩ := WriteQueue.of_complete completes
  exact ⟨id, fun _ => id, fun _ => id, fun _ => List.mem_append_left _⟩

theorem run {failure : Option String} (ran : w.run failure = some w') : Grows w w' := by
  have event := event_of_run ran
  unfold WriteQueue.run at ran
  split at ran
  · split at ran
    · cases ran
    · cases ran
      exact of_event event (fun _ => id) fun _ => id
    · cases ran
      exact of_event event (fun _ => id) fun _ => id
  · cases ran
    exact of_event event (fun _ => id) fun _ => id
  · cases ran
    exact of_event event (fun _ => List.mem_append_left _) fun _ => id
  · rename_i err ready
    obtain ⟨completed, completes, rfl⟩ := Option.map_eq_some_iff.mp ran
    cases err with
    | none => exact complete completes .next
    | some cause => exact complete completes (.fail cause)
  · split at ran <;> cases ran
    · exact of_event event (fun _ => id) fun _ => id
    · exact of_event event (fun _ => id) fun _ => id
  · cases ran
    exact of_event event (fun _ => id) fun _ => id
  · obtain ⟨completed, completes, rfl⟩ := Option.map_eq_some_iff.mp ran
    exact complete completes _
  · cases ran

end Grows

/-- Sessions are numbered upwards, an old session is registered once only, and queues grow. -/
structure Evolves (s s' : State) : Prop where
  sessions : s.sessions ≤ s'.sessions
  conns : ∀ clientID conn, conn < s.sessions → s'.hub.conns.lookup clientID = some conn →
    s.hub.conns.lookup clientID = some conn
  queues : ∀ queue, Grows (s.queue queue) (s'.queue queue)

section Evolution

variable {s s' : State} {task task' : Task} {spawned : List Task} {queue : ℕ} {w : WriteQueue}

theorem Evolves.of_same (hub : s'.hub = s.hub) (sessions : s'.sessions = s.sessions)
    (queues : ∀ queue, Grows (s.queue queue) (s'.queue queue)) : Evolves s s' := by
  refine ⟨le_of_eq sessions.symm, fun clientID conn _ current => ?_, queues⟩
  rw [hub] at current
  exact current

theorem grows_update (grows : Grows (s.queue queue) w) (other : ℕ) :
    Grows (s.queue other) (Function.update s.queue queue w other) := by
  by_cases same : other = queue
  · subst same
    rw [Function.update_self]
    exact grows
  · rw [Function.update_of_ne same]
    exact .refl _

theorem Evolves.setQueue (grows : Grows (s.queue queue) w) : Evolves s (s.setQueue queue w) :=
  .of_same rfl rfl (grows_update grows)

/-- Finishing a `close` changes nothing but a ghost. -/
theorem resume_same (next : Then) :
    (s.resume next).1.hub = s.hub ∧ (s.resume next).1.sessions = s.sessions ∧
      (s.resume next).1.queue = s.queue ∧ (s.resume next).1.opens = s.opens := by
  cases next <;> exact ⟨rfl, rfl, rfl, rfl⟩

theorem closeThen_same (closed : Option ℕ) (next : Then) :
    (s.closeThen closed next).1.hub = s.hub ∧
      (s.closeThen closed next).1.sessions = s.sessions ∧
      (s.closeThen closed next).1.queue = s.queue ∧
      (s.closeThen closed next).1.opens = s.opens := by
  cases closed with
  | none => exact resume_same next
  | some queue => exact ⟨rfl, rfl, rfl, rfl⟩

theorem afterWait_same (call conn : ℕ) (err : Option WriteError) :
    (s.afterWait call conn err).1.hub = s.hub ∧
      (s.afterWait call conn err).1.sessions = s.sessions ∧
      (s.afterWait call conn err).1.queue = s.queue := by
  unfold State.afterWait
  split <;> exact ⟨rfl, rfl, rfl⟩

/-- A call of `sendOpenConnection` leaves the tables alone. -/
theorem evolves_of_stepOpen {call : ℕ} {choice : Choice}
    (stepped : s.stepOpen call choice = some (s', task')) :
    Evolves s s' ∧ s'.hub = s.hub ∧ s'.sessions = s.sessions := by
  unfold State.stepOpen at stepped
  split at stepped
  · split at stepped <;> cases stepped <;>
      exact ⟨.of_same rfl rfl fun _ => .refl _, rfl, rfl⟩
  · have same := congrArg Prod.fst (Option.some.inj stepped)
    unfold State.tryOpen at same
    split at same
    · rename_i enqueued
      subst same
      obtain ⟨hub, sessions, queues⟩ := afterWait_same (s := s.setQueue _ _) call _ _
      refine ⟨.of_same hub sessions ?_, hub, sessions⟩
      rw [queues]
      exact grows_update (Grows.enqueueItem enqueued)
    · rename_i enqueued
      subst same
      exact ⟨.of_same rfl rfl (grows_update (Grows.enqueueItem enqueued)), rfl, rfl⟩
  · obtain ⟨⟨w, err⟩, received, built⟩ := Option.map_eq_some_iff.mp stepped
    have same := congrArg Prod.fst built
    simp only at same
    subst same
    obtain ⟨hub, sessions, queues⟩ := afterWait_same (s := s.setQueue _ _) call _ _
    refine ⟨.of_same hub sessions ?_, hub, sessions⟩
    rw [queues]
    exact grows_update (Grows.receive received)
  · rename_i conn _ error _
    have same := congrArg Prod.fst (Option.some.inj stepped)
    simp only at same
    subst same
    obtain ⟨hub, sessions, queues⟩ := afterWait_same (s := s) call conn (some (.context error))
    refine ⟨.of_same hub sessions ?_, hub, sessions⟩
    rw [queues]
    exact fun _ => .refl _
  · split at stepped <;> cases stepped <;>
      exact ⟨.of_same rfl rfl fun _ => .refl _, rfl, rfl⟩
  · cases stepped
    exact ⟨.of_same rfl rfl fun _ => .refl _, rfl, rfl⟩
  · cases stepped

/-- No action goes back. -/
theorem evolves_of_action (action : Action s task s' task' spawned) : Evolves s s' := by
  have same : Evolves s s := .of_same rfl rfl fun _ => .refl _
  cases action with
  | register clientID =>
      obtain ⟨hub, sessions, queues, -⟩ := closeThen_same
        (s := { s with hub := s.hub.register clientID s.sessions, sessions := s.sessions + 1 })
        (s.hub.writeQueues.lookup clientID)
        (.registered s.sessions clientID (s.hub.conns.lookup clientID))
      refine ⟨?_, fun other conn old current => ?_, fun queue => ?_⟩
      · unfold State.register
        rw [sessions]
        exact Nat.le_succ _
      · unfold State.register at current
        rw [hub, Hub.conns_register] at current
        split at current
        · cases current
          exact absurd old (lt_irrefl _)
        · exact current
      · unfold State.register
        rw [queues]
        exact .refl _
  | ackRefused enqueued => exact .setQueue (Grows.enqueueItem enqueued)
  | ackQueued enqueued => exact .setQueue (Grows.enqueueItem enqueued)
  | acked received => exact .setQueue (Grows.receive received)
  | writer ran onError => exact .setQueue (Grows.run ran)
  | sent enqueued => exact .setQueue (Grows.enqueueItem enqueued)
  | sendFails enqueued => exact .setQueue (Grows.enqueueItem enqueued)
  | openConnection clientID message => exact .of_same rfl rfl fun _ => .refl _
  | opening stepped => exact (evolves_of_stepOpen stepped).1
  | unregister conn clientID after =>
      unfold State.unregister
      split
      · rename_i hub removed
        obtain ⟨hub', sessions, queues, -⟩ := closeThen_same (s := { s with hub := hub })
          (s.hub.writeQueues.lookup clientID) (.unregistered conn clientID after)
        refine ⟨le_of_eq sessions.symm, fun other old _ current => ?_, fun queue => ?_⟩
        · have lookup : (s.hub.unregister clientID conn).1.conns.lookup other = _ :=
            Hub.conns_unregister other
          rw [removed] at lookup
          rw [hub', lookup] at current
          split at current
          · cases current
          · exact current
        · rw [queues]
          exact .refl _
      · exact same
  | close queue next => exact .setQueue Grows.close
  | @complete queue item w rest next completes =>
      exact .setQueue (Grows.complete completes w.writer)
  | closed queue next =>
      obtain ⟨hub, sessions, queues, -⟩ := resume_same (s := s) next
      refine .of_same hub sessions ?_
      rw [queues]
      exact fun _ => .refl _
  | forget conn clientID =>
      refine ⟨le_refl _, fun other old _ current => ?_, fun _ => .refl _⟩
      rw [Hub.conns_forgetQueue] at current
      exact current
  | _ => exact same

end Evolution

end NryNet.Control.Sessions

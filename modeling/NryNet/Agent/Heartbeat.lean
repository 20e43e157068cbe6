import NryNet.Agent.WriteQueue
import NryNet.Lib.Chan

/-!
# Heartbeats and their acknowledgements (`client/agent/messages.go`, `heartbeat_state.go`)

A session of the agent sends a heartbeat at every tick and, once the server has acknowledged one,
waits for the acknowledgement of each.  Three goroutines take part: the heartbeat loop, the writer of
the control connection (`NryNet.Agent.WriteQueue`) and the reader, which passes acknowledgements on
through a channel with room for four and drops what does not fit.

## The model

There is one of each goroutine in a session, so their program points are part of the state.  The
server is the fourth party: it acknowledges every heartbeat that was written, in order, with its own
request identifier.  `wire` holds the heartbeats it has not yet seen and `replies` the
acknowledgements the reader has not yet read.  Other goroutines write other messages, and close the
connection, at any time.  `queued` is a ghost: the identifiers of the heartbeats that were put into
the write queue.

## The result

A heartbeat is followed on its way: queue, writer, wire, replies, reader, channel (`Session.path`).
The one it waits for can get lost in two ways.  A heartbeat that is coalesced never enters the path;
the loop knows nothing of it, and waits for it if an acknowledgement of an earlier heartbeat has
arrived by the time it asks.  And an acknowledgement that finds four others in the channel is
dropped.  Where neither happens to the heartbeat the loop is concerned with, it stays on its way
until the loop has it (`heartbeat_on_its_way`).
-/

namespace NryNet.Agent

open ThreadPool

/-! ## A session -/

/-- The goroutine `heartbeat`.  `queued` tells whether its heartbeat was put into the queue. -/
inductive Loop where
  /-- before `sendHeartbeatRequest` -/
  | send
  /-- `sendHeartbeatRequest`, before `writeControl` -/
  | write (requestID : String)
  /-- `sendHeartbeatRequest`, before the ping -/
  | ping (requestID : String) (queued : Bool)
  /-- before `heartbeatAckRequired` -/
  | check (requestID : String) (queued : Bool)
  /-- in `waitHeartbeatAck` -/
  | wait (requestID : String)
  /-- before the next tick -/
  | idle
  | ended
  deriving DecidableEq, Repr

/-- The goroutine `readLoop`, as far as acknowledgements are concerned. -/
inductive Reader where
  | read
  /-- before `enableHeartbeatAck` -/
  | enable (requestID : String)
  /-- before `signalHeartbeatAck` -/
  | signal (requestID : String)
  deriving DecidableEq, Repr

/-- A session, from the point where its goroutines are started. -/
structure Session where
  conn : ControlConn
  heartbeatSequence : ℕ
  heartbeatAcks : Chan String
  heartbeatAckEnabled : Bool
  loop : Loop
  reader : Reader
  wire : List String
  replies : List String
  queued : List String

/-- The request identifier of a heartbeat. -/
def heartbeatID (sequence : ℕ) : String :=
  "heartbeat-" ++ toString sequence

/-- The message of `sendHeartbeatRequest`. -/
def heartbeatMessage (requestID : String) : ControlValue :=
  .message ⟨.heartbeat, requestID, "", []⟩

/-- The identifier of a message, if it is a heartbeat. -/
def QueuedAgentMessage.heartbeat (item : QueuedAgentMessage) : Option String :=
  match item.value with
  | .message message => if message.type = .heartbeat then some message.requestID else none
  | .other => none

/-- The heartbeat the writer has in its hands. -/
def Writer.heartbeat : Writer → List String
  | .write item | .writing item => item.heartbeat.toList
  | _ => []

/-- The acknowledgement the reader has in its hands. -/
def Reader.acknowledged : Reader → List String
  | .enable requestID | .signal requestID => [requestID]
  | .read => []

namespace Session

/-- `runSession`, with the sequence number the agent has reached. -/
def new (sequence : ℕ) : Session where
  conn := .new
  heartbeatSequence := sequence
  heartbeatAcks := .make 4
  heartbeatAckEnabled := false
  loop := .send
  reader := .read
  wire := []
  replies := []
  queued := []

/-- `writeControl` in `sendHeartbeatRequest`. -/
def writeHeartbeat (s : Session) (requestID : String) : Session :=
  let conn := (s.conn.writeJSON (heartbeatMessage requestID)).1
  match s.conn.queue.writeJSON (s.conn.item (heartbeatMessage requestID)) with
  | .error _ => { s with conn := conn, loop := .ended }
  | .ok (_, .coalesced) => { s with conn := conn, loop := .ping requestID false }
  | .ok (_, .queued) =>
      { s with
        conn := conn
        loop := .ping requestID true
        queued := s.queued ++ [requestID] }

/-- `waitHeartbeatAck` takes a value out of the channel. -/
def receiveAck (s : Session) (requestID : String) : Option Session :=
  s.heartbeatAcks.receive.map fun received =>
    { s with
      heartbeatAcks := received.2
      loop := if received.1 = "" ∨ received.1 = requestID then .idle else .wait requestID }

/-- One action of the heartbeat loop.  `failed` tells that the ping has failed, that the timer has
fired or that the context is done. -/
def stepLoop (s : Session) (failed : Bool) : Option Session :=
  match s.loop, failed with
  | .send, _ =>
      some
        { s with
          heartbeatSequence := s.heartbeatSequence + 1
          loop := if s.conn.queue.closed then .ended
            else .write (heartbeatID (s.heartbeatSequence + 1)) }
  | .write requestID, _ => some (s.writeHeartbeat requestID)
  | .ping requestID queued, false => some { s with loop := .check requestID queued }
  | .check requestID _, _ =>
      some { s with loop := if s.heartbeatAckEnabled then .wait requestID else .idle }
  | .wait requestID, false => s.receiveAck requestID
  | .idle, false => some { s with loop := .send }
  | .ping _ _, true | .wait _, true | .idle, true => some { s with loop := .ended }
  | .ended, _ => none

/-- One action of the writer.  What it has written goes to the server. -/
def stepWriter (s : Session) (failed : Bool) : Option Session :=
  (s.conn.run failed).map fun conn =>
    { s with
      conn := conn
      wire := s.wire ++
        match s.conn.writer, failed with
        | .writing item, false => item.heartbeat.toList
        | _, _ => [] }

/-- The server acknowledges a heartbeat. -/
def stepServer (s : Session) : Option Session :=
  match s.wire with
  | [] => none
  | requestID :: rest => some { s with wire := rest, replies := s.replies ++ [requestID] }

/-- One action of the reader. -/
def stepReader (s : Session) : Option Session :=
  match s.reader with
  | .read =>
      match s.replies with
      | [] => none
      | requestID :: rest => some { s with replies := rest, reader := .enable requestID }
  | .enable requestID => some { s with heartbeatAckEnabled := true, reader := .signal requestID }
  | .signal requestID =>
      some { s with heartbeatAcks := s.heartbeatAcks.trySend requestID, reader := .read }

end Session

/-- The goroutines of a session, the server, and the rest of the agent. -/
inductive Party where
  | loop
  | writer
  | reader
  | server
  /-- another goroutine, before `writeJSON` -/
  | writeJSON (value : ControlValue)
  /-- another goroutine, before `close` -/
  | close
  | returned
  deriving DecidableEq, Repr

/-- One action of a party. -/
def Session.step (s : Session) (party : Party) (failed : Bool) :
    Option (Session × Party × List Party) :=
  match party with
  | .loop => (s.stepLoop failed).map fun s' => (s', .loop, [])
  | .writer => (s.stepWriter failed).map fun s' => (s', .writer, [])
  | .reader => s.stepReader.map fun s' => (s', .reader, [])
  | .server => s.stepServer.map fun s' => (s', .server, [])
  | .writeJSON value => some ({ s with conn := (s.conn.writeJSON value).1 }, .returned, [])
  | .close => some ({ s with conn := s.conn.close }, .returned, [])
  | .returned => none

/-- What the rest of the agent may do at any time.  Heartbeats are sent by the loop only. -/
def Party.arrives : Party → Bool
  | .writeJSON value => !valueIsHeartbeat value
  | .close => true
  | _ => false

/-- A session of the agent. -/
def heartbeats : Machine Session Party Bool where
  entry := Party.arrives
  step := Session.step

/-- The session has just started its goroutines. -/
def heartbeatsStart (sequence : ℕ) : Config Session Party where
  shared := .new sequence
  threads := [.loop, .writer, .reader, .server]

/-! ## The way of a heartbeat -/

/-- The heartbeats that wait in the queue. -/
def QueuedControlConn.heartbeatIDs (q : QueuedControlConn) : List String :=
  q.items.filterMap QueuedAgentMessage.heartbeat

/-- Everywhere a heartbeat or its acknowledgement can be. -/
def Session.path (s : Session) : List String :=
  s.conn.queue.heartbeatIDs ++ s.conn.writer.heartbeat ++ s.wire ++ s.replies ++
    s.reader.acknowledged ++ s.heartbeatAcks.buffer

/-- The heartbeat the loop has put into the queue and may still wait for. -/
def Loop.awaits : Loop → Option String
  | .ping requestID true | .check requestID true | .wait requestID => some requestID
  | _ => none

/-- The heartbeat of the loop was coalesced. -/
def Loop.coalesced : Loop → Bool
  | .check _ false => true
  | _ => false

/-- The control connection works: it is open, and no write has failed. -/
def Session.healthy (s : Session) : Bool :=
  !s.conn.queue.closed && s.conn.writer ≠ .fail

theorem Session.healthy_iff {s : Session} :
    s.healthy = true ↔ s.conn.queue.closed = false ∧ s.conn.writer ≠ .fail := by
  simp [Session.healthy]

section Queue

variable {q q' : QueuedControlConn} {item : QueuedAgentMessage} {id : String}

/-- A message that is put into the queue leaves the heartbeats in it where they are. -/
theorem QueuedControlConn.mem_heartbeatIDs_queued
    (accepted : q.writeJSON item = .ok (q', .queued)) :
    id ∈ q'.heartbeatIDs ↔ id ∈ q.heartbeatIDs ∨ item.heartbeat = some id := by
  obtain ⟨-, rfl, -⟩ := QueuedControlConn.writeJSON_queued accepted
  have members (other : QueuedAgentMessage) :
      other ∈ (q.push item item.lane).items ↔ other ∈ q.items ∨ other = item := by
    rw [← Multiset.mem_coe, Lanes.coe_items_push, Multiset.mem_add, Multiset.mem_coe,
      Multiset.mem_singleton]
  unfold heartbeatIDs
  rw [List.mem_filterMap, List.mem_filterMap]
  constructor
  · rintro ⟨other, member, named⟩
    rcases (members other).mp member with earlier | rfl
    · exact Or.inl ⟨other, earlier, named⟩
    · exact Or.inr named
  · rintro (⟨other, earlier, named⟩ | named)
    · exact ⟨other, (members other).mpr (Or.inl earlier), named⟩
    · exact ⟨item, (members item).mpr (Or.inr rfl), named⟩

/-- A heartbeat that was in the queue still is, unless it has just been taken. -/
theorem QueuedControlConn.mem_heartbeatIDs_taken (taken : q.next = some (some item, q'))
    (waiting : id ∈ q.heartbeatIDs) : id ∈ q'.heartbeatIDs ∨ item.heartbeat = some id := by
  obtain ⟨-, ⟨kind, took⟩, -⟩ := QueuedControlConn.next_item taken
  unfold heartbeatIDs at waiting ⊢
  obtain ⟨other, member, named⟩ := List.mem_filterMap.mp waiting
  rw [← Multiset.mem_coe, took.coe_items, Multiset.mem_add, Multiset.mem_coe,
    Multiset.mem_singleton] at member
  rcases member with still | rfl
  · exact Or.inl (List.mem_filterMap.mpr ⟨other, still, named⟩)
  · exact Or.inr named

end Queue

theorem Session.mem_path {s : Session} {id : String} :
    id ∈ s.path ↔ id ∈ s.conn.queue.heartbeatIDs ∨ id ∈ s.conn.writer.heartbeat ∨ id ∈ s.wire ∨
      id ∈ s.replies ∨ id ∈ s.reader.acknowledged ∨ id ∈ s.heartbeatAcks.buffer := by
  simp only [Session.path, List.mem_append, or_assoc]

/-! ## One action -/

/-- The heartbeat the loop is concerned with was queued and is on its way, as long as the connection
works. -/
def Session.Followed (s : Session) : Prop :=
  ∀ id, s.loop.awaits = some id → id ∈ s.queued ∧ (s.healthy = true → id ∈ s.path)

/-- An action that leaves the loop where it is, and the heartbeat of the loop on its way. -/
structure Advances (s s' : Session) : Prop where
  loop : s'.loop = s.loop
  queued : s'.queued = s.queued
  healthy : s'.healthy = true → s.healthy = true
  path : s'.healthy = true → ∀ id, s.loop.awaits = some id → id ∈ s.path → id ∈ s'.path

theorem Session.Followed.advance {s s' : Session} (followed : s.Followed)
    (advances : Advances s s') : s'.Followed := by
  intro id awaited
  rw [advances.loop] at awaited
  obtain ⟨queued, onItsWay⟩ := followed id awaited
  rw [advances.queued]
  exact ⟨queued, fun healthy =>
    advances.path healthy id awaited (onItsWay (advances.healthy healthy))⟩

/-- What the loop must not meet: an acknowledgement that has arrived when it asks after a heartbeat
that was coalesced.  And what the reader must not meet: a full channel, when it signals the heartbeat
the loop is concerned with. -/
def Careful (config : Config Session Party) : Party → Prop
  | .loop => config.shared.loop.coalesced = true → config.shared.heartbeatAckEnabled = false
  | .reader =>
      match config.shared.reader with
      | .signal requestID =>
          config.shared.loop.awaits ≠ some requestID ∨
            config.shared.heartbeatAcks.buffer.length < config.shared.heartbeatAcks.capacity
      | _ => True
  | _ => True

instance (config : Config Session Party) (party : Party) : Decidable (Careful config party) := by
  unfold Careful
  split
  · infer_instance
  · split <;> infer_instance
  · infer_instance

section Actions

variable {s s' : Session} {failed : Bool}

/-- Nothing is promised about a connection that has failed. -/
theorem advances_broken (loop : s'.loop = s.loop) (queued : s'.queued = s.queued)
    (broken : s'.healthy = false) : Advances s s' := by
  have impossible {P : Prop} (healthy : s'.healthy = true) : P := by
    rw [broken] at healthy
    cases healthy
  exact ⟨loop, queued, impossible, impossible⟩

theorem not_healthy_of_closed (closed : s.conn.queue.closed = true) : s.healthy = false := by
  unfold Session.healthy
  rw [closed]
  rfl

/-- `next` reports a closed queue only. -/
theorem QueuedControlConn.closed_of_next {q q' : QueuedControlConn}
    (stops : q.next = some (none, q')) : q.closed = true := by
  unfold next at stops
  split at stops
  · assumption
  · obtain ⟨popped, -, built⟩ := Option.map_eq_some_iff.mp stops
    cases built

theorem advances_writer (stepped : s.stepWriter failed = some s') : Advances s s' := by
  unfold Session.stepWriter at stepped
  obtain ⟨conn, ran, rfl⟩ := Option.map_eq_some_iff.mp stepped
  unfold ControlConn.run at ran
  split at ran
  · -- `next`: the writer takes a message, or finds the queue closed
    rename_i ready
    split at ran
    · cases ran
    · rename_i q stops
      cases ran
      exact advances_broken rfl rfl
        (not_healthy_of_closed (QueuedControlConn.closed_of_next stops))
    · rename_i item queue taken
      cases ran
      obtain ⟨isOpen, -⟩ := QueuedControlConn.next_item taken
      refine ⟨rfl, rfl, fun _ => ?_, fun _ id _ member => ?_⟩
      · rw [Session.healthy_iff, ready]
        exact ⟨isOpen, by simp⟩
      · rw [Session.mem_path, ready] at member
        rw [Session.mem_path]
        rcases member with waiting | held | rest
        · -- the heartbeat stays in the queue or is now in the hands of the writer
          rcases QueuedControlConn.mem_heartbeatIDs_taken taken waiting with still | named
          · exact Or.inl still
          · refine Or.inr (Or.inl ?_)
            show id ∈ item.heartbeat.toList
            rw [named]
            exact List.mem_cons_self
        · cases held
        · simp only [ready, List.append_nil]
          exact Or.inr (Or.inr rest)
  · rename_i item ready
    cases ran
    refine ⟨rfl, rfl, fun healthy => ?_, fun _ id _ member => ?_⟩
    · rw [Session.healthy_iff] at healthy ⊢
      rw [ready]
      exact ⟨healthy.1, by simp⟩
    · rw [Session.mem_path, ready] at member
      rw [Session.mem_path]
      simp only [ready, List.append_nil]
      exact member
  · -- the write goes out or fails; a heartbeat moves from the writer to the wire
    rename_i item ready
    cases ran
    cases failed with
    | true =>
        refine advances_broken rfl rfl ?_
        simp [Session.healthy]
    | false =>
        refine ⟨rfl, rfl, fun healthy => ?_, fun _ id _ member => ?_⟩
        · rw [Session.healthy_iff] at healthy ⊢
          rw [ready]
          exact ⟨healthy.1, by simp⟩
        · rw [Session.mem_path, ready] at member
          rw [Session.mem_path]
          simp only [ready, List.mem_append]
          rcases member with waiting | held | wire | rest
          · exact Or.inl waiting
          · exact Or.inr (Or.inr (Or.inl (Or.inr held)))
          · exact Or.inr (Or.inr (Or.inl (Or.inl wire)))
          · exact Or.inr (Or.inr (Or.inr rest))
  · split at ran
    · rename_i closed
      cases ran
      exact advances_broken rfl rfl (not_healthy_of_closed closed)
    · cases ran
      exact advances_broken rfl rfl (not_healthy_of_closed rfl)
  · cases ran

theorem advances_server (stepped : s.stepServer = some s') : Advances s s' := by
  unfold Session.stepServer at stepped
  split at stepped
  · cases stepped
  · rename_i requestID rest wire
    cases stepped
    refine ⟨rfl, rfl, id, fun _ id _ member => ?_⟩
    rw [Session.mem_path, wire, List.mem_cons] at member
    rw [Session.mem_path]
    simp only [List.mem_append, List.mem_singleton]
    tauto

/-- The reader drops nothing the loop is concerned with, if it is careful. -/
theorem advances_reader {config : Config Session Party} (same : config.shared = s)
    (careful : Careful config .reader) (stepped : s.stepReader = some s') : Advances s s' := by
  subst same
  unfold Session.stepReader at stepped
  split at stepped
  · -- the next reply is read
    rename_i ready
    split at stepped
    · cases stepped
    · rename_i requestID rest replies
      cases stepped
      refine ⟨rfl, rfl, id, fun _ id _ member => ?_⟩
      rw [Session.mem_path, ready, replies, List.mem_cons] at member
      rw [Session.mem_path]
      simp only [Reader.acknowledged, List.mem_singleton, List.not_mem_nil] at member ⊢
      tauto
  · rename_i requestID ready
    cases stepped
    refine ⟨rfl, rfl, id, fun _ id _ member => ?_⟩
    rw [Session.mem_path, ready] at member
    rw [Session.mem_path]
    exact member
  · -- the non-blocking send on `heartbeatAcks`, which drops what does not fit
    rename_i requestID ready
    cases stepped
    refine ⟨rfl, rfl, id, fun _ id awaited member => ?_⟩
    rw [Session.mem_path, ready] at member
    rw [Session.mem_path]
    simp only [Reader.acknowledged, List.mem_singleton, List.not_mem_nil, false_or] at member ⊢
    have kept : ∀ other ∈ config.shared.heartbeatAcks.buffer,
        other ∈ (config.shared.heartbeatAcks.trySend requestID).buffer := by
      intro other waiting
      unfold Chan.trySend
      cases sends : config.shared.heartbeatAcks.send requestID with
      | none => exact waiting
      | some channel =>
          show other ∈ channel.buffer
          rw [(Chan.of_send sends).2.1]
          exact List.mem_append_left _ waiting
    rcases member with waiting | held | wire | replies | rfl | buffered
    · exact Or.inl waiting
    · exact Or.inr (Or.inl held)
    · exact Or.inr (Or.inr (Or.inl wire))
    · exact Or.inr (Or.inr (Or.inr (Or.inl replies)))
    · -- the acknowledgement of the heartbeat of the loop finds room
      have room : config.shared.heartbeatAcks.buffer.length <
          config.shared.heartbeatAcks.capacity := by
        unfold Careful at careful
        simp only [ready] at careful
        exact careful.resolve_left fun other => other awaited
      refine Or.inr (Or.inr (Or.inr (Or.inr ?_)))
      obtain ⟨channel, sends⟩ := Option.isSome_iff_exists.mp (Chan.send_isSome id room)
      unfold Chan.trySend
      rw [sends]
      show id ∈ channel.buffer
      rw [(Chan.of_send sends).2.1]
      exact List.mem_append_right _ List.mem_cons_self
    · exact Or.inr (Or.inr (Or.inr (Or.inr (kept id buffered))))

/-- A write of any message leaves the heartbeats on their way. -/
theorem path_writeJSON (value : ControlValue) {id : String} (loop : Loop) (queued : List String)
    (member : id ∈ s.path) :
    id ∈ { s with conn := (s.conn.writeJSON value).1, loop := loop, queued := queued }.path := by
  rw [Session.mem_path] at member ⊢
  unfold ControlConn.writeJSON
  split
  · exact member
  · exact member
  · rename_i accepted
    rcases member with waiting | rest
    · exact Or.inl ((QueuedControlConn.mem_heartbeatIDs_queued accepted).mpr (Or.inl waiting))
    · exact Or.inr rest

/-- A write neither opens the connection nor repairs it. -/
theorem healthy_writeJSON (value : ControlValue)
    (healthy : { s with conn := (s.conn.writeJSON value).1 }.healthy = true) :
    s.healthy = true := by
  rw [Session.healthy_iff] at healthy ⊢
  refine ⟨?_, ?_⟩
  · by_contra closed
    have event : QueueEvent s.conn (s.conn.writeJSON value).1 := event_of_writeJSON value
    have closed' := (event.closed (by simpa using closed)).2
    rw [healthy.1] at closed'
    cases closed'
  · have writer : (s.conn.writeJSON value).1.writer = s.conn.writer := by
      unfold ControlConn.writeJSON
      split <;> rfl
    rw [← writer]
    exact healthy.2

theorem advances_writeJSON (value : ControlValue) :
    Advances s { s with conn := (s.conn.writeJSON value).1 } :=
  ⟨rfl, rfl, healthy_writeJSON value, fun _ _ _ member =>
    path_writeJSON value s.loop s.queued member⟩

theorem advances_close : Advances s { s with conn := s.conn.close } :=
  advances_broken rfl rfl (not_healthy_of_closed rfl)

/-- The loop puts its heartbeat into the queue, or knows that it did not. -/
theorem followed_writeHeartbeat (requestID : String) : (s.writeHeartbeat requestID).Followed := by
  intro id awaited
  unfold Session.writeHeartbeat at awaited ⊢
  split at awaited
  · cases awaited
  · cases awaited
  · rename_i queue accepted
    cases awaited
    dsimp only
    refine ⟨List.mem_append_right _ List.mem_cons_self, fun _ => ?_⟩
    rw [Session.mem_path]
    refine Or.inl ?_
    unfold ControlConn.writeJSON
    rw [accepted]
    exact (QueuedControlConn.mem_heartbeatIDs_queued accepted).mpr (Or.inr rfl)

/-- The loop keeps its heartbeat in sight, if it is careful. -/
theorem followed_loop {config : Config Session Party} (same : config.shared = s)
    (careful : Careful config .loop) (followed : s.Followed)
    (stepped : s.stepLoop failed = some s') : s'.Followed := by
  subst same
  have careful : config.shared.loop.coalesced = true →
      config.shared.heartbeatAckEnabled = false := careful
  have forgets {next : Loop} (forgets : next.awaits = none) :
      Session.Followed { config.shared with loop := next } := by
    intro id awaited
    have impossible : next.awaits = some id := awaited
    rw [forgets] at impossible
    cases impossible
  unfold Session.stepLoop at stepped
  split at stepped
  · cases stepped
    intro id awaited
    have impossible : (if config.shared.conn.queue.closed = true then Loop.ended
      else Loop.write (heartbeatID (config.shared.heartbeatSequence + 1))).awaits = some id := awaited
    split at impossible <;> cases impossible
  · cases stepped
    exact followed_writeHeartbeat _
  · rename_i requestID queued at'
    cases stepped
    intro id awaited
    refine followed id ?_
    rw [at']
    cases queued with
    | true => exact awaited
    | false => cases awaited
  · rename_i requestID queued at'
    cases stepped
    cases enabled : config.shared.heartbeatAckEnabled with
    | false => exact forgets rfl
    | true =>
        -- the heartbeat was not coalesced, so the loop has it in sight already
        have inQueue : queued = true := by
          cases queued with
          | true => rfl
          | false =>
              have unexpected := careful (by rw [at']; rfl)
              rw [enabled] at unexpected
              cases unexpected
        subst inQueue
        intro id awaited
        refine followed id ?_
        rw [at']
        exact awaited
  · rename_i requestID at'
    obtain ⟨⟨ack, channel⟩, received, rfl⟩ := Option.map_eq_some_iff.mp stepped
    by_cases own : ack = "" ∨ ack = requestID
    · intro id awaited
      simp only [if_pos own] at awaited
      cases awaited
    · intro id awaited
      simp only [if_neg own] at awaited
      cases awaited
      obtain ⟨queued, onItsWay⟩ := followed requestID (by rw [at']; rfl)
      refine ⟨queued, fun healthy => ?_⟩
      have member := onItsWay healthy
      rw [Session.mem_path] at member ⊢
      rcases member with waiting | held | wire | replies | reading | buffered
      · exact Or.inl waiting
      · exact Or.inr (Or.inl held)
      · exact Or.inr (Or.inr (Or.inl wire))
      · exact Or.inr (Or.inr (Or.inr (Or.inl replies)))
      · exact Or.inr (Or.inr (Or.inr (Or.inr (Or.inl reading))))
      · rw [(Chan.of_receive received).1, List.mem_cons] at buffered
        rcases buffered with rfl | later
        · exact absurd (Or.inr rfl) own
        · exact Or.inr (Or.inr (Or.inr (Or.inr (Or.inr later))))
  · cases stepped
    exact forgets rfl
  · cases stepped
    exact forgets rfl
  · cases stepped
    exact forgets rfl
  · cases stepped
    exact forgets rfl
  · cases stepped

end Actions

/-! ## Every run -/

variable {config : Config Session Party} {sequence : ℕ}

/-- Every careful action keeps the heartbeat of the loop in sight. -/
theorem followed_of_step {party party' : Party} {failed : Bool} {spawned : List Party}
    {s' : Session} (careful : Careful config party) (followed : config.shared.Followed)
    (stepped : config.shared.step party failed = some (s', party', spawned)) : s'.Followed := by
  unfold Session.step at stepped
  split at stepped
  · obtain ⟨next, moved, built⟩ := Option.map_eq_some_iff.mp stepped
    cases built
    exact followed_loop rfl careful followed moved
  · obtain ⟨next, moved, built⟩ := Option.map_eq_some_iff.mp stepped
    cases built
    exact followed.advance (advances_writer moved)
  · obtain ⟨next, moved, built⟩ := Option.map_eq_some_iff.mp stepped
    cases built
    exact followed.advance (advances_reader rfl careful moved)
  · obtain ⟨next, moved, built⟩ := Option.map_eq_some_iff.mp stepped
    cases built
    exact followed.advance (advances_server moved)
  · cases stepped
    exact followed.advance (advances_writeJSON _)
  · cases stepped
    exact followed.advance advances_close
  · cases stepped

/-- **A healthy session does not lose its acknowledgement**, where the loop and the reader are
careful: the identifier the loop waits for is that of a heartbeat that was put into the queue, and as
long as the connection works the heartbeat or its acknowledgement is on its way to the loop. -/
theorem heartbeat_on_its_way
    (reached : heartbeats.Run (Machine.AtStep Careful) (heartbeatsStart sequence) config)
    {id : String} (waits : config.shared.loop = .wait id) :
    id ∈ config.shared.queued ∧ (config.shared.healthy = true → id ∈ config.shared.path) := by
  have followed : config.shared.Followed := by
    refine reached.step_invariant (fun config => config.shared.Followed) ?_
      (fun _ _ followed _ => followed) ?_
    · intro id awaited
      cases awaited
    · intro config index failed party s' party' spawned followed _ careful stepped
      exact followed_of_step careful followed stepped
  refine followed id ?_
  rw [waits]
  rfl

/-- The loop sends a heartbeat, up to its question whether it has to wait. -/
def sendMoves : List (Move Party Bool) :=
  [.run 0 false, .run 0 false, .run 0 false]

/-- The loop does not have to wait, and the next tick comes. -/
def tickMoves : List (Move Party Bool) :=
  [.run 0 false, .run 0 false]

/-- The writer writes one message. -/
def writeMoves : List (Move Party Bool) :=
  [.run 1 false, .run 1 false, .run 1 false]

/-- The server acknowledges one heartbeat, and the reader passes the acknowledgement on. -/
def ackMoves : List (Move Party Bool) :=
  [.run 3 false, .run 2 false, .run 2 false, .run 2 false]

/-- The second heartbeat waits in the queue while the loop waits for its acknowledgement. -/
theorem heartbeat_on_its_way_second :
    ∃ config, heartbeats.Run (Machine.AtStep Careful) (heartbeatsStart 0) config ∧
      config.shared.loop = .wait "heartbeat-2" ∧ config.shared.healthy = true ∧
      "heartbeat-2" ∈ config.shared.queued ∧ "heartbeat-2" ∈ config.shared.path := by
  obtain ⟨config, reached, waits, healthy⟩ :
      ∃ config, heartbeats.Run (Machine.AtStep Careful) (heartbeatsStart 0) config ∧
        config.shared.loop = .wait "heartbeat-2" ∧ config.shared.healthy = true := by
    refine Machine.exists_run_of_replay
      (sendMoves ++ tickMoves ++ writeMoves ++ ackMoves ++ sendMoves ++ [.run 0 false]) ?_
    decide +kernel
  obtain ⟨queued, onItsWay⟩ := heartbeat_on_its_way reached waits
  exact ⟨config, reached, waits, healthy, queued, onItsWay healthy⟩

/-- Two ways to wait in vain, with every heartbeat that was written acknowledged.

The second heartbeat is coalesced with the first one, and before the loop asks whether it has to
wait the acknowledgement of the first one arrives.  Or four acknowledgements are in the channel when
the one of the fifth heartbeat arrives, and the loop asks after that. -/
theorem acknowledgement_missed :
    (∃ config, heartbeats.Reachable (heartbeatsStart 0) config ∧
      config.shared.loop = .wait "heartbeat-2" ∧ config.shared.healthy = true ∧
      "heartbeat-2" ∉ config.shared.queued ∧ config.shared.path = []) ∧
    ∃ config, heartbeats.Reachable (heartbeatsStart 0) config ∧
      config.shared.loop = .wait "heartbeat-5" ∧ config.shared.healthy = true ∧
      "heartbeat-5" ∈ config.shared.queued ∧ config.shared.path = [] := by
  refine ⟨?_, ?_⟩
  · refine Machine.exists_run_of_replay
      (sendMoves ++ tickMoves ++ sendMoves ++ writeMoves ++ ackMoves ++
        [.run 0 false, .run 0 false]) ?_
    decide +kernel
  · refine Machine.exists_run_of_replay
      (sendMoves ++ writeMoves ++ tickMoves ++ sendMoves ++ writeMoves ++ tickMoves ++
        sendMoves ++ writeMoves ++ tickMoves ++ sendMoves ++ writeMoves ++ tickMoves ++
        sendMoves ++ writeMoves ++ ackMoves ++ ackMoves ++ ackMoves ++ ackMoves ++ ackMoves ++
        [.run 0 false, .run 0 false, .run 0 false, .run 0 false, .run 0 false]) ?_
    decide +kernel

end NryNet.Agent

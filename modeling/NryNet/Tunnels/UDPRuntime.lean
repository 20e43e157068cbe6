import NryNet.Storage
import NryNet.Lib.GoMap
import NryNet.Lib.GoText
import NryNet.Lib.ThreadPool

/-!
# UDP tunnels (`server/tunnel/udp_runtime.go`, `udp_routing.go`, `p2p_udp.go`)

A started UDP tunnel has a `udpRuntime`.  Its workers take the datagrams of visitors from a queue, find
or make a session for the address they came from, and pass each datagram to the agent: directly over a
punched path if there is one, else over the control connection.  A session is in two tables of the
runtime, by the text of its address and by its identifier, and counts for one in `Manager.active`.  It
goes when the agent cannot be reached, when it has been idle, when the agent disconnects, or when the
tunnel is stopped.

## The model

Runtimes and sessions are pointers and are modelled by positions in `runtimes` and `visitors`.  A task is
a call at one of its program points.  A critical section of `mu` of a runtime, or of the mutex of the
manager, is one step; `p2pMu` of a session is held over many.  Every call of a worker, of `reapLoop`, of
`disconnectUDPClient` and of `Manager.Close` on a runtime arrives on its own, at any time: what they do
between two calls touches none of this, and a worker may take a datagram from the queue even after
`done` was closed, since a `select` with two ready cases takes either.

`Choice` is what the environment decides: whether an external call succeeds, the identifier that is
drawn, the time, and in which order a map is visited.  Four fields are ghosts: `contribution` is what a
runtime has added to `Manager.active`, `issued` the identifiers drawn so far (`uuid.NewString` never
returns one of them again), `packets` numbers the datagrams, and `handed` remembers which of them were
given to the agent, on which path.  The payloads, the traffic counters, `tunnelPaths` and `p2pCount` are
left out.
-/

namespace NryNet.Tunnels.UDP

open ThreadPool GoText

/-- `udpMaxSessions`. -/
def udpMaxSessions : ℕ := 65536

/-- A `net.UDPAddr`, by the text of its IP. -/
structure UDPAddr where
  ip : String
  port : ℕ
  zone : String
  deriving DecidableEq, Repr

/-- `addr.String()`. -/
def UDPAddr.text (addr : UDPAddr) : String :=
  joinHostPort (if addr.zone = "" then addr.ip else addr.ip ++ "%" ++ addr.zone) addr.port

/-- `udpVisitorSession`; `p2p` says whether there is a direct path. -/
structure VisitorSession where
  id : String
  addr : UDPAddr
  lastSeen : Time
  p2pMu : Bool
  p2p : Bool
  closed : Bool
  deriving DecidableEq, Repr

/-- How far the `once` of `close` has come: `done` is closed, the sessions are cleared, and `close` has
returned. -/
inductive Closing where
  | running
  | started
  | cleared
  | returned
  deriving DecidableEq, Repr

/-- The sessions have been cleared by `close`. -/
def Closing.isCleared : Closing → Bool
  | .cleared | .returned => true
  | _ => false

/-- The `clearSessions` of `close` has taken the lock. -/
def Closing.clear (closing : Closing) : Closing :=
  if closing.isCleared then closing else .cleared

/-- `udpRuntime`. -/
structure UDPRuntime where
  tunnel : Tunnel
  closing : Closing
  sessions : GoMap String ℕ
  byID : GoMap String ℕ
  contribution : ℤ

/-- How a datagram goes to the agent. -/
inductive Path where
  | direct
  | relay
  deriving DecidableEq, Repr

/-- The runtimes of the manager, and everything that was ever made. -/
structure State where
  udpRuntimes : GoMap String ℕ
  runtimes : List UDPRuntime
  visitors : List VisitorSession
  issued : List String
  packets : ℕ
  handed : List (ℕ × Path)

/-- What the environment decides. -/
structure Choice where
  ok : Bool
  uuid : String
  now : Time
  pick : ℕ

/-- A datagram of a visitor in the hands of a worker. -/
structure Datagram where
  number : ℕ
  tunnelID : String
  session : ℕ
  sessionID : String
  deriving DecidableEq, Repr

/-- What follows when the direct paths of some sessions are closed. -/
inductive Next where
  | nothing
  /-- `active.Add(-count)`, and if this is the `clearSessions` of `close` then that returns -/
  | settle (runtime count : ℕ) (closing : Bool)
  deriving DecidableEq, Repr

/-- A call at one of its program points. -/
inductive Task where
  | startUDP (tunnel : Tunnel)
  /-- `stop`, as far as a UDP tunnel is concerned -/
  | stop (tunnelID : String)
  /-- `Manager.Close`, before the critical section -/
  | closeManager
  | handleVisitorPacket (runtime : ℕ) (addr : UDPAddr)
  | handleUDPPacket (clientID tunnelID sessionID : String)
  | removeIdle (runtime : ℕ) (cutoff : Time)
  | clearSessions (runtime : ℕ) (closing : Bool)
  | close (runtime : ℕ)
  /-- `tryP2PUDPPacket`, before `p2pMu` is taken -/
  | tryP2PUDPPacket (datagram : Datagram)
  /-- before the look at `session.closed` -/
  | locked (datagram : Datagram)
  /-- in `openP2PUDP` -/
  | opening (datagram : Datagram)
  /-- in `directRoundTrip`, before `WriteTo` -/
  | directRoundTrip (datagram : Datagram)
  /-- in `readDirectResponse` -/
  | readDirectResponse (datagram : Datagram)
  /-- before the second `udpRuntimeFor` -/
  | answered (datagram : Datagram)
  /-- in `sendToVisitor`, before `findSession` -/
  | sendToVisitor (datagram : Datagram) (runtime : ℕ)
  /-- in `sendToVisitor`, before `WriteToUDP` -/
  | writeToUDP (datagram : Datagram)
  /-- before `SendUDPPacket` -/
  | sendUDPPacket (datagram : Datagram)
  /-- before `udpRuntimeFor` -/
  | removeUDPSession (tunnelID sessionID : String)
  | removeSession (runtime : ℕ) (sessionID : String)
  /-- `HandleUDPPacket`, before `findSession` -/
  | findSession (runtime : ℕ) (sessionID : String)
  /-- before `closeP2P` of one of some sessions -/
  | closeP2P (sessions : List ℕ) (next : Next)
  /-- `close`, before `once.Do` returns -/
  | returning (runtime : ℕ)
  /-- `close`, after it has returned -/
  | closed (runtime : ℕ)
  | finished
  deriving DecidableEq, Repr

namespace UDPRuntime

/-- `newUDPRuntime`. -/
def newUDPRuntime (tunnel : Tunnel) : UDPRuntime where
  tunnel := tunnel
  closing := .running
  sessions := ∅
  byID := ∅
  contribution := 0

/-- `session` for an address that has none. -/
def create (runtime : UDPRuntime) (addr : UDPAddr) (id : String) (session : ℕ) : UDPRuntime :=
  { runtime with
    sessions := runtime.sessions.insert addr.text session
    byID := runtime.byID.insert id session
    contribution := runtime.contribution + 1 }

/-- `removeSession` for a session that is there, up to `active.Add`. -/
def remove (runtime : UDPRuntime) (session : VisitorSession) (sessionID : String) : UDPRuntime :=
  { runtime with
    sessions := runtime.sessions.erase session.addr.text
    byID := runtime.byID.erase sessionID }

/-- `clearSessions`, up to `active.Add`. -/
def clear (runtime : UDPRuntime) (closing : Bool) : UDPRuntime :=
  { runtime with
    sessions := ∅
    byID := ∅
    closing := if closing then runtime.closing.clear else runtime.closing }

end UDPRuntime

namespace State

/-- A manager with no UDP tunnel. -/
def start : State where
  udpRuntimes := ∅
  runtimes := []
  visitors := []
  issued := []
  packets := 0
  handed := []

def setRuntime (s : State) (runtime : ℕ) (value : UDPRuntime) : State :=
  { s with runtimes := s.runtimes.set runtime value }

def setVisitor (s : State) (session : ℕ) (set : VisitorSession → VisitorSession) : State :=
  { s with visitors := s.visitors.modify session set }

/-- `p2pMu.Unlock()`. -/
def unlock (s : State) (session : ℕ) : State :=
  s.setVisitor session fun visitor => { visitor with p2pMu := false }

/-- The direct path is closed and forgotten, and `p2pMu` is let go. -/
def dropP2P (s : State) (session : ℕ) : State :=
  s.setVisitor session fun visitor => { visitor with p2p := false, p2pMu := false }

def touch (s : State) (session : ℕ) (now : Time) : State :=
  s.setVisitor session fun visitor => { visitor with lastSeen := now }

/-- `udpRuntimeFor`. -/
def udpRuntimeFor (s : State) (clientID tunnelID : String) : Option ℕ :=
  (s.udpRuntimes.lookup tunnelID).filter fun runtime =>
    clientID = "" ∨ (s.runtimes[runtime]?).any fun value => value.tunnel.clientID = clientID

/-- Whether `removeIdle` takes a session. -/
def idle (s : State) (cutoff : Time) (session : ℕ) : Bool :=
  (s.visitors[session]?).any fun visitor => visitor.lastSeen < cutoff

/-- `removeIdle`, up to `closeP2P`. -/
def removeIdle (s : State) (runtime : UDPRuntime) (cutoff : Time) : UDPRuntime :=
  let removed := runtime.sessions.valuesWhere fun _ session => s.idle cutoff session
  { runtime with
    sessions := runtime.sessions.deleteWhere fun _ session => s.idle cutoff session
    byID := runtime.byID.eraseAll
      (removed.filterMap fun session => (s.visitors[session]?).map VisitorSession.id)
    contribution := runtime.contribution - removed.length }

/-- `session` for a datagram that the allowlist lets through. -/
def session (s : State) (runtime : ℕ) (value : UDPRuntime) (addr : UDPAddr) (choice : Choice) :
    Option (State × Task) :=
  match value.sessions.lookup addr.text with
  | some session =>
      (s.visitors[session]?).map fun visitor =>
        ({ s.touch session choice.now with packets := s.packets + 1 },
          .tryP2PUDPPacket ⟨s.packets, value.tunnel.id, session, visitor.id⟩)
  | none =>
      if udpMaxSessions ≤ value.sessions.size then some (s, .finished)
      else if choice.uuid ∈ s.issued then none
      else
        some
          ({ s.setRuntime runtime (value.create addr choice.uuid s.visitors.length) with
              visitors := s.visitors ++ [⟨choice.uuid, addr, choice.now, false, false, false⟩]
              issued := s.issued ++ [choice.uuid]
              packets := s.packets + 1 },
            .tryP2PUDPPacket ⟨s.packets, value.tunnel.id, s.visitors.length, choice.uuid⟩)

/-- One step of a call; `none` is one that waits, or is over. -/
def step (s : State) (choice : Choice) : Task → Option (State × Task)
  | .startUDP tunnel =>
      if (s.udpRuntimes.lookup tunnel.id).isSome ∨ ¬ choice.ok then some (s, .finished)
      else
        some
          ({ s with
              udpRuntimes := s.udpRuntimes.insert tunnel.id s.runtimes.length
              runtimes := s.runtimes ++ [.newUDPRuntime tunnel] }, .finished)
  | .stop tunnelID =>
      -- a tunnel that also has a relay binding has only that one closed
      some ({ s with udpRuntimes := s.udpRuntimes.erase tunnelID },
        match s.udpRuntimes.lookup tunnelID with
        | none => .finished
        | some runtime => if choice.ok then .close runtime else .finished)
  | .closeManager => some ({ s with udpRuntimes := ∅ }, .finished)
  | .handleVisitorPacket runtime addr =>
      (s.runtimes[runtime]?).bind fun value =>
        -- the allowlist
        if choice.ok then s.session runtime value addr choice else some (s, .finished)
  | .handleUDPPacket clientID tunnelID sessionID =>
      some (s, match s.udpRuntimeFor clientID tunnelID with
        | none => .finished
        | some runtime => .findSession runtime sessionID)
  | .removeIdle runtime cutoff =>
      (s.runtimes[runtime]?).map fun value =>
        (s.setRuntime runtime (s.removeIdle value cutoff),
          .closeP2P (value.sessions.valuesWhere fun _ session => s.idle cutoff session) .nothing)
  | .clearSessions runtime closing =>
      (s.runtimes[runtime]?).map fun value =>
        (s.setRuntime runtime (value.clear closing),
          .closeP2P (value.sessions.valuesWhere fun _ _ => true)
            (.settle runtime value.sessions.size closing))
  | .close runtime =>
      (s.runtimes[runtime]?).bind fun value =>
        match value.closing with
        | .running =>
            some (s.setRuntime runtime { value with closing := .started },
              .clearSessions runtime true)
        | .returned => some (s, .closed runtime)
        -- somebody else is in `once.Do`
        | _ => none
  | .tryP2PUDPPacket datagram =>
      -- `p2pEnabledNow` and the rendezvous address
      if ¬ choice.ok then some (s, .sendUDPPacket datagram)
      else
        (s.visitors[datagram.session]?).bind fun visitor =>
          if visitor.p2pMu then none
          else
            some (s.setVisitor datagram.session fun visitor => { visitor with p2pMu := true },
              .locked datagram)
  | .locked datagram =>
      (s.visitors[datagram.session]?).map fun visitor =>
        if visitor.closed then (s.unlock datagram.session, .sendUDPPacket datagram)
        else if visitor.p2p then (s, .directRoundTrip datagram)
        else
          match s.udpRuntimeFor "" datagram.tunnelID with
          | none => (s.unlock datagram.session, .sendUDPPacket datagram)
          | some _ => (s, .opening datagram)
  | .opening datagram =>
      if choice.ok then
        some (s.setVisitor datagram.session fun visitor => { visitor with p2p := true },
          .directRoundTrip datagram)
      else some (s.unlock datagram.session, .sendUDPPacket datagram)
  | .directRoundTrip datagram =>
      if choice.ok then
        some ({ s with handed := s.handed ++ [(datagram.number, .direct)] },
          .readDirectResponse datagram)
      else some (s.dropP2P datagram.session, .sendUDPPacket datagram)
  | .readDirectResponse datagram =>
      -- without an answer in time the datagram counts as sent
      if choice.ok then some (s, .answered datagram)
      else some (s.dropP2P datagram.session, .finished)
  | .answered datagram =>
      match s.udpRuntimeFor "" datagram.tunnelID with
      | none => some (s.unlock datagram.session, .sendUDPPacket datagram)
      | some runtime => some (s, .sendToVisitor datagram runtime)
  | .sendToVisitor datagram runtime =>
      (s.runtimes[runtime]?).map fun value =>
        match value.byID.lookup datagram.sessionID with
        | none => (s.unlock datagram.session, .sendUDPPacket datagram)
        | some session => (s.touch session choice.now, .writeToUDP datagram)
  | .writeToUDP datagram =>
      some (s.unlock datagram.session,
        if choice.ok then .finished else .sendUDPPacket datagram)
  | .sendUDPPacket datagram =>
      some ({ s with handed := s.handed ++ [(datagram.number, .relay)] },
        if choice.ok then .finished
        else .removeUDPSession datagram.tunnelID datagram.sessionID)
  | .removeUDPSession tunnelID sessionID =>
      some (s, match s.udpRuntimeFor "" tunnelID with
        | none => .finished
        | some runtime => .removeSession runtime sessionID)
  | .removeSession runtime sessionID =>
      (s.runtimes[runtime]?).bind fun value =>
        match value.byID.lookup sessionID with
        | none => some (s, .finished)
        | some session =>
            (s.visitors[session]?).map fun visitor =>
              (s.setRuntime runtime (value.remove visitor sessionID),
                .closeP2P [session] (.settle runtime 1 false))
  | .findSession runtime sessionID =>
      (s.runtimes[runtime]?).map fun value =>
        match value.byID.lookup sessionID with
        | none => (s, .finished)
        | some session => (s.touch session choice.now, .finished)
  | .closeP2P (first :: rest) next =>
      ((first :: rest)[choice.pick]?).bind fun session =>
        (s.visitors[session]?).bind fun visitor =>
          if visitor.p2pMu then none
          else
            some (s.setVisitor session fun visitor => { visitor with p2p := false, closed := true },
              .closeP2P ((first :: rest).eraseIdx choice.pick) next)
  | .closeP2P [] .nothing => some (s, .finished)
  | .closeP2P [] (.settle runtime count closing) =>
      (s.runtimes[runtime]?).map fun value =>
        (s.setRuntime runtime { value with contribution := value.contribution - count },
          if closing then .returning runtime else .finished)
  | .returning runtime =>
      (s.runtimes[runtime]?).map fun value =>
        (s.setRuntime runtime { value with closing := .returned }, .closed runtime)
  | .closed _ => none
  | .finished => none

end State

/-- The calls that arrive on their own. -/
def Task.arrives : Task → Bool
  | .startUDP _ | .stop _ | .closeManager | .handleVisitorPacket _ _ | .handleUDPPacket _ _ _ |
    .removeIdle _ _ | .clearSessions _ false | .close _ => true
  | _ => false

/-- The UDP tunnels of a manager and everybody who calls them. -/
def udpTunnels : Machine State Task Choice where
  entry := Task.arrives
  step s task choice := (s.step choice task).map fun outcome => (outcome.1, outcome.2, [])

/-- A manager that has just been made. -/
def idleManager : Config State Task where
  shared := .start
  threads := []

/-! ## What a step can do -/

/-- What does not change in a session. -/
def VisitorSession.identity (visitor : VisitorSession) : String × UDPAddr :=
  (visitor.id, visitor.addr)

/-- What a call still owes to `Manager.active` for a runtime. -/
def Task.owed (runtime : ℕ) : Task → ℕ
  | .closeP2P _ next =>
      match next with
      | .settle other count _ => if other = runtime then count else 0
      | .nothing => 0
  | _ => 0

/-- Whether a call may still hand over the datagram with some number. -/
def Task.pending (number : ℕ) : Task → ℕ
  | .tryP2PUDPPacket datagram | .locked datagram | .opening datagram | .directRoundTrip datagram |
    .sendUDPPacket datagram => if datagram.number = number then 1 else 0
  | _ => 0

/-- The runtime that a call is closing, after the sessions were cleared, and whether `close` has
returned. -/
def Task.inClose : Task → Option (ℕ × Bool)
  | .closeP2P _ next =>
      match next with
      | .settle runtime _ closing => if closing then some (runtime, false) else none
      | .nothing => none
  | .returning runtime => some (runtime, false)
  | .closed runtime => some (runtime, true)
  | _ => none

/-- The answer of the direct path comes through: the tunnel is registered, its runtime knows the session,
and the datagram can be written. -/
def Delivers (s : State) (choice : Choice) : Task → Prop
  | .answered datagram => s.udpRuntimeFor "" datagram.tunnelID ≠ none
  | .sendToVisitor datagram runtime =>
      ∀ value ∈ s.runtimes[runtime]?, value.byID.lookup datagram.sessionID ≠ none
  | .writeToUDP _ => choice.ok = true
  | _ => True

instance (s : State) (choice : Choice) (task : Task) : Decidable (Delivers s choice task) := by
  unfold Delivers
  split <;> infer_instance

/-- The steps of the calls. -/
inductive Action (s : State) (choice : Choice) : Task → State → Task → Prop
  | start {tunnel : Tunnel} {udpRuntimes : GoMap String ℕ} :
      Action s choice (.startUDP tunnel)
        { s with
          udpRuntimes := udpRuntimes
          runtimes := s.runtimes ++ [.newUDPRuntime tunnel] } .finished
  | create {runtime : ℕ} {value : UDPRuntime} {addr : UDPAddr} (admitted : choice.ok = true)
      (present : s.runtimes[runtime]? = some value)
      (absent : value.sessions.lookup addr.text = none)
      (room : value.sessions.size < udpMaxSessions) (fresh : choice.uuid ∉ s.issued) :
      Action s choice (.handleVisitorPacket runtime addr)
        { s.setRuntime runtime (value.create addr choice.uuid s.visitors.length) with
          visitors := s.visitors ++ [⟨choice.uuid, addr, choice.now, false, false, false⟩]
          issued := s.issued ++ [choice.uuid]
          packets := s.packets + 1 }
        (.tryP2PUDPPacket ⟨s.packets, value.tunnel.id, s.visitors.length, choice.uuid⟩)
  | found {runtime : ℕ} {addr : UDPAddr} {session : ℕ} {set : VisitorSession → VisitorSession}
      (keeps : ∀ visitor, (set visitor).identity = visitor.identity) {datagram : Datagram}
      (number : datagram.number = s.packets) :
      Action s choice (.handleVisitorPacket runtime addr)
        { s.setVisitor session set with packets := s.packets + 1 } (.tryP2PUDPPacket datagram)
  | idle {runtime : ℕ} {value : UDPRuntime} (cutoff : Time) {sessions : List ℕ}
      (present : s.runtimes[runtime]? = some value) :
      Action s choice (.removeIdle runtime cutoff)
        (s.setRuntime runtime (s.removeIdle value cutoff)) (.closeP2P sessions .nothing)
  | clear {runtime : ℕ} {value : UDPRuntime} (closing : Bool) {sessions : List ℕ}
      (present : s.runtimes[runtime]? = some value) :
      Action s choice (.clearSessions runtime closing) (s.setRuntime runtime (value.clear closing))
        (.closeP2P sessions (.settle runtime value.sessions.size closing))
  | remove {runtime : ℕ} {value : UDPRuntime} {sessionID : String} {session : ℕ}
      {visitor : VisitorSession} (present : s.runtimes[runtime]? = some value)
      (found : value.byID.lookup sessionID = some session)
      (known : s.visitors[session]? = some visitor) :
      Action s choice (.removeSession runtime sessionID)
        (s.setRuntime runtime (value.remove visitor sessionID))
        (.closeP2P [session] (.settle runtime 1 false))
  | settle {runtime : ℕ} {value : UDPRuntime} (count : ℕ) (closing : Bool)
      (present : s.runtimes[runtime]? = some value) :
      Action s choice (.closeP2P [] (.settle runtime count closing))
        (s.setRuntime runtime { value with contribution := value.contribution - count })
        (if closing then .returning runtime else .finished)
  | begin {runtime : ℕ} {value : UDPRuntime} (present : s.runtimes[runtime]? = some value)
      (running : value.closing = .running) :
      Action s choice (.close runtime) (s.setRuntime runtime { value with closing := .started })
        (.clearSessions runtime true)
  | returned {runtime : ℕ} {value : UDPRuntime} (present : s.runtimes[runtime]? = some value) :
      Action s choice (.returning runtime) (s.setRuntime runtime { value with closing := .returned })
        (.closed runtime)
  | joined {runtime : ℕ} {value : UDPRuntime} (present : s.runtimes[runtime]? = some value)
      (returned : value.closing = .returned) : Action s choice (.close runtime) s (.closed runtime)
  | direct (datagram : Datagram) :
      Action s choice (.directRoundTrip datagram)
        { s with handed := s.handed ++ [(datagram.number, .direct)] } (.readDirectResponse datagram)
  | relay (datagram : Datagram) {next : Task} (owed : ∀ runtime, next.owed runtime = 0)
      (pending : ∀ number, next.pending number = 0) (outside : next.inClose = none) :
      Action s choice (.sendUDPPacket datagram)
        { s with handed := s.handed ++ [(datagram.number, .relay)] } next
  /-- the answer of the direct path is lost, and the datagram is sent again -/
  | resend {task : Task} {datagram : Datagram} (lost : ¬ Delivers s choice task) {session : ℕ}
      (owed : ∀ runtime, task.owed runtime = 0) :
      Action s choice task (s.unlock session) (.sendUDPPacket datagram)
  /-- at most the table of the manager and the state of a session change -/
  | move {task next : Task} {udpRuntimes : GoMap String ℕ} {session : ℕ}
      {set : VisitorSession → VisitorSession}
      (keeps : ∀ visitor, (set visitor).identity = visitor.identity)
      (owed : ∀ runtime, next.owed runtime = task.owed runtime)
      (pending : ∀ number, next.pending number ≤ task.pending number)
      (inClose : next.inClose = none ∨ next.inClose = task.inClose) :
      Action s choice task { s.setVisitor session set with udpRuntimes := udpRuntimes } next

namespace Action

variable {s : State} {choice : Choice} {task next : Task}

/-- Only the table of the manager changes. -/
theorem tableMove {udpRuntimes : GoMap String ℕ}
    (owed : ∀ runtime, next.owed runtime = task.owed runtime)
    (pending : ∀ number, next.pending number ≤ task.pending number)
    (inClose : next.inClose = none ∨ next.inClose = task.inClose) :
    Action s choice task { s with udpRuntimes := udpRuntimes } next := by
  have moved : Action s choice task { s.setVisitor 0 id with udpRuntimes := udpRuntimes } next :=
    .move (fun _ => rfl) owed pending inClose
  have same : s.visitors.modify 0 id = s.visitors := by
    cases s.visitors <;> rfl
  rw [State.setVisitor, same] at moved
  exact moved

/-- Nothing changes at all. -/
theorem idleMove (owed : ∀ runtime, next.owed runtime = task.owed runtime)
    (pending : ∀ number, next.pending number ≤ task.pending number)
    (inClose : next.inClose = none ∨ next.inClose = task.inClose) :
    Action s choice task s next :=
  .tableMove owed pending inClose

/-- A session changes. -/
theorem visitorMove {session : ℕ} {set : VisitorSession → VisitorSession}
    (keeps : ∀ visitor, (set visitor).identity = visitor.identity)
    (owed : ∀ runtime, next.owed runtime = task.owed runtime)
    (pending : ∀ number, next.pending number ≤ task.pending number)
    (inClose : next.inClose = none ∨ next.inClose = task.inClose) :
    Action s choice task (s.setVisitor session set) next :=
  .move keeps owed pending inClose

end Action

section Steps

variable {s s' : State} {choice : Choice} {task task' : Task}

/-- `handleVisitorPacket` finds the session of the visitor or makes one, if there is room. -/
theorem handleVisitorPacket_action {runtime : ℕ} {addr : UDPAddr}
    (stepped : s.step choice (.handleVisitorPacket runtime addr) = some (s', task')) :
    Action s choice (.handleVisitorPacket runtime addr) s' task' := by
  obtain ⟨value, present, moved⟩ := Option.bind_eq_some_iff.mp stepped
  split at moved
  · rename_i admitted
    unfold State.session at moved
    split at moved
    · obtain ⟨visitor, known, moved⟩ := Option.map_eq_some_iff.mp moved
      cases moved
      refine .found ?_ ?_
      · exact fun _ => rfl
      · rfl
    · rename_i absent
      split at moved
      · cases moved
        exact .idleMove (fun _ => rfl) (fun _ => Nat.le_refl _) (.inl rfl)
      · rename_i room
        split at moved <;> cases moved
        rename_i fresh
        exact .create admitted present absent (Nat.lt_of_not_le room) fresh
  · cases moved
    exact .idleMove (fun _ => rfl) (fun _ => Nat.le_refl _) (.inl rfl)

/-- `tryP2PUDPPacket`, with the lock of the session. -/
theorem locked_action {datagram : Datagram}
    (stepped : s.step choice (.locked datagram) = some (s', task')) :
    Action s choice (.locked datagram) s' task' := by
  obtain ⟨visitor, known, moved⟩ := Option.map_eq_some_iff.mp stepped
  split at moved
  · cases moved
    exact .visitorMove (fun _ => rfl) (fun _ => rfl) (fun _ => Nat.le_refl _) (.inl rfl)
  · split at moved
    · cases moved
      exact .idleMove (fun _ => rfl) (fun _ => Nat.le_refl _) (.inl rfl)
    · split at moved <;> cases moved
      · exact .visitorMove (fun _ => rfl) (fun _ => rfl) (fun _ => Nat.le_refl _) (.inl rfl)
      · exact .idleMove (fun _ => rfl) (fun _ => Nat.le_refl _) (.inl rfl)

/-- The connections of the sessions are closed one by one, and then the count is settled. -/
theorem closeP2P_action {sessions : List ℕ} {next : Next}
    (stepped : s.step choice (.closeP2P sessions next) = some (s', task')) :
    Action s choice (.closeP2P sessions next) s' task' := by
  cases sessions with
  | cons first rest =>
      obtain ⟨session, picked, moved⟩ := Option.bind_eq_some_iff.mp stepped
      obtain ⟨visitor, known, moved⟩ := Option.bind_eq_some_iff.mp moved
      split at moved <;> cases moved
      exact .visitorMove (fun _ => rfl) (fun _ => rfl) (fun _ => Nat.le_refl _) (.inr rfl)
  | nil =>
      cases next with
      | nothing =>
          cases stepped
          exact .idleMove (fun _ => rfl) (fun _ => Nat.le_refl _) (.inl rfl)
      | settle runtime count closing =>
          obtain ⟨value, present, moved⟩ := Option.map_eq_some_iff.mp stepped
          cases moved
          exact .settle count closing present

/-- Every step is one of the actions. -/
theorem action_of_step (stepped : s.step choice task = some (s', task')) :
    Action s choice task s' task' := by
  cases task with
  | startUDP tunnel =>
      rw [State.step] at stepped
      split at stepped <;> cases stepped
      · exact .idleMove (fun _ => rfl) (fun _ => Nat.le_refl _) (.inl rfl)
      · exact .start
  | stop tunnelID =>
      cases stepped
      split
      · exact .tableMove (fun _ => rfl) (fun _ => Nat.le_refl _) (.inl rfl)
      · split
        · exact .tableMove (fun _ => rfl) (fun _ => Nat.le_refl _) (.inl rfl)
        · exact .tableMove (fun _ => rfl) (fun _ => Nat.le_refl _) (.inl rfl)
  | closeManager =>
      cases stepped
      exact .tableMove (fun _ => rfl) (fun _ => Nat.le_refl _) (.inl rfl)
  | handleVisitorPacket runtime addr => exact handleVisitorPacket_action stepped
  | handleUDPPacket clientID tunnelID sessionID =>
      cases stepped
      split
      · exact .idleMove (fun _ => rfl) (fun _ => Nat.le_refl _) (.inl rfl)
      · exact .idleMove (fun _ => rfl) (fun _ => Nat.le_refl _) (.inl rfl)
  | removeIdle runtime cutoff =>
      obtain ⟨value, present, moved⟩ := Option.map_eq_some_iff.mp stepped
      cases moved
      exact .idle cutoff present
  | clearSessions runtime closing =>
      obtain ⟨value, present, moved⟩ := Option.map_eq_some_iff.mp stepped
      cases moved
      exact .clear closing present
  | close runtime =>
      obtain ⟨value, present, moved⟩ := Option.bind_eq_some_iff.mp stepped
      split at moved <;> cases moved
      · rename_i running
        exact .begin present running
      · rename_i returned
        exact .joined present returned
  | tryP2PUDPPacket datagram =>
      rw [State.step] at stepped
      split at stepped
      · cases stepped
        exact .idleMove (fun _ => rfl) (fun _ => Nat.le_refl _) (.inl rfl)
      · obtain ⟨visitor, known, moved⟩ := Option.bind_eq_some_iff.mp stepped
        split at moved <;> cases moved
        exact .visitorMove (fun _ => rfl) (fun _ => rfl) (fun _ => Nat.le_refl _) (.inl rfl)
  | locked datagram => exact locked_action stepped
  | opening datagram =>
      rw [State.step] at stepped
      split at stepped <;> cases stepped
      · exact .visitorMove (fun _ => rfl) (fun _ => rfl) (fun _ => Nat.le_refl _) (.inl rfl)
      · exact .visitorMove (fun _ => rfl) (fun _ => rfl) (fun _ => Nat.le_refl _) (.inl rfl)
  | directRoundTrip datagram =>
      rw [State.step] at stepped
      split at stepped <;> cases stepped
      · exact .direct datagram
      · exact .visitorMove (fun _ => rfl) (fun _ => rfl) (fun _ => Nat.le_refl _) (.inl rfl)
  | readDirectResponse datagram =>
      rw [State.step] at stepped
      split at stepped <;> cases stepped
      · exact .idleMove (fun _ => rfl) (fun _ => Nat.le_refl _) (.inl rfl)
      · exact .visitorMove (fun _ => rfl) (fun _ => rfl) (fun _ => Nat.le_refl _) (.inl rfl)
  | answered datagram =>
      rw [State.step] at stepped
      split at stepped <;> cases stepped
      · rename_i missing
        refine .resend ?_ fun _ => rfl
        exact fun delivers => delivers missing
      · exact .idleMove (fun _ => rfl) (fun _ => Nat.le_refl _) (.inl rfl)
  | sendToVisitor datagram runtime =>
      obtain ⟨value, present, moved⟩ := Option.map_eq_some_iff.mp stepped
      split at moved <;> cases moved
      · rename_i missing
        refine .resend ?_ fun _ => rfl
        exact fun delivers => delivers value present missing
      · exact .visitorMove (fun _ => rfl) (fun _ => rfl) (fun _ => Nat.le_refl _) (.inl rfl)
  | writeToUDP datagram =>
      cases stepped
      split
      · exact .visitorMove (fun _ => rfl) (fun _ => rfl) (fun _ => Nat.le_refl _) (.inl rfl)
      · rename_i failed
        refine .resend ?_ fun _ => rfl
        exact failed
  | sendUDPPacket datagram =>
      cases stepped
      split
      · exact .relay datagram (fun _ => rfl) (fun _ => rfl) rfl
      · exact .relay datagram (fun _ => rfl) (fun _ => rfl) rfl
  | removeUDPSession tunnelID sessionID =>
      cases stepped
      split
      · exact .idleMove (fun _ => rfl) (fun _ => Nat.le_refl _) (.inl rfl)
      · exact .idleMove (fun _ => rfl) (fun _ => Nat.le_refl _) (.inl rfl)
  | removeSession runtime sessionID =>
      obtain ⟨value, present, moved⟩ := Option.bind_eq_some_iff.mp stepped
      split at moved
      · cases moved
        exact .idleMove (fun _ => rfl) (fun _ => Nat.le_refl _) (.inl rfl)
      · rename_i session found
        obtain ⟨visitor, known, moved⟩ := Option.map_eq_some_iff.mp moved
        cases moved
        exact .remove present found known
  | findSession runtime sessionID =>
      obtain ⟨value, present, moved⟩ := Option.map_eq_some_iff.mp stepped
      split at moved <;> cases moved
      · exact .idleMove (fun _ => rfl) (fun _ => Nat.le_refl _) (.inl rfl)
      · exact .visitorMove (fun _ => rfl) (fun _ => rfl) (fun _ => Nat.le_refl _) (.inl rfl)
  | closeP2P sessions next => exact closeP2P_action stepped
  | returning runtime =>
      obtain ⟨value, present, moved⟩ := Option.map_eq_some_iff.mp stepped
      cases moved
      exact .returned present
  | closed runtime => cases stepped
  | finished => cases stepped

end Steps

/-! ## Runs of the model -/

/-- A UDP tunnel. -/
def dnsTunnel : Tunnel where
  id := "tunnel-1"
  clientID := "client-1"
  name := "dns"
  protocol := "udp"
  visitorToken := ""
  localHost := "127.0.0.1"
  localPort := 53
  remotePort := 5353
  domain := ""
  status := .stopped
  ipAllowlist := []
  createdAt := 0
  updatedAt := 0

/-- Some steps of one call, in which every external call succeeds. -/
def succeed (index count : ℕ) : List (Move Task Choice) :=
  List.replicate count (.run index ⟨true, "session-1", 1, 0⟩)

end NryNet.Tunnels.UDP

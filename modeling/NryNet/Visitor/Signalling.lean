import NryNet.Lib.ByteStream
import NryNet.Lib.Chan
import NryNet.Lib.GoMap
import NryNet.Lib.ThreadPool
import NryNet.Storage

/-!
# Signalling for visitors (`server/visitor/service.go`)

A visitor opens a web socket for a tunnel and sends an offer; `ServeSignal` passes it on to the client of
the tunnel and waits for the answer.  `handleAgentSignal` is called with every signal of every client, and
puts it into the channel of the session that it names.  `Close` empties the table of sessions and stops
each of them.

The row that `GetTunnel` reads has the ID that was asked for, and `uuid.NewString` returns a text that it
has not returned before.  Which branch of a `select` is taken, whether the socket and the client can be
reached, and the order in which `Close` visits the sessions are up to the environment.  The service
remembers for the specification what it sent to clients and which signals it was called with.
-/

namespace NryNet.Visitor

open ThreadPool ByteStream

/-- `protocol.VisitorWebRTCSignalPayload`. -/
structure SignalPayload where
  kind : String
  sessionID : String := ""
  sdp : String := ""
  localHost : String := ""
  localPort : ℤ := 0
  iceServers : List String := []
  error : String := ""
  deriving DecidableEq

/-- The path of a request for a tunnel. -/
structure SignalRequest where
  id : String
  token : String
  deriving DecidableEq

/-- `session`. -/
structure Session where
  id : String
  clientID : String
  tunnelID : String
  answer : Chan SignalPayload := .make 1
  /-- `done` has been closed -/
  done : Bool := false

/-- A signal of a client. -/
structure AgentSignal where
  clientID : String
  tunnelID : String
  payload : SignalPayload
  deriving DecidableEq

/-- `Service`. -/
structure Service where
  iceServers : List String
  /-- the table of sessions, with their numbers -/
  sessions : GoMap String ℕ := ∅
  created : List Session := []
  /-- what `SendControl` was called with -/
  offers : List AgentSignal := []
  signals : List AgentSignal := []
  /-- what `SendTunnelPath` was called with -/
  paths : List (String × String) := []

/-- `sameSecret`. -/
def sameSecret (expected actual : String) : Bool :=
  if expected = "" ∨ actual = "" ∨ (utf8 expected).length ≠ (utf8 actual).length then false
  else utf8 expected = utf8 actual

/-- The check of `loadTunnel`. -/
def isLoaded (request : SignalRequest) (tunnel : Tunnel) : Bool :=
  tunnel.protocol = "visitor_webrtc" && tunnel.status = .running &&
    sameSecret tunnel.visitorToken request.token

/-- What is written to the visitor. -/
inductive Reply where
  | nothing
  | answer (payload : SignalPayload)
  | failed (error : String)
  deriving DecidableEq

/-- A call of `ServeSignal` that has a session. -/
structure Handler where
  request : SignalRequest
  tunnel : Tunnel
  session : ℕ
  deriving DecidableEq

/-- The calls of the service, by what they do next. -/
inductive SignalTask where
  | serveSignal (request : SignalRequest)
  | upgrade (request : SignalRequest) (tunnel : Tunnel)
  | register (request : SignalRequest) (tunnel : Tunnel)
  | readOffer (handler : Handler)
  | sendOffer (handler : Handler) (sdp : String)
  | select (handler : Handler)
  | unregister (handler : Handler) (reply : Reply)
  | served (handler : Handler) (reply : Reply)
  | handleAgentSignal (clientID tunnelID : String) (payload : Option SignalPayload)
  | sendAnswer (signal : AgentSignal) (session : ℕ)
  | sendTunnelPath (signal : AgentSignal)
  | close
  | stopping (sessions : List ℕ)
  | finished

/-- What the environment decides. -/
inductive SignalChoice where
  | go
  | row (tunnel : Option Tunnel)
  | upgraded (ok : Bool)
  | uuid (id : String)
  | offer (payload : Option SignalPayload)
  | sent (ok : Bool)
  | answered
  | stopped
  | timeout
  | stop (session : ℕ)

namespace Service

/-- The session with a number is changed. -/
def modify (service : Service) (session : ℕ) (change : Session → Session) : Service :=
  { service with created := service.created.modify session change }

/-- The message of `ServeSignal` to the client. -/
def offerFor (service : Service) (handler : Handler) (sdp : String) : AgentSignal where
  clientID := handler.tunnel.clientID
  tunnelID := handler.tunnel.id
  payload := {
    kind := "offer"
    sessionID := ((service.created[handler.session]?).map Session.id).getD ""
    sdp := sdp
    localHost := handler.tunnel.localHost
    localPort := handler.tunnel.localPort
    iceServers := service.iceServers }

/-- The checks of `handleAgentSignal` on the session that the signal names. -/
def sessionOf (service : Service) (signal : AgentSignal) : Option ℕ := do
  let number ← service.sessions.lookup signal.payload.sessionID
  let current ← service.created[number]?
  if current.clientID = signal.clientID ∧ current.tunnelID = signal.tunnelID then some number else none

/-- One step of a call. -/
def step (service : Service) : SignalTask → SignalChoice → Option (Service × SignalTask × List SignalTask)
  | .serveSignal _, .row none => some (service, .finished, [])
  | .serveSignal request, .row (some tunnel) =>
      if tunnel.id = request.id then
        some (service, if isLoaded request tunnel then .upgrade request tunnel else .finished, [])
      else none
  | .upgrade request tunnel, .upgraded ok =>
      some (service, if ok then .register request tunnel else .finished, [])
  | .register request tunnel, .uuid id =>
      if id ≠ "" ∧ ∀ session ∈ service.created, session.id ≠ id then
        some ({ service with
            sessions := service.sessions.insert id service.created.length
            created := service.created ++ [⟨id, tunnel.clientID, tunnel.id, .make 1, false⟩] },
          .readOffer ⟨request, tunnel, service.created.length⟩, [])
      else none
  | .readOffer handler, .offer none => some (service, .unregister handler .nothing, [])
  | .readOffer handler, .offer (some offer) =>
      some (service, if offer.kind ≠ "offer" ∨ offer.sdp = "" then .unregister handler .nothing
        else .sendOffer handler offer.sdp, [])
  | .sendOffer handler sdp, .sent ok =>
      some ({ service with offers := service.offers ++ [service.offerFor handler sdp] },
        if ok then .select handler else .unregister handler (.failed "Agent 当前不在线"), [])
  | .select handler, .answered => do
      let current ← service.created[handler.session]?
      let received ← current.answer.receive
      some (service.modify handler.session fun session => { session with answer := received.2 },
        .unregister handler (.answer received.1), [])
  | .select handler, .stopped =>
      if (service.created[handler.session]?).any Session.done then
        some (service, .unregister handler .nothing, [])
      else none
  | .select handler, .timeout => some (service, .unregister handler (.failed "P2P 信令超时"), [])
  | .unregister handler reply, .go => do
      let current ← service.created[handler.session]?
      some ({ service with sessions := service.sessions.erase current.id }, .served handler reply, [])
  | .handleAgentSignal _ _ none, .go => some (service, .finished, [])
  | .handleAgentSignal clientID tunnelID (some payload), .go =>
      let signal : AgentSignal := ⟨clientID, tunnelID, payload⟩
      let service' := { service with signals := service.signals ++ [signal] }
      if payload.sessionID = "" then some (service', .finished, [])
      else
        match service.sessionOf signal with
        | none => some (service', .finished, [])
        | some session => some (service', .sendAnswer signal session, [])
  | .sendAnswer signal session, .go =>
      some (service.modify session fun session =>
          { session with answer := session.answer.trySend signal.payload },
        if signal.payload.kind = "answer" then .sendTunnelPath signal else .finished, [])
  | .sendTunnelPath signal, .go =>
      some ({ service with paths := service.paths ++ [(signal.clientID, signal.tunnelID)] }, .finished, [])
  | .close, .go =>
      some ({ service with sessions := ∅ },
        .stopping (service.sessions.entries.map fun entry => entry.2), [])
  | .stopping sessions, .stop session =>
      if session ∈ sessions then
        some (service.modify session fun session => { session with done := true },
          .stopping (sessions.erase session), [])
      else none
  | .stopping [], .go => some (service, .finished, [])
  | _, _ => none

end Service

/-- The row is that of the request, a tunnel for visitors that is running, and the token is its token. -/
structure Admits (request : SignalRequest) (tunnel : Tunnel) : Prop where
  id : tunnel.id = request.id
  protocol : tunnel.protocol = "visitor_webrtc"
  running : tunnel.status = .running
  token : tunnel.visitorToken = request.token ∧ request.token ≠ ""

namespace Service

/-- A session is the one that was created for the tunnel. -/
def Belongs (service : Service) (handler : Handler) : Prop :=
  ∃ session : Session, service.created[handler.session]? = some session ∧
    session.clientID = handler.tunnel.clientID ∧ session.tunnelID = handler.tunnel.id

/-- A signal is from the client of a session, for its tunnel, and names the session. -/
def Addressed (service : Service) (signal : AgentSignal) (number : ℕ) : Prop :=
  signal ∈ service.signals ∧ ∃ session : Session, service.created[number]? = some session ∧
    session.clientID = signal.clientID ∧ session.tunnelID = signal.tunnelID ∧
    session.id = signal.payload.sessionID

/-- Sessions keep their names, and what was sent and stopped stays so. -/
structure Grows (service service' : Service) : Prop where
  created : ∀ (number : ℕ) (session : Session), service.created[number]? = some session →
    ∃ session' : Session, service'.created[number]? = some session' ∧ session'.id = session.id ∧
      session'.clientID = session.clientID ∧ session'.tunnelID = session.tunnelID ∧
      (session.done = true → session'.done = true)
  signals : service.signals ⊆ service'.signals

/-- The invariant of the service. -/
structure Tabled (service : Service) : Prop where
  ids : ∀ (j k : ℕ) (a b : Session), service.created[j]? = some a → service.created[k]? = some b →
    a.id = b.id → j = k
  table : ∀ id number, service.sessions.lookup id = some number →
    ∃ session : Session, service.created[number]? = some session ∧ session.id = id
  answers : ∀ (number : ℕ) (session : Session), service.created[number]? = some session →
    ∀ payload ∈ session.answer.sent,
      service.Addressed ⟨session.clientID, session.tunnelID, payload⟩ number
  offers : ∀ offer ∈ service.offers, ∃ request tunnel, Admits request tunnel ∧
    offer.clientID = tunnel.clientID ∧ offer.tunnelID = tunnel.id
  paths : ∀ path ∈ service.paths, ∃ signal number, service.Addressed signal number ∧
    path = (signal.clientID, signal.tunnelID)

variable {service service' : Service} {signal : AgentSignal} {number : ℕ}

theorem Grows.refl (service : Service) : service.Grows service where
  created _ session found := ⟨session, found, rfl, rfl, rfl, id⟩
  signals _ member := member

theorem Belongs.mono {handler : Handler} (belongs : service.Belongs handler)
    (grows : service.Grows service') : service'.Belongs handler := by
  obtain ⟨session, found, client, tunnel⟩ := belongs
  obtain ⟨session', found', -, client', tunnel', -⟩ := grows.created _ _ found
  exact ⟨session', found', client'.trans client, tunnel'.trans tunnel⟩

theorem Addressed.mono (addressed : service.Addressed signal number) (grows : service.Grows service') :
    service'.Addressed signal number := by
  obtain ⟨member, session, found, client, tunnel, named⟩ := addressed
  obtain ⟨session', found', id', client', tunnel', -⟩ := grows.created _ _ found
  exact ⟨grows.signals member, session', found', client'.trans client, tunnel'.trans tunnel,
    id'.trans named⟩

theorem getElem?_modify (service : Service) (number other : ℕ) (change : Session → Session) :
    (service.modify number change).created[other]? =
      (service.created[other]?).map fun session => if number = other then change session else session := by
  unfold modify
  rw [List.getElem?_modify]
  cases service.created[other]? with
  | none => rfl
  | some session => by_cases same : number = other <;> simp [same]

end Service

/-- What a call of `ServeSignal` relies on. -/
structure Serving (service : Service) (handler : Handler) (reply : Reply) : Prop where
  admits : Admits handler.request handler.tunnel
  belongs : service.Belongs handler
  answer : ∀ payload, reply = .answer payload →
    service.Addressed ⟨handler.tunnel.clientID, handler.tunnel.id, payload⟩ handler.session

namespace SignalTask

/-- The session of a call that has not returned. -/
def serves : SignalTask → Option ℕ
  | .readOffer handler => some handler.session
  | .sendOffer handler _ => some handler.session
  | .select handler => some handler.session
  | .unregister handler _ => some handler.session
  | _ => none

/-- The sessions that a call of `Close` has still to stop. -/
def stops : SignalTask → List ℕ
  | .stopping sessions => sessions
  | _ => []

/-- The call has written something to the visitor, or will not. -/
def reply : SignalTask → Option (Handler × Reply)
  | .unregister handler reply => some (handler, reply)
  | .served handler reply => some (handler, reply)
  | _ => none

/-- What a call relies on. -/
def Ready (service : Service) : SignalTask → Prop
  | .upgrade request tunnel => Admits request tunnel
  | .register request tunnel => Admits request tunnel
  | .readOffer handler => Serving service handler .nothing
  | .sendOffer handler _ => Serving service handler .nothing
  | .select handler => Serving service handler .nothing
  | .unregister handler reply => Serving service handler reply
  | .served handler reply => Serving service handler reply
  | .sendAnswer signal session => service.Addressed signal session
  | .sendTunnelPath signal => ∃ session, service.Addressed signal session
  | _ => True

end SignalTask

section Steps

variable {service service' : Service} {task task' : SignalTask} {spawned : List SignalTask}
variable {choice : SignalChoice} {handler : Handler} {reply : Reply}

theorem Serving.mono (serving : Serving service handler reply) (grows : service.Grows service') :
    Serving service' handler reply where
  admits := serving.admits
  belongs := serving.belongs.mono grows
  answer payload same := (serving.answer payload same).mono grows

theorem SignalTask.Ready.mono (ready : task.Ready service) (grows : service.Grows service') :
    task.Ready service' := by
  cases task with
  | readOffer handler => exact Serving.mono ready grows
  | sendOffer handler sdp => exact Serving.mono ready grows
  | select handler => exact Serving.mono ready grows
  | unregister handler reply => exact Serving.mono ready grows
  | served handler reply => exact Serving.mono ready grows
  | sendAnswer signal session => exact Service.Addressed.mono ready grows
  | sendTunnelPath signal =>
      obtain ⟨session, addressed⟩ := ready
      exact ⟨session, addressed.mono grows⟩
  | _ => exact ready

/-- The steps, by what they do to the table of sessions. -/
inductive Deed (service : Service) : Service → SignalTask → SignalTask → Prop
  | kept {service' : Service} {task task' : SignalTask} (sessions : service'.sessions = service.sessions)
      (serves : task'.serves = task.serves) (stops : task.stops = [] ∧ task'.stops = []) :
      Deed service service' task task'
  | registered {service' : Service} {task task' : SignalTask} (id : String)
      (sessions : service'.sessions = service.sessions.insert id service.created.length)
      (named : ∃ session : Session, service'.created[service.created.length]? = some session ∧
        session.id = id)
      (fresh : ∀ session ∈ service.created, session.id ≠ id)
      (serves : task.serves = none ∧ task'.serves = some service.created.length)
      (stops : task.stops = [] ∧ task'.stops = []) : Deed service service' task task'
  | unregistered {service' : Service} {task task' : SignalTask} (number : ℕ) (session : Session)
      (found : service.created[number]? = some session)
      (sessions : service'.sessions = service.sessions.erase session.id)
      (serves : task.serves = some number ∧ task'.serves = none)
      (stops : task.stops = [] ∧ task'.stops = []) : Deed service service' task task'
  | closed {service' : Service} {task task' : SignalTask} (sessions : service'.sessions = ∅)
      (serves : task.serves = none ∧ task'.serves = none) (stops : task.stops = [])
      (all : ∀ id number, service.sessions.lookup id = some number → number ∈ task'.stops) :
      Deed service service' task task'
  | stopped {service' : Service} {task task' : SignalTask} (number : ℕ)
      (sessions : service'.sessions = service.sessions)
      (done : ∀ session : Session, service'.created[number]? = some session → session.done = true)
      (serves : task.serves = none ∧ task'.serves = none)
      (rest : ∀ other ∈ task.stops, other = number ∨ other ∈ task'.stops) :
      Deed service service' task task'

/-- What one step does. -/
structure Stepped (service service' : Service) (task task' : SignalTask) : Prop where
  deed : Deed service service' task task'
  grows : service.Grows service'
  tabled : service.Tabled → task.Ready service → service'.Tabled ∧ task'.Ready service'

end Steps

/-! ## Runs -/

/-- One for the call that has a session. -/
def SignalTask.weight (number : ℕ) (task : SignalTask) : ℕ :=
  if task.serves = some number then 1 else 0

/-- The session is in the table, or it has been stopped, or it is about to be. -/
def Told (config : Config Service SignalTask) (number : ℕ) (session : Session) : Prop :=
  config.shared.sessions.lookup session.id = some number ∨ session.done = true ∨
    ∃ task ∈ config.threads, number ∈ task.stops

/-- The invariant of the service and its calls. -/
structure Signalled (config : Config Service SignalTask) : Prop where
  tabled : config.shared.Tabled
  ready : ∀ task ∈ config.threads, task.Ready config.shared
  once : ∀ number, config.total (SignalTask.weight number) ≤ 1
  live : ∀ id number, config.shared.sessions.lookup id = some number →
    ∃ task ∈ config.threads, task.serves = some number
  told : ∀ task ∈ config.threads, ∀ (number : ℕ) (session : Session), task.serves = some number →
    config.shared.created[number]? = some session → Told config number session

section Runs

variable {config : Config Service SignalTask} {service service' : Service} {task task' : SignalTask}
variable {index number : ℕ}

/-- A call has a session that was created. -/
theorem exists_of_serves (ready : task.Ready service) (serves : task.serves = some number) :
    ∃ session : Session, service.created[number]? = some session := by
  have belongs (handler : Handler) (reply : Reply) (serving : Serving service handler reply)
      (own : handler.session = number) : ∃ session : Session, service.created[number]? = some session := by
    obtain ⟨session, found, -⟩ := serving.belongs
    exact ⟨session, own ▸ found⟩
  cases task <;> cases serves <;> exact belongs _ _ ready rfl

/-- A session that was created before the step is still there. -/
theorem Service.Grows.session (grows : service.Grows service') {old session : Session}
    (before : service.created[number]? = some old) (found : service'.created[number]? = some session) :
    session.id = old.id ∧ (old.done = true → session.done = true) := by
  obtain ⟨session', found', id', -, -, done⟩ := grows.created number old before
  cases found.symm.trans found'
  exact ⟨id', done⟩

/-- What a call waits for does not get lost. -/
theorem told_after {old session : Session} {after : List SignalTask} (told : Told config number old)
    (done : old.done = true → session.done = true)
    (table : config.shared.sessions.lookup old.id = some number →
      Told ⟨service', after⟩ number session)
    (stops : ∀ task ∈ config.threads, number ∈ task.stops → session.done = true ∨
      ∃ task ∈ after, number ∈ task.stops) : Told ⟨service', after⟩ number session := by
  rcases told with listed | stopped | ⟨task, member, stopping⟩
  · exact table listed
  · exact .inr (.inl (done stopped))
  · exact .inr (stops task member stopping)

/-- What an old call waits for, when the step does not touch it. -/
theorem Signalled.keeps (signalled : Signalled config) (present : config.threads[index]? = some task)
    (stepped : Stepped config.shared service' task task') {other : SignalTask} {session : Session}
    (old : other ∈ config.threads) (serves : other.serves = some number)
    (found : service'.created[number]? = some session)
    (table : ∀ before : Session, config.shared.created[number]? = some before →
      session.id = before.id → config.shared.sessions.lookup before.id = some number →
      Told ⟨service', config.threads.set index task' ++ []⟩ number session)
    (stops : number ∈ task.stops → session.done = true ∨ number ∈ task'.stops) :
    Told ⟨service', config.threads.set index task' ++ []⟩ number session := by
  obtain ⟨before, there⟩ := exists_of_serves (signalled.ready other old) serves
  obtain ⟨same, done⟩ := stepped.grows.session there found
  refine told_after (signalled.told other old number before serves there) done
    (table before there same) fun thread listed stopping => ?_
  rcases Machine.mem_threads_after_step present listed with rfl | remains
  · exact (stops stopping).imp id fun more => ⟨task', Machine.stepped_mem_threads present, more⟩
  · exact .inr ⟨thread, remains, stopping⟩

end Runs

/-! ## A visitor -/

end NryNet.Visitor

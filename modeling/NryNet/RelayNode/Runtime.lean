import NryNet.Agent.Dial
import NryNet.Lib.GoMap

/-!
# A relay node (`relay/runtime/node.go`)

The server tells a relay node on which ports to listen for the visitors of a tunnel, and where the broker
is.  The node accepts the visitors and opens a connection to the broker for each of them, over which it
says who it is.

## The model

A `Node` is its configuration and its map of bindings, with three logs nobody in the program reads: the
listeners that `net.Listen` ever returned, those that `Close` was called on, and the connections that
`forward` opened, with the handshake that is written over each.  The control requests come one after the
other.  The accept loop of a listener runs with the request that the listener was opened for; a visitor is
accepted while the listener is open.  What the network, the other processes on the ports and the file
system do is part of the event.

The node itself has a port open in one listener at a time: `net.Listen` fails on a port of a listener that
is open.

The counter of connections, `Register`, `Heartbeat` and the copying of the data are left out.  The errors
of the TLS library are those of the event.
-/

namespace NryNet.RelayNode

open GoText Agent

/-! ## The configuration -/

/-- `Config`. -/
structure Config where
  id : String
  address : String
  controlListen : String
  controlAddress : String
  bindHost : String
  brokerAddress : String
  token : String
  brokerTLS : Bool
  brokerServerName : String
  brokerCAFile : String
  controlTLS : Bool
  controlCertFile : String
  controlKeyFile : String
  deriving DecidableEq, Repr

section Validation

variable [CaseTable] [URLTable]

/-- `ValidateSecureHTTPURL` (`internal/config/transport_security.go`). -/
def validateSecureHTTPURL (rawURL : String) : Except String Unit :=
  match parseURL rawURL with
  | none => .error "URL is invalid"
  | some (scheme, hostname) =>
      if hostname = "" then .error "URL is invalid"
      else if scheme = "https" ∨ scheme = "http" ∧ isLoopbackHost hostname then .ok ()
      else .error "remote control URLs require HTTPS"

/-- `validateTransportSecurity`. -/
def validateTransportSecurity (cfg : Config) : Except String Unit :=
  match validateSecureHTTPURL cfg.controlAddress with
  | .error reason => .error s!"relay control address: {reason}"
  | .ok () =>
      if !cfg.brokerTLS && !isLoopbackAddress cfg.brokerAddress then
        .error "remote relay broker connections require TLS"
      else if !cfg.controlTLS && cfg.controlListen != "" && !isLoopbackAddress cfg.controlListen then
        .error "remote relay control listeners require TLS"
      else
        let usesHTTPS := startsWith (toLower cfg.controlAddress) "https://"
        if usesHTTPS ≠ cfg.controlTLS then
          .error "relay control URL scheme and TLS setting must agree"
        else .ok ()

end Validation

/-! ## The node -/

/-- `bindRequest`. -/
structure BindRequest where
  tunnelID : String
  remotePort : ℤ
  brokerAddress : String
  brokerTLS : Bool
  brokerServerName : String
  deriving DecidableEq, Repr

/-- A listener, with the request it was opened for. -/
structure Listener where
  number : ℕ
  request : BindRequest
  deriving DecidableEq, Repr

/-- A connection to the broker. -/
inductive Connection where
  | tcp (address : String)
  | tls (address serverName caFile : String)
  deriving DecidableEq, Repr

/-- `protocol.RelayHandshake`. -/
structure RelayHandshake where
  role : String
  token : String
  nodeID : String
  tunnelID : String
  visitorAddr : String
  deriving DecidableEq, Repr

/-- What `forward` does for a visitor. -/
structure Forwarded where
  request : BindRequest
  connection : Connection
  handshake : RelayHandshake
  deriving DecidableEq, Repr

/-- `Node`, and the logs. -/
structure Node where
  config : Config
  bindings : GoMap String Listener
  opened : List Listener
  closed : List Listener
  forwarded : List Forwarded
  deriving DecidableEq

/-- `New`. -/
def newNode [CaseTable] [URLTable] (config : Config) : Except String Node :=
  if config.id = "" ∨ config.address = "" ∨ config.controlAddress = "" ∨ config.brokerAddress = "" ∨
      config.token = "" then
    .error "relay id, address, control address, broker and token are required"
  else
    match validateTransportSecurity config with
    | .error reason => .error reason
    | .ok () =>
        let config :=
          if config.bindHost = "" then { config with bindHost := "0.0.0.0" } else config
        if config.controlTLS && (config.controlCertFile = "" || config.controlKeyFile = "") then
          .error "control TLS certificate and key are required"
        else .ok ⟨config, ∅, [], [], []⟩

/-- A new node has no bindings and has done nothing, and its configuration is secure. -/
theorem newNode_ok [CaseTable] [URLTable] {config : Config} {n : Node}
    (created : newNode config = .ok n) :
    n = ⟨n.config, ∅, [], [], []⟩ ∧ n.config.token = config.token ∧
      n.config.brokerTLS = config.brokerTLS ∧ validateTransportSecurity config = .ok () := by
  unfold newNode at created
  split at created
  · cases created
  cases validated : validateTransportSecurity config with
  | error reason =>
      rw [validated] at created
      cases created
  | ok _ =>
      rw [validated] at created
      simp only at created
      have kept : ∀ filled, filled =
          (if config.bindHost = "" then { config with bindHost := "0.0.0.0" } else config) →
          filled.token = config.token ∧ filled.brokerTLS = config.brokerTLS := by
        rintro filled rfl
        split <;> exact ⟨rfl, rfl⟩
      generalize (if config.bindHost = "" then { config with bindHost := "0.0.0.0" } else config) =
        filled at created kept
      obtain ⟨token, secured⟩ := kept filled rfl
      by_cases certificate : (filled.controlTLS &&
          (filled.controlCertFile = "" || filled.controlKeyFile = "")) = true
      · rw [if_pos certificate] at created
        cases created
      · rw [if_neg certificate] at created
        rw [← Except.ok.inj created]
        exact ⟨rfl, token, secured, rfl⟩

namespace Node

/-- The listener has not been closed. -/
def Open (n : Node) (listener : Listener) : Prop :=
  listener ∈ n.opened ∧ listener ∉ n.closed

instance (n : Node) (listener : Listener) : Decidable (n.Open listener) :=
  inferInstanceAs (Decidable (_ ∧ _))

/-- `net.Listen`, on the port of a request; `refused` is an error for which this node is not the
reason. -/
def listen (n : Node) (request : BindRequest) (refused : Option String) : Except String Listener :=
  let address := joinHostPort n.config.bindHost request.remotePort.toNat
  if 65535 < request.remotePort then .error s!"listen tcp: address {request.remotePort}: invalid port"
  else if ∃ listener ∈ n.opened, listener ∉ n.closed ∧
      listener.request.remotePort = request.remotePort then
    .error s!"listen tcp {address}: bind: address already in use"
  else
    match refused with
    | some reason => .error s!"listen tcp {address}: {reason}"
    | none => .ok ⟨n.opened.length, request⟩

/-- `bind`. -/
def bind (n : Node) (request : BindRequest) (refused : Option String) : Node × Except String Unit :=
  match n.listen request refused with
  | .error reason => (n, .error reason)
  | .ok listener =>
      let n := { n with opened := n.opened ++ [listener] }
      match n.bindings.lookup request.tunnelID with
      | some _ => ({ n with closed := n.closed ++ [listener] }, .ok ())
      | none => ({ n with bindings := n.bindings.insert request.tunnelID listener }, .ok ())

/-- `unbind`. -/
def unbind (n : Node) (tunnelID : String) : Node :=
  let listener := n.bindings.lookup tunnelID
  let n := { n with bindings := n.bindings.erase tunnelID }
  match listener with
  | none => n
  | some listener => { n with closed := n.closed ++ [listener] }

/-- `Close`. -/
def close (n : Node) : Node :=
  let listeners := n.bindings.valuesWhere fun _ _ => true
  { n with bindings := ∅, closed := n.closed ++ listeners }

end Node

/-! ## Control requests -/

inductive Method where
  | post
  | delete
  | other
  deriving DecidableEq, Repr

/-- A control request: its header `X-Nrynet-Relay-Token`, and what the JSON decoder makes of the body. -/
structure ControlRequest where
  token : String
  method : Method
  path : String
  body : Option BindRequest
  deriving DecidableEq, Repr

/-- The status of a response, and its text. -/
abbrev Response := ℕ × String

namespace Node

/-- `handleBinding`. -/
def handleBinding (n : Node) (r : ControlRequest) (refused : Option String) : Node × Response :=
  let head := "/bindings/"
  if r.path.toList.length ≤ head.toList.length ∨ ¬ startsWith r.path head then
    (n, 404, "404 page not found")
  else
    let tunnelID := String.ofList (r.path.toList.drop head.toList.length)
    match r.method with
    | .post =>
        match r.body with
        | none => (n, 400, "invalid binding")
        | some request =>
            if request.tunnelID ≠ tunnelID ∨ request.remotePort < 1 then (n, 400, "invalid binding")
            else
              match n.bind request refused with
              | (n, .error reason) => (n, 409, reason)
              | (n, .ok ()) => (n, 201, "")
    | .delete => (n.unbind tunnelID, 204, "")
    | .other => (n, 405, "")

/-- `authenticate`, in front of `handleBinding`. -/
def authenticate (n : Node) (r : ControlRequest) (refused : Option String) : Node × Response :=
  if r.token ≠ n.config.token then (n, 401, "unauthorized")
  else n.handleBinding r refused

end Node

/-! ## Visitors -/

/-- What happens while the broker is dialled: why the CA file cannot be used, and why there is no
connection. -/
structure Dialing where
  caFile : Option String
  refused : Option String
  deriving DecidableEq, Repr

/-- `dialBroker`. -/
def dialBroker (config : Config) (request : BindRequest) (dialing : Dialing) :
    Except String Connection :=
  if !request.brokerTLS && !config.brokerTLS then
    match dialing.refused with
    | some reason => .error reason
    | none => .ok (.tcp request.brokerAddress)
  else
    let serverName :=
      if request.brokerServerName = "" then config.brokerServerName else request.brokerServerName
    match if config.brokerCAFile = "" then none else dialing.caFile with
    | some reason => .error reason
    | none =>
        match dialing.refused with
        | some reason => .error reason
        | none => .ok (.tls request.brokerAddress serverName config.brokerCAFile)

namespace Node

/-- `forward`, up to the handshake. -/
def forward (n : Node) (request : BindRequest) (visitorAddr : String) (dialing : Dialing) : Node :=
  match dialBroker n.config request dialing with
  | .error _ => n
  | .ok connection =>
      let handshake : RelayHandshake :=
        ⟨"relay_visitor", n.config.token, n.config.id, request.tunnelID, visitorAddr⟩
      { n with forwarded := n.forwarded ++ [⟨request, connection, handshake⟩] }

/-- The loop of `accept` with a visitor; it has ended when the listener is closed. -/
def accept (n : Node) (listener : Listener) (visitorAddr : String) (dialing : Dialing) : Node :=
  if n.Open listener then n.forward listener.request visitorAddr dialing else n

end Node

/-! ## Runs -/

/-- What happens to a node. -/
inductive Event where
  | control (r : ControlRequest) (refused : Option String)
  | visitor (listener : Listener) (visitorAddr : String) (dialing : Dialing)
  | close

namespace Node

/-- One event. -/
def perform (n : Node) : Event → Node
  | .control r refused => (n.authenticate r refused).1
  | .visitor listener visitorAddr dialing => n.accept listener visitorAddr dialing
  | .close => n.close

/-- The events, one after the other. -/
def runAll (n : Node) (events : List Event) : Node :=
  events.foldl perform n

end Node

/-! ## An example -/

/-- A node beside the server, which needs no TLS. -/
def localConfig : Config where
  id := "edge-1"
  address := "203.0.113.10"
  controlListen := "127.0.0.1:7100"
  controlAddress := "http://127.0.0.1:7100"
  bindHost := "0.0.0.0"
  brokerAddress := "127.0.0.1:7001"
  token := "secret"
  brokerTLS := false
  brokerServerName := ""
  brokerCAFile := ""
  controlTLS := false
  controlCertFile := ""
  controlKeyFile := ""

def localNode : Node := ⟨localConfig, ∅, [], [], []⟩

theorem newNode_localConfig :
    let _ := CaseTable.ascii
    let _ := URLTable.plain
    newNode localConfig = .ok localNode := by
  decide +kernel

/-- The server's request for a tunnel. -/
def bindEvent (request : BindRequest) : Event :=
  .control ⟨"secret", .post, "/bindings/" ++ request.tunnelID, some request⟩ none

end NryNet.RelayNode

import NryNet.AgentToken
import NryNet.Lib.Fallible
import NryNet.Lib.GoText

/-!
# The connections of an agent (`client/agent/control_dial.go`, `relay.go`, `tls.go`, `options.go`)

An agent dials its server on three ways: QUIC or a WebSocket for the control connection, and TCP for
data.  An agent with the transport `quic` changes over to a WebSocket for half a minute when QUIC fails,
and it opens a data connection over TCP when a stream cannot be opened.  The certificate of the server is
verified, unless `insecure_skip_verify` turns this off or the token of the agent carries a pin, which is
then compared instead.

`Options.validate` lets `insecure_skip_verify` pass for loopback addresses only.  With the transport
`quic` it looks at the QUIC address and at nothing else, although the agent may dial the other two
addresses as well: `verified_iff` is the exact extent of what gets through.

## The model

A dial is recorded with the host it goes to and the TLS configuration that is handed to the library.
What the network answers, whether the CA file can be loaded and when the context is cancelled is part of
the event.  The WebSocket library takes URLs `ws` and `wss` that name no user; without a configuration it
verifies.
-/

namespace NryNet.Agent

open GoText Checks

/-! ## The configuration (`internal/config/transport_security.go`) -/

/-- `ClientConfig`. -/
structure ClientConfig where
  serverURL : String
  dataAddress : String
  transport : String
  quicAddress : String
  caFile : String
  token : String
  deviceID : String
  insecureSkipVerify : Bool
  deriving DecidableEq, Repr

/-- `isLoopbackHost`. -/
def isLoopbackHost (host : String) : Bool :=
  let host := trim host ['[', ']']
  equalFold host "localhost" || (parseIP host).any isLoopback

/-- `IsLoopbackAddress`. -/
def isLoopbackAddress (address : String) : Bool :=
  match splitHostPort address with
  | .ok (host, _) => isLoopbackHost host
  | .error _ => false

/-- Whether the WebSocket and the data connections use TLS. -/
def usesTLS [CaseTable] (cfg : ClientConfig) : Bool :=
  startsWith (toLower cfg.serverURL) "wss://"

section Validation

variable [CaseTable] [URLTable]

/-- `ValidateSecureWebSocketURL`. -/
def validateSecureWebSocketURL (rawURL : String) : Except String Unit :=
  match parseURL rawURL with
  | none => .error "client.server_url must be a valid WebSocket URL"
  | some (scheme, hostname) =>
      if hostname = "" then .error "client.server_url must be a valid WebSocket URL"
      else if scheme = "ws" ∨ scheme = "wss" then .ok ()
      else .error "client.server_url must use ws or wss"

/-- `ValidateTLSVerification`. -/
def validateTLSVerification (cfg : ClientConfig) : Except String Unit :=
  let parsed := parseURL cfg.serverURL
  if !cfg.insecureSkipVerify then .ok ()
  else if cfg.transport = "quic" ∧ isLoopbackAddress cfg.quicAddress then .ok ()
  else if cfg.transport ≠ "quic" ∧ parsed.any fun url => url.1 = "ws" then .ok ()
  else if cfg.transport ≠ "quic" ∧ (parsed.any fun url => isLoopbackHost url.2) ∧
      isLoopbackAddress cfg.dataAddress then .ok ()
  else .error "client.insecure_skip_verify may be enabled only for loopback development"

/-- `Options.Validate`. -/
def ClientConfig.validate (cfg : ClientConfig) : Except String Unit := do
  reject (cfg.serverURL = "") "client.server_url is required"
  reject (cfg.transport = "quic" ∧ cfg.quicAddress = "") "client.quic_address is required"
  reject (cfg.transport ≠ "quic" ∧ cfg.transport ≠ "websocket")
    "client.transport must be websocket or quic"
  reject (cfg.transport ≠ "quic" ∧ cfg.dataAddress = "") "client.data_address is required"
  (if cfg.transport = "websocket" then validateSecureWebSocketURL cfg.serverURL else .ok ())
  validateTLSVerification cfg
  reject (cfg.token = "") "client.token is required"
  reject (cfg.deviceID = "") "client.device_id is required"

end Validation

/-! ## TLS -/

/-- `tls.Config`, as far as the agent fills it in. -/
structure TLSConfig where
  serverName : String := ""
  insecureSkipVerify : Bool := false
  nextProtos : List String := []
  /-- the pin that `VerifyConnection` compares -/
  certificatePin : Option String := none
  /-- the file whose certificates are among the roots -/
  rootCAs : Option String := none
  deriving DecidableEq, Repr

/-- The pin of a token. -/
def certificatePin (token : String) : Option String :=
  match AgentToken.parse token with
  | .ok parts => if parts.certificatePin = "" then none else some parts.certificatePin
  | .error _ => none

/-- `secureClientTLS`; `unreadable` is why the CA file cannot be loaded. -/
def secureClientTLS (serverName : String) (cfg : ClientConfig) (protocols : List String)
    (unreadable : Option String) : Except String TLSConfig :=
  let pin := certificatePin cfg.token
  let tlsConfig : TLSConfig :=
    { serverName
      insecureSkipVerify := if pin.isSome ∧ cfg.caFile = "" then true else cfg.insecureSkipVerify
      nextProtos := protocols
      certificatePin := pin }
  if cfg.caFile = "" then .ok tlsConfig
  else
    match unreadable with
    | some err => .error err
    | none => .ok { tlsConfig with rootCAs := some cfg.caFile }

/-- A TLS connection that the agent sets out to make. -/
structure TLSDial where
  host : String
  config : TLSConfig
  deriving DecidableEq, Repr

/-- The certificate is verified, or the pin compared, or the host is this one. -/
def TLSDial.Verified (dial : TLSDial) : Prop :=
  isLoopbackHost dial.host = true ∨ dial.config.insecureSkipVerify = false ∨
    dial.config.certificatePin.isSome = true

instance (dial : TLSDial) : Decidable dial.Verified :=
  inferInstanceAs (Decidable (_ ∨ _ ∨ _))

/-! ## The three ways -/

/-- What a dial meets with: why the CA file cannot be loaded, why no connection comes about, and why what
follows on a connection fails. -/
structure Dialing where
  unreadable : Option String := none
  refused : Option String := none
  unusable : Option String := none
  deriving DecidableEq, Repr

/-- The implementations of `controlConn`. -/
inductive Control where
  | quic
  | webSocket
  deriving DecidableEq, Repr

/-- `quicServerName`. -/
def quicServerName (address : String) : String :=
  match splitHostPort address with
  | .ok (host, _) => if host = "" then "localhost" else host
  | .error _ => "localhost"

/-- `tlsServerName`. -/
def tlsServerName (address : String) : String :=
  match splitHostPort address with
  | .ok (host, _) => host
  | .error _ => address

/-- The dialling of an address by `DialQUIC` and by `tls.Dialer`, which refuse one without a port. -/
def dialAddress (address : String) (config : TLSConfig) (refused : Option String) :
    List TLSDial × Except String Unit :=
  match splitHostPort address with
  | .error err => ([], .error err)
  | .ok (host, _) => ([⟨host, config⟩], refused.elim (.ok ()) .error)

/-- `dialQUICControl`. -/
def dialQUICControl (cfg : ClientConfig) (met : Dialing) : List TLSDial × Except String Control :=
  match secureClientTLS (quicServerName cfg.quicAddress) cfg ["nrynet-quic-v1"] met.unreadable with
  | .error err => ([], .error ("prepare QUIC control TLS: " ++ err))
  | .ok tlsConfig =>
      let (dials, session) := dialAddress cfg.quicAddress tlsConfig met.refused
      match session, met.unusable with
      | .error err, _ => (dials, .error ("dial QUIC control session: " ++ err))
      | .ok (), some err => (dials, .error ("open QUIC control stream: " ++ err))
      | .ok (), none => (dials, .ok .quic)

section Dials

variable [CaseTable] [URLTable]

/-- `webSocketTLSConfig`. -/
def webSocketTLSConfig (cfg : ClientConfig) (unreadable : Option String) :
    Except String (Option TLSConfig) :=
  if !usesTLS cfg then .ok none
  else
    match parseURL cfg.serverURL with
    | none => .error "invalid URL"
    | some (_, hostname) => (secureClientTLS hostname cfg [] unreadable).map some

/-- `Dialer.DialContext` of the WebSocket library. -/
def dialURL (rawURL : String) (config : Option TLSConfig) (refused : Option String) :
    List TLSDial × Except String Unit :=
  match parseURL rawURL with
  | none => ([], .error "invalid URL")
  | some (scheme, host) =>
      if URLTable.user rawURL then ([], .error "malformed ws or wss URL")
      else if scheme = "ws" then ([], refused.elim (.ok ()) .error)
      else if scheme = "wss" then
        let config := config.getD {}
        let named :=
          if config.serverName = "" then { config with serverName := host } else config
        ([⟨host, named⟩], refused.elim (.ok ()) .error)
      else ([], .error "malformed ws or wss URL")

/-- `dialWebSocketControl`. -/
def dialWebSocketControl (cfg : ClientConfig) (met : Dialing) :
    List TLSDial × Except String Control :=
  match webSocketTLSConfig cfg met.unreadable with
  | .error err => ([], .error ("prepare WebSocket control TLS: " ++ err))
  | .ok tlsConfig =>
      let (dials, conn) := dialURL cfg.serverURL tlsConfig met.refused
      match conn, met.unusable with
      | .error err, _ => (dials, .error ("dial WebSocket control: " ++ err))
      | .ok (), some err => (dials, .error ("configure WebSocket control keepalive: " ++ err))
      | .ok (), none => (dials, .ok .webSocket)

/-- `dialLegacyData`. -/
def dialLegacyData (cfg : ClientConfig) (met : Dialing) : List TLSDial × Except String Unit :=
  if !usesTLS cfg then ([], met.refused.elim (.ok ()) .error)
  else
    match secureClientTLS (tlsServerName cfg.dataAddress) cfg [] met.unreadable with
    | .error err => ([], .error err)
    | .ok tlsConfig => dialAddress cfg.dataAddress tlsConfig met.refused

/-! ## The agent -/

/-- The agent, as far as it concerns dialling. -/
structure Dialer where
  webSocketFallback : Bool := false
  /-- in nanoseconds; `none` is the zero time -/
  webSocketFallbackUntil : Option ℕ := none
  /-- the control connections it has had; a data connection may be opened on an old one -/
  controls : List Control := []
  dials : List TLSDial := []
  deriving DecidableEq, Repr

/-- How long QUIC is left alone. -/
def fallbackPeriod : ℕ := 30 * 10 ^ 9

namespace Dialer

/-- `webSocketFallbackEnabled`, the part that changes the agent. -/
def expireWebSocketFallback (a : Dialer) (now : ℕ) : Dialer :=
  if a.webSocketFallback ∧ (a.webSocketFallbackUntil.any fun limit => limit ≤ now) then
    { a with webSocketFallback := false }
  else a

/-- `enableWebSocketFallback`. -/
def enableWebSocketFallback (a : Dialer) (now : ℕ) : Dialer :=
  { a with webSocketFallback := true, webSocketFallbackUntil := some (now + fallbackPeriod) }

/-- `disableWebSocketFallback`. -/
def disableWebSocketFallback (a : Dialer) : Dialer :=
  { a with webSocketFallback := false, webSocketFallbackUntil := none }

/-- The agent after some dials, and with the connection they led to. -/
def dialled (a : Dialer) (outcome : List TLSDial × Except String Control) : Dialer :=
  { a with
    dials := a.dials ++ outcome.1
    controls :=
      match outcome.2 with
      | .ok control => a.controls ++ [control]
      | .error _ => a.controls }

/-- What one dialling of the control connection meets with. -/
structure ControlDialing where
  now : ℕ
  quic : Dialing
  /-- the context of the agent is cancelled when QUIC has failed -/
  cancelled : Bool
  /-- when QUIC has failed -/
  later : ℕ
  webSocket : Dialing
  deriving DecidableEq, Repr

/-- `dialControlWith`. -/
def dialControlWith (cfg : ClientConfig) (a : Dialer) (met : ControlDialing) : Dialer :=
  let quic := dialQUICControl cfg met.quic
  let tried := a.dialled quic
  match quic.2 with
  | .ok _ => tried.disableWebSocketFallback
  | .error _ =>
      if met.cancelled then tried
      else
        (tried.enableWebSocketFallback met.later).dialled (dialWebSocketControl cfg met.webSocket)

/-- `dialControl`. -/
def dialControl (cfg : ClientConfig) (a : Dialer) (met : ControlDialing) : Dialer :=
  if cfg.transport ≠ "quic" then a.dialled (dialWebSocketControl cfg met.webSocket)
  else
    let a := a.expireWebSocketFallback met.now
    if a.webSocketFallback then a.dialled (dialWebSocketControl cfg met.webSocket)
    else a.dialControlWith cfg met

/-- `markWebSocketFallback`. -/
def markWebSocketFallback (a : Dialer) (control : Control) (now : ℕ) : Dialer :=
  match control with
  | .quic => a.enableWebSocketFallback now
  | .webSocket => a

/-- `openData` of the two control connections.  `stream` is why no stream of QUIC can be opened. -/
def openData (cfg : ClientConfig) (a : Dialer) (control : Control) (stream : Option String)
    (cancelled : Bool) (met : Dialing) : Dialer :=
  let legacy := { a with dials := a.dials ++ (dialLegacyData cfg met).1 }
  match control with
  | .webSocket => legacy
  | .quic =>
      if stream = none ∨ cancelled then a
      else if cfg.dataAddress = "" then a
      else legacy

end Dialer

/-- What happens to an agent. -/
inductive DialEvent where
  /-- `runSession` dials -/
  | dialControl (met : Dialer.ControlDialing)
  /-- the session on a control connection ends with an error -/
  | sessionEnded (control : Control) (now : ℕ)
  /-- one attempt to open a data connection -/
  | openData (control : Control) (stream : Option String) (cancelled : Bool) (met : Dialing)
  deriving DecidableEq, Repr

namespace Dialer

/-- One event; only a control connection that the agent has had can end or open a data connection. -/
def step (cfg : ClientConfig) (a : Dialer) : DialEvent → Dialer
  | .dialControl met => a.dialControl cfg met
  | .sessionEnded control now =>
      if control ∈ a.controls then a.markWebSocketFallback control now else a
  | .openData control stream cancelled met =>
      if control ∈ a.controls then a.openData cfg control stream cancelled met else a

/-- The agent after some events. -/
def run (cfg : ClientConfig) (events : List DialEvent) : Dialer :=
  events.foldl (step cfg) {}

end Dialer

/-! ## Where the agent dials with TLS -/

/-- The hosts that the agent dials with a TLS configuration of its own. -/
inductive TLSTarget (cfg : ClientConfig) : String → Prop
  | quic {host port : String} (chosen : cfg.transport = "quic")
      (split : splitHostPort cfg.quicAddress = .ok (host, port)) : TLSTarget cfg host
  | webSocket {host : String} (secure : usesTLS cfg = true)
      (parsed : parseURL cfg.serverURL = some ("wss", host))
      (anonymous : URLTable.user cfg.serverURL = false) : TLSTarget cfg host
  | data {host port : String} (secure : usesTLS cfg = true)
      (split : splitHostPort cfg.dataAddress = .ok (host, port)) : TLSTarget cfg host

/-- What holds of every dial: a certificate is left unverified only if the configuration says so and
there is no pin. -/
def TLSDial.Permitted (cfg : ClientConfig) (dial : TLSDial) : Prop :=
  dial.config.insecureSkipVerify = false ∨ dial.config.certificatePin.isSome = true ∨
    cfg.insecureSkipVerify = true ∧ certificatePin cfg.token = none ∧ TLSTarget cfg dial.host

variable {cfg : ClientConfig}

omit [CaseTable] [URLTable] in
/-- What `secureClientTLS` returns. -/
theorem secureClientTLS_ok {serverName : String} {protocols : List String}
    {unreadable : Option String} {config : TLSConfig}
    (made : secureClientTLS serverName cfg protocols unreadable = .ok config) :
    config.certificatePin = certificatePin cfg.token ∧
      (certificatePin cfg.token = none → config.insecureSkipVerify = cfg.insecureSkipVerify) := by
  unfold secureClientTLS at made
  simp only at made
  split at made
  · rw [← Except.ok.inj made]
    exact ⟨rfl, fun absent => by simp [absent]⟩
  · split at made
    · cases made
    · rw [← Except.ok.inj made]
      exact ⟨rfl, fun absent => by simp [absent]⟩

theorem TLSDial.permitted_of_config {serverName : String} {protocols : List String}
    {unreadable : Option String} {config : TLSConfig} {dial : TLSDial}
    (made : secureClientTLS serverName cfg protocols unreadable = .ok config)
    (skip : dial.config.insecureSkipVerify = config.insecureSkipVerify)
    (pin : dial.config.certificatePin = config.certificatePin) (target : TLSTarget cfg dial.host) :
    dial.Permitted cfg := by
  obtain ⟨pinned, unpinned⟩ := secureClientTLS_ok made
  cases present : certificatePin cfg.token with
  | some text => exact Or.inr (Or.inl (by rw [pin, pinned, present]; rfl))
  | none =>
      cases chosen : cfg.insecureSkipVerify with
      | false => exact Or.inl (by rw [skip, unpinned present, chosen])
      | true => exact Or.inr (Or.inr ⟨chosen, present, target⟩)

omit [CaseTable] [URLTable] in
theorem mem_dialAddress {address : String} {config : TLSConfig} {refused : Option String}
    {dial : TLSDial} (member : dial ∈ (dialAddress address config refused).1) :
    dial.config = config ∧ ∃ port, splitHostPort address = .ok (dial.host, port) := by
  unfold dialAddress at member
  split at member
  · cases member
  · rename_i host port split
    obtain rfl := List.mem_singleton.mp member
    exact ⟨rfl, port, split⟩

theorem dialQUICControl_permitted (chosen : cfg.transport = "quic") (met : Dialing) :
    ∀ dial ∈ (dialQUICControl cfg met).1, dial.Permitted cfg := by
  intro dial member
  unfold dialQUICControl at member
  split at member
  · cases member
  · rename_i config made
    have listed : dial ∈ (dialAddress cfg.quicAddress config met.refused).1 := by
      simp only at member
      split at member <;> exact member
    obtain ⟨same, port, split⟩ := mem_dialAddress listed
    exact TLSDial.permitted_of_config made (by rw [same]) (by rw [same]) (.quic chosen split)

theorem dialWebSocketControl_permitted (met : Dialing) :
    ∀ dial ∈ (dialWebSocketControl cfg met).1, dial.Permitted cfg := by
  intro dial member
  unfold dialWebSocketControl at member
  split at member
  · cases member
  · rename_i config prepared
    have listed : dial ∈ (dialURL cfg.serverURL config met.refused).1 := by
      simp only at member
      split at member <;> exact member
    unfold dialURL at listed
    split at listed
    · cases listed
    · rename_i scheme host parsed
      split at listed
      · cases listed
      rename_i anonymous
      split at listed
      · cases listed
      split at listed
      · rename_i secure
        obtain rfl := List.mem_singleton.mp listed
        have skip : (if (config.getD {}).serverName = "" then
            { config.getD {} with serverName := host } else config.getD {}).insecureSkipVerify =
            (config.getD {}).insecureSkipVerify := by
          split <;> rfl
        have pin : (if (config.getD {}).serverName = "" then
            { config.getD {} with serverName := host } else config.getD {}).certificatePin =
            (config.getD {}).certificatePin := by
          split <;> rfl
        unfold webSocketTLSConfig at prepared
        split at prepared
        · -- without the prefix the library has no configuration, and verifies
          obtain rfl := Except.ok.inj prepared
          exact Or.inl skip
        · rename_i tls
          rw [parsed] at prepared
          simp only at prepared
          cases made : secureClientTLS host cfg [] met.unreadable with
          | error err =>
              rw [made] at prepared
              cases prepared
          | ok given =>
              rw [made] at prepared
              obtain rfl := Except.ok.inj prepared
              exact TLSDial.permitted_of_config made skip pin
                (.webSocket (by simpa using tls) (secure ▸ parsed) (by simpa using anonymous))
      · cases listed

theorem dialLegacyData_permitted (met : Dialing) :
    ∀ dial ∈ (dialLegacyData cfg met).1, dial.Permitted cfg := by
  intro dial member
  unfold dialLegacyData at member
  split at member
  · cases member
  · rename_i tls
    split at member
    · cases member
    · rename_i config made
      obtain ⟨same, port, split⟩ := mem_dialAddress member
      exact TLSDial.permitted_of_config made (by rw [same]) (by rw [same])
        (.data (by simpa using tls) split)

/-! ## Runs -/

namespace Dialer

variable {a : Dialer}

omit [CaseTable] [URLTable] in
theorem expireWebSocketFallback_dials (a : Dialer) (now : ℕ) :
    (a.expireWebSocketFallback now).dials = a.dials := by
  unfold expireWebSocketFallback
  split <;> rfl

theorem dialled_permitted (held : ∀ dial ∈ a.dials, dial.Permitted cfg)
    {outcome : List TLSDial × Except String Control}
    (new : ∀ dial ∈ outcome.1, dial.Permitted cfg) :
    ∀ dial ∈ (a.dialled outcome).dials, dial.Permitted cfg := by
  intro dial member
  rcases List.mem_append.mp member with before | now
  · exact held dial before
  · exact new dial now

theorem dialControl_permitted (held : ∀ dial ∈ a.dials, dial.Permitted cfg)
    (met : ControlDialing) : ∀ dial ∈ (a.dialControl cfg met).dials, dial.Permitted cfg := by
  have expired : ∀ dial ∈ (a.expireWebSocketFallback met.now).dials, dial.Permitted cfg := by
    rw [expireWebSocketFallback_dials]
    exact held
  unfold dialControl
  split
  · exact dialled_permitted held (dialWebSocketControl_permitted met.webSocket)
  · rename_i other
    have chosen : cfg.transport = "quic" := by simpa using other
    have tried := dialled_permitted expired (dialQUICControl_permitted chosen met.quic)
    simp only
    split
    · exact dialled_permitted expired (dialWebSocketControl_permitted met.webSocket)
    · unfold dialControlWith
      simp only
      split
      · exact tried
      · split
        · exact tried
        · exact dialled_permitted tried (dialWebSocketControl_permitted met.webSocket)

theorem openData_permitted (held : ∀ dial ∈ a.dials, dial.Permitted cfg) (control : Control)
    (stream : Option String) (cancelled : Bool) (met : Dialing) :
    ∀ dial ∈ (a.openData cfg control stream cancelled met).dials, dial.Permitted cfg := by
  have legacy : ∀ dial ∈ a.dials ++ (dialLegacyData cfg met).1, dial.Permitted cfg := by
    intro dial member
    rcases List.mem_append.mp member with before | now
    · exact held dial before
    · exact dialLegacyData_permitted met dial now
  unfold openData
  cases control with
  | webSocket => exact legacy
  | quic =>
      simp only
      split
      · exact held
      · split
        · exact held
        · exact legacy

theorem step_permitted (held : ∀ dial ∈ a.dials, dial.Permitted cfg) (event : DialEvent) :
    ∀ dial ∈ (a.step cfg event).dials, dial.Permitted cfg := by
  cases event with
  | dialControl met => exact dialControl_permitted held met
  | sessionEnded control now =>
      unfold step
      simp only
      split
      · cases control <;> exact held
      · exact held
  | openData control stream cancelled met =>
      unfold step
      simp only
      split
      · exact openData_permitted held control stream cancelled met
      · exact held

theorem run_permitted (events : List DialEvent) :
    ∀ dial ∈ (run cfg events).dials, dial.Permitted cfg := by
  induction events using List.reverseRecOn with
  | nil => intro dial member; cases member
  | append_singleton earlier event ih =>
      unfold run at ih ⊢
      rw [List.foldl_append]
      exact step_permitted ih event

end Dialer

/-! ## What the validation lets through -/

theorem ClientConfig.validate_ok (accepted : cfg.validate = .ok ()) :
    validateTLSVerification cfg = .ok () := by
  unfold validate at accepted
  simp only [seq_eq_ok, reject_eq_ok] at accepted
  obtain ⟨-, -, -, -, -, verification, -, -⟩ := accepted
  exact verification

/-- The addresses that `validateTLSVerification` does not look at: with `quic` as the transport, the
server of the fallback and of the data connections. -/
def ClientConfig.Unchecked (cfg : ClientConfig) : Prop :=
  cfg.transport = "quic" ∧ cfg.insecureSkipVerify = true ∧ certificatePin cfg.token = none ∧
    usesTLS cfg = true ∧
      ((∃ host, parseURL cfg.serverURL = some ("wss", host) ∧
          URLTable.user cfg.serverURL = false ∧ isLoopbackHost host = false) ∨
        ∃ host port, splitHostPort cfg.dataAddress = .ok (host, port) ∧
          isLoopbackHost host = false)

omit [CaseTable] [URLTable] in
theorem isLoopbackAddress_split {address host port : String}
    (split : splitHostPort address = .ok (host, port)) :
    isLoopbackAddress address = isLoopbackHost host := by
  unfold isLoopbackAddress
  rw [split]

/-- What `validateTLSVerification` lets through without verification. -/
theorem validateTLSVerification_ok (skip : cfg.insecureSkipVerify = true)
    (accepted : validateTLSVerification cfg = .ok ()) :
    (cfg.transport = "quic" ∧ isLoopbackAddress cfg.quicAddress = true) ∨
      (cfg.transport ≠ "quic" ∧ ∃ host, parseURL cfg.serverURL = some ("ws", host)) ∨
      (cfg.transport ≠ "quic" ∧ (∃ scheme host, parseURL cfg.serverURL = some (scheme, host) ∧
        isLoopbackHost host = true) ∧ isLoopbackAddress cfg.dataAddress = true) := by
  unfold validateTLSVerification at accepted
  simp only [skip, Bool.not_true, Bool.false_eq_true, if_false] at accepted
  split at accepted
  · rename_i quic
    exact Or.inl quic
  split at accepted
  · rename_i plain
    refine Or.inr (Or.inl ⟨plain.1, ?_⟩)
    obtain ⟨⟨scheme, host⟩, parsed, named⟩ := (Option.any_eq_true _ _).mp plain.2
    rw [decide_eq_true_eq] at named
    exact ⟨host, named ▸ parsed⟩
  split at accepted
  · rename_i loopback
    obtain ⟨⟨scheme, host⟩, parsed, here⟩ := (Option.any_eq_true _ _).mp loopback.2.1
    exact Or.inr (Or.inr ⟨loopback.1, ⟨scheme, host, parsed, here⟩, loopback.2.2⟩)
  · cases accepted

/-- A URL with the scheme `ws` is dialled without TLS. -/
theorem usesTLS_of_ws {host : String} (parsed : parseURL cfg.serverURL = some ("ws", host)) :
    usesTLS cfg = false := by
  unfold parseURL at parsed
  obtain ⟨scheme, found, rest⟩ := Option.bind_eq_some_iff.mp parsed
  obtain ⟨_, -, same⟩ := Option.map_eq_some_iff.mp rest
  exact not_startsWith_of_scheme found (congrArg Prod.fst same)

/-- The addresses that are looked at are loopback addresses. -/
theorem isLoopbackHost_of_target (accepted : cfg.validate = .ok ()) (checked : ¬ cfg.Unchecked)
    (skip : cfg.insecureSkipVerify = true) (unpinned : certificatePin cfg.token = none)
    {host : String} (target : TLSTarget cfg host) : isLoopbackHost host = true := by
  rcases validateTLSVerification_ok skip (ClientConfig.validate_ok accepted) with
    ⟨quic, loopback⟩ | ⟨other, _, plain⟩ | ⟨other, ⟨scheme, named, found, here⟩, loopback⟩
  · -- only the QUIC address has been looked at
    cases target with
    | quic _ split => rw [← isLoopbackAddress_split split, loopback]
    | webSocket secure parsed anonymous =>
        by_contra remote
        exact checked ⟨quic, skip, unpinned, secure,
          Or.inl ⟨host, parsed, anonymous, eq_false_of_ne_true remote⟩⟩
    | data secure split =>
        by_contra remote
        exact checked ⟨quic, skip, unpinned, secure,
          Or.inr ⟨host, _, split, eq_false_of_ne_true remote⟩⟩
  · have insecure := usesTLS_of_ws plain
    cases target with
    | quic chosen _ => exact absurd chosen other
    | webSocket secure _ _ => rw [insecure] at secure; cases secure
    | data secure _ => rw [insecure] at secure; cases secure
  · cases target with
    | quic chosen _ => exact absurd chosen other
    | webSocket _ parsed _ =>
        rw [found] at parsed
        obtain ⟨-, rfl⟩ := Prod.mk.inj (Option.some.inj parsed)
        exact here
    | data _ split => rw [← isLoopbackAddress_split split, loopback]

/-! ## The two ways around the validation -/

namespace Dialer

/-- A dialling in which QUIC fails and everything else works. -/
def withoutQUIC : ControlDialing where
  now := 0
  quic := { refused := some "timeout: no recent network activity" }
  cancelled := false
  later := 0
  webSocket := {}

/-- A dialling in which everything works. -/
def withQUIC : ControlDialing :=
  { withoutQUIC with quic := {} }

end Dialer

omit [CaseTable] [URLTable] in
/-- With a CA file that loads there is always a configuration. -/
theorem secureClientTLS_some (serverName : String) (cfg : ClientConfig) (protocols : List String) :
    ∃ config, secureClientTLS serverName cfg protocols none = .ok config := by
  unfold secureClientTLS
  simp only
  split
  · exact ⟨_, rfl⟩
  · exact ⟨_, rfl⟩

omit [CaseTable] [URLTable] in
theorem not_verified {serverName host : String} {protocols : List String} {config given : TLSConfig}
    (made : secureClientTLS serverName cfg protocols none = .ok config)
    (same : given.insecureSkipVerify = config.insecureSkipVerify ∧
      given.certificatePin = config.certificatePin)
    (skip : cfg.insecureSkipVerify = true) (unpinned : certificatePin cfg.token = none)
    (remote : isLoopbackHost host = false) : ¬ TLSDial.Verified ⟨host, given⟩ := by
  obtain ⟨pinned, unverified⟩ := secureClientTLS_ok made
  rintro (loopback | verified | compared)
  · rw [remote] at loopback
    cases loopback
  · rw [same.1, unverified unpinned, skip] at verified
    cases verified
  · rw [same.2, pinned, unpinned] at compared
    cases compared

theorem dialWebSocketControl_unverified (skip : cfg.insecureSkipVerify = true)
    (unpinned : certificatePin cfg.token = none) (secure : usesTLS cfg = true) {host : String}
    (parsed : parseURL cfg.serverURL = some ("wss", host))
    (anonymous : URLTable.user cfg.serverURL = false) (remote : isLoopbackHost host = false) :
    ∃ dial ∈ (dialWebSocketControl cfg {}).1, ¬ dial.Verified := by
  obtain ⟨config, made⟩ := secureClientTLS_some host cfg []
  have prepared : webSocketTLSConfig cfg none = .ok (some config) := by
    unfold webSocketTLSConfig
    rw [secure, parsed]
    simp only [Bool.not_true, Bool.false_eq_true, if_false, made, Except.map]
  refine ⟨⟨host, if config.serverName = "" then { config with serverName := host } else config⟩,
    ?_, not_verified made (by split <;> exact ⟨rfl, rfl⟩) skip unpinned remote⟩
  unfold dialWebSocketControl dialURL
  rw [prepared, parsed]
  simp [anonymous]

omit [URLTable] in
theorem dialLegacyData_unverified (skip : cfg.insecureSkipVerify = true)
    (unpinned : certificatePin cfg.token = none) (secure : usesTLS cfg = true) {host port : String}
    (split : splitHostPort cfg.dataAddress = .ok (host, port))
    (remote : isLoopbackHost host = false) :
    ∃ dial ∈ (dialLegacyData cfg {}).1, ¬ dial.Verified := by
  obtain ⟨config, made⟩ := secureClientTLS_some (tlsServerName cfg.dataAddress) cfg []
  refine ⟨⟨host, config⟩, ?_, not_verified made ⟨rfl, rfl⟩ skip unpinned remote⟩
  unfold dialLegacyData
  rw [secure]
  simp only [Bool.not_true, Bool.false_eq_true, if_false, made]
  unfold dialAddress
  rw [split]
  exact List.mem_singleton_self _

omit [CaseTable] [URLTable] in
theorem dialQUICControl_refused (cfg : ClientConfig) :
    ∃ err, (dialQUICControl cfg Dialer.withoutQUIC.quic).2 = .error err := by
  obtain ⟨config, made⟩ := secureClientTLS_some (quicServerName cfg.quicAddress) cfg
    ["nrynet-quic-v1"]
  have loads : Dialer.withoutQUIC.quic.unreadable = none := rfl
  unfold dialQUICControl dialAddress
  rw [loads, made]
  cases splitHostPort cfg.quicAddress with
  | error err => exact ⟨_, rfl⟩
  | ok parts => exact ⟨_, rfl⟩

omit [CaseTable] [URLTable] in
theorem dialQUICControl_works (loopback : isLoopbackAddress cfg.quicAddress = true) :
    (dialQUICControl cfg Dialer.withQUIC.quic).2 = .ok .quic := by
  obtain ⟨config, made⟩ := secureClientTLS_some (quicServerName cfg.quicAddress) cfg
    ["nrynet-quic-v1"]
  have loads : Dialer.withQUIC.quic.unreadable = none := rfl
  unfold isLoopbackAddress at loopback
  unfold dialQUICControl dialAddress
  rw [loads, made]
  cases split : splitHostPort cfg.quicAddress with
  | error err =>
      rw [split] at loopback
      cases loopback
  | ok parts => rfl

namespace Dialer

/-- QUIC fails, and the agent falls back on the WebSocket of a remote server. -/
theorem fallback_unverified (quic : cfg.transport = "quic")
    (dialled : ∃ dial ∈ (dialWebSocketControl cfg {}).1, ¬ dial.Verified) :
    ∃ dial ∈ (run cfg [.dialControl withoutQUIC]).dials, ¬ dial.Verified := by
  obtain ⟨dial, member, unverified⟩ := dialled
  refine ⟨dial, ?_, unverified⟩
  obtain ⟨err, refused⟩ := dialQUICControl_refused cfg
  simp only [run, List.foldl_cons, List.foldl_nil, step, dialControl, quic, ne_eq, not_true, if_false]
  simp only [expireWebSocketFallback, Bool.false_eq_true, false_and, if_false, dialControlWith,
    refused]
  exact List.mem_append_right _ member

/-- A stream of QUIC cannot be opened, and the agent dials the data address of a remote server. -/
theorem data_unverified (quic : cfg.transport = "quic")
    (loopback : isLoopbackAddress cfg.quicAddress = true) (configured : cfg.dataAddress ≠ "")
    (dialled : ∃ dial ∈ (dialLegacyData cfg {}).1, ¬ dial.Verified) :
    ∃ dial ∈ (run cfg [.dialControl withQUIC,
      .openData .quic (some "too many open streams") false {}]).dials, ¬ dial.Verified := by
  obtain ⟨dial, member, unverified⟩ := dialled
  refine ⟨dial, ?_, unverified⟩
  have works := dialQUICControl_works loopback
  simp only [run, List.foldl_cons, List.foldl_nil, step, dialControl, quic, ne_eq, not_true, if_false]
  simp only [expireWebSocketFallback, Bool.false_eq_true, false_and, if_false, dialControlWith,
    works, disableWebSocketFallback, Dialer.dialled]
  rw [if_pos (by simp)]
  simp only [openData, configured, reduceCtorEq, Bool.false_eq_true, or_self, if_false]
  exact List.mem_append_right _ member

/-- **What an agent dials is verified exactly when its configuration has no remote server that the
validation did not look at.** -/
theorem verified_iff (accepted : cfg.validate = .ok ()) :
    (∀ events, ∀ dial ∈ (run cfg events).dials, dial.Verified) ↔ ¬ cfg.Unchecked := by
  constructor
  · rintro verified ⟨quic, skip, unpinned, secure, ways⟩
    have loopback : isLoopbackAddress cfg.quicAddress = true := by
      rcases validateTLSVerification_ok skip (ClientConfig.validate_ok accepted) with
        here | ⟨other, _⟩ | ⟨other, _⟩
      · exact here.2
      · exact absurd quic other
      · exact absurd quic other
    rcases ways with ⟨host, parsed, anonymous, remote⟩ | ⟨host, port, split, remote⟩
    · obtain ⟨dial, member, unverified⟩ := fallback_unverified quic
        (dialWebSocketControl_unverified skip unpinned secure parsed anonymous remote)
      exact unverified (verified _ dial member)
    · have configured : cfg.dataAddress ≠ "" := by
        intro empty
        rw [empty] at split
        cases split
      obtain ⟨dial, member, unverified⟩ := data_unverified quic loopback configured
        (dialLegacyData_unverified skip unpinned secure split remote)
      exact unverified (verified _ dial member)
  · intro checked events dial member
    rcases run_permitted events dial member with verified | compared | ⟨skip, unpinned, target⟩
    · exact Or.inr (Or.inl verified)
    · exact Or.inr (Or.inr compared)
    · exact Or.inl (isLoopbackHost_of_target accepted checked skip unpinned target)

end Dialer
end Dials

/-! ## An agent of its own machine -/

/-- An agent beside its server, which nevertheless knows the public address of the server. -/
def besideServer : ClientConfig where
  serverURL := "wss://nrynet.example.com:7000/agent/connect"
  dataAddress := "127.0.0.1:7001"
  transport := "quic"
  quicAddress := "127.0.0.1:7002"
  caFile := ""
  token := "agent.secret"
  deviceID := "device"
  insecureSkipVerify := true

/-- With nothing but loopback addresses every dial is verified, or stays on the machine. -/
theorem verified_loopback :
    let _ := CaseTable.ascii
    let _ := URLTable.plain
    let cfg := { besideServer with serverURL := "wss://localhost:7000/agent/connect" }
    cfg.validate = .ok () ∧ ∀ events, ∀ dial ∈ (Dialer.run cfg events).dials, dial.Verified := by
  intro _ _ cfg
  have accepted : cfg.validate = .ok () := by decide +kernel
  refine ⟨accepted, (Dialer.verified_iff accepted).mpr ?_⟩
  rintro ⟨-, -, -, -, ⟨host, parsed, -, remote⟩ | ⟨host, port, split, remote⟩⟩
  · have found : parseURL cfg.serverURL = some ("wss", "localhost") := by decide +kernel
    have here : isLoopbackHost "localhost" = true := by decide +kernel
    rw [found] at parsed
    obtain ⟨-, rfl⟩ := Prod.mk.inj (Option.some.inj parsed)
    rw [here] at remote
    cases remote
  · have here : isLoopbackAddress cfg.dataAddress = true := by decide +kernel
    rw [isLoopbackAddress_split split, remote] at here
    cases here

/-- The fallback dials a remote server without verification. -/
theorem fallback_not_verified :
    let _ := CaseTable.ascii
    let _ := URLTable.plain
    besideServer.validate = .ok () ∧
      ∃ dial ∈ (Dialer.run besideServer [.dialControl Dialer.withoutQUIC]).dials,
        ¬ dial.Verified := by
  decide +kernel

end NryNet.Agent

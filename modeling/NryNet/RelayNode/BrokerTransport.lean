import NryNet.RelayNode.Bindings

/-!
# The token of a relay node on the network (`relay/runtime/node.go`)

A relay node writes its token over every connection to the broker.  `New` refuses a configuration with a
broker that is neither on this machine nor reached over TLS.  But `forward` dials the address of the bind
request, and `handleBinding` does not look at it: without TLS in the configuration and in the request, the
token goes in plaintext to whatever address the request names.
-/

namespace NryNet.RelayNode

open GoText Agent

/-- Nobody on the network can read what is written over the connection. -/
def Connection.Secure : Connection → Prop
  | .tcp address => isLoopbackAddress address = true
  | .tls _ _ _ => True

/-- The connections for a request use TLS, or stay on this machine. -/
def Guarded (config : Config) (request : BindRequest) : Prop :=
  config.brokerTLS = true ∨ request.brokerTLS = true ∨ isLoopbackAddress request.brokerAddress = true

/-- What `dialBroker` returns: TCP when neither side asks for TLS. -/
theorem dialBroker_cases {config : Config} {request : BindRequest} {dialing : Dialing}
    {connection : Connection} (dialled : dialBroker config request dialing = .ok connection) :
    connection = .tcp request.brokerAddress ∧ request.brokerTLS = false ∧ config.brokerTLS = false ∨
      (∃ serverName caFile, connection = .tls request.brokerAddress serverName caFile) ∧
        (request.brokerTLS = true ∨ config.brokerTLS = true) := by
  unfold dialBroker at dialled
  split at dialled
  · rename_i neither
    simp only [Bool.and_eq_true, Bool.not_eq_true'] at neither
    split at dialled
    · cases dialled
    · exact Or.inl ⟨(Except.ok.inj dialled).symm, neither⟩
  · rename_i either
    have asked : request.brokerTLS = true ∨ config.brokerTLS = true := by
      cases asked : request.brokerTLS
      · cases configured : config.brokerTLS
        · rw [asked, configured] at either
          exact absurd rfl either
        · exact Or.inr rfl
      · exact Or.inl rfl
    simp only at dialled
    split at dialled
    · cases dialled
    split at dialled
    · cases dialled
    · exact Or.inr ⟨⟨_, _, (Except.ok.inj dialled).symm⟩, asked⟩

/-- When nothing is in the way there is a connection. -/
theorem dialBroker_ok (config : Config) (request : BindRequest) :
    ∃ connection, dialBroker config request ⟨none, none⟩ = .ok connection := by
  unfold dialBroker
  split
  · exact ⟨_, rfl⟩
  · simp only [ite_self]
    exact ⟨_, rfl⟩

/-- A connection is secure when the request is guarded. -/
theorem secure_dialBroker_iff {config : Config} {request : BindRequest} {dialing : Dialing}
    {connection : Connection} (dialled : dialBroker config request dialing = .ok connection) :
    connection.Secure ↔ Guarded config request := by
  unfold Guarded
  rcases dialBroker_cases dialled with ⟨rfl, asked, configured⟩ | ⟨⟨serverName, caFile, rfl⟩, either⟩
  · rw [asked, configured]
    simp only [Bool.false_eq_true, false_or]
    exact Iff.rfl
  · exact iff_of_true trivial (either.elim (fun asked => Or.inr (Or.inl asked)) Or.inl)

namespace Node

/-- What `forward` has done was done with the configuration of the node, and its token. -/
structure Dialled (n : Node) : Prop where
  dialled : ∀ sent ∈ n.forwarded, ∃ dialing, dialBroker n.config sent.request dialing = .ok sent.connection
  token : ∀ sent ∈ n.forwarded, sent.handshake.token = n.config.token

variable {n : Node}

/-- A control request does not touch the configuration, and opens no connection to the broker. -/
theorem authenticate_idle (n : Node) (r : ControlRequest) (refused : Option String) :
    (n.authenticate r refused).1.config = n.config ∧
      (n.authenticate r refused).1.forwarded = n.forwarded := by
  rcases n.authenticate_cases r refused with ⟨request, binds, -⟩ | ⟨tunnelID, -, answered⟩ | ⟨-, -, same⟩
  · rcases @authenticate_of_binds n request r refused binds with ⟨-, -, after⟩ | ⟨-, -, after⟩
    · rw [after]
      rcases n.bind_cases request refused with ⟨reason, -, bound⟩ | ⟨-, ⟨other, -, bound⟩ | ⟨-, bound⟩⟩
      all_goals
        rw [bound]
        exact ⟨rfl, rfl⟩
    · rw [after]
      exact ⟨rfl, rfl⟩
  · rw [answered]
    unfold unbind
    cases n.bindings.lookup tunnelID <;> exact ⟨rfl, rfl⟩
  · rw [same]
    exact ⟨rfl, rfl⟩

/-- A visitor of an open listener gets a connection to the broker, if there is one. -/
theorem accept_cases (n : Node) (listener : Listener) (visitorAddr : String) (dialing : Dialing) :
    n.accept listener visitorAddr dialing = n ∨
      ∃ connection, dialBroker n.config listener.request dialing = .ok connection ∧
        n.accept listener visitorAddr dialing =
          { n with
            forwarded := n.forwarded ++ [⟨listener.request, connection,
              ⟨"relay_visitor", n.config.token, n.config.id, listener.request.tunnelID, visitorAddr⟩⟩] } := by
  unfold accept forward
  split
  · cases dialled : dialBroker n.config listener.request dialing with
    | error reason => exact Or.inl rfl
    | ok connection => exact Or.inr ⟨connection, rfl, rfl⟩
  · exact Or.inl rfl

/-- What one event does to the configuration, and to the connections to the broker. -/
theorem perform_cases (n : Node) (event : Event) :
    (n.perform event).config = n.config ∧
      ((n.perform event).forwarded = n.forwarded ∨
        ∃ sent, (∃ dialing, dialBroker n.config sent.request dialing = .ok sent.connection) ∧
          sent.handshake.token = n.config.token ∧
          (n.perform event).forwarded = n.forwarded ++ [sent]) := by
  cases event with
  | control r refused => exact ⟨(n.authenticate_idle r refused).1, Or.inl (n.authenticate_idle r refused).2⟩
  | visitor listener visitorAddr dialing =>
      change (n.accept listener visitorAddr dialing).config = n.config ∧
        ((n.accept listener visitorAddr dialing).forwarded = n.forwarded ∨ ∃ sent, _ ∧ _ ∧
          (n.accept listener visitorAddr dialing).forwarded = n.forwarded ++ [sent])
      rcases n.accept_cases listener visitorAddr dialing with same | ⟨connection, dialled, more⟩
      · rw [same]
        exact ⟨rfl, Or.inl rfl⟩
      · rw [more]
        exact ⟨rfl, Or.inr ⟨_, ⟨dialing, dialled⟩, rfl, rfl⟩⟩
  | close => exact ⟨rfl, Or.inl rfl⟩

theorem dialled_perform (holds : n.Dialled) (event : Event) : (n.perform event).Dialled := by
  obtain ⟨config, same | ⟨sent, dialled, token, more⟩⟩ := n.perform_cases event
  · constructor <;> rw [same, config]
    · exact holds.dialled
    · exact holds.token
  · constructor <;> rw [more, config] <;> intro other member
    · rcases List.mem_append.mp member with old | new
      · exact holds.dialled other old
      · rw [List.mem_singleton.mp new]
        exact dialled
    · rcases List.mem_append.mp member with old | new
      · exact holds.token other old
      · rw [List.mem_singleton.mp new]
        exact token

theorem dialled_runAll (holds : n.Dialled) (events : List Event) :
    (n.runAll events).config = n.config ∧ (n.runAll events).Dialled :=
  List.foldlRecOn (motive := fun after => Node.config after = n.config ∧ Node.Dialled after) events perform
    ⟨rfl, holds⟩ fun after both event _ =>
      ⟨(after.perform_cases event).1.trans both.1, dialled_perform both.2 event⟩

/-- A request that a new node accepts, and a visitor. -/
theorem forwarded_first {config : Config} {request : BindRequest} (named : request.tunnelID ≠ "")
    (port : 1 ≤ request.remotePort ∧ request.remotePort ≤ 65535) {connection : Connection}
    {dialing : Dialing} (dialled : dialBroker config request dialing = .ok connection) :
    ∃ events, ∃ sent ∈ ((⟨config, ∅, [], [], []⟩ : Node).runAll events).forwarded,
      sent.request = request ∧ sent.connection = connection := by
  let r : ControlRequest := ⟨config.token, .post, "/bindings/" ++ request.tunnelID, some request⟩
  let n : Node := ⟨config, ∅, [], [], []⟩
  have binds : n.Binds r request := ⟨rfl, rfl, rfl, named, rfl, port.1⟩
  have free : n.Free request.remotePort none :=
    ⟨port.2, fun listener isOpen => absurd isOpen.1 List.not_mem_nil, rfl⟩
  have bound : (n.authenticate r none).1 = { n with
      opened := [⟨0, request⟩]
      bindings := n.bindings.insert request.tunnelID ⟨0, request⟩ } := by
    rcases @authenticate_of_binds n request r none binds with ⟨-, -, after⟩ | ⟨taken, -⟩
    · rw [after]
      rcases n.bind_cases request none with ⟨reason, listening, -⟩ | ⟨-, ⟨other, found, -⟩ | ⟨-, bound⟩⟩
      · rw [(n.listen_ok_iff request none).mpr free] at listening
        cases listening
      · rw [show n.bindings = ∅ from rfl, AList.lookup_empty] at found
        cases found
      · rw [bound]
        rfl
    · exact absurd free taken
  refine ⟨[.control r none, .visitor ⟨0, request⟩ "" dialing], ⟨request, connection,
    ⟨"relay_visitor", config.token, config.id, request.tunnelID, ""⟩⟩, ?_, rfl, rfl⟩
  change _ ∈ ((n.authenticate r none).1.accept ⟨0, request⟩ "" dialing).forwarded
  rw [bound]
  unfold accept
  rw [if_pos ⟨List.mem_singleton_self _, List.not_mem_nil⟩]
  unfold forward
  rw [dialled]
  exact List.mem_singleton_self _

end Node

/-- **The token is safe on the network** for the requests that are guarded, and for no others. -/
theorem forward_secure [CaseTable] [URLTable] {config : Config} {n : Node}
    (created : newNode config = .ok n) {request : BindRequest} (named : request.tunnelID ≠ "")
    (port : 1 ≤ request.remotePort ∧ request.remotePort ≤ 65535) :
    (∀ events, ∀ sent ∈ (n.runAll events).forwarded, sent.request = request →
        sent.handshake.token = config.token ∧ sent.connection.Secure) ↔ Guarded config request := by
  obtain ⟨new, token, secured, -⟩ := newNode_ok created
  have start : n.Dialled := by
    rw [new]
    exact ⟨List.forall_mem_nil _, List.forall_mem_nil _⟩
  have guarded_iff : Guarded n.config request ↔ Guarded config request := by
    unfold Guarded
    rw [secured]
  rw [← guarded_iff]
  constructor
  · intro safe
    obtain ⟨connection, dialled⟩ := dialBroker_ok n.config request
    obtain ⟨events, sent, member, same, opened⟩ := Node.forwarded_first named port dialled
    rw [← new] at member
    have secure := (safe events sent member same).2
    rw [opened] at secure
    exact (secure_dialBroker_iff dialled).mp secure
  · rintro guarded events sent member rfl
    obtain ⟨same, holds⟩ := Node.dialled_runAll start events
    obtain ⟨dialing, dialled⟩ := holds.dialled sent member
    rw [same] at dialled
    refine ⟨?_, (secure_dialBroker_iff dialled).mpr guarded⟩
    rw [holds.token sent member, same, token]

/-- A request of the server for the node beside it. -/
theorem forward_secure_local :
    Guarded localConfig (webRequest 8080) ∧
      ∀ events, ∀ sent ∈ (localNode.runAll events).forwarded, sent.request = webRequest 8080 →
        sent.handshake.token = "secret" ∧ sent.connection.Secure := by
  have guarded : Guarded localConfig (webRequest 8080) :=
    Or.inr (Or.inr (show isLoopbackAddress "127.0.0.1:7001" = true by decide +kernel))
  have secure := @forward_secure CaseTable.ascii URLTable.plain _ _ newNode_localConfig (webRequest 8080)
    (show "web" ≠ "" by decide) ⟨by decide, by decide⟩
  exact ⟨guarded, secure.mpr guarded⟩

/-- A configuration without TLS is accepted for a broker on this machine, and a bind request sends the token
to another one. -/
theorem forward_plaintext :
    let _ := CaseTable.ascii
    let _ := URLTable.plain
    ¬ ∀ (config : Config) (n : Node) (events : List Event), newNode config = .ok n →
      ∀ sent ∈ (n.runAll events).forwarded, sent.connection.Secure := by
  intro _ _ secure
  let request : BindRequest := ⟨"web", 8080, "203.0.113.5:7001", false, ""⟩
  have dialled : dialBroker localConfig request ⟨none, none⟩ = .ok (.tcp "203.0.113.5:7001") := rfl
  obtain ⟨events, sent, member, -, opened⟩ :=
    Node.forwarded_first (show request.tunnelID ≠ "" by decide) ⟨by decide, by decide⟩ dialled
  have safe := secure localConfig localNode events newNode_localConfig sent member
  rw [opened] at safe
  exact absurd safe (show ¬ isLoopbackAddress "203.0.113.5:7001" = true by decide +kernel)

end NryNet.RelayNode

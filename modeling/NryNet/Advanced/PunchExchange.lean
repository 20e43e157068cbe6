import NryNet.Advanced.P2PAuth
import NryNet.Advanced.PunchHandshake

/-!
# From the handshake to the exchange (`rendezvous_client.go`, `p2p_udp.go`)

Both peers run `PunchHandshake` and then exchange sealed datagrams over the same socket.  They do not
change over at the same moment: a peer that is done may send a datagram that the other one reads while
it is still in the loop of its handshake.  The loop takes it for a packet of the handshake, cannot
decode it, and throws it away.

## The model

The server is the left peer of the handshake and the agent the right one.  The handshake, the session and
the two networks are those of `PunchHandshake` and `P2PAuth`: a side takes part in the session when its
handshake has returned without an error, and a datagram that was written may come out of the network at
any time, as often as it likes, or never.  Where it comes out decides what happens to it: in the loop of
the handshake it is handed to `decodePacket`, otherwise to the session.  `discarded` remembers what the
handshakes have thrown away.
-/

namespace NryNet.Advanced

open ThreadPool ByteStream

/-! ## `decodePacket` -/

/-- The white space of JSON. -/
def isJSONSpace (byte : UInt8) : Bool :=
  byte ∈ utf8 " \t\r\n"

/-- The bytes with which a value of JSON begins. -/
def startsJSON (byte : UInt8) : Bool :=
  byte ∈ utf8 "\x7b[\"-0123456789tfn"

/-- `decodePacket`; what `json.Unmarshal` makes of the text of a value is a parameter. -/
def decodePacket (unmarshal : Bytes → Option RendezvousPacket) (data : Bytes) :
    Option RendezvousPacket :=
  match (data.dropWhile isJSONSpace).head? with
  | some byte => if startsJSON byte then unmarshal data else none
  | none => none

/-- The size of the buffer of `PunchHandshake`. -/
def punchBufferSize : ℕ := 1024

/-- A sealed datagram is no packet of the handshake, however much of it fits into the buffer. -/
theorem decodePacket_frame {unmarshal : Bytes → Option RendezvousPacket} {aead : P2P.AEAD}
    {key payload frame : Bytes} {direction : UInt8} {sequence : UInt64}
    (encoded : P2P.encodeP2PFrame aead key direction sequence payload = .ok frame) :
    decodePacket unmarshal (frame.take punchBufferSize) = none := by
  have starts : ∃ rest, frame = 78 :: rest := by
    rw [P2P.encodeP2PFrame_eq encoded]
    exact ⟨_, rfl⟩
  obtain ⟨rest, rfl⟩ := starts
  have space : isJSONSpace 78 = false := by decide +kernel
  have value : startsJSON 78 = false := by decide +kernel
  unfold decodePacket punchBufferSize
  rw [List.take_succ_cons, List.dropWhile_cons_of_neg (by rw [space]; exact Bool.false_ne_true)]
  simp only [List.head?_cons, value, Bool.false_eq_true, if_false]

/-! ## The two peers -/

/-- The peer of the handshake that a side of the session is. -/
def P2P.Side.peer : P2P.Side → Advanced.Party
  | .server => .left
  | .agent => .right

/-- The position of a side among the peers. -/
def P2P.Side.index : P2P.Side → ℕ
  | .server => 0
  | .agent => 1

/-- Both peers, and what they have sent each other. -/
structure PunchExchange where
  handshake : Config PunchNetwork PunchState
  channel : P2P.Channel
  /-- the datagrams of the session that a side has written -/
  written : P2P.Side → List Bytes
  /-- the datagrams of the session that a handshake has read and thrown away -/
  discarded : List (P2P.Side × Bytes)

/-- What the two peers depend on. -/
structure PunchSurroundings where
  session : P2P.Surroundings Unit
  unmarshal : Bytes → Option RendezvousPacket

/-- What can happen. -/
inductive ExchangeMove where
  /-- an action of a peer in its handshake -/
  | punch (side : P2P.Side) (choice : PunchChoice)
  /-- a side seals a payload, and `WriteTo` succeeds or fails -/
  | send (side : P2P.Side) (payload : Bytes) (written : Bool)
  /-- a datagram of the session comes out of the network -/
  | deliver (side : P2P.Side) (index : ℕ)
  /-- the session of a side ends -/
  | finish (side : P2P.Side)

namespace PunchExchange

/-- Both peers have called `PunchHandshake`. -/
def start (serverID agentID : String) : PunchExchange where
  handshake := punchStart serverID agentID
  channel := .opened
  written _ := []
  discarded := []

/-- Where a side stands in its handshake. -/
def point (e : PunchExchange) (side : P2P.Side) : Option PunchPoint :=
  (e.handshake.threads[side.index]?).map PunchState.point

/-- The handshake of the side has returned without an error. -/
def Connected (e : PunchExchange) (side : P2P.Side) : Prop :=
  e.point side = some (.returned none)

instance (e : PunchExchange) (side : P2P.Side) : Decidable (e.Connected side) :=
  inferInstanceAs (Decidable (_ = _))

/-- One step. -/
def step (env : PunchSurroundings) (e : PunchExchange) : ExchangeMove → Option PunchExchange
  | .punch side choice =>
      (punchHandshake.exec e.handshake (.run side.index choice)).map fun handshake =>
        { e with handshake := handshake }
  | .send side payload written =>
      if e.Connected side then
        (e.channel.step env.session (.send side payload written)).map fun channel =>
          { e with
            channel := channel
            written := fun other =>
              if other = side ∧ written then
                e.written other ++ ((channel.sealed.drop e.channel.sealed.length).map
                  P2P.Sealing.frame)
              else e.written other }
      else none
  | .deliver side index =>
      (e.written side.other)[index]?.bind fun datagram =>
        match e.point side with
        | some .receive =>
            match decodePacket env.unmarshal (datagram.take punchBufferSize) with
            | none =>
                (punchHandshake.exec e.handshake (.run side.index .ignored)).map fun handshake =>
                  { e with
                    handshake := handshake
                    discarded := e.discarded ++ [(side, datagram)] }
            | some packet =>
                some { e with
                  handshake :=
                    { e.handshake with
                      shared := e.handshake.shared.deliver side.peer packet
                      threads := e.handshake.threads.modify side.index fun peer =>
                        peer.see packet.type } }
        | some (.returned none) =>
            (e.channel.step env.session (.receive side () datagram)).map fun channel =>
              { e with channel := channel }
        | _ => none
  | .finish side =>
      if e.Connected side then
        (e.channel.step env.session (.finish side)).map fun channel => { e with channel := channel }
      else none

/-- The moves one after the other, as long as each one is possible. -/
def follow (env : PunchSurroundings) : PunchExchange → List ExchangeMove → Option PunchExchange
  | e, [] => some e
  | e, move :: rest => (e.step env move).bind fun e' => follow env e' rest

end PunchExchange

/-! ## What a peer has received, it has noticed

The converse of what `Honest` says: the flags of a peer are set as soon as it has read the packets, and
in the loop they are not all set. -/

/-- A peer has a flag for everything that it has received. -/
structure PunchState.Attentive (network : PunchNetwork) (peer : PunchState) : Prop where
  punch : network.Has peer.self .punch → peer.peerPunchSeen = true
  punchAck : network.Has peer.self .punchAck → peer.peerPunchAckSeen = true
  ready : network.Has peer.self .ready → peer.peerReadySeen = true
  readyAck : network.Has peer.self .readyAck → peer.peerReadyAckSeen = true
  looping : peer.point = .send ∨ peer.point = .receive → peer.complete = false

theorem PunchNetwork.has_deliver_iff {network : PunchNetwork} {party other : Party}
    {packet : RendezvousPacket} {type : PacketType} :
    (network.deliver party packet).Has other type ↔
      network.Has other type ∨ other = party ∧ packet.type = type := by
  constructor
  · rintro ⟨earlier, member, same⟩
    rcases PunchNetwork.mem_record.mp member with old | ⟨rfl, rfl⟩
    · exact Or.inl ⟨earlier, old, same⟩
    · exact Or.inr ⟨rfl, same⟩
  · rintro (has | ⟨rfl, rfl⟩)
    · exact has.deliver
    · exact PunchNetwork.has_deliver

namespace PunchState.Attentive

variable {network network' : PunchNetwork} {peer peer' other : PunchState} {choice : PunchChoice}
variable {spawned : List PunchState}

/-- The peer goes on to a point outside of the head of the loop. -/
theorem move (attentive : peer.Attentive network) {point : PunchPoint}
    (incomplete : point = .send ∨ point = .receive → peer.complete = false) :
    PunchState.Attentive network { peer with point := point } :=
  { attentive with looping := incomplete }

/-- What is sent is not received yet. -/
theorem write (attentive : peer.Attentive network) (party : Party) (packet : RendezvousPacket) :
    peer.Attentive (network.write party packet) :=
  ⟨attentive.punch, attentive.punchAck, attentive.ready, attentive.readyAck, attentive.looping⟩

/-- A peer notices what it has just received. -/
theorem see (attentive : peer.Attentive network) (packet : RendezvousPacket) :
    (peer.see packet.type).Attentive (network.deliver peer.self packet) := by
  have self : (peer.see packet.type).self = peer.self := by
    unfold PunchState.see
    split <;> rfl
  have outside : ¬((peer.see packet.type).point = .send ∨ (peer.see packet.type).point = .receive) := by
    unfold PunchState.see
    split <;> simp
  have seen (type : PacketType) (flag : PunchState → Bool)
      (old : network.Has peer.self type → flag peer = true)
      (kept : flag peer = true → flag (peer.see packet.type) = true)
      (new : packet.type = type → flag (peer.see packet.type) = true) :
      (network.deliver peer.self packet).Has (peer.see packet.type).self type →
        flag (peer.see packet.type) = true := by
    intro has
    rw [self] at has
    rcases PunchNetwork.has_deliver_iff.mp has with before | ⟨-, same⟩
    · exact kept (old before)
    · exact new same
  refine ⟨seen .punch (·.peerPunchSeen) attentive.punch ?_ ?_,
    seen .punchAck (·.peerPunchAckSeen) attentive.punchAck ?_ ?_,
    seen .ready (·.peerReadySeen) attentive.ready ?_ ?_,
    seen .readyAck (·.peerReadyAckSeen) attentive.readyAck ?_ ?_,
    fun impossible => absurd impossible outside⟩
  all_goals first
    | exact fun same => by rw [same]; rfl
    | intro before
      unfold PunchState.see
      split <;> first | exact before | rfl

/-- One action keeps the peer that takes it attentive. -/
theorem step (attentive : peer.Attentive network)
    (stepped : peer.step network choice = some (network', peer', spawned)) :
    peer'.Attentive network' ∧ peer'.self = peer.self := by
  unfold PunchState.step at stepped
  split at stepped
  · cases stepped
    exact ⟨attentive.move (by simp), rfl⟩
  · cases stepped
    exact ⟨attentive.move (by simp), rfl⟩
  · rename_i point
    cases stepped
    exact ⟨(attentive.write _ _).move fun _ => attentive.looping (Or.inl point), rfl⟩
  · rename_i point
    cases stepped
    exact ⟨attentive.move fun _ => attentive.looping (Or.inr point), rfl⟩
  · rename_i point
    cases stepped
    exact ⟨attentive.move fun _ => attentive.looping (Or.inr point), rfl⟩
  · cases stepped
    exact ⟨attentive.move (by simp), rfl⟩
  · obtain ⟨packet, -, built⟩ := Option.map_eq_some_iff.mp stepped
    cases built
    refine ⟨attentive.see packet, ?_⟩
    unfold PunchState.see
    split <;> rfl
  · cases stepped
    exact ⟨attentive.move (by simp), rfl⟩
  · cases stepped
    exact ⟨(attentive.write _ _).move (by simp), rfl⟩
  · cases stepped
    refine ⟨attentive.move fun head => ?_, rfl⟩
    by_cases complete : peer.complete = true
    · rw [if_pos complete] at head
      simp at head
    · simpa using complete
  · cases stepped

/-- What one peer does is not received by itself, so the other one stays attentive. -/
theorem of_other (attentive : other.Attentive network) (different : other.self ≠ peer.self)
    (stepped : peer.step network choice = some (network', peer', spawned)) :
    other.Attentive network' := by
  have kept (type : PacketType) : network'.Has other.self type → network.Has other.self type := by
    unfold PunchState.step at stepped
    split at stepped
    case h_7 =>
      obtain ⟨packet, -, built⟩ := Option.map_eq_some_iff.mp stepped
      cases built
      intro has
      rcases PunchNetwork.has_deliver_iff.mp has with before | ⟨same, -⟩
      · exact before
      · exact absurd same different
    all_goals
      cases stepped
      try exact fun has => has
  exact
    { attentive with
      punch := fun has => attentive.punch (kept _ has)
      punchAck := fun has => attentive.punchAck (kept _ has)
      ready := fun has => attentive.ready (kept _ has)
      readyAck := fun has => attentive.readyAck (kept _ has) }

end PunchState.Attentive

theorem PunchState.spawned_eq_nil {network network' : PunchNetwork} {peer peer' : PunchState}
    {choice : PunchChoice} {spawned : List PunchState}
    (stepped : peer.step network choice = some (network', peer', spawned)) : spawned = [] := by
  unfold PunchState.step at stepped
  split at stepped
  case h_7 =>
    obtain ⟨packet, -, built⟩ := Option.map_eq_some_iff.mp stepped
    cases built
    rfl
  all_goals
    cases stepped
    try rfl

/-- There are two peers, and both are attentive. -/
structure Attending (config : Config PunchNetwork PunchState) (server agent : PunchState) : Prop where
  threads : config.threads = [server, agent]
  server_self : server.self = .left
  agent_self : agent.self = .right
  server_attentive : server.Attentive config.shared
  agent_attentive : agent.Attentive config.shared

theorem attending_of_reachable {serverID agentID : String} {config : Config PunchNetwork PunchState}
    (reached : punchHandshake.Reachable (punchStart serverID agentID) config) :
    ∃ server agent, Attending config server agent := by
  refine Machine.Run.reachable_invariant reached
    (fun config => ∃ server agent, Attending config server agent) ?_ ?_ ?_
  · have fresh (party : Party) (name : String) :
        (PunchState.start party name).Attentive ⟨fun _ => [], fun _ => []⟩ := by
      have nothing (type : PacketType) :
          ¬(⟨fun _ => [], fun _ => []⟩ : PunchNetwork).Has party type :=
        fun ⟨_, member, _⟩ => nomatch member
      exact ⟨fun has => absurd has (nothing _), fun has => absurd has (nothing _),
        fun has => absurd has (nothing _), fun has => absurd has (nothing _), fun _ => rfl⟩
    exact ⟨_, _, rfl, rfl, rfl, fresh _ _, fresh _ _⟩
  · intro _ _ _ impossible
    cases impossible
  · rintro config index choice peer network' peer' spawned ⟨server, agent, attending⟩ present stepped
    obtain rfl := PunchState.spawned_eq_nil stepped
    rw [attending.threads] at present
    match index, present with
    | 0, present =>
        have same : server = peer := Option.some.inj present
        subst same
        obtain ⟨attentive, self⟩ := attending.server_attentive.step stepped
        have other : agent.self ≠ server.self := by
          rw [attending.server_self, attending.agent_self]
          decide
        refine ⟨peer', agent, ?_, self.trans attending.server_self, attending.agent_self, attentive,
          attending.agent_attentive.of_other other stepped⟩
        rw [attending.threads]
        rfl
    | 1, present =>
        have same : agent = peer := Option.some.inj present
        subst same
        obtain ⟨attentive, self⟩ := attending.agent_attentive.step stepped
        have other : server.self ≠ agent.self := by
          rw [attending.server_self, attending.agent_self]
          decide
        refine ⟨server, peer', ?_, attending.server_self, self.trans attending.agent_self,
          attending.server_attentive.of_other other stepped, attentive⟩
        rw [attending.threads]
        rfl
    | _ + 2, present => cases present

/-! ## Application data behind the ready acknowledgement -/

variable {serverID agentID : String}

/-- A peer that has received all four kinds of packets is not at the head of its loop. -/
theorem PunchState.Attentive.not_receive {network : PunchNetwork} {peer : PunchState}
    (attentive : peer.Attentive network)
    (all : ∀ type ∈ [PacketType.punch, .punchAck, .ready, .readyAck], network.Has peer.self type) :
    peer.point ≠ .receive := by
  intro point
  have complete : peer.complete = true := by
    unfold PunchState.complete
    rw [attentive.punch (all _ (by simp)), attentive.punchAck (all _ (by simp)),
      attentive.ready (all _ (by simp)), attentive.readyAck (all _ (by simp))]
    rfl
  rw [attentive.looping (Or.inr point)] at complete
  cases complete

/-- The other peer has returned without an error, and this one has received a `ready_ack`: it does not
read any more. -/
theorem not_receive_of_connected {config : Config PunchNetwork PunchState}
    (reached : punchHandshake.Reachable (punchStart serverID agentID) config) {side : P2P.Side}
    (connected : (config.threads[side.other.index]?).map PunchState.point = some (.returned none))
    (readyAck : config.shared.Has side.peer .readyAck) :
    (config.threads[side.index]?).map PunchState.point ≠ some .receive := by
  obtain ⟨server, agent, attending⟩ := attending_of_reachable reached
  have agreed {peer : PunchState} (member : peer ∈ config.threads)
      (returned : peer.point = .returned none) (other : peer.self.other = side.peer) :
      ∀ type ∈ [PacketType.punch, .punchAck, .ready, .readyAck], config.shared.Has side.peer type := by
    have agrees := punch_handshake_agrees reached member returned
    rw [other] at agrees
    intro type kind
    rw [show [PacketType.punch, .punchAck, .ready, .readyAck] =
      [PacketType.punch, .punchAck, .ready] ++ [.readyAck] from rfl, List.mem_append,
      List.mem_singleton] at kind
    rcases kind with early | rfl
    · obtain ⟨packet, received, same, -⟩ := agrees type early
      exact ⟨packet, received, same⟩
    · exact readyAck
  rw [attending.threads] at connected ⊢
  cases side with
  | server =>
      have returned : agent.point = .returned none := Option.some.inj connected
      have all := agreed (by rw [attending.threads]; simp) returned (by rw [attending.agent_self]; rfl)
      rw [show P2P.Side.server.peer = server.self from attending.server_self.symm] at all
      exact fun point => attending.server_attentive.not_receive all (Option.some.inj point)
  | agent =>
      have returned : server.point = .returned none := Option.some.inj connected
      have all := agreed (by rw [attending.threads]; simp) returned (by rw [attending.server_self]; rfl)
      rw [show P2P.Side.agent.peer = agent.self from attending.agent_self.symm] at all
      exact fun point => attending.agent_attentive.not_receive all (Option.some.inj point)

namespace PunchExchange

variable {env : PunchSurroundings} {e e' : PunchExchange}

/-- A datagram of the session comes out of the network at a peer that has received a `ready_ack`. -/
def AfterReadyAck (e : PunchExchange) : ExchangeMove → Prop
  | .deliver side _ => e.handshake.shared.Has side.peer .readyAck
  | _ => True

/-- No datagram of the session comes out of the network too early. -/
def InOrder (env : PunchSurroundings) : PunchExchange → List ExchangeMove → Prop
  | _, [] => True
  | e, move :: rest => e.AfterReadyAck move ∧ ∀ e', e.step env move = some e' → InOrder env e' rest

/-- What holds along the runs: the handshake is one of `PunchHandshake`, and what was written is sealed
and was written by a side that is connected. -/
structure Sound (env : PunchSurroundings) (serverID agentID : String) (e : PunchExchange) :
    Prop where
  reached : punchHandshake.Reachable (punchStart serverID agentID) e.handshake
  connected : ∀ side, e.written side ≠ [] → e.Connected side
  frames : ∀ side, ∀ frame ∈ e.written side, ∃ direction sequence payload,
    P2P.encodeP2PFrame env.session.aead env.session.key direction sequence payload = .ok frame

/-- A handshake that has returned does not move any more. -/
theorem connected_punch {config next : Config PunchNetwork PunchState} {side other : P2P.Side}
    {choice : PunchChoice} (moved : punchHandshake.exec config (.run side.index choice) = some next)
    (connected : (config.threads[other.index]?).map PunchState.point = some (.returned none)) :
    (next.threads[other.index]?).map PunchState.point = some (.returned none) := by
  obtain ⟨peer, network', peer', spawned, present, stepped, rfl⟩ := Machine.exec_run moved
  obtain rfl := PunchState.spawned_eq_nil stepped
  rw [List.append_nil]
  by_cases same : side.index = other.index
  · -- it is the peer that was to move
    rw [← same, present] at connected
    have returned : peer.point = .returned none := Option.some.inj connected
    change PunchState.step config.shared peer choice = _ at stepped
    unfold PunchState.step at stepped
    rw [returned] at stepped
    cases choice <;> cases stepped
  · rw [List.getElem?_set_ne same]
    exact connected

/-- What a side has written after `send`. -/
theorem mem_written {channel : P2P.Channel} {side : P2P.Side} {payload frame : Bytes} {written : Bool}
    (stepped : e.channel.step env.session (.send side payload written) = some channel)
    (member : frame ∈ (channel.sealed.drop e.channel.sealed.length).map P2P.Sealing.frame) :
    ∃ sequence, P2P.encodeP2PFrame env.session.aead env.session.key side.direction sequence payload =
      .ok frame := by
  cases P2P.Channel.change_of_step stepped with
  | «sealed» ready encoded =>
      rw [List.drop_left, List.map_singleton, List.mem_singleton] at member
      rw [member]
      exact ⟨_, encoded⟩
  | closed other sent =>
      have same : ((e.channel.set other
          { e.channel.party other with sent := sent, phase := .closed }).sealed.drop
            e.channel.sealed.length) = [] := List.drop_length
      rw [same] at member
      cases member

/-- A side that is connected has received a `ready_ack`. -/
theorem readyAck_of_connected {config : Config PunchNetwork PunchState}
    (reached : punchHandshake.Reachable (punchStart serverID agentID) config) {side : P2P.Side}
    (connected : (config.threads[side.index]?).map PunchState.point = some (.returned none)) :
    config.shared.Has side.peer .readyAck := by
  obtain ⟨server, agent, attending⟩ := attending_of_reachable reached
  have honest := (honest_of_reachable reached).2
  have received {peer : PunchState} (member : peer ∈ config.threads)
      (returned : peer.point = .returned none) : config.shared.Has peer.self .readyAck := by
    have complete := (honest peer member).returned returned
    unfold PunchState.complete at complete
    rw [Bool.and_eq_true] at complete
    exact (honest peer member).readyAck complete.2
  rw [attending.threads] at connected
  cases side with
  | server =>
      have has := received (by rw [attending.threads]; simp) (Option.some.inj connected)
      rw [attending.server_self] at has
      exact has
  | agent =>
      have has := received (by rw [attending.threads]; simp) (Option.some.inj connected)
      rw [attending.agent_self] at has
      exact has

/-- What a step does to the datagrams that were thrown away: nothing when the datagram came late
enough, and otherwise there is one more. -/
theorem sound_step (sound : Sound env serverID agentID e) {move : ExchangeMove}
    (moved : e.step env move = some e') :
    Sound env serverID agentID e' ∧
      ((e.AfterReadyAck move ∧ e'.discarded = e.discarded) ∨
        (¬e.AfterReadyAck move ∧ ∃ entry, e'.discarded = e.discarded ++ [entry])) := by
  cases move with
  | punch side choice =>
      obtain ⟨handshake, acted, rfl⟩ := Option.map_eq_some_iff.mp moved
      refine ⟨?_, Or.inl ⟨trivial, rfl⟩⟩
      exact
        { sound with
          reached := .step sound.reached trivial acted
          connected := fun other some' => connected_punch acted (sound.connected other some') }
  | send side payload written =>
      simp only [step] at moved
      split at moved
      · rename_i ready
        obtain ⟨channel, sent, rfl⟩ := Option.map_eq_some_iff.mp moved
        refine ⟨⟨sound.reached, fun other some' => ?_, fun other frame member => ?_⟩,
          Or.inl ⟨trivial, rfl⟩⟩
        · by_cases mine : other = side ∧ written = true
          · exact mine.1 ▸ ready
          · simp only [if_neg mine] at some'
            exact sound.connected other some'
        · simp only at member
          split at member
          · rcases List.mem_append.mp member with old | new
            · exact sound.frames other frame old
            · obtain ⟨sequence, encoded⟩ := mem_written sent new
              exact ⟨_, sequence, payload, encoded⟩
          · exact sound.frames other frame member
      · cases moved
  | deliver side index =>
      obtain ⟨datagram, found, moved⟩ := Option.bind_eq_some_iff.mp moved
      have member := List.mem_of_getElem? found
      split at moved
      · -- the loop of the handshake takes it for a packet
        rename_i point
        obtain ⟨direction, sequence, payload, encoded⟩ := sound.frames _ datagram member
        rw [decodePacket_frame encoded] at moved
        obtain ⟨handshake, acted, rfl⟩ := Option.map_eq_some_iff.mp moved
        have early : ¬e.AfterReadyAck (.deliver side index) := fun readyAck =>
          not_receive_of_connected sound.reached
            (sound.connected side.other (List.ne_nil_of_mem member)) readyAck point
        refine ⟨?_, Or.inr ⟨early, _, rfl⟩⟩
        exact
          { sound with
            reached := .step sound.reached trivial acted
            connected := fun other some' => connected_punch acted (sound.connected other some') }
      · rename_i point
        obtain ⟨channel, -, rfl⟩ := Option.map_eq_some_iff.mp moved
        exact ⟨{ sound with }, Or.inl ⟨readyAck_of_connected sound.reached point, rfl⟩⟩
      · cases moved
  | finish side =>
      simp only [step] at moved
      split at moved
      · obtain ⟨channel, -, rfl⟩ := Option.map_eq_some_iff.mp moved
        exact ⟨{ sound with }, Or.inl ⟨trivial, rfl⟩⟩
      · cases moved

/-- What was thrown away stays thrown away. -/
theorem discarded_grows {moves : List ExchangeMove} (sound : Sound env serverID agentID e)
    (followed : follow env e moves = some e') : e.discarded <+: e'.discarded := by
  induction moves generalizing e with
  | nil =>
      cases followed
      exact List.prefix_rfl
  | cons move rest hypothesis =>
      obtain ⟨next, moved, later⟩ := Option.bind_eq_some_iff.mp followed
      obtain ⟨sound', ⟨-, same⟩ | ⟨-, entry, more⟩⟩ := sound_step sound moved
      · exact same ▸ hypothesis sound' later
      · exact (List.prefix_append _ _).trans (more ▸ hypothesis sound' later)

/-- The rest of a run, from a state in which nothing was thrown away. -/
theorem discarded_eq_nil_iff_of_sound {moves : List ExchangeMove}
    (sound : Sound env serverID agentID e) (nothing : e.discarded = [])
    (followed : follow env e moves = some e') : e'.discarded = [] ↔ InOrder env e moves := by
  induction moves generalizing e with
  | nil =>
      cases followed
      exact ⟨fun _ => trivial, fun _ => nothing⟩
  | cons move rest hypothesis =>
      obtain ⟨next, moved, later⟩ := Option.bind_eq_some_iff.mp followed
      obtain ⟨sound', ⟨late, same⟩ | ⟨early, entry, more⟩⟩ := sound_step sound moved
      · rw [hypothesis sound' (same.trans nothing) later]
        constructor
        · intro ordered
          refine ⟨late, fun other equal => ?_⟩
          rw [← Option.some.inj (moved.symm.trans equal)]
          exact ordered
        · exact fun ordered => ordered.2 next moved
      · -- one was thrown away, and it will be missing at the end
        refine ⟨fun none => ?_, fun ordered => absurd ordered.1 early⟩
        have grown := discarded_grows sound' later
        rw [none, more, List.prefix_nil] at grown
        exact absurd grown (List.append_ne_nil_of_right_ne_nil _ (List.cons_ne_nil _ _))

/-- **When the ready acknowledgement protects application data.**  Along every sequence of moves, no
handshake throws a datagram of the session away exactly when each of them comes out of the network at a
peer only after a `ready_ack` has. -/
theorem discarded_eq_nil_iff {moves : List ExchangeMove}
    (followed : follow env (start serverID agentID) moves = some e) :
    e.discarded = [] ↔ InOrder env (start serverID agentID) moves :=
  discarded_eq_nil_iff_of_sound
    ⟨.refl, fun _ some' => absurd rfl some', fun _ _ member => (nomatch member)⟩ rfl followed

/-- A session over AES-GCM; the packets of the handshake are in JSON, and those of the session are not. -/
def sampleExchange : PunchSurroundings where
  session := P2P.Channel.sampleSession
  unmarshal _ := none

/-- The two handshakes up to the point where the server's has returned and the agent's has not. -/
def serverFirst : List ExchangeMove :=
  let server := ExchangeMove.punch .server
  let agent := ExchangeMove.punch .agent
  [server .go, agent .go, agent (.datagram 0), agent .go, agent .go,
    server (.datagram 0), server .go, server .go, server .go, server (.datagram 1), server .go,
    server .go, agent .go, agent (.datagram 1), agent .go, agent .go, agent (.datagram 3),
    agent .go, agent .go, server (.datagram 3), server .go, server .go, server .go,
    server (.datagram 4), server .go]

/-- The server's first datagram overtakes its `ready_ack`, and the agent's handshake throws it away. -/
theorem first_datagram_discarded :
    ∃ e, follow sampleExchange (start "server" "agent")
        (serverFirst ++ [.send .server (utf8 "ping") true, .punch .agent .go, .deliver .agent 0]) =
          some e ∧
      e.Connected .server ∧ e.discarded = [(.agent, P2P.Channel.pingHeader ++ P2P.Channel.pingText)] := by
  have replayed : (follow sampleExchange (start "server" "agent")
      (serverFirst ++ [.send .server (utf8 "ping") true, .punch .agent .go, .deliver .agent 0])).any
        (fun e => e.Connected .server ∧
          e.discarded = [(.agent, P2P.Channel.pingHeader ++ P2P.Channel.pingText)]) = true := by
    decide +kernel
  obtain ⟨e, followed, holds⟩ := (Option.any_eq_true _ _).mp replayed
  exact ⟨e, followed, of_decide_eq_true holds⟩

/-- The same with the `ready_ack` in front. -/
theorem discarded_eq_nil_ping :
    ∃ e, follow sampleExchange (start "server" "agent")
        (serverFirst ++ [.send .server (utf8 "ping") true, .punch .agent .go,
          .punch .agent (.datagram 4), .punch .agent .go, .deliver .agent 0]) = some e ∧
      e.discarded = [] ∧
      InOrder sampleExchange (start "server" "agent")
        (serverFirst ++ [.send .server (utf8 "ping") true, .punch .agent .go,
          .punch .agent (.datagram 4), .punch .agent .go, .deliver .agent 0]) := by
  have replayed : (follow sampleExchange (start "server" "agent")
      (serverFirst ++ [.send .server (utf8 "ping") true, .punch .agent .go,
        .punch .agent (.datagram 4), .punch .agent .go, .deliver .agent 0])).any
        (fun e => e.discarded = []) = true := by
    decide +kernel
  obtain ⟨e, followed, holds⟩ := (Option.any_eq_true _ _).mp replayed
  have none := of_decide_eq_true holds
  exact ⟨e, followed, none, (discarded_eq_nil_iff followed).mp none⟩

end PunchExchange

end NryNet.Advanced

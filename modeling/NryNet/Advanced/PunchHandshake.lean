import NryNet.Advanced.RendezvousServer
import NryNet.Lib.ThreadPool

/-!
# The punch handshake (`internal/advanced/rendezvous_client.go`)

Before two peers use a direct path they make sure that both of them can: `PunchHandshake` sends
`punch` packets until it has seen a `punch` and a `punch_ack`, then `ready` packets, answers every
`punch` and every `ready` with its acknowledgement, and returns once it has seen all four kinds.

The network between the two loses, duplicates, delays and reorders datagrams, but it does not forge
their source.  So it is the list of everything that either peer has ever sent to the other: a read
returns any datagram of that list, at any time and as often as it likes, and a datagram that is lost
is one that is never read.  A datagram from another source is ignored, and so is one that cannot be
decoded, for instance because it did not fit into the buffer.

What a peer has received is remembered for the sake of the theorem: when one of them returns without
an error, the other one has received a `punch`, a `punch_ack` and a `ready` of it.
-/

namespace NryNet.Advanced

open ThreadPool

/-- The two peers. -/
inductive Party where
  | left
  | right
  deriving DecidableEq, Repr

/-- The other peer. -/
def Party.other : Party → Party
  | .left => .right
  | .right => .left

@[simp] theorem Party.other_other (party : Party) : party.other.other = party := by
  cases party <;> rfl

/-- Why `PunchHandshake` fails. -/
inductive PunchError where
  | context
  | write
  | read
  deriving DecidableEq, Repr

/-- Where a peer stands in its loop. -/
inductive PunchPoint where
  /-- before the test of the context, and the write that follows it -/
  | send
  /-- before `ReadFrom` -/
  | receive
  /-- before the acknowledgement is written -/
  | acknowledge (type : PacketType)
  /-- before the four flags are tested -/
  | check
  | returned (err : Option PunchError)
  deriving DecidableEq, Repr

/-- The local variables of `PunchHandshake`. -/
structure PunchState where
  self : Party
  selfID : String
  point : PunchPoint
  peerPunchSeen : Bool
  peerPunchAckSeen : Bool
  peerReadySeen : Bool
  peerReadyAckSeen : Bool
  deriving DecidableEq, Repr

/-- The datagrams that the peers have sent each other, and those they have read. -/
structure PunchNetwork where
  sent : Party → List RendezvousPacket
  /-- what a peer has read and decoded of the other one -/
  received : Party → List RendezvousPacket

/-- What the environment decides. -/
inductive PunchChoice where
  | go
  /-- the context is done -/
  | cancelled
  /-- a write or a read fails -/
  | fail
  /-- the read deadline passes -/
  | timeout
  /-- a datagram of somebody else, or one that cannot be decoded -/
  | ignored
  /-- one of the datagrams of the other peer -/
  | datagram (index : ℕ)
  deriving DecidableEq, Repr

/-- A packet of a peer that carries nothing but its type and its name. -/
def plainPacket (type : PacketType) (peerID : String) : RendezvousPacket :=
  ⟨type, "", peerID, "", ⟨"", 0⟩, false⟩

namespace PunchNetwork

/-- One more packet in the list of a peer. -/
def record (log : Party → List RendezvousPacket) (party : Party) (packet : RendezvousPacket) :
    Party → List RendezvousPacket :=
  fun other => if other = party then log other ++ [packet] else log other

/-- `writePacket` to the other peer. -/
def write (network : PunchNetwork) (party : Party) (packet : RendezvousPacket) : PunchNetwork :=
  { network with sent := record network.sent party packet }

/-- `ReadFrom` returns a packet of the other peer. -/
def deliver (network : PunchNetwork) (party : Party) (packet : RendezvousPacket) : PunchNetwork :=
  { network with received := record network.received party packet }

end PunchNetwork

namespace PunchState

/-- `PunchHandshake` has been called. -/
def start (self : Party) (selfID : String) : PunchState :=
  ⟨self, selfID, .send, false, false, false, false⟩

/-- The packet at the head of the loop. -/
def packet (peer : PunchState) : RendezvousPacket :=
  if peer.peerPunchSeen && peer.peerPunchAckSeen then plainPacket .ready peer.selfID
  else plainPacket .punch peer.selfID

/-- The `switch` on the type of the packet that was read, up to the acknowledgement. -/
def see (peer : PunchState) (type : PacketType) : PunchState :=
  match type with
  | .punch => { peer with peerPunchSeen := true, point := .acknowledge .punchAck }
  | .punchAck => { peer with peerPunchAckSeen := true, point := .check }
  | .ready => { peer with peerReadySeen := true, point := .acknowledge .readyAck }
  | .readyAck => { peer with peerReadyAckSeen := true, point := .check }
  | _ => { peer with point := .check }

/-- All four flags are set. -/
def complete (peer : PunchState) : Bool :=
  peer.peerPunchSeen && peer.peerPunchAckSeen && peer.peerReadySeen && peer.peerReadyAckSeen

/-- One action of a peer. -/
def step (network : PunchNetwork) (peer : PunchState) (choice : PunchChoice) :
    Option (PunchNetwork × PunchState × List PunchState) :=
  match peer.point, choice with
  | .send, .cancelled => some (network, { peer with point := .returned (some .context) }, [])
  | .send, .fail => some (network, { peer with point := .returned (some .write) }, [])
  | .send, .go =>
      some (network.write peer.self peer.packet, { peer with point := .receive }, [])
  | .receive, .timeout => some (network, { peer with point := .send }, [])
  | .receive, .ignored => some (network, { peer with point := .send }, [])
  | .receive, .fail => some (network, { peer with point := .returned (some .read) }, [])
  | .receive, .datagram index =>
      ((network.sent peer.self.other)[index]?).map fun packet =>
        (network.deliver peer.self packet, peer.see packet.type, [])
  | .acknowledge _, .fail => some (network, { peer with point := .returned (some .write) }, [])
  | .acknowledge type, .go =>
      some (network.write peer.self (plainPacket type peer.selfID), { peer with point := .check }, [])
  | .check, .go =>
      some (network, { peer with point := if peer.complete then .returned none else .send }, [])
  | _, _ => none

end PunchState

/-- The two peers and the network between them; nobody else joins. -/
def punchHandshake : Machine PunchNetwork PunchState PunchChoice where
  entry _ := false
  step := PunchState.step

/-- Both peers have called `PunchHandshake`, and nothing has been sent. -/
def punchStart (leftID rightID : String) : Config PunchNetwork PunchState where
  shared := ⟨fun _ => [], fun _ => []⟩
  threads := [.start .left leftID, .start .right rightID]

/-! ## The invariant

A flag stands for a packet that was received, a packet that was received was sent, and the packets of
the second phase say something about what their sender had received when it sent them. -/

namespace PunchNetwork

/-- The peer has received a packet of a type. -/
def Has (network : PunchNetwork) (party : Party) (type : PacketType) : Prop :=
  ∃ packet ∈ network.received party, packet.type = type

/-- What the packets in the network say about their senders. -/
structure Honest (network : PunchNetwork) : Prop where
  received : ∀ party, ∀ packet ∈ network.received party, packet ∈ network.sent party.other
  ready : ∀ party, ∀ packet ∈ network.sent party, packet.type = .ready →
    network.Has party .punch ∧ network.Has party .punchAck
  readyAck : ∀ party, ∀ packet ∈ network.sent party, packet.type = .readyAck →
    network.Has party .ready

variable {network : PunchNetwork} {party other : Party} {packet : RendezvousPacket}
variable {type : PacketType}

theorem mem_record {log : Party → List RendezvousPacket} {earlier : RendezvousPacket} :
    earlier ∈ record log party packet other ↔
      earlier ∈ log other ∨ other = party ∧ earlier = packet := by
  unfold record
  split
  · rename_i same
    simp [same]
  · rename_i different
    simp [different]

theorem Has.deliver (has : network.Has other type) : (network.deliver party packet).Has other type := by
  obtain ⟨earlier, member, same⟩ := has
  exact ⟨earlier, mem_record.mpr (Or.inl member), same⟩

theorem has_deliver : (network.deliver party packet).Has party packet.type :=
  ⟨packet, mem_record.mpr (Or.inr ⟨rfl, rfl⟩), rfl⟩

/-- A packet that is sent with a good reason. -/
theorem Honest.write (honest : network.Honest)
    (ready : packet.type = .ready → network.Has party .punch ∧ network.Has party .punchAck)
    (readyAck : packet.type = .readyAck → network.Has party .ready) :
    (network.write party packet).Honest where
  received other earlier member := mem_record.mpr (Or.inl (honest.received other earlier member))
  ready other earlier member same := by
    rcases mem_record.mp member with old | ⟨rfl, rfl⟩
    · exact honest.ready other earlier old same
    · exact ready same
  readyAck other earlier member same := by
    rcases mem_record.mp member with old | ⟨rfl, rfl⟩
    · exact honest.readyAck other earlier old same
    · exact readyAck same

theorem Honest.deliver (honest : network.Honest) (sent : packet ∈ network.sent party.other) :
    (network.deliver party packet).Honest where
  received other earlier member := by
    rcases mem_record.mp member with old | ⟨rfl, rfl⟩
    · exact honest.received other earlier old
    · exact sent
  ready other earlier member same := by
    obtain ⟨punch, punchAck⟩ := honest.ready other earlier member same
    exact ⟨punch.deliver, punchAck.deliver⟩
  readyAck other earlier member same := (honest.readyAck other earlier member same).deliver

end PunchNetwork

/-- What a peer believes is true. -/
structure PunchState.Honest (network : PunchNetwork) (peer : PunchState) : Prop where
  punch : peer.peerPunchSeen = true → network.Has peer.self .punch
  punchAck : peer.peerPunchAckSeen = true → network.Has peer.self .punchAck
  ready : peer.peerReadySeen = true → network.Has peer.self .ready
  readyAck : peer.peerReadyAckSeen = true → network.Has peer.self .readyAck
  acknowledges : ∀ type, peer.point = .acknowledge type →
    type = .punchAck ∨ type = .readyAck ∧ peer.peerReadySeen = true
  returned : peer.point = .returned none → peer.complete = true

section Steps

variable {network network' : PunchNetwork} {peer peer' other : PunchState} {choice : PunchChoice}
variable {spawned : List PunchState}

/-- Beliefs survive whatever is sent and received. -/
theorem PunchState.Honest.mono (honest : peer.Honest network)
    (kept : ∀ type, network.Has peer.self type → network'.Has peer.self type) :
    peer.Honest network' :=
  { honest with
    punch := fun seen => kept _ (honest.punch seen)
    punchAck := fun seen => kept _ (honest.punchAck seen)
    ready := fun seen => kept _ (honest.ready seen)
    readyAck := fun seen => kept _ (honest.readyAck seen) }

theorem PunchState.Honest.write (honest : peer.Honest network) (party : Party)
    (packet : RendezvousPacket) : peer.Honest (network.write party packet) :=
  honest.mono fun _ has => has

/-- The peer goes on to a point that promises nothing. -/
theorem PunchState.Honest.move (honest : peer.Honest network) {point : PunchPoint}
    (quiet : ∀ type, point ≠ .acknowledge type) (open' : point ≠ .returned none) :
    PunchState.Honest network { peer with point := point } :=
  { honest with
    acknowledges := fun type same => absurd same (quiet type)
    returned := fun same => absurd same open' }

/-- A peer believes what it has just received. -/
theorem PunchState.Honest.see (honest : peer.Honest network) (packet : RendezvousPacket) :
    (peer.see packet.type).Honest (network.deliver peer.self packet) := by
  have has : (network.deliver peer.self packet).Has peer.self packet.type := PunchNetwork.has_deliver
  have before : peer.Honest (network.deliver peer.self packet) :=
    honest.mono fun _ has => has.deliver
  have quiet : PunchState.Honest (network.deliver peer.self packet) { peer with point := .check } :=
    before.move (fun _ impossible => nomatch impossible) (fun impossible => nomatch impossible)
  unfold PunchState.see
  split
  · rename_i same
    rw [same] at has
    refine { before with punch := fun _ => has, acknowledges := ?_, returned := ?_ }
    · intro type equal
      cases equal
      exact Or.inl rfl
    · exact fun impossible => nomatch impossible
  · rename_i same
    rw [same] at has
    exact { quiet with punchAck := fun _ => has, returned := fun impossible => (nomatch impossible) }
  · rename_i same
    rw [same] at has
    refine { before with ready := fun _ => has, acknowledges := ?_, returned := ?_ }
    · intro type equal
      cases equal
      exact Or.inr ⟨rfl, rfl⟩
    · exact fun impossible => nomatch impossible
  · rename_i same
    rw [same] at has
    exact { quiet with readyAck := fun _ => has, returned := fun impossible => (nomatch impossible) }
  · exact quiet

/-- The packet at the head of the loop is sent with a good reason. -/
theorem PunchState.Honest.packet (honest : peer.Honest network) :
    (peer.packet.type = .ready →
      network.Has peer.self .punch ∧ network.Has peer.self .punchAck) ∧
    (peer.packet.type = .readyAck → network.Has peer.self .ready) := by
  unfold PunchState.packet
  split
  · rename_i both
    rw [Bool.and_eq_true] at both
    exact ⟨fun _ => ⟨honest.punch both.1, honest.punchAck both.2⟩, fun impossible => nomatch impossible⟩
  · exact ⟨fun impossible => (nomatch impossible), fun impossible => (nomatch impossible)⟩

/-- **One action of a peer keeps the network and the peer honest**, and takes nothing away from what
was received. -/
theorem honest_step (global : network.Honest) (honest : peer.Honest network)
    (stepped : peer.step network choice = some (network', peer', spawned)) :
    network'.Honest ∧ peer'.Honest network' ∧ spawned = [] ∧
      ∀ party type, network.Has party type → network'.Has party type := by
  have stays : ∀ party type, network.Has party type → network.Has party type :=
    fun _ _ has => has
  unfold PunchState.step at stepped
  split at stepped
  · cases stepped
    exact ⟨global, honest.move (by simp) (by simp), rfl, stays⟩
  · cases stepped
    exact ⟨global, honest.move (by simp) (by simp), rfl, stays⟩
  · cases stepped
    obtain ⟨ready, readyAck⟩ := honest.packet
    exact ⟨global.write ready readyAck, (honest.write _ _).move (by simp) (by simp), rfl,
      fun _ _ has => has⟩
  · cases stepped
    exact ⟨global, honest.move (by simp) (by simp), rfl, stays⟩
  · cases stepped
    exact ⟨global, honest.move (by simp) (by simp), rfl, stays⟩
  · cases stepped
    exact ⟨global, honest.move (by simp) (by simp), rfl, stays⟩
  · obtain ⟨packet, found, built⟩ := Option.map_eq_some_iff.mp stepped
    cases built
    exact ⟨global.deliver (List.mem_of_getElem? found), honest.see packet, rfl,
      fun _ _ has => has.deliver⟩
  · cases stepped
    exact ⟨global, honest.move (by simp) (by simp), rfl, stays⟩
  · -- an acknowledgement of `ready` is sent by a peer that has seen one
    rename_i type point
    cases stepped
    have written : (network.write peer.self (plainPacket type peer.selfID)).Honest := by
      refine global.write (fun same => ?_) fun same => ?_
      · rcases honest.acknowledges type point with rfl | ⟨rfl, -⟩ <;> cases same
      · rcases honest.acknowledges type point with rfl | ⟨-, seen⟩
        · cases same
        · exact honest.ready seen
    exact ⟨written, (honest.write _ _).move (by simp) (by simp), rfl,
      fun _ _ has => has⟩
  · cases stepped
    refine ⟨global, ?_, rfl, stays⟩
    by_cases complete : peer.complete = true
    · rw [if_pos complete]
      exact
        { honest with
          acknowledges := fun _ impossible => nomatch impossible
          returned := fun _ => complete }
    · rw [if_neg complete]
      exact honest.move (by simp) (by simp)
  · cases stepped

end Steps

/-! ## The agreement -/

variable {config : Config PunchNetwork PunchState}

/-- The invariant holds in every configuration that is reached. -/
theorem honest_of_reachable {leftID rightID : String}
    (reached : punchHandshake.Reachable (punchStart leftID rightID) config) :
    config.shared.Honest ∧ ∀ peer ∈ config.threads, peer.Honest config.shared := by
  refine Machine.Run.pool_invariant reached PunchNetwork.Honest
    (fun network peer => peer.Honest network) ⟨?_, ?_⟩ ?_ ?_
  · exact ⟨fun _ _ member => (nomatch member), fun _ _ member => (nomatch member),
      fun _ _ member => (nomatch member)⟩
  · have fresh (party : Party) (name : String) :
        (PunchState.start party name).Honest ⟨fun _ => [], fun _ => []⟩ :=
      ⟨fun impossible => (nomatch impossible), fun impossible => (nomatch impossible),
        fun impossible => (nomatch impossible), fun impossible => (nomatch impossible),
        fun _ impossible => (nomatch impossible), fun impossible => (nomatch impossible)⟩
    intro peer member
    rcases List.mem_cons.mp member with rfl | second
    · exact fresh _ _
    · rw [List.mem_singleton.mp second]
      exact fresh _ _
  · intro _ _ _ impossible
    cases impossible
  · intro config index choice peer network' peer' spawned global honest present _ stepped
    obtain ⟨global', honest', rfl, kept⟩ :=
      honest_step global (honest peer (List.mem_of_getElem? present)) stepped
    exact ⟨global', honest', fun _ impossible => (nomatch impossible),
      fun other _ believed => believed.mono (kept other.self)⟩

/-- **The punch handshake is an agreement.**  For every interleaving of the two peers with a network
that loses, duplicates, delays and reorders their datagrams: when a peer has returned without an
error, the other one has received a `punch`, a `punch_ack` and a `ready` that this peer has sent in
this handshake. -/
theorem punch_handshake_agrees {leftID rightID : String}
    (reached : punchHandshake.Reachable (punchStart leftID rightID) config) {peer : PunchState}
    (member : peer ∈ config.threads) (returned : peer.point = .returned none) :
    ∀ type ∈ [PacketType.punch, .punchAck, .ready], ∃ packet ∈ config.shared.received peer.self.other,
      packet.type = type ∧ packet ∈ config.shared.sent peer.self := by
  obtain ⟨global, honest⟩ := honest_of_reachable reached
  have believed := honest peer member
  have complete := believed.returned returned
  unfold PunchState.complete at complete
  rw [Bool.and_eq_true, Bool.and_eq_true] at complete
  -- the two packets of the second phase that the peer has seen
  obtain ⟨ready, readyReceived, isReady⟩ := believed.ready complete.1.2
  obtain ⟨readyAck, readyAckReceived, isReadyAck⟩ := believed.readyAck complete.2
  obtain ⟨punched, acknowledged⟩ :=
    global.ready _ ready (global.received _ ready readyReceived) isReady
  have readied := global.readyAck _ readyAck (global.received _ readyAck readyAckReceived) isReadyAck
  have sent {type : PacketType} (has : config.shared.Has peer.self.other type) :
      ∃ packet ∈ config.shared.received peer.self.other, packet.type = type ∧
        packet ∈ config.shared.sent peer.self := by
    obtain ⟨packet, received, same⟩ := has
    have origin := global.received _ packet received
    rw [Party.other_other] at origin
    exact ⟨packet, received, same, origin⟩
  intro type kind
  simp only [List.mem_cons, List.not_mem_nil, or_false] at kind
  rcases kind with rfl | rfl | rfl
  · exact sent punched
  · exact sent acknowledged
  · exact sent readied

/-- Both peers punch, acknowledge and get ready; the left one is the first to return. -/
def punchMoves : List (Move PunchState PunchChoice) :=
  [.run 0 .go, .run 1 .go, .run 1 (.datagram 0), .run 1 .go, .run 1 .go,
    .run 0 (.datagram 0), .run 0 .go, .run 0 .go, .run 0 .go, .run 0 (.datagram 1), .run 0 .go,
    .run 0 .go, .run 1 .go, .run 1 (.datagram 1), .run 1 .go, .run 1 .go, .run 1 (.datagram 3),
    .run 1 .go, .run 1 .go, .run 0 (.datagram 3), .run 0 .go, .run 0 .go, .run 0 .go,
    .run 0 (.datagram 4), .run 0 .go]

theorem punch_handshake_agrees_left :
    ∃ config, punchHandshake.Reachable (punchStart "server" "agent") config ∧
      ∃ peer ∈ config.threads, peer.self = .left ∧ peer.point = .returned none ∧
        ∀ type ∈ [PacketType.punch, .punchAck, .ready], ∃ packet ∈ config.shared.received .right,
          packet.type = type ∧ packet ∈ config.shared.sent .left := by
  obtain ⟨config, reached, peer, member, left, returned⟩ :
      ∃ config, punchHandshake.Reachable (punchStart "server" "agent") config ∧
        ∃ peer ∈ config.threads, peer.self = .left ∧ peer.point = .returned none := by
    refine Machine.exists_run_of_replay punchMoves ?_
    decide +kernel
  have agrees := punch_handshake_agrees reached member returned
  rw [left] at agrees
  exact ⟨config, reached, peer, member, left, returned, agrees⟩

end NryNet.Advanced

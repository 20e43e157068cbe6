import NryNet.Lib.GoMap
import NryNet.Storage

/-!
# The registry of relay nodes (`internal/advanced/relay_registry.go`)

A relay node registers itself and sends heartbeats; a node that has not been heard of for longer than
`timeout` is no longer healthy, which is noticed by whoever asks next (`expireLocked`).  A tunnel is
assigned to the healthy node with the fewest connections.

Every exported method holds the lock of the registry from its first statement to its last, with the
exception of `ReassignTunnel`, which reads the current assignment in a critical section of its own.
So each method is one function from registries to registries, and `ReassignTunnel` is what its two
halves do when nobody gets in between.  The clock is read inside, so the instant is an argument.

What the methods do to the map of assignments is said by one lemma each; the rest of the registry,
the nodes and their load, is nobody else's business.
-/

namespace NryNet.Advanced

/-- `RelayNode`. -/
structure RelayNode where
  id : String
  address : String
  controlAddr : String
  connections : ℤ
  healthy : Bool
  lastSeen : Time
  deriving DecidableEq, Repr

/-- `TunnelAssignment`. -/
structure TunnelAssignment where
  tunnelID : String
  nodeID : String
  address : String
  deriving DecidableEq, Repr

/-- `RelayRegistry`; a `time.Duration` is a count of nanoseconds. -/
structure RelayRegistry where
  timeout : ℤ
  nodes : GoMap String RelayNode
  assignments : GoMap String String

/-- `ErrNoHealthyRelay`. -/
def errNoHealthyRelay : String := "no healthy relay node available"

/-- The order of `sortNodes`: healthy nodes first, then by load, then by ID. -/
def RelayNode.less (a b : RelayNode) : Bool :=
  if a.healthy != b.healthy then a.healthy
  else if a.connections != b.connections then a.connections < b.connections
  else a.id < b.id

/-- `sortNodes`. -/
def sortNodes (nodes : List RelayNode) : List RelayNode :=
  nodes.insertionSort fun a b => b.less a = false

namespace RelayRegistry

/-- `NewRelayRegistry`. -/
def newRelayRegistry (timeout : ℤ) : RelayRegistry where
  timeout := if timeout ≤ 0 then 30 * 1000000000 else timeout
  nodes := ∅
  assignments := ∅

/-- `expireLocked`. -/
def expireLocked (r : RelayRegistry) (now : Time) : RelayRegistry :=
  { r with
    nodes := r.nodes.mapValues fun _ node =>
      if (now : ℤ) - node.lastSeen ≤ r.timeout then node else { node with healthy := false } }

/-- `pickLocked`. -/
def pickLocked (r : RelayRegistry) (exclude : String) : Option RelayNode :=
  (sortNodes (r.nodes.valuesWhere fun _ node => node.healthy && node.id != exclude)).head?

/-- `decrement`. -/
def decrement (r : RelayRegistry) (id : String) : RelayRegistry :=
  match r.nodes.lookup id with
  | none => r
  | some node =>
      if node.connections = 0 then r
      else
        { r with nodes := r.nodes.insert id { node with connections := node.connections - 1 } }

/-- The value of `r.assignments[tunnelID]`; a missing entry is the empty string. -/
def assignedNode (r : RelayRegistry) (tunnelID : String) : String :=
  (r.assignments.lookup tunnelID).getD ""

/-- `assign`.  The node that is written back was copied before the old assignment was taken off the
load of its own node. -/
def assign (r : RelayRegistry) (now : Time) (tunnelID exclude : String) :
    RelayRegistry × Except String TunnelAssignment :=
  let r := r.expireLocked now
  match r.pickLocked exclude with
  | none => (r, .error errNoHealthyRelay)
  | some node =>
      let r := r.decrement (r.assignedNode tunnelID)
      ({ r with
          nodes := r.nodes.insert node.id { node with connections := node.connections + 1 }
          assignments := r.assignments.insert tunnelID node.id },
        .ok ⟨tunnelID, node.id, node.address⟩)

/-- `AssignTunnel`. -/
def assignTunnel (r : RelayRegistry) (now : Time) (tunnelID : String) :
    RelayRegistry × Except String TunnelAssignment :=
  r.assign now tunnelID ""

/-- `ReassignTunnel`, when nobody gets in between its two critical sections. -/
def reassignTunnel (r : RelayRegistry) (now : Time) (tunnelID : String) :
    RelayRegistry × Except String TunnelAssignment :=
  r.assign now tunnelID (r.assignedNode tunnelID)

/-- `Assignment`. -/
def assignment (r : RelayRegistry) (now : Time) (tunnelID : String) :
    RelayRegistry × Option TunnelAssignment :=
  let r := r.expireLocked now
  (r, (r.assignments.lookup tunnelID).bind fun id =>
    (r.nodes.lookup id).map fun node => ⟨tunnelID, id, node.address⟩)

/-- `IsAssignedTo`. -/
def isAssignedTo (r : RelayRegistry) (now : Time) (tunnelID nodeID : String) : RelayRegistry × Bool :=
  let r := r.expireLocked now
  match r.nodes.lookup nodeID with
  | none => (r, false)
  | some node => (r, node.healthy && r.assignedNode tunnelID = nodeID)

/-- `ReleaseTunnel`. -/
def releaseTunnel (r : RelayRegistry) (tunnelID : String) : RelayRegistry :=
  let r := r.decrement (r.assignedNode tunnelID)
  { r with assignments := r.assignments.erase tunnelID }

/-- `Register`; `validateSecureHTTPURL` is the function of `internal/config`, which parses the URL
with `net/url`. -/
def register (validateSecureHTTPURL : String → Except String Unit) (r : RelayRegistry) (now : Time)
    (node : RelayNode) : Except String (RelayRegistry × RelayNode) :=
  if node.id = "" ∨ node.address = "" then .error "relay id and address are required"
  else
    match if node.controlAddr = "" then .ok () else validateSecureHTTPURL node.controlAddr with
    | .error message => .error message
    | .ok () =>
        let node := { node with healthy := true, lastSeen := now }
        .ok ({ r with nodes := r.nodes.insert node.id node }, node)

/-- `Heartbeat`. -/
def heartbeat (r : RelayRegistry) (now : Time) (id : String) (connections : ℤ) :
    Except String (RelayRegistry × RelayNode) :=
  match r.nodes.lookup id with
  | none => .error "relay node not found"
  | some node =>
      let node := { node with connections := connections, healthy := true, lastSeen := now }
      .ok ({ r with nodes := r.nodes.insert id node }, node)

/-- `MarkUnhealthy`. -/
def markUnhealthy (r : RelayRegistry) (id : String) : RelayRegistry :=
  match r.nodes.lookup id with
  | none => r
  | some node => { r with nodes := r.nodes.insert id { node with healthy := false } }

/-! ## What the methods do to the assignments -/

variable {r r' : RelayRegistry} {now : Time} {tunnelID exclude id other : String}

@[simp] theorem assignments_expireLocked :
    (r.expireLocked now).assignments = r.assignments := rfl

@[simp] theorem assignments_decrement : (r.decrement id).assignments = r.assignments := by
  unfold decrement
  split
  · rfl
  · split <;> rfl

/-- `assign` fails and leaves the assignments as they are, or adds this one. -/
theorem assignments_assign (r : RelayRegistry) (now : Time) (tunnelID exclude : String) :
    (∃ message, (r.assign now tunnelID exclude).2 = .error message ∧
      (r.assign now tunnelID exclude).1.assignments = r.assignments) ∨
    ∃ assignment, (r.assign now tunnelID exclude).2 = .ok assignment ∧
      (r.assign now tunnelID exclude).1.assignments =
        r.assignments.insert tunnelID assignment.nodeID := by
  unfold assign
  cases picked : (r.expireLocked now).pickLocked exclude with
  | none =>
      simp only [picked]
      exact Or.inl ⟨_, rfl, rfl⟩
  | some node =>
      simp only [picked, assignments_decrement, assignments_expireLocked]
      exact Or.inr ⟨_, rfl, rfl⟩

@[simp] theorem assignments_assignment :
    (r.assignment now tunnelID).1.assignments = r.assignments := rfl

theorem assignments_releaseTunnel :
    (r.releaseTunnel tunnelID).assignments = r.assignments.erase tunnelID := by
  unfold releaseTunnel
  simp only [assignments_decrement]

theorem assignments_register {validate : String → Except String Unit} {node node' : RelayNode}
    (registered : r.register validate now node = .ok (r', node')) :
    r'.assignments = r.assignments := by
  unfold register at registered
  split at registered
  · cases registered
  · split at registered
    · cases registered
    · cases registered
      rfl

theorem assignments_heartbeat {connections : ℤ} {node : RelayNode}
    (beaten : r.heartbeat now id connections = .ok (r', node)) :
    r'.assignments = r.assignments := by
  unfold heartbeat at beaten
  split at beaten
  · cases beaten
  · cases beaten
    rfl

theorem assignments_markUnhealthy : (r.markUnhealthy id).assignments = r.assignments := by
  unfold markUnhealthy
  split <;> rfl

end RelayRegistry

end NryNet.Advanced

import NryNet.Advanced.RelayRegistry

/-!
# The load of the relay nodes

`Connections` of a node is meant to be the number of tunnels that are assigned to it: `assign` adds
one to the node it picks and takes one off the node the tunnel was assigned to before, and
`ReleaseTunnel` takes one off as well.  The node that `assign` writes back, however, is a copy made by
`pickLocked` before `decrement` has written to the map.  When the tunnel moves to another node that
does not matter.  When the pick is the node the tunnel is assigned to already, the decrement is
overwritten, and the node is left with one connection more than it has tunnels.

So the counters and the tables agree for as long as no `AssignTunnel` picks the node its tunnel has,
and they disagree as soon as one does; `ReassignTunnel` excludes that node and never errs.
-/

namespace NryNet.Advanced

namespace RelayRegistry

/-- The number of tunnels that are assigned to a node. -/
def assignedTunnels (r : RelayRegistry) (id : String) : ℕ :=
  r.assignments.countWhere fun _ nodeID => nodeID == id

/-- Every node has as many connections as there are tunnels assigned to it. -/
def LoadsMatch (r : RelayRegistry) : Prop :=
  ∀ id node, r.nodes.lookup id = some node → node.connections = r.assignedTunnels id

/-- The calls of `Register` a registry begins with; one that fails changes nothing. -/
def registerAll (validateSecureHTTPURL : String → Except String Unit) (r : RelayRegistry) :
    List (Time × RelayNode) → RelayRegistry
  | [] => r
  | (now, node) :: rest =>
      match r.register validateSecureHTTPURL now node with
      | .error _ => registerAll validateSecureHTTPURL r rest
      | .ok (r', _) => registerAll validateSecureHTTPURL r' rest

/-- The calls that assign and release tunnels, and those that only notice or declare that a node is
not healthy.  `expire` is what all the methods that answer a question do before they answer it. -/
inductive Call where
  | assignTunnel (now : Time) (tunnelID : String)
  | reassignTunnel (now : Time) (tunnelID : String)
  | releaseTunnel (tunnelID : String)
  | markUnhealthy (id : String)
  | expire (now : Time)
  deriving DecidableEq, Repr

def perform (r : RelayRegistry) : Call → RelayRegistry
  | .assignTunnel now tunnelID => (r.assignTunnel now tunnelID).1
  | .reassignTunnel now tunnelID => (r.reassignTunnel now tunnelID).1
  | .releaseTunnel tunnelID => r.releaseTunnel tunnelID
  | .markUnhealthy id => r.markUnhealthy id
  | .expire now => r.expireLocked now

def performAll (r : RelayRegistry) (calls : List Call) : RelayRegistry :=
  calls.foldl perform r

/-- The call is not an `AssignTunnel` that picks the node its tunnel is assigned to. -/
def Moves (r : RelayRegistry) : Call → Prop
  | .assignTunnel now tunnelID =>
      ∀ node ∈ (r.expireLocked now).pickLocked "", r.assignments.lookup tunnelID ≠ some node.id
  | _ => True

instance (r : RelayRegistry) (call : Call) : Decidable (r.Moves call) := by
  unfold Moves
  split <;> infer_instance

/-- No call picks the node its tunnel is assigned to at that moment. -/
def AllMove (r : RelayRegistry) : List Call → Prop
  | [] => True
  | call :: rest => r.Moves call ∧ (r.perform call).AllMove rest

instance decidableAllMove (r : RelayRegistry) :
    (calls : List Call) → Decidable (r.AllMove calls)
  | [] => isTrue trivial
  | call :: rest =>
      haveI := decidableAllMove (r.perform call) rest
      inferInstanceAs (Decidable (r.Moves call ∧ (r.perform call).AllMove rest))

/-- A node is stored under its own ID, which is not empty. -/
def Keyed (r : RelayRegistry) : Prop :=
  ∀ id node, r.nodes.lookup id = some node → node.id = id ∧ id ≠ ""

section Operations

variable {r : RelayRegistry} {now : Time} {tunnelID exclude id : String} {node : RelayNode}

/-! ## The nodes

What each operation does to the node under a given ID. -/

theorem lookup_expireLocked (r : RelayRegistry) (now : Time) (id : String) :
    ∃ expire : RelayNode → RelayNode,
      (r.expireLocked now).nodes.lookup id = (r.nodes.lookup id).map expire ∧
        ∀ node, (expire node).id = node.id ∧ (expire node).connections = node.connections := by
  refine ⟨fun node =>
    if (now : ℤ) - node.lastSeen ≤ r.timeout then node else { node with healthy := false },
    GoMap.lookup_mapValues _ _ _, fun node => ?_⟩
  dsimp only
  split <;> exact ⟨rfl, rfl⟩

theorem lookup_decrement (r : RelayRegistry) (id other : String) :
    (r.decrement id).nodes.lookup other = (r.nodes.lookup other).map fun node =>
      if other = id ∧ node.connections ≠ 0 then { node with connections := node.connections - 1 }
      else node := by
  unfold decrement
  cases found : r.nodes.lookup id with
  | none =>
      simp only
      cases present : r.nodes.lookup other with
      | none => rfl
      | some node =>
          have different : other ≠ id := by
            rintro rfl
            rw [found] at present
            cases present
          simp [different]
  | some node =>
      simp only
      split
      · rename_i unused
        cases present : r.nodes.lookup other with
        | none => rfl
        | some node' =>
            by_cases same : other = id
            · subst same
              rw [found] at present
              cases present
              simp [unused]
            · simp [same]
      · rename_i used
        rw [GoMap.lookup_insert_if]
        by_cases same : other = id
        · subst same
          simp [found, used]
        · simp [same]

/-- The pick is one of the nodes, it is healthy, and it is not the excluded one. -/
theorem pickLocked_some (picked : r.pickLocked exclude = some node) :
    ∃ key, r.nodes.lookup key = some node ∧ node.healthy = true ∧ node.id ≠ exclude := by
  have member : node ∈ sortNodes (r.nodes.valuesWhere fun _ node =>
      node.healthy && node.id != exclude) := List.mem_of_mem_head? picked
  unfold sortNodes at member
  rw [List.mem_insertionSort, GoMap.mem_valuesWhere] at member
  obtain ⟨key, found, condition⟩ := member
  rw [Bool.and_eq_true, bne_iff_ne] at condition
  exact ⟨key, found, condition⟩

/-- `assign` with nothing to pick only expires. -/
theorem assign_of_none (picked : (r.expireLocked now).pickLocked exclude = none) :
    (r.assign now tunnelID exclude).1 = r.expireLocked now := by
  unfold assign
  simp only [picked]

theorem assign_of_pick (picked : (r.expireLocked now).pickLocked exclude = some node) :
    (r.assign now tunnelID exclude).1 =
      { timeout := r.timeout
        nodes := ((r.expireLocked now).decrement (r.assignedNode tunnelID)).nodes.insert node.id
          { node with connections := node.connections + 1 }
        assignments := r.assignments.insert tunnelID node.id } := by
  have timeout (r : RelayRegistry) (id : String) : (r.decrement id).timeout = r.timeout := by
    unfold decrement
    split
    · rfl
    · split <;> rfl
  unfold assign
  simp only [picked, timeout, assignments_decrement, assignments_expireLocked]
  rfl

/-! ## The loads -/

/-- A tunnel counts for the node it is assigned to. -/
theorem assignedTunnels_eq (r : RelayRegistry) (tunnelID id : String) :
    r.assignedTunnels id =
      GoMap.countWhere (r.assignments.erase tunnelID) (fun _ nodeID => nodeID == id) +
        if r.assignments.lookup tunnelID = some id then 1 else 0 := by
  unfold assignedTunnels
  rw [GoMap.countWhere_eq_erase _ _ tunnelID]
  cases r.assignments.lookup tunnelID with
  | none => rfl
  | some nodeID => simp

theorem Keyed.expireLocked (keyed : r.Keyed) : (r.expireLocked now).Keyed := by
  intro id node found
  obtain ⟨expire, looked, same⟩ := lookup_expireLocked r now id
  rw [looked, Option.map_eq_some_iff] at found
  obtain ⟨old, present, rfl⟩ := found
  rw [(same old).1]
  exact keyed id old present

theorem LoadsMatch.expireLocked (loads : r.LoadsMatch) : (r.expireLocked now).LoadsMatch := by
  intro id node found
  obtain ⟨expire, looked, same⟩ := lookup_expireLocked r now id
  rw [looked, Option.map_eq_some_iff] at found
  obtain ⟨old, present, rfl⟩ := found
  rw [(same old).2]
  exact loads id old present

theorem Keyed.decrement (keyed : r.Keyed) : (r.decrement id).Keyed := by
  intro other node found
  rw [lookup_decrement, Option.map_eq_some_iff] at found
  obtain ⟨old, present, rfl⟩ := found
  have named := keyed other old present
  split <;> exact named

/-- Once a tunnel is taken off the load of its node, every node has the connections of the other
tunnels. -/
theorem LoadsMatch.released (loads : r.LoadsMatch) (keyed : r.Keyed)
    (found : (r.decrement (r.assignedNode tunnelID)).nodes.lookup id = some node) :
    node.connections =
      GoMap.countWhere (r.assignments.erase tunnelID) (fun _ nodeID => nodeID == id) := by
  rw [lookup_decrement, Option.map_eq_some_iff] at found
  obtain ⟨old, present, rfl⟩ := found
  have count := loads id old present
  rw [r.assignedTunnels_eq tunnelID id] at count
  have assigned : id = r.assignedNode tunnelID ↔ r.assignments.lookup tunnelID = some id := by
    unfold assignedNode
    cases found : r.assignments.lookup tunnelID with
    | none => simp [(keyed id old present).2]
    | some nodeID => simp [eq_comm]
  by_cases own : r.assignments.lookup tunnelID = some id
  · -- the node has this tunnel, so its counter is not zero
    rw [if_pos own] at count
    have used : old.connections ≠ 0 := by omega
    rw [if_pos ⟨assigned.mpr own, used⟩]
    show old.connections - 1 = _
    omega
  · rw [if_neg own] at count
    rw [if_neg fun both => own (assigned.mp both.1)]
    exact count

theorem LoadsMatch.releaseTunnel (loads : r.LoadsMatch) (keyed : r.Keyed) :
    (r.releaseTunnel tunnelID).LoadsMatch := by
  intro id node found
  rw [loads.released keyed found]
  unfold RelayRegistry.releaseTunnel assignedTunnels
  simp only [assignments_decrement]

theorem LoadsMatch.markUnhealthy (loads : r.LoadsMatch) : (r.markUnhealthy id).LoadsMatch := by
  unfold RelayRegistry.markUnhealthy
  cases found : r.nodes.lookup id with
  | none => exact loads
  | some node =>
      intro other node' found'
      rw [GoMap.lookup_insert_if] at found'
      split at found'
      · rename_i same
        subst same
        cases found'
        exact loads other node found
      · exact loads other node' found'

/-- **`assign` keeps the loads right exactly when the tunnel does not stay where it is.** -/
theorem loadsMatch_assign_iff (loads : r.LoadsMatch) (keyed : r.Keyed) :
    (r.assign now tunnelID exclude).1.LoadsMatch ↔
      ∀ node ∈ (r.expireLocked now).pickLocked exclude,
        r.assignments.lookup tunnelID ≠ some node.id := by
  have expired : (r.expireLocked now).LoadsMatch := loads.expireLocked
  have named : (r.expireLocked now).Keyed := keyed.expireLocked
  cases picked : (r.expireLocked now).pickLocked exclude with
  | none => simp [assign_of_none picked, expired]
  | some node =>
      obtain ⟨key, found, -, -⟩ := pickLocked_some picked
      obtain rfl := (named key node found).1
      have count := expired node.id node found
      rw [assignedTunnels_eq _ tunnelID, assignments_expireLocked] at count
      rw [assign_of_pick picked]
      simp only [Option.mem_def, Option.some.injEq, forall_eq']
      constructor
      · -- the copy has the connections from before the decrement
        intro matching stays
        have counted := matching node.id { node with connections := node.connections + 1 }
          (AList.lookup_insert _)
        unfold assignedTunnels at counted
        rw [GoMap.countWhere_insert, beq_self_eq_true, if_pos rfl] at counted
        rw [if_pos stays] at count
        simp only at counted
        omega
      · intro moves id node' found'
        rw [if_neg moves] at count
        unfold assignedTunnels
        rw [GoMap.countWhere_insert]
        simp only [GoMap.lookup_insert_if] at found'
        split at found'
        · rename_i same
          subst same
          cases found'
          rw [beq_self_eq_true, if_pos rfl]
          push_cast
          omega
        · rename_i different
          rw [if_neg (by simpa using Ne.symm different), expired.released named found']
          rfl

theorem Keyed.assign (keyed : r.Keyed) : (r.assign now tunnelID exclude).1.Keyed := by
  have named : (r.expireLocked now).Keyed := keyed.expireLocked
  cases picked : (r.expireLocked now).pickLocked exclude with
  | none =>
      rw [assign_of_none picked]
      exact named
  | some node =>
      obtain ⟨key, found, -, -⟩ := pickLocked_some picked
      obtain ⟨rfl, filled⟩ := named key node found
      rw [assign_of_pick picked]
      intro id node' found'
      simp only [GoMap.lookup_insert_if] at found'
      split at found'
      · rename_i same
        cases found'
        exact ⟨same.symm, same ▸ filled⟩
      · exact named.decrement id node' found'

end Operations

/-! ## Runs -/

section Runs

variable {r : RelayRegistry} {call : Call}

theorem Keyed.perform (keyed : r.Keyed) : (r.perform call).Keyed := by
  cases call with
  | assignTunnel now tunnelID => exact keyed.assign
  | reassignTunnel now tunnelID => exact keyed.assign
  | releaseTunnel tunnelID => exact keyed.decrement
  | markUnhealthy id =>
      show (r.markUnhealthy id).Keyed
      unfold RelayRegistry.markUnhealthy
      cases found : r.nodes.lookup id with
      | none => exact keyed
      | some node =>
          intro other node' found'
          rw [GoMap.lookup_insert_if] at found'
          split at found'
          · rename_i same
            subst same
            cases found'
            exact keyed other node found
          · exact keyed other node' found'
  | expire now => exact keyed.expireLocked

/-- **One call keeps the loads right exactly when it meets the condition.** -/
theorem loadsMatch_perform_iff (loads : r.LoadsMatch) (keyed : r.Keyed) :
    (r.perform call).LoadsMatch ↔ r.Moves call := by
  cases call with
  | assignTunnel now tunnelID => exact loadsMatch_assign_iff loads keyed
  | reassignTunnel now tunnelID =>
      refine (loadsMatch_assign_iff loads keyed).trans (iff_true_intro ?_)
      intro node picked stays
      obtain ⟨-, -, -, other⟩ := pickLocked_some picked
      unfold assignedNode at other
      rw [stays] at other
      exact other rfl
  | releaseTunnel tunnelID => exact iff_true_intro (loads.releaseTunnel keyed)
  | markUnhealthy id => exact iff_true_intro loads.markUnhealthy
  | expire now => exact iff_true_intro loads.expireLocked

/-- The loads are right all along a run exactly when every call meets the condition. -/
theorem loadsMatch_performAll_iff (loads : r.LoadsMatch) (keyed : r.Keyed) (calls : List Call) :
    (∀ before, before <+: calls → (r.performAll before).LoadsMatch) ↔ r.AllMove calls := by
  induction calls generalizing r with
  | nil =>
      refine iff_true_intro fun before initial => ?_
      rw [List.prefix_nil.mp initial]
      exact loads
  | cons call rest hypothesis =>
      have step : (r.perform call).LoadsMatch ↔ r.Moves call := loadsMatch_perform_iff loads keyed
      constructor
      · intro matching
        have first : (r.perform call).LoadsMatch := matching [call] ⟨rest, rfl⟩
        refine ⟨step.mp first, (hypothesis first keyed.perform).mp fun before initial => ?_⟩
        exact matching (call :: before) (List.cons_prefix_cons.mpr ⟨rfl, initial⟩)
      · rintro ⟨moves, others⟩ before initial
        cases before with
        | nil => exact loads
        | cons other before =>
            obtain ⟨rfl, shorter⟩ := List.cons_prefix_cons.mp initial
            exact (hypothesis (step.mpr moves) keyed.perform).mpr others before shorter

/-- `Register` stores the node under its ID. -/
theorem register_ok {r' : RelayRegistry} {validate : String → Except String Unit} {now : Time}
    {node node' : RelayNode} (registered : r.register validate now node = .ok (r', node')) :
    node.id ≠ "" ∧ node'.id = node.id ∧ node'.connections = node.connections ∧
      r'.nodes = r.nodes.insert node.id node' := by
  unfold register at registered
  split at registered
  · cases registered
  · rename_i filled
    split at registered
    · cases registered
    · cases registered
      exact ⟨fun empty => filled (Or.inl empty), rfl, rfl, rfl⟩

/-- Before the first assignment every node has as many connections as tunnels: none. -/
theorem registerAll_spec {validate : String → Except String Unit}
    {nodes : List (Time × RelayNode)} (unassigned : r.assignments = ∅)
    (unused : ∀ id node, r.nodes.lookup id = some node → node.connections = 0) (keyed : r.Keyed)
    (idle : ∀ entry ∈ nodes, entry.2.connections = 0) :
    (registerAll validate r nodes).LoadsMatch ∧ (registerAll validate r nodes).Keyed := by
  induction nodes generalizing r with
  | nil =>
      refine ⟨fun id node found => ?_, keyed⟩
      unfold assignedTunnels
      rw [registerAll, unassigned]
      exact unused id node found
  | cons entry rest hypothesis =>
      obtain ⟨now, node⟩ := entry
      have others : ∀ entry ∈ rest, entry.2.connections = 0 :=
        fun entry member => idle entry (List.mem_cons_of_mem _ member)
      rw [registerAll]
      cases registered : r.register validate now node with
      | error message => exact hypothesis unassigned unused keyed others
      | ok registration =>
          obtain ⟨r', node'⟩ := registration
          obtain ⟨filled, named, load, stored⟩ := register_ok registered
          refine hypothesis ((assignments_register registered).trans unassigned) ?_ ?_ others
          · intro id other found
            rw [stored, GoMap.lookup_insert_if] at found
            split at found
            · cases found
              exact load.trans (idle _ List.mem_cons_self)
            · exact unused id other found
          · intro id other found
            rw [stored, GoMap.lookup_insert_if] at found
            split at found
            · rename_i same
              cases found
              exact ⟨named.trans same.symm, same ▸ filled⟩
            · exact keyed id other found

end Runs

/-- **The load of every node is the number of its tunnels**, after every call of a run, if and only
if no `AssignTunnel` of the run picks the node that its tunnel is assigned to already. -/
theorem relay_loads_match (validate : String → Except String Unit) (timeout : ℤ)
    (nodes : List (Time × RelayNode)) (idle : ∀ entry ∈ nodes, entry.2.connections = 0)
    (calls : List Call) :
    (∀ before, before <+: calls →
      ((registerAll validate (newRelayRegistry timeout) nodes).performAll before).LoadsMatch) ↔
      (registerAll validate (newRelayRegistry timeout) nodes).AllMove calls := by
  have nothing : ∀ id node, (newRelayRegistry timeout).nodes.lookup id ≠ some node := by
    intro id node found
    cases found
  obtain ⟨loads, keyed⟩ := @registerAll_spec (newRelayRegistry timeout) validate nodes rfl
    (fun id node found => absurd found (nothing id node))
    (fun id node found => absurd found (nothing id node)) idle
  exact loadsMatch_performAll_iff loads keyed calls

/-- Two relay nodes, registered one after the other. -/
def twoRelays : RelayRegistry :=
  registerAll (fun _ => .ok ()) (newRelayRegistry 0)
    [(0, ⟨"relay-1", "192.0.2.10:7000", "", 0, false, 0⟩),
      (5, ⟨"relay-2", "192.0.2.11:7000", "", 0, false, 0⟩)]

/-- A tunnel that is assigned again while its node is still the least loaded healthy one is counted
twice. -/
theorem assigned_tunnel_counted_twice :
    ∃ calls : List Call, ¬ (twoRelays.performAll calls).LoadsMatch := by
  refine ⟨[.assignTunnel 10 "tunnel-1", .markUnhealthy "relay-2", .assignTunnel 20 "tunnel-1"], ?_⟩
  intro matching
  have counted := matching "relay-1" ⟨"relay-1", "192.0.2.10:7000", "", 2, true, 0⟩ (by decide)
  revert counted
  decide

/-- A tunnel that is assigned twice, moved once more and released twice, while the other node is the
less loaded one each time. -/
def movingCalls : List Call :=
  [.assignTunnel 10 "tunnel-1", .assignTunnel 20 "tunnel-1", .reassignTunnel 30 "tunnel-1",
    .releaseTunnel "tunnel-1", .releaseTunnel "tunnel-1"]

theorem relay_loads_match_moved :
    twoRelays.AllMove movingCalls ∧ (twoRelays.performAll movingCalls).LoadsMatch :=
  ⟨by decide,
    (relay_loads_match (fun _ => .ok ()) 0
      [(0, ⟨"relay-1", "192.0.2.10:7000", "", 0, false, 0⟩),
        (5, ⟨"relay-2", "192.0.2.11:7000", "", 0, false, 0⟩)] (by decide) movingCalls).mpr
      (by decide) movingCalls List.prefix_rfl⟩

end RelayRegistry

end NryNet.Advanced

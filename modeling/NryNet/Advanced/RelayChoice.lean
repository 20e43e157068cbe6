import NryNet.Advanced.RelayLoad

/-!
# The choice of a relay node

`AssignTunnel` and `ReassignTunnel` assign a tunnel to the eligible node with the least load, the least ID
deciding between nodes with the same.  Eligible is who is registered, healthy and has been heard of within
the timeout; for `ReassignTunnel` it must not be the node that the tunnel has been assigned to.

`ReassignTunnel` looks up that node in a critical section of its own.  So the registry it looks at,
`began`, may be an earlier one than the registry in which it assigns.
-/

namespace NryNet.Advanced

/-! ## The order of the nodes -/

namespace RelayNode

/-- The order by load and ID. -/
def AtMost (a b : RelayNode) : Prop :=
  a.connections < b.connections ∨ a.connections = b.connections ∧ a.id ≤ b.id

theorem AtMost.total (a b : RelayNode) : AtMost a b ∨ AtMost b a := by
  rcases lt_trichotomy a.connections b.connections with fewer | same | more
  · exact Or.inl (Or.inl fewer)
  · rcases String.le_total a.id b.id with first | second
    · exact Or.inl (Or.inr ⟨same, first⟩)
    · exact Or.inr (Or.inr ⟨same.symm, second⟩)
  · exact Or.inr (Or.inl more)

theorem AtMost.trans {a b c : RelayNode} (first : AtMost a b) (second : AtMost b c) : AtMost a c := by
  rcases first with fewer | ⟨same, before⟩ <;> rcases second with less | ⟨equal, after⟩
  · exact Or.inl (fewer.trans less)
  · exact Or.inl (equal ▸ fewer)
  · exact Or.inl (same ▸ less)
  · exact Or.inr ⟨same.trans equal, String.le_trans before after⟩

/-- Of two nodes that are both healthy, or neither, the load and the ID decide. -/
theorem not_less_of_same {a b : RelayNode} (same : a.healthy = b.healthy) :
    b.less a = false ↔ AtMost a b := by
  unfold less AtMost
  rw [same, bne_self_eq_false, if_neg Bool.false_ne_true]
  by_cases equal : a.connections = b.connections
  · rw [equal, bne_self_eq_false, if_neg Bool.false_ne_true, decide_eq_false_iff_not, String.not_lt]
    exact ⟨fun before => Or.inr ⟨rfl, before⟩, fun least => (least.resolve_left (lt_irrefl _)).2⟩
  · rw [if_pos (bne_iff_ne.mpr (Ne.symm equal)), decide_eq_false_iff_not, not_lt]
    exact ⟨fun most => Or.inl (lt_of_le_of_ne most equal), fun least =>
      (least.resolve_right fun both => equal both.1).le⟩

/-- `sortNodes` puts healthy nodes first. -/
theorem not_less_iff {a b : RelayNode} :
    b.less a = false ↔ a.healthy = true ∧ b.healthy = false ∨ a.healthy = b.healthy ∧ AtMost a b := by
  by_cases same : a.healthy = b.healthy
  · rw [not_less_of_same same]
    refine ⟨fun least => Or.inr ⟨same, least⟩, ?_⟩
    rintro (⟨up, down⟩ | ⟨-, least⟩)
    · rw [up, down] at same
      cases same
    · exact least
  · have differ : b.less a = b.healthy := by
      unfold less
      exact if_pos (bne_iff_ne.mpr (Ne.symm same))
    rw [differ]
    refine ⟨fun down => Or.inl ⟨?_, down⟩, ?_⟩
    · rw [down, Bool.not_eq_false] at same
      exact same
    · rintro (⟨-, down⟩ | ⟨equal, -⟩)
      · exact down
      · exact absurd equal same

/-- The order that `sortNodes` sorts by. -/
def Sorted (a b : RelayNode) : Prop := b.less a = false

instance : DecidableRel Sorted := fun a b => inferInstanceAs (Decidable (b.less a = false))

instance : Std.Total Sorted where
  total a b := by
    simp only [Sorted, not_less_iff]
    rcases AtMost.total a b with before | after <;> cases a.healthy <;> cases b.healthy <;> simp [*]

instance : IsTrans RelayNode Sorted where
  trans a b c first second := by
    simp only [Sorted, not_less_iff] at first second ⊢
    rcases first with ⟨up, down⟩ | ⟨same, before⟩ <;> rcases second with ⟨high, low⟩ | ⟨equal, after⟩
    · rw [high] at down
      cases down
    · exact Or.inl ⟨up, equal ▸ down⟩
    · exact Or.inl ⟨same.trans high, low⟩
    · exact Or.inr ⟨same.trans equal, before.trans after⟩

end RelayNode

namespace RelayRegistry

/-! ## The pick -/

variable {r began : RelayRegistry} {now : Time} {tunnelID exclude : String} {node : RelayNode}

/-- The node is registered, healthy, and has been heard of within the timeout. -/
def Eligible (r : RelayRegistry) (now : Time) (node : RelayNode) : Prop :=
  r.nodes.lookup node.id = some node ∧ node.healthy = true ∧ (now : ℤ) - node.lastSeen ≤ r.timeout

/-- What is left after the expiry are the eligible nodes, unchanged. -/
theorem mem_candidates_iff (keyed : r.Keyed) :
    node ∈ (r.expireLocked now).nodes.valuesWhere (fun _ node => node.healthy && node.id != exclude) ↔
      r.Eligible now node ∧ node.id ≠ exclude := by
  rw [GoMap.mem_valuesWhere]
  simp only [expireLocked, GoMap.lookup_mapValues, Option.map_eq_some_iff, Bool.and_eq_true,
    bne_iff_ne]
  constructor
  · rintro ⟨key, ⟨old, found, same⟩, healthy, other⟩
    split at same
    · rename_i recent
      obtain rfl := same
      obtain ⟨rfl, -⟩ := keyed key old found
      exact ⟨⟨found, healthy, recent⟩, other⟩
    · rw [← same] at healthy
      cases healthy
  · rintro ⟨⟨found, healthy, recent⟩, other⟩
    exact ⟨node.id, ⟨node, found, if_pos recent⟩, healthy, other⟩

/-- `pickLocked` finds the least of the eligible nodes that is not excluded. -/
theorem pickLocked_eq_some (keyed : r.Keyed)
    (picked : (r.expireLocked now).pickLocked exclude = some node) :
    (r.Eligible now node ∧ node.id ≠ exclude) ∧
      ∀ other, r.Eligible now other → other.id ≠ exclude → node.AtMost other := by
  obtain ⟨rest, sorted⟩ := List.head?_eq_some_iff.mp picked
  have members (other : RelayNode) : other ∈ node :: rest ↔
      r.Eligible now other ∧ other.id ≠ exclude := by
    rw [← sorted, sortNodes, List.mem_insertionSort, mem_candidates_iff keyed]
  have self := (members node).mp List.mem_cons_self
  refine ⟨self, fun other eligible different => ?_⟩
  rcases List.mem_cons.mp ((members other).mpr ⟨eligible, different⟩) with rfl | later
  · exact (RelayNode.AtMost.total other other).elim id id
  · have ordered := List.pairwise_insertionSort RelayNode.Sorted
      ((r.expireLocked now).nodes.valuesWhere fun _ node => node.healthy && node.id != exclude)
    have same : List.insertionSort RelayNode.Sorted ((r.expireLocked now).nodes.valuesWhere
        fun _ node => node.healthy && node.id != exclude) = node :: rest := sorted
    rw [same] at ordered
    have first : other.less node = false := List.rel_of_pairwise_cons ordered later
    exact (RelayNode.not_less_of_same (self.1.2.1.trans eligible.2.1.symm)).mp first

theorem pickLocked_eq_none (keyed : r.Keyed) :
    (r.expireLocked now).pickLocked exclude = none ↔
      ∀ node, r.Eligible now node → node.id = exclude := by
  unfold pickLocked sortNodes
  rw [List.head?_eq_none_iff, ← List.length_eq_zero_iff, List.length_insertionSort,
    List.length_eq_zero_iff, List.eq_nil_iff_forall_not_mem]
  constructor
  · intro none node eligible
    by_contra different
    exact none node ((mem_candidates_iff keyed).mpr ⟨eligible, different⟩)
  · intro none node member
    obtain ⟨eligible, different⟩ := (mem_candidates_iff keyed).mp member
    exact different (none node eligible)

/-! ## The registries there can be -/

/-- What is done to a registry; `assign` is the second half of a `ReassignTunnel`, whatever it has seen
in its first. -/
inductive Reachable (validate : String → Except String Unit) (timeout : ℤ) : RelayRegistry → Prop
  | new : Reachable validate timeout (newRelayRegistry timeout)
  | register {r r' : RelayRegistry} {now : Time} {node node' : RelayNode}
      (earlier : Reachable validate timeout r)
      (registered : r.register validate now node = .ok (r', node')) : Reachable validate timeout r'
  | heartbeat {r r' : RelayRegistry} {now : Time} {id : String} {connections : ℤ} {node : RelayNode}
      (earlier : Reachable validate timeout r)
      (beaten : r.heartbeat now id connections = .ok (r', node)) : Reachable validate timeout r'
  | call {r : RelayRegistry} (earlier : Reachable validate timeout r) (call : Call) :
      Reachable validate timeout (r.perform call)
  | assign {r : RelayRegistry} (earlier : Reachable validate timeout r) (now : Time)
      (tunnelID exclude : String) : Reachable validate timeout (r.assign now tunnelID exclude).1

/-- A node that is stored under its ID leaves the nodes stored under theirs. -/
theorem Keyed.insert (keyed : r.Keyed) {id : String} (named : node.id = id) (filled : id ≠ "") :
    Keyed { r with nodes := r.nodes.insert id node } := by
  intro other found present
  rw [GoMap.lookup_insert_if] at present
  split at present
  · rename_i same
    cases present
    exact ⟨named.trans same.symm, same ▸ filled⟩
  · exact keyed other found present

theorem Reachable.keyed {validate : String → Except String Unit} {timeout : ℤ}
    (reachable : Reachable validate timeout r) : r.Keyed := by
  induction reachable with
  | new =>
      intro id node found
      cases found
  | register earlier registered ih =>
      obtain ⟨filled, named, -, stored⟩ := register_ok registered
      have inserted := ih.insert named filled
      unfold Keyed
      rw [stored]
      exact inserted
  | @heartbeat r r' now id connections node earlier beaten ih =>
      unfold RelayRegistry.heartbeat at beaten
      cases found : r.nodes.lookup id with
      | none =>
          rw [found] at beaten
          cases beaten
      | some old =>
          rw [found] at beaten
          cases beaten
          exact ih.insert (ih id old found).1 (ih id old found).2
  | call earlier call ih => exact ih.perform
  | assign earlier now tunnelID exclude ih => exact ih.assign

theorem Reachable.registerAll {validate : String → Except String Unit} {timeout : ℤ}
    (reachable : Reachable validate timeout r) (nodes : List (Time × RelayNode)) :
    Reachable validate timeout (registerAll validate r nodes) := by
  induction nodes generalizing r with
  | nil => exact reachable
  | cons entry rest ih =>
      rw [RelayRegistry.registerAll]
      cases registered : r.register validate entry.1 entry.2 with
      | error err => exact ih reachable
      | ok result => exact ih (reachable.register registered)

/-! ## What the calls come to -/

/-- `ReassignTunnel`; `began` is the registry in which it has looked up the node. -/
def reassignFrom (began r : RelayRegistry) (now : Time) (tunnelID : String) :
    RelayRegistry × Except String TunnelAssignment :=
  r.assign now tunnelID (began.assignedNode tunnelID)

/-- The tunnel is assigned to the least of the candidates, and no other tunnel is touched. -/
structure Assigned (r : RelayRegistry) (candidate : RelayNode → Prop) (tunnelID : String)
    (r' : RelayRegistry) (assignment : TunnelAssignment) : Prop where
  chosen : ∃ node, candidate node ∧ (∀ other, candidate other → node.AtMost other) ∧
    assignment = ⟨tunnelID, node.id, node.address⟩
  assigned : r'.assignments.lookup tunnelID = some assignment.nodeID
  others : ∀ other, other ≠ tunnelID → r'.assignments.lookup other = r.assignments.lookup other

/-- There is no relay, and neither an assignment nor a load has changed. -/
structure Refused (r r' : RelayRegistry) (result : Except String TunnelAssignment) : Prop where
  error : result = .error errNoHealthyRelay
  assignments : r'.assignments = r.assignments
  loads : ∀ id, (r'.nodes.lookup id).map RelayNode.connections =
    (r.nodes.lookup id).map RelayNode.connections

/-- The call assigns the tunnel to the least of the candidates, or refuses if there are none. -/
structure Chooses (r : RelayRegistry) (candidate : RelayNode → Prop) (tunnelID : String)
    (outcome : RelayRegistry × Except String TunnelAssignment) : Prop where
  assigned : ∀ assignment, outcome.2 = .ok assignment →
    Assigned r candidate tunnelID outcome.1 assignment
  refused : (∀ node, ¬ candidate node) → Refused r outcome.1 outcome.2
  succeeds : (∃ node, candidate node) → ∃ assignment, outcome.2 = .ok assignment

theorem connections_expireLocked (r : RelayRegistry) (now : Time) (id : String) :
    ((r.expireLocked now).nodes.lookup id).map RelayNode.connections =
      (r.nodes.lookup id).map RelayNode.connections := by
  obtain ⟨expire, found, same⟩ := lookup_expireLocked r now id
  rw [found, Option.map_map]
  congr 1
  funext node
  exact (same node).2

theorem chooses_assign (keyed : r.Keyed) (now : Time) (tunnelID exclude : String) :
    Chooses r (fun node => r.Eligible now node ∧ node.id ≠ exclude) tunnelID
      (r.assign now tunnelID exclude) := by
  cases picked : (r.expireLocked now).pickLocked exclude with
  | none =>
      have failed : r.assign now tunnelID exclude = (r.expireLocked now, .error errNoHealthyRelay) := by
        unfold assign
        simp only [picked]
      have nobody := (pickLocked_eq_none keyed).mp picked
      rw [failed]
      refine ⟨nofun, fun _ => ⟨rfl, rfl, connections_expireLocked r now⟩, ?_⟩
      rintro ⟨node, eligible, different⟩
      exact absurd (nobody node eligible) different
  | some node =>
      obtain ⟨candidate, least⟩ := pickLocked_eq_some keyed picked
      have result : (r.assign now tunnelID exclude).2 = .ok ⟨tunnelID, node.id, node.address⟩ := by
        unfold assign
        simp only [picked]
      refine ⟨fun assignment succeeded => ?_, fun nobody => absurd candidate (nobody node),
        fun _ => ⟨_, result⟩⟩
      rw [result] at succeeded
      obtain rfl := Except.ok.inj succeeded
      rw [assign_of_pick picked]
      refine ⟨⟨node, candidate, fun other both => least other both.1 both.2, rfl⟩,
        AList.lookup_insert _, fun other different => AList.lookup_insert_ne different⟩

/-- **The relay that is chosen is the least loaded one that is eligible**, by `AssignTunnel` among all
nodes, by `ReassignTunnel` among those that the tunnel was not assigned to. -/
theorem relay_choice {validate : String → Except String Unit} {timeout : ℤ}
    (reachable : Reachable validate timeout r) (began : RelayRegistry) (now : Time) (tunnelID : String) :
    Chooses r (r.Eligible now) tunnelID (r.assignTunnel now tunnelID) ∧
      Chooses r (fun node => r.Eligible now node ∧ node.id ≠ began.assignedNode tunnelID) tunnelID
        (reassignFrom began r now tunnelID) ∧
      ∀ assignment, (reassignFrom began r now tunnelID).2 = .ok assignment →
        began.assignments.lookup tunnelID ≠ some assignment.nodeID := by
  have keyed := reachable.keyed
  have chooses := chooses_assign keyed now tunnelID (began.assignedNode tunnelID)
  have named : r.Eligible now = fun node => r.Eligible now node ∧ node.id ≠ "" := by
    funext node
    exact propext ⟨fun eligible => ⟨eligible, (keyed node.id node eligible.1).2⟩, And.left⟩
  refine ⟨?_, chooses, fun assignment succeeded before => ?_⟩
  · rw [named]
    exact chooses_assign keyed now tunnelID ""
  · obtain ⟨node, ⟨-, different⟩, -, rfl⟩ := (chooses.assigned assignment succeeded).chosen
    refine different ?_
    rw [assignedNode, before, Option.getD_some]

/-- A tunnel that is assigned to the first relay moves to the second. -/
theorem relay_choice_reassigned :
    let began := (twoRelays.assignTunnel 10 "tunnel-1").1
    (reassignFrom began began 20 "tunnel-1").2 = .ok ⟨"tunnel-1", "relay-2", "192.0.2.11:7000"⟩ ∧
      began.assignments.lookup "tunnel-1" ≠ some "relay-2" := by
  intro began
  have reachable : Reachable (fun _ => .ok ()) 0 began :=
    .call (Reachable.new.registerAll _) (.assignTunnel 10 "tunnel-1")
  have moved : (reassignFrom began began 20 "tunnel-1").2 =
      .ok ⟨"tunnel-1", "relay-2", "192.0.2.11:7000"⟩ := by
    decide
  exact ⟨moved, (relay_choice reachable began 20 "tunnel-1").2.2 _ moved⟩

end RelayRegistry

end NryNet.Advanced

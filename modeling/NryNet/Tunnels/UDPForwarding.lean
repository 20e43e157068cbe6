import NryNet.Tunnels.UDPRuntime

/-!
# A datagram of a visitor goes to the agent once (`udpRuntime.handleVisitorPacket`)

`tryP2PUDPPacket` returns whether the datagram was sent on the direct path, and if not, the control
connection carries it.  Every failure before `WriteTo` returns `false` and a time-out returns `true`.  But
an answer that cannot be given to the visitor returns `false` as well, although the agent has the
datagram: if the tunnel was stopped or the session removed while the worker was waiting, or if the answer
cannot be written, the datagram is sent a second time.

As long as every answer comes through (`Delivers`), no datagram is handed over twice.
-/

namespace NryNet.Tunnels.UDP

open ThreadPool

/-- Every answer of a direct path reaches the visitor. -/
def Delivering (config : Config State Task) : Move Task Choice → Prop
  | .arrive _ => True
  | .run index choice => ∀ task ∈ config.threads[index]?, Delivers config.shared choice task

instance (config : Config State Task) (move : Move Task Choice) :
    Decidable (Delivering config move) := by
  unfold Delivering
  split <;> infer_instance

/-- How often a datagram was handed over. -/
def State.handedCount (s : State) (number : ℕ) : ℕ :=
  s.handed.countP (·.1 = number)

/-- A datagram was handed over, or may still be, but not both, and not before it arrived. -/
def HandedOnce (config : Config State Task) : Prop :=
  ∀ number, config.shared.handedCount number + config.total (Task.pending number) ≤
    if number < config.shared.packets then 1 else 0

section Step

variable {s' : State} {task task' : Task} {choice : Choice} {config : Config State Task} {index : ℕ}

/-- A step that hands over nothing and takes no datagram from the queue. -/
theorem HandedOnce.frame (once : HandedOnce config) (present : config.threads[index]? = some task)
    (handed : s'.handed = config.shared.handed) (packets : s'.packets = config.shared.packets)
    (pending : ∀ number, task'.pending number ≤ task.pending number) :
    HandedOnce { shared := s', threads := config.threads.set index task' ++ [] } := by
  intro number
  have bound := once number
  have fewer := pending number
  have traded := Machine.total_run (Task.pending number) s' task' [] present
  simp only [List.map_nil, List.sum_nil] at traded
  simp only [State.handedCount, handed, packets]
  unfold State.handedCount at bound
  omega

/-- A step that takes the next datagram from the queue. -/
theorem HandedOnce.receive (once : HandedOnce config) (present : config.threads[index]? = some task)
    (idle : ∀ number, task.pending number = 0) (handed : s'.handed = config.shared.handed)
    (packets : s'.packets = config.shared.packets + 1) {datagram : Datagram}
    (number : datagram.number = config.shared.packets) :
    HandedOnce
      { shared := s'
        threads := config.threads.set index (.tryP2PUDPPacket datagram) ++ [] } := by
  intro other
  have bound := once other
  have traded := Machine.total_run (Task.pending other) s' (.tryP2PUDPPacket datagram) [] present
  rw [idle] at traded
  simp only [Task.pending, number, List.map_nil, List.sum_nil] at traded
  simp only [State.handedCount, handed, packets]
  unfold State.handedCount at bound
  split at traded <;> split at bound <;> split <;> omega

/-- A step that hands over the datagram of the task. -/
theorem HandedOnce.hand (once : HandedOnce config) (present : config.threads[index]? = some task)
    {datagram : Datagram}
    (own : ∀ number, task.pending number = if datagram.number = number then 1 else 0) {path : Path}
    (handed : s'.handed = config.shared.handed ++ [(datagram.number, path)])
    (packets : s'.packets = config.shared.packets) (idle : ∀ number, task'.pending number = 0) :
    HandedOnce { shared := s', threads := config.threads.set index task' ++ [] } := by
  intro number
  have bound := once number
  have traded := Machine.total_run (Task.pending number) s' task' [] present
  rw [own, idle] at traded
  simp only [List.map_nil, List.sum_nil] at traded
  simp only [State.handedCount, handed, packets, List.countP_append, List.countP_singleton,
    decide_eq_true_eq]
  unfold State.handedCount at bound
  omega

/-- **One step hands over no datagram that was handed over before.** -/
theorem HandedOnce.step (once : HandedOnce config) (present : config.threads[index]? = some task)
    (delivers : Delivers config.shared choice task)
    (action : Action config.shared choice task s' task') :
    HandedOnce { shared := s', threads := config.threads.set index task' ++ [] } := by
  cases action with
  | start => exact once.frame present rfl rfl fun _ => Nat.le_refl _
  | create admitted found absent room fresh =>
      refine once.receive present (fun _ => rfl) ?_ ?_ ?_
      all_goals rfl
  | found keeps number =>
      refine once.receive present (fun _ => rfl) ?_ ?_ number
      all_goals rfl
  | idle cutoff found => exact once.frame present rfl rfl fun _ => Nat.le_refl _
  | clear closing found => exact once.frame present rfl rfl fun _ => Nat.le_refl _
  | remove found taken known => exact once.frame present rfl rfl fun _ => Nat.le_refl _
  | settle count closing found =>
      refine once.frame present rfl rfl fun _ => ?_
      split <;> exact Nat.le_refl _
  | begin found running => exact once.frame present rfl rfl fun _ => Nat.le_refl _
  | returned found => exact once.frame present rfl rfl fun _ => Nat.le_refl _
  | joined found returned => exact once.frame present rfl rfl fun _ => Nat.le_refl _
  | direct datagram => exact once.hand present (fun _ => rfl) rfl rfl fun _ => rfl
  | relay datagram owed idle outside => exact once.hand present (fun _ => rfl) rfl rfl idle
  | resend lost owed => exact absurd delivers lost
  | move keeps owed pending inClose => exact once.frame present rfl rfl pending

theorem HandedOnce.arrive (once : HandedOnce config) (arrives : task.arrives = true) :
    HandedOnce { config with threads := config.threads ++ [task] } := by
  intro number
  have idle : task.pending number = 0 := by
    cases task <;> first | rfl | cases arrives
  have bound := once number
  simp only [Config.total, List.map_append, List.map_singleton, List.sum_append, List.sum_singleton,
    idle, Nat.add_zero]
  exact bound

end Step

theorem handedOnce_of_delivering {config : Config State Task}
    (reached : udpTunnels.Run Delivering idleManager config) : HandedOnce config := by
  refine reached.invariant HandedOnce (fun _ => Nat.le_refl _) ?_
  rintro config next (task | ⟨index, choice⟩) once permitted moved
  · obtain ⟨arrives, rfl⟩ := Machine.exec_arrive moved
    exact once.arrive arrives
  · obtain ⟨task, s', task', spawned, present, stepped, rfl⟩ := Machine.exec_run moved
    obtain ⟨_, taken, same⟩ := Option.map_eq_some_iff.mp stepped
    cases same
    exact once.step present (permitted task present) (action_of_step taken)

/-- **A datagram is forwarded once.**  In every run in which each answer of a direct path reaches the
visitor (when the answer is there, the tunnel is registered, its runtime knows the session, and the
answer can be written): no datagram of a visitor was handed to the agent twice, and in particular none
both directly and over the control connection. -/
theorem udp_datagram_forwarded_once {config : Config State Task}
    (reached : udpTunnels.Run Delivering idleManager config) (number : ℕ) :
    config.shared.handedCount number ≤ 1 ∧
      ¬ ((number, .direct) ∈ config.shared.handed ∧ (number, .relay) ∈ config.shared.handed) := by
  have once : config.shared.handedCount number ≤ 1 := by
    have bound := handedOnce_of_delivering reached number
    split at bound <;> omega
  refine ⟨once, fun ⟨direct, relay⟩ => ?_⟩
  -- the entries of the datagram are a list of at most one element
  unfold State.handedCount at once
  rw [List.countP_eq_length_filter] at once
  have first : (number, Path.direct) ∈ config.shared.handed.filter (·.1 = number) :=
    List.mem_filter.mpr ⟨direct, decide_eq_true rfl⟩
  have second : (number, Path.relay) ∈ config.shared.handed.filter (·.1 = number) :=
    List.mem_filter.mpr ⟨relay, decide_eq_true rfl⟩
  obtain ⟨entry, single⟩ := List.length_eq_one_iff.mp
    (Nat.le_antisymm once (List.length_pos_of_mem first))
  rw [single, List.mem_singleton] at first second
  cases first.trans second.symm

/-! ## Two runs -/

/-- The tunnel is started, and a worker has the answer to its first datagram. -/
def answeredMoves : List (Move Task Choice) :=
  .arrive (.startUDP dnsTunnel) :: succeed 0 1 ++
    .arrive (.handleVisitorPacket 0 ⟨"203.0.113.7", 40000, ""⟩) :: succeed 1 6

/-- The tunnel is stopped before the answer is passed on. -/
theorem datagram_sent_twice :
    ∃ config, udpTunnels.Run (fun _ _ => True) idleManager config ∧
      config.shared.handed = [(0, .direct), (0, .relay)] := by
  refine Machine.exists_run_of_replay
    (answeredMoves ++ .arrive (.stop "tunnel-1") :: succeed 2 1 ++ succeed 1 2) ?_
  decide +kernel

/-- The answer reaches the visitor. -/
theorem udp_datagram_forwarded_once_answered :
    ∃ config, udpTunnels.Run Delivering idleManager config ∧
      config.shared.handed = [(0, .direct)] ∧ config.shared.handedCount 0 ≤ 1 := by
  obtain ⟨config, reached, handed⟩ :
      ∃ config, udpTunnels.Run Delivering idleManager config ∧
        config.shared.handed = [(0, .direct)] := by
    refine Machine.exists_run_of_replay (answeredMoves ++ succeed 1 3) ?_
    decide +kernel
  exact ⟨config, reached, handed, (udp_datagram_forwarded_once reached 0).1⟩

end NryNet.Tunnels.UDP

import NryNet.Tunnels.Resources

/-!
# A stopped tunnel serves nobody

The operations on tunnels are called one after the other here (`OneAtATime`).  When `stop` returns
without an error, whatever was opened for the tunnel should be closed.

`stop` forgets everything the maps hold for the tunnel, but it closes one thing only, and
`bindRelayTunnel` forgets the binding that was there before.  So the code does what it should exactly
as long as a binding is never put in the place of another one, and `stop` never finds more than one
thing (`Single`).  That a tunnel has both a listener and a binding takes no more than starting it
twice, with a relay node registering in between.

A resource whose `Close` has failed is out of the picture: the manager has let go of it, and only
listens and binds fail on the runs in question.
-/

namespace NryNet.Tunnels

open ThreadPool Advanced

/-- An operation is called when those before it have returned. -/
def OneAtATime (config : Config Manager Task) : Move Task Choice → Prop
  | .arrive _ => ∀ task ∈ config.threads, task.isReturned = true
  | .run _ _ => True

instance (config : Config Manager Task) (move : Move Task Choice) :
    Decidable (OneAtATime config move) := by
  unfold OneAtATime
  split <;> infer_instance

/-- A binding is not put in the place of another one, and `stop` finds one thing at most. -/
def Single (config : Config Manager Task) : Task → Prop
  | .bound tunnel _ _ => config.shared.relayBinds.lookup tunnel.id = none
  | .stop id _ => (config.shared.taken id).all.length ≤ 1
  | _ => True

instance (config : Config Manager Task) (task : Task) : Decidable (Single config task) := by
  unfold Single
  split <;> infer_instance

/-- One after the other, with nothing overwritten and nothing forgotten. -/
def Orderly (config : Config Manager Task) (move : Move Task Choice) : Prop :=
  OneAtATime config move ∧ Machine.AtStep Single config move

instance (config : Config Manager Task) (move : Move Task Choice) :
    Decidable (Orderly config move) :=
  inferInstanceAs (Decidable (_ ∧ _))

/-! ## Where everything is -/

/-- `Close` was called on the resource, the maps have it, or somebody has it in his hands. -/
def Kept (m : Manager) (held : Option Resource) (resource : Resource) : Prop :=
  resource ∈ m.closes.map Prod.fst ∨ resource ∈ (m.taken resource.tunnelID).all ∨
    held = some resource

/-- From the critical section of `stop` on, the maps have nothing for its tunnel. -/
def Task.Cleared (m : Manager) (task : Task) : Prop :=
  ∀ id ∈ task.stopping, m.taken id = ⟨none, none, none⟩

section Actions

variable {m m' : Manager} {task task' : Task} {choice : Choice}

theorem Task.Free.cleared (free : task.Free) : task.Cleared m := by
  intro id member
  rw [free.stopping] at member
  cases member

theorem taken_withoutTunnel (m : Manager) (id other : String) :
    (m.withoutTunnel id).taken other = if other = id then ⟨none, none, none⟩ else m.taken other := by
  unfold Manager.taken Manager.withoutTunnel
  simp only [GoMap.lookup_erase_if]
  split <;> rfl

/-- **One action** of a `stop` that nobody gets in the way of. -/
theorem cleared_of_action (action : Action m task choice m' task') (cleared : task.Cleared m) :
    task'.Cleared m' := by
  cases action with
  | take id caller choice =>
      intro other member
      cases member
      rw [taken_withoutTunnel, if_pos rfl]
  | stopRelease id taken caller choice removed => exact cleared
  | nothingToClose caller choice nothing => exact cleared
  | stopClose caller choice found => exact cleared
  | getStart now found => exact (free_start _).cleared
  | listening caller choice present => exact (free_resume caller).cleared
  | listen caller now absent => exact (free_resume caller).cleared
  | listenFails caller cause message absent => exact (free_resume caller).cleared
  | runningUDP caller choice present => exact (free_resume caller).cleared
  | listenUDP caller now absent => exact (free_resume caller).cleared
  | listenUDPFails caller message absent => exact (free_resume caller).cleared
  | release tunnel caller choice removed => exact (free_fail caller).cleared
  | put tunnel binding caller choice => exact (free_succeed caller).cleared
  | releaseReassigned tunnel choice removed => exact (free_start _).cleared
  | releaseItem item rest choice removed => exact (free_start _).cleared
  | _ => exact fun _ member => by cases member

/-- What is closed stays on record. -/
theorem Kept.close {closed resource : Resource} {err : Option String}
    (kept : Kept m (some closed) resource) : Kept (m.close closed err) none resource := by
  have record : (m.close closed err).closes.map Prod.fst = m.closes.map Prod.fst ++ [closed] := by
    unfold Manager.close
    rw [List.map_append, List.map_singleton]
  rcases kept with old | present | held
  · refine Or.inl ?_
    rw [record]
    exact List.mem_append_left _ old
  · exact Or.inr (Or.inl present)
  · cases held
    refine Or.inl ?_
    rw [record]
    exact List.mem_append_right _ List.mem_cons_self

/-- What was opened just now is in a map or in the hands of the goroutine. -/
theorem opened_of_action (action : Action m task choice m' task') {resource : Resource}
    (opened : resource ∈ m'.opened) :
    resource ∈ m.opened ∨ Kept m' task'.held resource := by
  cases action with
  | @listen tunnel caller now absent =>
      rcases List.mem_append.mp opened with old | new
      · exact Or.inl old
      · rw [List.mem_singleton.mp new]
        refine Or.inr (Or.inr (Or.inl (mem_taken_all.mpr (Or.inl ?_))))
        exact AList.lookup_insert _
  | @listenUDP tunnel caller now absent =>
      rcases List.mem_append.mp opened with old | new
      · exact Or.inl old
      · rw [List.mem_singleton.mp new]
        refine Or.inr (Or.inr (Or.inl (mem_taken_all.mpr (Or.inr (Or.inl ?_)))))
        exact AList.lookup_insert _
  | bind tunnel assignment caller now =>
      rcases List.mem_append.mp opened with old | new
      · exact Or.inl old
      · rw [List.mem_singleton.mp new]
        exact Or.inr (Or.inr (Or.inr rfl))
  | _ => exact Or.inl opened

/-- **No action loses track of a resource**, if it is one of a single one. -/
theorem kept_of_action (action : Action m task choice m' task')
    (typed : task.Typed m.opened.length)
    (absent : ∀ tunnel binding caller, task = .bound tunnel binding caller →
      m.relayBinds.lookup tunnel.id = none)
    (single : ∀ id caller, task = .stop id caller → (m.taken id).all.length ≤ 1)
    {resource : Resource} (kept : Kept m task.held resource) : Kept m' task'.held resource := by
  have free {task : Task} (empty : task.held = none) (kept : Kept m' none resource) :
      Kept m' task.held resource := by
    rw [empty]
    exact kept
  -- what is in a map is followed there, from `mem_taken_all` to `stored`
  have stored (found : m'.listeners.lookup resource.tunnelID = some resource ∨
        m'.udpRuntimes.lookup resource.tunnelID = some resource ∨
        m'.relayBinds.lookup resource.tunnelID = some resource) {held : Option Resource} :
      Kept m' held resource := Or.inr (Or.inl (mem_taken_all.mpr found))
  cases action with
  | @listen tunnel caller now missing =>
      refine free (free_resume caller).held ?_
      rcases kept with closed | present | held
      · exact Or.inl closed
      · rcases mem_taken_all.mp present with listener | udp | binding
        · exact stored (Or.inl (GoMap.lookup_insert_of_absent missing listener))
        · exact stored (Or.inr (Or.inl udp))
        · exact stored (Or.inr (Or.inr binding))
      · cases held
  | @listenUDP tunnel caller now missing =>
      refine free (free_resume caller).held ?_
      rcases kept with closed | present | held
      · exact Or.inl closed
      · rcases mem_taken_all.mp present with listener | udp | binding
        · exact stored (Or.inl listener)
        · exact stored (Or.inr (Or.inl (GoMap.lookup_insert_of_absent missing udp)))
        · exact stored (Or.inr (Or.inr binding))
      · cases held
  | put tunnel binding caller choice =>
      refine free (free_succeed caller).held ?_
      have missing := absent tunnel binding caller rfl
      rcases kept with closed | present | held
      · exact Or.inl closed
      · rcases mem_taken_all.mp present with listener | udp | old
        · exact stored (Or.inl listener)
        · exact stored (Or.inr (Or.inl udp))
        · exact stored (Or.inr (Or.inr (GoMap.lookup_insert_of_absent missing old)))
      · cases held
        refine stored (Or.inr (Or.inr ?_))
        rw [Resource.Fits.own typed]
        exact AList.lookup_insert _
  | take id caller choice =>
      rcases kept with closed | present | held
      · exact Or.inl closed
      · -- `stop` forgets all three maps but closes one thing, so there must not be two
        by_cases own : resource.tunnelID = id
        · rw [own] at present
          exact Or.inr (Or.inr (Taken.toClose_of_single (single id caller rfl) present))
        · refine Or.inr (Or.inl ?_)
          rw [taken_withoutTunnel, if_neg own]
          exact present
      · cases held
  | nothingToClose caller choice nothing =>
      rcases kept with closed | present | held
      · exact Or.inl closed
      · exact Or.inr (Or.inl present)
      · cases nothing.symm.trans held
  | stopClose caller choice found =>
      refine Kept.close ?_
      rw [← found]
      exact kept
  | @takeBinding tunnel binding choice found =>
      rcases kept with closed | present | held
      · exact Or.inl closed
      · rcases mem_taken_all.mp present with listener | udp | old
        · exact stored (Or.inl listener)
        · exact stored (Or.inr (Or.inl udp))
        · rcases GoMap.lookup_erase_or found old with kept | ⟨-, taken⟩
          · exact stored (Or.inr (Or.inr kept))
          · exact Or.inr (Or.inr (congrArg some taken))
      · cases held
  | closeBinding tunnel binding choice => exact Kept.close kept
  | @takeListener item listener rest choice found =>
      rcases kept with closed | present | held
      · exact Or.inl closed
      · rcases mem_taken_all.mp present with old | udp | binding
        · rcases GoMap.lookup_erase_or found old with kept | ⟨-, taken⟩
          · exact stored (Or.inl kept)
          · exact Or.inr (Or.inr (congrArg some taken))
        · exact stored (Or.inr (Or.inl udp))
        · exact stored (Or.inr (Or.inr binding))
      · cases held
  | closeListener item listener rest choice => exact Kept.close kept
  | getStart now found => exact free (free_start _).held kept
  | listening caller choice present => exact free (free_resume caller).held kept
  | listenFails caller cause message absent => exact free (free_resume caller).held kept
  | runningUDP caller choice present => exact free (free_resume caller).held kept
  | listenUDPFails caller message absent => exact free (free_resume caller).held kept
  | release tunnel caller choice removed => exact free (free_fail caller).held kept
  | releaseReassigned tunnel choice removed => exact free (free_start _).held kept
  | releaseItem item rest choice removed => exact free (free_start _).held kept
  | bind tunnel assignment caller now =>
      rcases kept with closed | present | held
      · exact Or.inl closed
      · exact Or.inr (Or.inl present)
      · cases held
  | leave err entry same =>
      rw [(free_of_entry entry).held] at kept
      exact kept
  | _ => exact kept

end Actions

/-! ## Runs -/

/-- The invariant of operations that are called one after the other. -/
structure Accounted (config : Config Manager Task) : Prop where
  alone : ∀ (i j : ℕ) task other, config.threads[i]? = some task → config.threads[j]? = some other →
    i ≠ j → task.isReturned = true ∨ other.isReturned = true
  cleared : ∀ task ∈ config.threads, task.Cleared config.shared
  kept : ∀ resource ∈ config.shared.opened, Kept config.shared none resource ∨
    ∃ task ∈ config.threads, task.held = some resource

section Runs

variable {config : Config Manager Task} {index : ℕ} {task task' : Task} {choice : Choice}
  {m' : Manager}

/-- All but the goroutine that is running have returned. -/
theorem Accounted.others (accounted : Accounted config)
    (present : config.threads[index]? = some task) (running : task.isReturned = false) {j : ℕ}
    {other : Task} (located : config.threads[j]? = some other) (apart : j ≠ index) :
    other.isReturned = true := by
  rcases accounted.alone j index other task located present apart with returned | returned
  · exact returned
  · rw [running] at returned
    cases returned

/-- The same after a step. -/
theorem Accounted.mem_set (accounted : Accounted config)
    (present : config.threads[index]? = some task) (running : task.isReturned = false)
    {other : Task} (member : other ∈ config.threads.set index task') :
    other = task' ∨ other.isReturned = true := by
  obtain ⟨j, located⟩ := List.mem_iff_getElem?.mp member
  by_cases own : index = j
  · subst own
    have bound : index < config.threads.length := (List.getElem?_eq_some_iff.mp present).1
    rw [List.getElem?_set_self bound] at located
    exact Or.inl (Option.some.inj located).symm
  · rw [List.getElem?_set_ne own] at located
    exact Or.inr (accounted.others present running located (Ne.symm own))

/-- Whatever was opened is kept by the goroutine that is running. -/
theorem Accounted.kept_running (accounted : Accounted config)
    (present : config.threads[index]? = some task) (running : task.isReturned = false)
    {resource : Resource} (opened : resource ∈ config.shared.opened) :
    Kept config.shared task.held resource := by
  rcases accounted.kept resource opened with (closed | stored | held) | ⟨holder, member, held⟩
  · exact Or.inl closed
  · exact Or.inr (Or.inl stored)
  · cases held
  · obtain ⟨j, located⟩ := List.mem_iff_getElem?.mp member
    by_cases own : j = index
    · subst own
      rw [located] at present
      cases present
      exact Or.inr (Or.inr held)
    · have returned := accounted.others present running located own
      rw [(free_of_returned returned).held] at held
      cases held

/-- **One step** keeps the invariant, if nothing is overwritten and `stop` finds one thing. -/
theorem Accounted.step (accounted : Accounted config)
    (present : config.threads[index]? = some task) (single : Single config task)
    (typed : task.Typed config.shared.opened.length)
    (action : Action config.shared task choice m' task') :
    Accounted { shared := m', threads := config.threads.set index task' } := by
  have running := not_returned_of_action action
  have bound : index < config.threads.length := (List.getElem?_eq_some_iff.mp present).1
  refine ⟨?_, ?_, ?_⟩
  · intro i j first second located located' apart
    by_cases left : i = index
    · have old : config.threads[j]? = some second := by
        rw [← List.getElem?_set_ne (fun same => apart (left.trans same))]
        exact located'
      exact Or.inr (accounted.others present running old fun same => apart (left.trans same.symm))
    · have old : config.threads[i]? = some first := by
        rw [← List.getElem?_set_ne (Ne.symm left)]
        exact located
      exact Or.inl (accounted.others present running old left)
  · intro other member
    rcases accounted.mem_set present running member with rfl | returned
    · exact cleared_of_action action (accounted.cleared task (List.mem_of_getElem? present))
    · exact (free_of_returned returned).cleared
  · intro resource opened
    have kept : Kept m' task'.held resource := by
      rcases opened_of_action action opened with old | new
      · refine kept_of_action action typed ?_ ?_ (accounted.kept_running present running old)
        · rintro tunnel binding caller rfl
          exact single
        · rintro id caller rfl
          exact single
      · exact new
    rcases kept with closed | stored | held
    · exact Or.inl (Or.inl closed)
    · exact Or.inl (Or.inr (Or.inl stored))
    · refine Or.inr ⟨task', List.mem_iff_getElem?.mpr ⟨index, ?_⟩, held⟩
      rw [List.getElem?_set_self bound]

/-- An operation that is called when the others have returned. -/
theorem Accounted.arrive (accounted : Accounted config) (entry : task.entry = true)
    (returned : ∀ other ∈ config.threads, other.isReturned = true) :
    Accounted { config with threads := config.threads ++ [task] } := by
  refine ⟨?_, ?_, ?_⟩
  · intro i j first second located located' apart
    -- at most one of the two is the new one, which comes last
    by_cases left : i < config.threads.length
    · rw [List.getElem?_append_left left] at located
      exact Or.inl (returned first (List.mem_of_getElem? located))
    · have right : j < config.threads.length := by
        have first' := (List.getElem?_eq_some_iff.mp located).1
        have second' := (List.getElem?_eq_some_iff.mp located').1
        rw [List.length_append, List.length_singleton] at first' second'
        omega
      rw [List.getElem?_append_left right] at located'
      exact Or.inr (returned second (List.mem_of_getElem? located'))
  · intro other member
    rcases List.mem_append.mp member with old | new
    · exact accounted.cleared other old
    · rw [List.mem_singleton.mp new]
      exact (free_of_entry entry).cleared
  · intro resource opened
    rcases accounted.kept resource opened with kept | ⟨holder, member, held⟩
    · exact Or.inl kept
    · exact Or.inr ⟨holder, List.mem_append_left _ member, held⟩

variable {store : Store} {registry : Option RelayRegistry} {binder : Bool}

/-- The invariant holds along every orderly run. -/
theorem accounted_of_orderly (reached : tunnels.Run Orderly (idle store registry binder) config) :
    Accounted config := by
  induction reached with
  | refl =>
      exact ⟨fun i j first second located => (by cases located),
        fun task member => (by cases member), fun resource opened => (by cases opened)⟩
  | @step config next move before permitted moved accounted =>
      obtain ⟨serial, single⟩ := permitted
      cases move with
      | arrive task =>
          obtain ⟨entry, rfl⟩ := Machine.exec_arrive moved
          exact accounted.arrive entry serial
      | run index choice =>
          obtain ⟨task, m', task', spawned, present, stepped, rfl⟩ := Machine.exec_run moved
          obtain ⟨action, rfl⟩ := action_of_step stepped
          have typed := (tables_of_run (tables_newManager store registry binder) before).2 task
            (List.mem_of_getElem? present)
          rw [List.append_nil]
          exact accounted.step present (single task present) typed action

/-- A call of `Close` stays on record. -/
theorem closes_of_reachable {later : Config Manager Task} (reached : tunnels.Reachable config later)
    {call : Resource × Option String} (recorded : call ∈ config.shared.closes) :
    call ∈ later.shared.closes := by
  refine reached.invariant (fun later => call ∈ later.shared.closes) recorded ?_
  rintro config next (task | ⟨index, choice⟩) member - moved
  · obtain ⟨-, rfl⟩ := Machine.exec_arrive moved
    exact member
  · obtain ⟨task, m', task', spawned, -, stepped, rfl⟩ := Machine.exec_run moved
    exact closes_of_action (action_of_step stepped).1 call member

/-- **A stopped tunnel serves nobody.**  In every run of operations that are called one after the
other, in which a binding never takes the place of another one and `stop` never finds more than one
thing in the maps: after `stop` has returned without an error, everything that was ever opened for
the tunnel is closed, unless its own `Close` has failed. -/
theorem stopped_tunnel_serves_nobody {later : Config Manager Task} {id : String}
    {caller : StopCaller} {resource : Resource}
    (reached : tunnels.Run Orderly (idle store registry binder) config)
    (returned : .stopped id none caller ∈ config.threads)
    (opened : resource ∈ config.shared.opened) (own : resource.tunnelID = id)
    (closable : ∀ message, (resource, some message) ∉ config.shared.closes)
    (after : tunnels.Reachable config later) : (resource, none) ∈ later.shared.closes := by
  have accounted := accounted_of_orderly reached
  obtain ⟨index, present⟩ := List.mem_iff_getElem?.mp returned
  have empty := accounted.cleared _ returned id rfl
  refine closes_of_reachable after ?_
  rcases accounted.kept_running present rfl opened with closed | stored | held
  · obtain ⟨⟨closed, err⟩, member, rfl⟩ := List.mem_map.mp closed
    cases err with
    | none => exact member
    | some message => exact absurd member (closable message)
  · rw [own, empty] at stored
    cases stored
  · cases held

end Runs

/-! ## Runs of one tunnel -/

/-- The tunnel is started while no relay node is there, as goroutine 0. -/
def startMoves : List (Move Task Choice) :=
  .arrive (.startTunnel "tunnel-1") :: succeeds 0 5

/-- The tunnel is started twice, with a relay node registering in between.  It has both a listener
and a binding, and `stop` closes the binding. -/
theorem listener_survives_stop :
    ∃ config, tunnels.Run OneAtATime (idle tunnelStore (some (.newRelayRegistry 0)) true) config ∧
      .stopped "tunnel-1" none (.stopTunnel "client-1") ∈ config.threads ∧
      ⟨0, "tunnel-1", .listener⟩ ∈ config.shared.opened ∧
      ⟨0, "tunnel-1", .listener⟩ ∉ config.shared.closes.map Prod.fst := by
  refine Machine.exists_run_of_replay
    (startMoves ++ .arrive (.register (relayNode "relay-1") none) :: succeeds 1 1 ++
      .arrive (.startTunnel "tunnel-1") :: succeeds 2 6 ++
      .arrive (.stopTunnel "tunnel-1") :: succeeds 3 4) ?_
  decide +kernel

/-- A tunnel that was started once: its listener is closed. -/
theorem stopped_tunnel_serves_nobody_started :
    ∃ config, tunnels.Run Orderly (idle tunnelStore (some (.newRelayRegistry 0)) true) config ∧
      ⟨0, "tunnel-1", .listener⟩ ∈ config.shared.opened ∧
      (⟨0, "tunnel-1", .listener⟩, none) ∈ config.shared.closes := by
  obtain ⟨config, reached, returned, opened, closable⟩ :
      ∃ config, tunnels.Run Orderly (idle tunnelStore (some (.newRelayRegistry 0)) true) config ∧
        .stopped "tunnel-1" none (.stopTunnel "client-1") ∈ config.threads ∧
        ⟨0, "tunnel-1", .listener⟩ ∈ config.shared.opened ∧
        ∀ call ∈ config.shared.closes, call.2 = none := by
    refine Machine.exists_run_of_replay
      (startMoves ++ .arrive (.stopTunnel "tunnel-1") :: succeeds 1 4) ?_
    decide +kernel
  refine ⟨config, reached, opened, ?_⟩
  refine stopped_tunnel_serves_nobody reached returned opened rfl ?_ .refl
  intro message failed
  cases closable _ failed

end NryNet.Tunnels

import NryNet.Tunnels.StoppedTunnel

/-!
# Running means served

The status of a tunnel in the store, its listener, its binding and its assignment are written at
different times by operations that may overlap.  When none of them is in progress, the status should
be `running` exactly if the manager has a listener for the tunnel, or a binding together with an
assignment.

It takes two things.  The first is that the operations take turns on the tunnel (`InTurn`), as there
is no lock over a whole operation: from its first action on the tunnel to its last one (`Task.acting`)
no other one begins.  Reading the store and looking up assignments does not count, and other tunnels
do not matter.

The second is that the operation does not take one of the branches that leave the tunnel in a state
its status does not tell (`Harmless`):

* `StartTunnel` of a tunnel that a relay node serves finds no healthy node and cannot listen: the
  status becomes `error`, and the binding and the assignment stay;
* `ReassignRelayTunnel` serves a tunnel that is not running;
* `ReassignRelayTunnel` closes the binding and then cannot bind the next one;
* it, or `AssignAvailableRelayTunnels`, falls back to a listener of the server and cannot listen;
* the `Close` of a `StopTunnel` fails, after everything has been taken out of the maps.
-/

namespace NryNet.Tunnels

open ThreadPool Advanced

/-! ## What the theorem is about -/

/-- The status of the tunnel in the store is `running`. -/
def Manager.running (m : Manager) (id : String) : Bool :=
  (Table.select m.store.tunnels Tunnel.id id).any fun tunnel => tunnel.status = .running

/-- Nobody has called `Close` on the resource. -/
def Manager.Live (m : Manager) (resource : Resource) : Prop :=
  resource ∉ m.closes.map Prod.fst

/-- The manager has a live listener for the tunnel, or a live binding together with an assignment. -/
def Manager.Served (m : Manager) (id : String) : Prop :=
  (∃ listener, m.listeners.lookup id = some listener ∧ m.Live listener) ∨
  ∃ binding, m.relayBinds.lookup id = some binding ∧ m.Live binding ∧ m.assigned id = true

/-- The tunnel is in the store, as a `tcp` tunnel. -/
structure IsTCP (store : Store) (id : String) : Prop where
  present : ∃ tunnel ∈ store.tunnels, tunnel.id = id
  protocol : ∀ tunnel ∈ store.tunnels, tunnel.id = id → tunnel.protocol = "tcp"

/-! ## The condition -/

/-- The tunnel an operation is in the middle of, from its first action on it to its last one. -/
def Task.acting : Task → Option String
  | .tryRelayStart tunnel .reassignRelayTunnel | .tryRelayStart tunnel (.assignAvailable _) =>
      some tunnel.id
  | .startTCPListener tunnel _ | .startUDP tunnel _ | .bindRelayTunnel tunnel _ _
  | .unbound tunnel _ | .bound tunnel _ _ | .setRunning tunnel | .setError tunnel _
  | .closeBinding tunnel _ | .reassignTunnel tunnel | .reassign tunnel _
  | .releaseReassigned tunnel | .closeListener tunnel _ _ | .assignItem tunnel _
  | .releaseItem tunnel _ => some tunnel.id
  | .stop id (.startTunnel _) | .stopRelease id _ _ | .stopClose id _ _ | .stopped id _ _ => some id
  | _ => none

/-- The tunnel an operation is about to begin with. -/
def Manager.begins (m : Manager) : Task → Option String
  | .tryRelayStart tunnel .startTunnel => some tunnel.id
  | .stop id (.stopTunnel _) => some id
  | .closeRelayBinding tunnel => some tunnel.id
  | .closeLocalListener item _ =>
      if m.listeners.lookup item.id = none then none else some item.id
  | _ => none

/-- An operation begins with the tunnel when no other one is in the middle of it. -/
def InTurn (id : String) (config : Config Manager Task) (task : Task) : Prop :=
  config.shared.begins task = some id → ∀ other ∈ config.threads, other.acting ≠ some id

instance (id : String) (config : Config Manager Task) (task : Task) :
    Decidable (InTurn id config task) :=
  inferInstanceAs (Decidable (_ → _))

/-- The goroutine is about to write a status. -/
def Task.writes : Task → Bool
  | .setRunning _ | .setError _ _ | .stopped _ none (.stopTunnel _) => true
  | _ => false

/-- The store accepts every status. -/
def StoreAccepts (config : Config Manager Task) : Move Task Choice → Prop
  | .arrive _ => True
  | .run index choice => ∀ task ∈ config.threads[index]?, task.writes = true → choice.err = none

instance (config : Config Manager Task) (move : Move Task Choice) :
    Decidable (StoreAccepts config move) :=
  match move with
  | .arrive _ => inferInstanceAs (Decidable True)
  | .run index choice => inferInstanceAs (Decidable
      (∀ task ∈ config.threads[index]?, task.writes = true → choice.err = none))

/-- The branches that leave the tunnel in a state its status does not tell are not taken. -/
def Harmless (id : String) (m : Manager) : Task → Choice → Prop
  | .startTCPListener tunnel .startTunnel, .failed _ =>
      tunnel.id = id → m.listeners.lookup id = none →
        m.relayBinds.lookup id = none ∨ m.assigned id = false
  | .startTCPListener tunnel .reassignRelayTunnel, .go _ =>
      tunnel.id = id → m.listeners.lookup id = none → m.running id = true
  | .startTCPListener tunnel .reassignRelayTunnel, .failed _
  | .startTCPListener tunnel (.assignAvailable _), .failed _ =>
      tunnel.id = id → m.listeners.lookup id = none → m.running id = false
  | .bound tunnel _ .reassignRelayTunnel, _
  | .bound tunnel _ (.tryRelayStart .reassignRelayTunnel), _ =>
      tunnel.id = id → m.running id = true
  | .unbound tunnel .reassignRelayTunnel, _ =>
      tunnel.id = id → m.running id = true → m.listeners.lookup id ≠ none
  | .stopClose other taken (.stopTunnel _), .failed _ =>
      other = id → taken.toClose ≠ none → m.running id = false
  | _, _ => True

instance (id : String) (m : Manager) (task : Task) (choice : Choice) :
    Decidable (Harmless id m task choice) := by
  unfold Harmless
  split <;> infer_instance

/-- The operations take turns on the tunnel, and no branch is taken that leaves the tunnel in a state
its status does not tell. -/
def Careful (id : String) (config : Config Manager Task) : Move Task Choice → Prop
  | .arrive _ => True
  | .run index choice => ∀ task ∈ config.threads[index]?,
      InTurn id config task ∧ Harmless id config.shared task choice

instance (id : String) (config : Config Manager Task) (move : Move Task Choice) :
    Decidable (Careful id config move) :=
  match move with
  | .arrive _ => inferInstanceAs (Decidable True)
  | .run index choice => inferInstanceAs (Decidable (∀ task ∈ config.threads[index]?,
      InTurn id config task ∧ Harmless id config.shared task choice))

/-- The runs in question. -/
def CarefulRun (id : String) (config : Config Manager Task) (move : Move Task Choice) : Prop :=
  StoreAccepts config move ∧ Careful id config move

instance (id : String) (config : Config Manager Task) (move : Move Task Choice) :
    Decidable (CarefulRun id config move) :=
  inferInstanceAs (Decidable (_ ∧ _))

/-! ## What the goroutines know of the tunnel -/

/-- The tunnels a goroutine has read from the store. -/
def StartCaller.pending : StartCaller → List Tunnel
  | .assignAvailable rest => rest
  | _ => []

@[inherit_doc StartCaller.pending]
def BindCaller.pending : BindCaller → List Tunnel
  | .tryRelayStart caller => caller.pending
  | .reassignRelayTunnel => []
  | .assignAvailable rest => rest

@[inherit_doc StartCaller.pending]
def Task.pending : Task → List Tunnel
  | .tryRelayStart tunnel caller | .startTCPListener tunnel caller | .startUDP tunnel caller =>
      tunnel :: caller.pending
  | .bindRelayTunnel tunnel _ caller | .unbound tunnel caller | .bound tunnel _ caller =>
      tunnel :: caller.pending
  | .setRunning tunnel | .setError tunnel _ | .closeRelayBinding tunnel | .closeBinding tunnel _
  | .reassignTunnel tunnel | .reassign tunnel _ | .releaseReassigned tunnel => [tunnel]
  | .assignAvailable items => items
  | .closeLocalListener item rest | .closeListener item _ rest | .assignItem item rest
  | .releaseItem item rest => item :: rest
  | _ => []

section Facts

variable {m m' : Manager} {task task' : Task} {choice : Choice} {id : String} {tunnel : Tunnel}

theorem pending_resume {err : Option String} (caller : StartCaller) :
    ∀ item ∈ (caller.resume tunnel err).pending, item = tunnel ∨ item ∈ caller.pending := by
  cases caller with
  | startTunnel =>
      cases err <;>
        · intro item member
          exact Or.inl (List.mem_singleton.mp member)
  | reassignRelayTunnel =>
      intro item member
      cases member
  | assignAvailable rest => exact fun item member => Or.inr member

theorem pending_succeed (caller : BindCaller) :
    ∀ item ∈ (caller.succeed tunnel).pending, item = tunnel ∨ item ∈ caller.pending := by
  cases caller with
  | tryRelayStart caller =>
      unfold BindCaller.succeed
      exact pending_resume caller
  | reassignRelayTunnel =>
      intro item member
      cases member
  | assignAvailable rest => exact fun item member => Or.inr member

theorem pending_fail (caller : BindCaller) :
    ∀ item ∈ (caller.fail tunnel).pending, item = tunnel ∨ item ∈ caller.pending := by
  cases caller with
  | tryRelayStart caller => exact fun item member => List.mem_cons.mp member
  | reassignRelayTunnel =>
      intro item member
      cases member
  | assignAvailable rest => exact fun item member => List.mem_cons.mp member

theorem pending_start (caller : StartCaller) :
    ∀ item ∈ (start tunnel caller).pending, item = tunnel ∨ item ∈ caller.pending := by
  unfold start
  repeat' split
  all_goals first
    | exact pending_resume caller
    | exact fun item member => List.mem_cons.mp member

theorem mem_of_getTunnel {store : Store} (found : store.getTunnel id = .ok tunnel) :
    tunnel ∈ store.tunnels := by
  unfold Store.getTunnel at found
  cases h : Table.select store.tunnels Tunnel.id id with
  | none =>
      rw [h] at found
      cases found
  | some row =>
      rw [h] at found
      cases found
      exact List.mem_of_find?_eq_some h

/-- A goroutine works with tunnels it has read from the store. -/
theorem pending_of_action (action : Action m task choice m' task') :
    ∀ item ∈ task'.pending, item ∈ task.pending ∨ item ∈ m.store.tunnels := by
  intro item member
  cases action with
  | getStart now found =>
      rcases pending_start _ item member with rfl | none
      · exact Or.inr (mem_of_getTunnel found)
      · cases none
  | getReassign now found =>
      rw [List.mem_singleton.mp member]
      exact Or.inr (mem_of_getTunnel found)
  | list now => exact Or.inr (Table.mem_selectAll.mp member).1
  | listening caller choice present =>
      exact Or.inl (List.mem_cons.mpr (pending_resume caller item member))
  | listen caller now absent =>
      exact Or.inl (List.mem_cons.mpr (pending_resume caller item member))
  | listenFails caller cause message absent =>
      exact Or.inl (List.mem_cons.mpr (pending_resume caller item member))
  | runningUDP caller choice present =>
      exact Or.inl (List.mem_cons.mpr (pending_resume caller item member))
  | listenUDP caller now absent =>
      exact Or.inl (List.mem_cons.mpr (pending_resume caller item member))
  | listenUDPFails caller message absent =>
      exact Or.inl (List.mem_cons.mpr (pending_resume caller item member))
  | release tunnel caller choice removed =>
      exact Or.inl (List.mem_cons.mpr (pending_fail caller item member))
  | put tunnel binding caller choice =>
      exact Or.inl (List.mem_cons.mpr (pending_succeed caller item member))
  | releaseReassigned tunnel choice removed =>
      exact Or.inl (List.mem_cons.mpr (pending_start .reassignRelayTunnel item member))
  | releaseItem head rest choice removed =>
      exact Or.inl (List.mem_cons.mpr (pending_start (.assignAvailable rest) item member))
  | skipItem head rest now same => exact Or.inl (List.mem_cons_of_mem head member)
  | @noListener head rest choice absent => exact Or.inl (List.mem_cons_of_mem head member)
  | _ => first
    | exact Or.inl member
    | cases member

/-- What follows a status being written. -/
theorem tunnels_of_setTunnelStatus {store store' : Store} {other : String} {status : TunnelStatus}
    {now : Time} (written : store.setTunnelStatus other status now = .ok store') :
    store'.tunnels = Table.update store.tunnels (fun tunnel => tunnel.id == other)
      fun tunnel => { tunnel with status := status, updatedAt := now } := by
  unfold Store.setTunnelStatus at written
  split at written
  · cases written
    rfl
  · cases written

theorem IsTCP.setTunnelStatus {store store' : Store} {other : String} {status : TunnelStatus}
    {now : Time} (tcp : IsTCP store id)
    (written : store.setTunnelStatus other status now = .ok store') : IsTCP store' id := by
  have rows := tunnels_of_setTunnelStatus written
  constructor
  · obtain ⟨row, member, own⟩ := tcp.present
    rw [rows]
    refine ⟨_, Table.mem_update.mpr ⟨row, member, rfl⟩, ?_⟩
    split <;> exact own
  · rw [rows]
    intro row member own
    obtain ⟨old, present, rfl⟩ := Table.mem_update.mp member
    by_cases hit : (old.id == other) = true
    · rw [if_pos hit] at own ⊢
      exact tcp.protocol old present own
    · rw [if_neg hit] at own ⊢
      exact tcp.protocol old present own

theorem IsTCP.action (tcp : IsTCP m.store id) (action : Action m task choice m' task') :
    IsTCP m'.store id := by
  cases action with
  | setRunning written => exact tcp.setTunnelStatus written
  | setError message written => exact tcp.setTunnelStatus written
  | setStopped clientID written => exact tcp.setTunnelStatus written
  | _ => exact tcp

/-- Writing a status sets it for the tunnel and for no other one. -/
theorem running_setTunnelStatus {store : Store} {other : String} {status : TunnelStatus}
    {now : Time} (written : m.store.setTunnelStatus other status now = .ok store) (id : String) :
    ({ m with store := store } : Manager).running id =
      if id = other then decide (status = .running) else m.running id := by
  have selected : Table.select store.tunnels Tunnel.id id =
      (Table.select m.store.tunnels Tunnel.id id).map fun row =>
        if row.id == other then { row with status := status, updatedAt := now } else row := by
    rw [tunnels_of_setTunnelStatus written]
    exact Table.select_update fun _ => rfl
  unfold Manager.running
  simp only [selected]
  rw [Option.any_map]
  cases found : Table.select m.store.tunnels Tunnel.id id with
  | none =>
      -- the row that was written has the ID `other`
      have absent := Table.select_eq_none.mp found
      unfold Store.setTunnelStatus at written
      split at written
      · rename_i present
        obtain ⟨row, member, own⟩ := List.any_eq_true.mp present
        rw [if_neg]
        · rfl
        · rintro rfl
          exact absent row member (beq_iff_eq.mp own)
      · cases written
  | some row =>
      have own : row.id = id := by simpa using List.find?_some found
      simp only [Option.any_some, own, beq_iff_eq]
      split <;> rfl

end Facts

/-! ## One tunnel, seen from outside -/

/-- What the theorem reads of one tunnel. -/
structure View where
  running : Bool
  listener : Option Resource
  relayBind : Option Resource
  assigned : Bool
  closed : List Resource

def Manager.view (m : Manager) (id : String) : View where
  running := m.running id
  listener := m.listeners.lookup id
  relayBind := m.relayBinds.lookup id
  assigned := m.assigned id
  closed := (m.closes.map Prod.fst).filter fun resource => resource.tunnelID = id

namespace View

/-- The manager has a listener, or a binding together with an assignment. -/
def Served (v : View) : Prop :=
  v.listener.isSome = true ∨ v.relayBind.isSome = true ∧ v.assigned = true

def Agrees (v : View) : Prop := v.running = true ↔ v.Served

/-- Nothing the manager has is closed. -/
structure Live (v : View) : Prop where
  listener : ∀ resource, v.listener = some resource → resource ∉ v.closed
  relayBind : ∀ resource, v.relayBind = some resource → resource ∉ v.closed

end View

/-- The operation on whose behalf a tunnel is served. -/
inductive Owner where
  | startTunnel
  | reassignRelayTunnel
  | assignAvailable
  deriving DecidableEq

def StartCaller.owner : StartCaller → Owner
  | .startTunnel => .startTunnel
  | .reassignRelayTunnel => .reassignRelayTunnel
  | .assignAvailable _ => .assignAvailable

def BindCaller.owner : BindCaller → Owner
  | .tryRelayStart caller => caller.owner
  | .reassignRelayTunnel => .reassignRelayTunnel
  | .assignAvailable _ => .assignAvailable

/-- What an operation can rely on while it serves the tunnel: `ReassignRelayTunnel` has taken the
binding away, and a listener that is left is that of a running tunnel; `AssignAvailableRelayTunnels`
has found a listener, so the tunnel is running. -/
def View.Base (v : View) : Owner → Prop
  | .startTunnel => True
  | .reassignRelayTunnel =>
      v.relayBind = none ∧ (v.listener.isSome = true → v.running = true)
  | .assignAvailable => v.running = true

/-- How far an operation has come with the tunnel it is in the middle of.  The program points that
are not listed are not reached by a `tcp` tunnel while the store accepts every status. -/
def Task.Stage (v : View) : Task → Prop
  | .tryRelayStart _ caller | .startTCPListener _ caller => v.Base caller.owner
  | .bindRelayTunnel _ _ caller => v.assigned = true ∧ v.Base caller.owner
  | .unbound _ caller => v.Base caller.owner
  | .bound _ binding caller => v.assigned = true ∧ binding ∉ v.closed ∧ v.Base caller.owner
  | .setRunning _ => v.Served
  | .setError _ _ => ¬ v.Served
  | .stopRelease _ _ (.stopTunnel _) | .stopClose _ _ (.stopTunnel _) =>
      v.listener = none ∧ v.relayBind = none
  | .stopped _ err (.stopTunnel _) =>
      v.listener = none ∧ v.relayBind = none ∧ (err ≠ none → v.running = false)
  | .closeBinding _ _ | .reassignTunnel _ | .reassign _ _ | .releaseReassigned _ =>
      v.Base .reassignRelayTunnel
  | .closeListener _ _ _ => v.listener = none ∧ v.running = true
  | .assignItem _ _ | .releaseItem _ _ => v.running = true
  | _ => False

/-- An operation in the middle of the tunnel has come so far, or has left it as it should be. -/
def Task.Settles (id : String) (v : View) (task : Task) : Prop :=
  (task.acting = some id → task.Stage v) ∧ (task.acting ≠ some id → v.Agrees)

section Views

variable {m m' : Manager} {task task' : Task} {choice : Choice} {id : String} {tunnel : Tunnel}
  {v : View}

theorem Task.Settles.of_acting (own : task.acting = some id) (stage : task.Stage v) :
    task.Settles id v := ⟨fun _ => stage, fun idle => absurd own idle⟩

theorem Task.Settles.of_idle (idle : task.acting = none) (agrees : v.Agrees) :
    task.Settles id v := by
  refine ⟨fun acting => ?_, fun _ => agrees⟩
  rw [idle] at acting
  cases acting

/-- A served tunnel: `StartTunnel` goes on to say so, the others find it said. -/
theorem settles_served (caller : StartCaller) (served : v.Served)
    (running : caller.owner ≠ .startTunnel → v.running = true) :
    (caller.resume tunnel none).Settles tunnel.id v := by
  have agrees (started : v.running = true) : v.Agrees := ⟨fun _ => served, fun _ => started⟩
  cases caller with
  | startTunnel => exact .of_acting rfl served
  | reassignRelayTunnel => exact .of_idle rfl (agrees (running (by decide)))
  | assignAvailable rest => exact .of_idle rfl (agrees (running fun equal => by cases equal))

/-- A tunnel that is not served: `StartTunnel` goes on to say so, the others find it said. -/
theorem settles_unserved {message : String} (caller : StartCaller) (unserved : ¬ v.Served)
    (stopped : caller.owner ≠ .startTunnel → v.running = false) :
    (caller.resume tunnel (some message)).Settles tunnel.id v := by
  have agrees (silent : v.running = false) : v.Agrees := by
    refine ⟨fun running => ?_, fun served => absurd served unserved⟩
    rw [silent] at running
    cases running
  cases caller with
  | startTunnel => exact .of_acting rfl unserved
  | reassignRelayTunnel => exact .of_idle rfl (agrees (stopped (by decide)))
  | assignAvailable rest => exact .of_idle rfl (agrees (stopped fun equal => by cases equal))

/-- The same for a binding. -/
theorem settles_bound (caller : BindCaller) (served : v.Served)
    (running : caller.owner ≠ .startTunnel → v.running = true) :
    (caller.succeed tunnel).Settles tunnel.id v := by
  have agrees (started : v.running = true) : v.Agrees := ⟨fun _ => served, fun _ => started⟩
  cases caller with
  | tryRelayStart caller =>
      unfold BindCaller.succeed
      exact settles_served caller served running
  | reassignRelayTunnel => exact .of_idle rfl (agrees (running (by decide)))
  | assignAvailable rest => exact .of_idle rfl (agrees (running fun equal => by cases equal))

/-- A `tcp` tunnel is first tried on a relay node. -/
theorem start_tcp (tcp : tunnel.protocol = "tcp") (caller : StartCaller) :
    start tunnel caller = .tryRelayStart tunnel caller := by
  unfold start
  rw [tcp]
  rfl

/-- A goroutine that works on another tunnel will not be found in the middle of this one. -/
theorem acting_resume {err : Option String} (other : tunnel.id ≠ id) (caller : StartCaller) :
    (caller.resume tunnel err).acting ≠ some id := by
  have own : some tunnel.id ≠ some id := fun equal => other (Option.some.inj equal)
  cases caller with
  | startTunnel => cases err <;> exact own
  | reassignRelayTunnel => exact fun equal => by cases equal
  | assignAvailable rest => exact fun equal => by cases equal

theorem acting_start (other : tunnel.id ≠ id) (caller : StartCaller) :
    (start tunnel caller).acting ≠ some id := by
  have own : some tunnel.id ≠ some id := fun equal => other (Option.some.inj equal)
  unfold start
  split
  · exact acting_resume other caller
  · split
    · exact acting_resume other caller
    · split
      · cases caller with
        | startTunnel => exact fun equal => by cases equal
        | reassignRelayTunnel => exact own
        | assignAvailable rest => exact own
      · split
        · exact own
        · split
          · exact acting_resume other caller
          · exact own

theorem acting_succeed (other : tunnel.id ≠ id) (caller : BindCaller) :
    (caller.succeed tunnel).acting ≠ some id := by
  cases caller with
  | tryRelayStart caller =>
      unfold BindCaller.succeed
      exact acting_resume other caller
  | reassignRelayTunnel => exact fun equal => by cases equal
  | assignAvailable rest => exact fun equal => by cases equal

theorem acting_fail (other : tunnel.id ≠ id) (caller : BindCaller) :
    (caller.fail tunnel).acting ≠ some id := by
  have own : some tunnel.id ≠ some id := fun equal => other (Option.some.inj equal)
  cases caller with
  | tryRelayStart caller => exact own
  | reassignRelayTunnel => exact fun equal => by cases equal
  | assignAvailable rest => exact own

/-! ### What an action does to the view -/

theorem view_registry {registry : Option RelayRegistry} (id : String) :
    ({ m with registry := registry } : Manager).view id =
      { m.view id with assigned := m.assignedWith registry id } := rfl

theorem view_close (resource : Resource) (err : Option String) (id : String) :
    (m.close resource err).view id =
      if resource.tunnelID = id then { m.view id with closed := (m.view id).closed ++ [resource] }
      else m.view id := by
  unfold Manager.view Manager.close
  simp only [List.map_append, List.filter_append, List.map_singleton]
  by_cases own : resource.tunnelID = id
  · rw [if_pos own, List.filter_cons_of_pos (by simpa using own), List.filter_nil]
    rfl
  · rw [if_neg own, List.filter_cons_of_neg (by simpa using own), List.filter_nil, List.append_nil]
    rfl

theorem view_store {store : Store} {other : String} {status : TunnelStatus} {now : Time}
    (written : m.store.setTunnelStatus other status now = .ok store) (id : String) :
    ({ m with store := store } : Manager).view id =
      { m.view id with
        running := if id = other then decide (status = .running) else m.running id } := by
  unfold Manager.view
  rw [running_setTunnelStatus written]
  rfl

theorem view_listeners_insert {opened : List Resource} (key : String) (resource : Resource)
    (id : String) :
    ({ m with listeners := m.listeners.insert key resource, opened := opened } : Manager).view id =
      if id = key then { m.view id with listener := some resource } else m.view id := by
  unfold Manager.view
  simp only [GoMap.lookup_insert_if]
  split <;> rfl

theorem view_listeners_erase (key id : String) :
    ({ m with listeners := m.listeners.erase key } : Manager).view id =
      if id = key then { m.view id with listener := none } else m.view id := by
  unfold Manager.view
  simp only [GoMap.lookup_erase_if]
  split <;> rfl

theorem view_relayBinds_insert (key : String) (resource : Resource) (id : String) :
    ({ m with relayBinds := m.relayBinds.insert key resource } : Manager).view id =
      if id = key then { m.view id with relayBind := some resource } else m.view id := by
  unfold Manager.view
  simp only [GoMap.lookup_insert_if]
  split <;> rfl

theorem view_relayBinds_erase (key id : String) :
    ({ m with relayBinds := m.relayBinds.erase key } : Manager).view id =
      if id = key then { m.view id with relayBind := none } else m.view id := by
  unfold Manager.view
  simp only [GoMap.lookup_erase_if]
  split <;> rfl

theorem view_withoutTunnel (key id : String) :
    (m.withoutTunnel key).view id =
      if id = key then { m.view id with listener := none, relayBind := none } else m.view id := by
  unfold Manager.view Manager.withoutTunnel
  simp only [GoMap.lookup_erase_if]
  split <;> rfl

/-- A registry that agrees on the tunnel leaves the view as it is. -/
theorem view_same {registry : Option RelayRegistry}
    (same : m.assignedWith registry id = m.assigned id) :
    ({ m with registry := registry } : Manager).view id = m.view id := by
  rw [view_registry, same]
  rfl

/-- **Operations on other tunnels**, and those that do not act on this one yet, leave it as it is and
do not get in the middle of it. -/
theorem frame_of_action (action : Action m task choice m' task')
    (typed : task.Typed m.opened.length) (tcp : IsTCP m.store id)
    (idle : task.acting ≠ some id) (apart : m.begins task ≠ some id) :
    m'.view id = m.view id ∧ task'.acting ≠ some id := by
  have key {name : String} (differs : some name ≠ some id) : id ≠ name :=
    fun equal => differs (congrArg some equal.symm)
  have silent {other : Task} (none' : other.acting = none) : other.acting ≠ some id := by
    rw [none']
    exact fun equal => by cases equal
  cases action with
  | @getStart _ tunnel now found =>
      refine ⟨rfl, ?_⟩
      by_cases own : tunnel.id = id
      · rw [start_tcp (tcp.protocol tunnel (mem_of_getTunnel found) own)]
        exact silent rfl
      · exact acting_start own _
  | getStop now found => exact ⟨rfl, silent rfl⟩
  | getReassign now found => exact ⟨rfl, silent rfl⟩
  | list now => exact ⟨rfl, silent rfl⟩
  | leave err entry same => exact ⟨view_same (same id), silent rfl⟩
  | noRelay tunnel caller now same =>
      refine ⟨view_same (same id), ?_⟩
      cases caller with
      | startTunnel => exact apart
      | reassignRelayTunnel => exact idle
      | assignAvailable rest => exact idle
  | relay tunnel caller now assignment added =>
      have other : some tunnel.id ≠ some id := by
        cases caller with
        | startTunnel => exact apart
        | reassignRelayTunnel => exact idle
        | assignAvailable rest => exact idle
      refine ⟨view_same ?_, other⟩
      rw [added id, decide_eq_false (key other), Bool.false_or]
  | listening caller choice present =>
      exact ⟨rfl, acting_resume (key idle).symm caller⟩
  | listen caller now absent =>
      refine ⟨?_, acting_resume (key idle).symm caller⟩
      rw [view_listeners_insert, if_neg (key idle)]
  | listenFails caller cause message absent =>
      exact ⟨rfl, acting_resume (key idle).symm caller⟩
  | runningUDP caller choice present =>
      exact ⟨rfl, acting_resume (key idle).symm caller⟩
  | listenUDP caller now absent =>
      exact ⟨rfl, acting_resume (key idle).symm caller⟩
  | listenUDPFails caller message absent =>
      exact ⟨rfl, acting_resume (key idle).symm caller⟩
  | bind tunnel assignment caller now => exact ⟨rfl, idle⟩
  | bindFails tunnel assignment caller message => exact ⟨rfl, idle⟩
  | release tunnel caller choice removed =>
      refine ⟨view_same ?_, acting_fail (key idle).symm caller⟩
      rw [removed id, decide_eq_true (key idle), Bool.true_and]
  | put tunnel binding caller choice =>
      refine ⟨?_, acting_succeed (key idle).symm caller⟩
      rw [view_relayBinds_insert, if_neg (key idle)]
  | setRunning written =>
      refine ⟨?_, silent rfl⟩
      rw [view_store written, if_neg (key idle)]
      rfl
  | setRunningFails tunnel choice message refused => exact ⟨rfl, idle⟩
  | setError message written =>
      refine ⟨?_, silent rfl⟩
      rw [view_store written, if_neg (key idle)]
      rfl
  | setErrorFails tunnel message cause choice refused => exact ⟨rfl, silent rfl⟩
  | sync clientID choice => exact ⟨rfl, silent rfl⟩
  | take other caller choice =>
      have differs : some other ≠ some id := by
        cases caller with
        | startTunnel message => exact idle
        | stopTunnel clientID => exact apart
      refine ⟨?_, differs⟩
      rw [view_withoutTunnel, if_neg (key differs)]
  | stopRelease other taken caller choice removed =>
      refine ⟨view_same ?_, idle⟩
      rw [removed id, decide_eq_true (key idle), Bool.true_and]
  | nothingToClose caller choice nothing => exact ⟨rfl, idle⟩
  | stopClose caller choice found =>
      obtain ⟨kind, fits⟩ := typed _ found
      refine ⟨?_, idle⟩
      rw [view_close, if_neg]
      rw [fits.own]
      exact (key idle).symm
  | startGivesUp other err message choice => exact ⟨rfl, silent rfl⟩
  | stopFails other clientID message choice => exact ⟨rfl, silent rfl⟩
  | setStopped clientID written =>
      refine ⟨?_, silent rfl⟩
      rw [view_store written, if_neg (key idle)]
      rfl
  | setStoppedFails other clientID message choice refused => exact ⟨rfl, silent rfl⟩
  | noBinding choice absent => exact ⟨rfl, apart⟩
  | takeBinding choice present =>
      refine ⟨?_, apart⟩
      rw [view_relayBinds_erase, if_neg (key apart)]
  | closeBinding tunnel binding choice =>
      refine ⟨?_, idle⟩
      rw [view_close, if_neg]
      rw [Resource.Fits.own typed]
      exact (key idle).symm
  | readAssignment tunnel exclude choice => exact ⟨rfl, idle⟩
  | reassigned tunnel exclude now assignment added =>
      refine ⟨view_same ?_, idle⟩
      rw [added id, decide_eq_false (key idle), Bool.false_or]
  | notReassigned tunnel exclude now same => exact ⟨view_same (same id), idle⟩
  | releaseReassigned tunnel choice removed =>
      refine ⟨view_same ?_, acting_start (key idle).symm _⟩
      rw [removed id, decide_eq_true (key idle), Bool.true_and]
  | itemsDone choice => exact ⟨rfl, silent rfl⟩
  | skipItem item rest now same => exact ⟨view_same (same id), silent rfl⟩
  | pickItem item rest now same => exact ⟨view_same (same id), silent rfl⟩
  | noListener rest choice absent => exact ⟨rfl, silent rfl⟩
  | @takeListener item listener rest choice present =>
      have differs : some item.id ≠ some id := by
        intro equal
        apply apart
        show (if m.listeners.lookup item.id = none then none else some item.id) = some id
        rw [present]
        exact equal
      refine ⟨?_, differs⟩
      rw [view_listeners_erase, if_neg (key differs)]
  | closeListener item listener rest choice =>
      refine ⟨?_, idle⟩
      rw [view_close, if_neg]
      rw [Resource.Fits.own typed]
      exact (key idle).symm
  | itemAssigned item rest now assignment added =>
      refine ⟨view_same ?_, idle⟩
      rw [added id, decide_eq_false (key idle), Bool.false_or]
  | itemNotAssigned item rest now same => exact ⟨view_same (same id), idle⟩
  | releaseItem item rest choice removed =>
      refine ⟨view_same ?_, acting_start (key idle).symm _⟩
      rw [removed id, decide_eq_true (key idle), Bool.true_and]

/-! ### What an operation does to its own tunnel -/

/-- A tunnel without a listener and without a binding is not served. -/
theorem View.not_served (listener : v.listener = none) (relayBind : v.relayBind = none) :
    ¬ v.Served := by
  rintro (found | ⟨found, -⟩)
  · rw [listener] at found
    cases found
  · rw [relayBind] at found
    cases found

theorem View.agrees_of_not_served (unserved : ¬ v.Served) (stopped : v.running = false) :
    v.Agrees := by
  refine ⟨fun running => ?_, fun served => absurd served unserved⟩
  rw [stopped] at running
  cases running

/-- Only `StartTunnel` finds a listener of a tunnel that is not running. -/
theorem View.Base.running {owner : Owner} (base : v.Base owner) (other : owner ≠ .startTunnel)
    (listener : v.listener.isSome = true) : v.running = true := by
  cases owner with
  | startTunnel => exact absurd rfl other
  | reassignRelayTunnel => exact base.2 listener
  | assignAvailable => exact base

/-- A resource that has just been opened is not closed. -/
theorem fresh_notMem_closed (tables : Tables m) (tunnel : Tunnel) (kind : Kind) :
    m.fresh tunnel kind ∉ (m.view id).closed := by
  intro member
  have known := tables.closed _ (List.mem_filter.mp member).1
  exact Nat.lt_irrefl _ known

/-- The store accepts a status for a tunnel it has. -/
theorem IsTCP.accepts (tcp : IsTCP m.store id) (status : TunnelStatus) (accepted : choice.err = none)
    {message : String} : m.setTunnelStatus id status choice ≠ .error message := by
  intro refused
  cases choice with
  | failed cause => cases accepted
  | go now =>
      obtain ⟨row, member, own⟩ := tcp.present
      have present : (m.store.tunnels.any fun tunnel => tunnel.id == id) = true :=
        List.any_eq_true.mpr ⟨row, member, beq_iff_eq.mpr own⟩
      unfold Manager.setTunnelStatus Store.setTunnelStatus at refused
      simp only [present, if_true] at refused
      cases refused

/-- An operation that has just arrived is not in the middle of anything. -/
theorem idle_of_entry (entry : task.entry = true) : task.acting = none ∧ m.begins task = none := by
  cases task with
  | startTunnel id => exact ⟨rfl, rfl⟩
  | stopTunnel id => exact ⟨rfl, rfl⟩
  | reassignRelayTunnel id => exact ⟨rfl, rfl⟩
  | assignAvailableRelayTunnels => exact ⟨rfl, rfl⟩
  | register node invalid => exact ⟨rfl, rfl⟩
  | heartbeat id connections => exact ⟨rfl, rfl⟩
  | markUnhealthy id => exact ⟨rfl, rfl⟩
  | _ => cases entry

/-- **The first action** of an operation on the tunnel. -/
theorem begins_of_action (action : Action m task choice m' task') (live : (m.view id).Live)
    (begins : m.begins task = some id) (agrees : (m.view id).Agrees) :
    (m'.view id).Live ∧ task'.Settles id (m'.view id) := by
  -- a listener that is there is that of a running tunnel
  have served (found : (m.view id).listener.isSome = true) : (m.view id).running = true :=
    agrees.mpr (Or.inl found)
  cases action with
  | noRelay tunnel caller now same =>
      cases caller with
      | startTunnel =>
          rw [view_same (same id)]
          exact ⟨live, .of_acting begins trivial⟩
      | reassignRelayTunnel => cases begins
      | assignAvailable rest => cases begins
  | relay tunnel caller now assignment added =>
      cases caller with
      | startTunnel =>
          cases begins
          rw [view_registry, added tunnel.id]
          refine ⟨⟨live.listener, live.relayBind⟩, .of_acting rfl ⟨?_, trivial⟩⟩
          simp
      | reassignRelayTunnel => cases begins
      | assignAvailable rest => cases begins
  | take other caller choice =>
      cases caller with
      | startTunnel message => cases begins
      | stopTunnel clientID =>
          cases begins
          rw [view_withoutTunnel, if_pos rfl]
          exact ⟨⟨fun _ found => (by cases found), fun _ found => (by cases found)⟩,
            .of_acting rfl ⟨rfl, rfl⟩⟩
  | noBinding choice absent =>
      cases begins
      exact ⟨live, .of_acting rfl ⟨absent, served⟩⟩
  | takeBinding choice present =>
      cases begins
      rw [view_relayBinds_erase, if_pos rfl]
      exact ⟨⟨live.listener, fun _ found => (by cases found)⟩, .of_acting rfl ⟨rfl, served⟩⟩
  | noListener rest choice absent =>
      have nothing : m.begins (.closeLocalListener _ rest) = none := if_pos absent
      rw [nothing] at begins
      cases begins
  | @takeListener item listener rest choice present =>
      have own : item.id = id := by
        have listed : m.begins (.closeLocalListener item rest) = some item.id := by
          refine if_neg ?_
          rw [present]
          exact fun equal => by cases equal
        rw [listed] at begins
        exact Option.some.inj begins
      subst own
      rw [view_listeners_erase, if_pos rfl]
      have running : (m.view item.id).running = true := by
        apply served
        show (m.listeners.lookup item.id).isSome = true
        rw [present]
        rfl
      exact ⟨⟨fun _ found => (by cases found), live.relayBind⟩, .of_acting rfl ⟨rfl, running⟩⟩
  | leave err entry same =>
      rw [(idle_of_entry entry).2] at begins
      cases begins
  | _ => cases begins

/-- **The other actions** of an operation on the tunnel it is in the middle of. -/
theorem stage_of_action (action : Action m task choice m' task') (tables : Tables m)
    (typed : task.Typed m.opened.length) (tcp : IsTCP m.store id)
    (pending : ∀ item ∈ task.pending, item.id = id → item.protocol = "tcp")
    (live : (m.view id).Live) (accepted : task.writes = true → choice.err = none)
    (harmless : Harmless id m task choice) (acting : task.acting = some id)
    (stage : task.Stage (m.view id)) :
    (m'.view id).Live ∧ task'.Settles id (m'.view id) := by
  cases action with
  | noRelay tunnel caller now same =>
      rw [view_same (same id)]
      refine ⟨live, .of_acting ?_ stage⟩
      cases caller with
      | startTunnel => cases acting
      | reassignRelayTunnel => exact acting
      | assignAvailable rest => exact acting
  | relay tunnel caller now assignment added =>
      have own : tunnel.id = id := by
        cases caller with
        | startTunnel => cases acting
        | reassignRelayTunnel => exact Option.some.inj acting
        | assignAvailable rest => exact Option.some.inj acting
      subst own
      rw [view_registry, added tunnel.id]
      exact ⟨⟨live.listener, live.relayBind⟩, .of_acting rfl ⟨by simp, stage⟩⟩
  | @listening tunnel listener caller choice present =>
      cases acting
      have found : (m.view tunnel.id).listener.isSome = true := by
        show (m.listeners.lookup tunnel.id).isSome = true
        rw [present]
        rfl
      exact ⟨live, settles_served caller (Or.inl found) fun other => stage.running other found⟩
  | @listen tunnel caller now absent =>
      cases acting
      rw [view_listeners_insert, if_pos rfl]
      refine ⟨⟨?_, live.relayBind⟩, settles_served caller (Or.inl rfl) fun other => ?_⟩
      · rintro _ ⟨rfl⟩
        exact fresh_notMem_closed tables tunnel .listener
      · cases caller with
        | startTunnel => exact absurd rfl other
        | reassignRelayTunnel => exact harmless rfl absent
        | assignAvailable rest => exact stage
  | @listenFails tunnel caller cause message absent =>
      cases acting
      cases caller with
      | startTunnel =>
          refine ⟨live, settles_unserved .startTunnel ?_ fun other => absurd rfl other⟩
          rintro (found | ⟨found, assigned⟩)
          · rw [show (m.view tunnel.id).listener = none from absent] at found
            cases found
          · rcases harmless rfl absent with missing | missing
            · rw [show (m.view tunnel.id).relayBind = none from missing] at found
              cases found
            · rw [show (m.view tunnel.id).assigned = false from missing] at assigned
              cases assigned
      | reassignRelayTunnel =>
          exact ⟨live, settles_unserved .reassignRelayTunnel (View.not_served absent stage.1)
            fun _ => harmless rfl absent⟩
      | assignAvailable rest =>
          -- the tunnel is running, so the listen does not fail
          cases stage.symm.trans (harmless rfl absent)
  | runningUDP caller choice present => cases stage
  | listenUDP caller now absent => cases stage
  | listenUDPFails caller message absent => cases stage
  | bind tunnel assignment caller now =>
      cases acting
      exact ⟨live, .of_acting rfl ⟨stage.1, fresh_notMem_closed tables tunnel .binding, stage.2⟩⟩
  | bindFails tunnel assignment caller message => exact ⟨live, .of_acting acting stage.2⟩
  | release tunnel caller choice removed =>
      cases acting
      rw [view_registry]
      refine ⟨⟨live.listener, live.relayBind⟩, ?_⟩
      cases caller with
      | tryRelayStart caller => exact .of_acting rfl stage
      | reassignRelayTunnel =>
          refine .of_idle rfl ⟨fun running => Or.inl ?_, ?_⟩
          · exact Option.isSome_iff_ne_none.mpr (harmless rfl running)
          · rintro (found | ⟨found, -⟩)
            · exact stage.2 found
            · rw [show (m.view tunnel.id).relayBind = none from stage.1] at found
              cases found
      | assignAvailable rest => exact .of_acting rfl stage
  | put tunnel binding caller choice =>
      cases acting
      obtain ⟨assigned, open', base⟩ := stage
      rw [view_relayBinds_insert, if_pos rfl]
      refine ⟨⟨live.listener, ?_⟩, settles_bound caller (Or.inr ⟨rfl, assigned⟩) fun other => ?_⟩
      · rintro _ ⟨rfl⟩
        exact open'
      · cases caller with
        | tryRelayStart caller =>
            cases caller with
            | startTunnel => exact absurd rfl other
            | reassignRelayTunnel => exact harmless rfl
            | assignAvailable rest => exact base
        | reassignRelayTunnel => exact harmless rfl
        | assignAvailable rest => exact base
  | setRunning written =>
      cases acting
      rw [view_store written, if_pos rfl]
      exact ⟨⟨live.listener, live.relayBind⟩, .of_idle rfl ⟨fun _ => stage, fun _ => rfl⟩⟩
  | setRunningFails tunnel choice message refused =>
      cases acting
      exact absurd refused (tcp.accepts _ (accepted rfl))
  | setError message written =>
      cases acting
      rw [view_store written, if_pos rfl]
      exact ⟨⟨live.listener, live.relayBind⟩,
        .of_idle rfl (View.agrees_of_not_served stage rfl)⟩
  | setErrorFails tunnel message cause choice refused =>
      cases acting
      exact absurd refused (tcp.accepts _ (accepted rfl))
  | take other caller choice =>
      cases caller with
      | startTunnel message => cases stage
      | stopTunnel clientID => cases acting
  | stopRelease other taken caller choice removed =>
      cases caller with
      | startTunnel message => cases stage
      | stopTunnel clientID =>
          rw [view_registry]
          exact ⟨⟨live.listener, live.relayBind⟩, .of_acting acting stage⟩
  | nothingToClose caller choice nothing =>
      cases caller with
      | startTunnel message => cases stage
      | stopTunnel clientID =>
          exact ⟨live, .of_acting acting ⟨stage.1, stage.2, fun failed => absurd rfl failed⟩⟩
  | @stopClose other taken resource caller choice found =>
      cases caller with
      | startTunnel message => cases stage
      | stopTunnel clientID =>
          cases acting
          obtain ⟨kind, fits⟩ := typed _ found
          obtain ⟨listener, relayBind⟩ := stage
          rw [view_close, if_pos fits.own]
          refine ⟨⟨fun _ present => ?_, fun _ present => ?_⟩,
            .of_acting rfl ⟨listener, relayBind, fun failed => ?_⟩⟩
          · cases listener.symm.trans present
          · cases relayBind.symm.trans present
          · cases choice with
            | go now => exact absurd rfl failed
            | failed message =>
                refine harmless rfl ?_
                rw [found]
                exact fun equal => by cases equal
  | startGivesUp other err message choice => cases stage
  | stopFails other clientID message choice =>
      obtain ⟨listener, relayBind, stopped⟩ := stage
      refine ⟨live, .of_idle rfl (View.agrees_of_not_served ?_ (stopped ?_))⟩
      · exact View.not_served listener relayBind
      · exact fun equal => by cases equal
  | setStopped clientID written =>
      cases acting
      obtain ⟨listener, relayBind, -⟩ := stage
      rw [view_store written, if_pos rfl]
      exact ⟨⟨live.listener, live.relayBind⟩,
        .of_idle rfl (View.agrees_of_not_served (View.not_served listener relayBind) rfl)⟩
  | setStoppedFails other clientID message choice refused =>
      cases acting
      exact absurd refused (tcp.accepts _ (accepted rfl))
  | closeBinding tunnel binding choice =>
      cases acting
      have fits : binding.Fits m.opened.length tunnel.id .binding := typed
      rw [view_close, if_pos fits.own]
      refine ⟨⟨fun listener found member => ?_, fun _ found => ?_⟩, .of_acting rfl stage⟩
      · rcases List.mem_append.mp member with old | new
        · exact live.listener listener found old
        · -- what is closed is a binding
          rw [List.mem_singleton.mp new] at found
          cases (tables.listeners _ _ found).kind.symm.trans fits.kind
      · cases stage.1.symm.trans found
  | readAssignment tunnel exclude choice => exact ⟨live, .of_acting acting stage⟩
  | reassigned tunnel exclude now assignment added =>
      cases acting
      rw [view_registry, added tunnel.id]
      exact ⟨⟨live.listener, live.relayBind⟩, .of_acting rfl ⟨by simp, stage⟩⟩
  | notReassigned tunnel exclude now same =>
      rw [view_same (same id)]
      exact ⟨live, .of_acting acting stage⟩
  | releaseReassigned tunnel choice removed =>
      cases acting
      rw [view_registry, start_tcp (pending tunnel List.mem_cons_self rfl)]
      exact ⟨⟨live.listener, live.relayBind⟩, .of_acting rfl stage⟩
  | closeListener item listener rest choice =>
      cases acting
      have fits : listener.Fits m.opened.length item.id .listener := typed
      rw [view_close, if_pos fits.own]
      refine ⟨⟨fun _ found => ?_, fun binding found member => ?_⟩, .of_acting rfl stage.2⟩
      · cases stage.1.symm.trans found
      · rcases List.mem_append.mp member with old | new
        · exact live.relayBind binding found old
        · -- what is closed is a listener
          rw [List.mem_singleton.mp new] at found
          cases (tables.relayBinds _ _ found).kind.symm.trans fits.kind
  | itemAssigned item rest now assignment added =>
      cases acting
      rw [view_registry, added item.id]
      exact ⟨⟨live.listener, live.relayBind⟩, .of_acting rfl ⟨by simp, stage⟩⟩
  | itemNotAssigned item rest now same =>
      rw [view_same (same id)]
      exact ⟨live, .of_acting acting stage⟩
  | releaseItem item rest choice removed =>
      cases acting
      rw [view_registry, start_tcp (pending item List.mem_cons_self rfl)]
      exact ⟨⟨live.listener, live.relayBind⟩, .of_acting rfl stage⟩
  | leave err entry same =>
      rw [(idle_of_entry (m := m) entry).1] at acting
      cases acting
  | _ => cases acting

end Views

/-! ## Runs -/

/-- A server to begin with: the maps hold what was opened and not closed, and the status of the tunnel
tells whether it is served. -/
structure Ready (id : String) (m : Manager) : Prop where
  tables : Tables m
  tcp : IsTCP m.store id
  live : (m.view id).Live
  agrees : (m.view id).Agrees

/-- A manager that was just made, if the tunnel is not `running` in the store. -/
theorem ready_newManager {store : Store} {registry : Option RelayRegistry} {binder : Bool}
    {id : String} (tcp : IsTCP store id)
    (stopped : (newManager store registry binder).running id = false) :
    Ready id (newManager store registry binder) := by
  refine ⟨tables_newManager store registry binder, tcp, ?_, ?_⟩
  · exact ⟨fun _ found => (by cases found), fun _ found => (by cases found)⟩
  · exact View.agrees_of_not_served (View.not_served rfl rfl) stopped

/-- The invariant: one operation at most is in the middle of the tunnel, and has come as far as it
should; without one, the status tells whether the tunnel is served. -/
structure Agreed (id : String) (config : Config Manager Task) : Prop where
  exclusive : ∀ (i j : ℕ) task other, config.threads[i]? = some task →
    config.threads[j]? = some other → task.acting = some id → other.acting = some id → i = j
  stage : ∀ task ∈ config.threads, task.acting = some id → task.Stage (config.shared.view id)
  live : (config.shared.view id).Live
  agrees : (∀ task ∈ config.threads, task.acting ≠ some id) → (config.shared.view id).Agrees

section Runs

variable {m m' : Manager} {config : Config Manager Task} {id : String} {index : ℕ}
  {task task' : Task} {choice : Choice}

/-- The tunnel stays a `tcp` tunnel, also for those who have read it before. -/
theorem tcp_of_run {allowed : Config Manager Task → Move Task Choice → Prop} (tcp : IsTCP m.store id)
    (reached : tunnels.Run allowed { shared := m, threads := [] } config) :
    IsTCP config.shared.store id ∧ ∀ task ∈ config.threads,
      ∀ item ∈ task.pending, item.id = id → item.protocol = "tcp" := by
  refine reached.pool_invariant (fun m => IsTCP m.store id)
    (fun _ task => ∀ item ∈ task.pending, item.id = id → item.protocol = "tcp") ?_ ?_ ?_
  · exact ⟨tcp, fun task member => by cases member⟩
  · intro m task _ entry item member
    cases task with
    | startTunnel id => cases member
    | stopTunnel id => cases member
    | reassignRelayTunnel id => cases member
    | assignAvailableRelayTunnels => cases member
    | register node invalid => cases member
    | heartbeat id connections => cases member
    | markUnhealthy id => cases member
    | _ => cases entry
  · intro config index choice task m' task' spawned tcp threads present _ stepped
    obtain ⟨action, rfl⟩ := action_of_step stepped
    refine ⟨tcp.action action, fun item member own => ?_, fun _ member => (by cases member),
      fun _ _ pending => pending⟩
    rcases pending_of_action action item member with old | read
    · exact threads task (List.mem_of_getElem? present) item old own
    · exact tcp.protocol item read own

/-- The invariant after an action of the only operation that is in the middle of the tunnel. -/
theorem Agreed.of_settles (present : config.threads[index]? = some task)
    (others : ∀ (j : ℕ) other, config.threads[j]? = some other → j ≠ index →
      other.acting ≠ some id)
    (live : (m'.view id).Live) (settles : task'.Settles id (m'.view id)) :
    Agreed id { shared := m', threads := config.threads.set index task' } := by
  have bound : index < config.threads.length := (List.getElem?_eq_some_iff.mp present).1
  have at_index {j : ℕ} {other : Task}
      (located : (config.threads.set index task')[j]? = some other)
      (acting : other.acting = some id) : j = index := by
    by_contra apart
    rw [List.getElem?_set_ne (Ne.symm apart)] at located
    exact others j other located apart acting
  have stepped : task' ∈ config.threads.set index task' :=
    List.mem_iff_getElem?.mpr ⟨index, List.getElem?_set_self bound⟩
  refine ⟨?_, ?_, live, fun idle => settles.2 (idle task' stepped)⟩
  · intro i j first second located located' acting acting'
    rw [at_index located acting, at_index located' acting']
  · intro other member acting
    obtain ⟨j, located⟩ := List.mem_iff_getElem?.mp member
    have own := at_index located acting
    subst own
    rw [List.getElem?_set_self bound] at located
    cases located
    exact settles.1 acting

/-- The invariant after an action that has nothing to do with the tunnel. -/
theorem Agreed.of_frame (agreed : Agreed id config) (present : config.threads[index]? = some task)
    (idle : task.acting ≠ some id) (same : m'.view id = config.shared.view id)
    (idle' : task'.acting ≠ some id) :
    Agreed id { shared := m', threads := config.threads.set index task' } := by
  have bound : index < config.threads.length := (List.getElem?_eq_some_iff.mp present).1
  have old {j : ℕ} {other : Task} (located : (config.threads.set index task')[j]? = some other)
      (acting : other.acting = some id) : config.threads[j]? = some other := by
    by_cases own : index = j
    · subst own
      rw [List.getElem?_set_self bound] at located
      cases located
      exact absurd acting idle'
    · rw [List.getElem?_set_ne own] at located
      exact located
  refine ⟨?_, ?_, ?_, ?_⟩
  · intro i j first second located located' acting acting'
    exact agreed.exclusive i j first second (old located acting) (old located' acting') acting
      acting'
  · intro other member acting
    obtain ⟨j, located⟩ := List.mem_iff_getElem?.mp member
    show other.Stage (m'.view id)
    rw [same]
    exact agreed.stage other (List.mem_of_getElem? (old located acting)) acting
  · show (m'.view id).Live
    rw [same]
    exact agreed.live
  · intro silent
    show (m'.view id).Agrees
    rw [same]
    refine agreed.agrees fun other member => ?_
    have survives : other = task ∨ other ∈ config.threads.set index task' ++ [] :=
      Machine.mem_threads_after_step present member
    rw [List.append_nil] at survives
    rcases survives with rfl | kept
    · exact idle
    · exact silent other kept

/-- An operation that arrives is not in the middle of anything. -/
theorem Agreed.arrive (agreed : Agreed id config) (entry : task.entry = true) :
    Agreed id { config with threads := config.threads ++ [task] } := by
  have idle : task.acting = none := (idle_of_entry (m := config.shared) entry).1
  have old {j : ℕ} {other : Task} (located : (config.threads ++ [task])[j]? = some other)
      (acting : other.acting = some id) : config.threads[j]? = some other := by
    by_cases inside : j < config.threads.length
    · rw [List.getElem?_append_left inside] at located
      exact located
    · rw [List.getElem?_append_right (Nat.le_of_not_lt inside)] at located
      rw [List.mem_singleton.mp (List.mem_of_getElem? located), idle] at acting
      cases acting
  refine ⟨?_, ?_, agreed.live, fun silent => agreed.agrees fun other member =>
    silent other (List.mem_append_left _ member)⟩
  · intro i j first second located located' acting acting'
    exact agreed.exclusive i j first second (old located acting) (old located' acting') acting
      acting'
  · intro other member acting
    obtain ⟨j, located⟩ := List.mem_iff_getElem?.mp member
    exact agreed.stage other (List.mem_of_getElem? (old located acting)) acting

/-- **One step** keeps the invariant, if the operations take turns and no branch goes wrong. -/
theorem Agreed.step (agreed : Agreed id config) (tables : Tables config.shared)
    (tcp : IsTCP config.shared.store id) (typed : task.Typed config.shared.opened.length)
    (pending : ∀ item ∈ task.pending, item.id = id → item.protocol = "tcp")
    (present : config.threads[index]? = some task) (inTurn : InTurn id config task)
    (accepted : task.writes = true → choice.err = none)
    (harmless : Harmless id config.shared task choice)
    (action : Action config.shared task choice m' task') :
    Agreed id { shared := m', threads := config.threads.set index task' } := by
  by_cases acting : task.acting = some id
  · obtain ⟨live, settles⟩ := stage_of_action action tables typed tcp pending agreed.live accepted
      harmless acting (agreed.stage task (List.mem_of_getElem? present) acting)
    refine Agreed.of_settles present (fun j other located apart acting' => ?_) live settles
    exact apart (agreed.exclusive j index other task located present acting' acting)
  · by_cases begins : config.shared.begins task = some id
    · have idle := inTurn begins
      obtain ⟨live, settles⟩ :=
        begins_of_action action agreed.live begins (agreed.agrees idle)
      exact Agreed.of_settles present
        (fun j other located _ => idle other (List.mem_of_getElem? located)) live settles
    · obtain ⟨same, idle⟩ := frame_of_action action typed tcp acting begins
      exact agreed.of_frame present acting same idle

/-- The invariant holds along every careful run. -/
theorem agreed_of_careful (ready : Ready id m)
    (reached : tunnels.Run (CarefulRun id) { shared := m, threads := [] } config) :
    Agreed id config := by
  induction reached with
  | refl =>
      exact ⟨fun i j first second located => (by cases located),
        fun task member => (by cases member), ready.live, fun _ => ready.agrees⟩
  | @step config next move before permitted moved agreed =>
      obtain ⟨tables, typed⟩ := tables_of_run ready.tables before
      obtain ⟨tcp, pending⟩ := tcp_of_run ready.tcp before
      obtain ⟨accepts, careful⟩ := permitted
      cases move with
      | arrive task =>
          obtain ⟨entry, rfl⟩ := Machine.exec_arrive moved
          exact agreed.arrive entry
      | run index choice =>
          obtain ⟨task, m', task', spawned, present, stepped, rfl⟩ := Machine.exec_run moved
          obtain ⟨action, rfl⟩ := action_of_step stepped
          have member := List.mem_of_getElem? present
          obtain ⟨inTurn, harmless⟩ := careful task present
          rw [List.append_nil]
          exact agreed.step tables tcp (typed task member) (pending task member) present inTurn
            (accepts task present) harmless action

/-- The view tells whether the tunnel is served. -/
theorem served_iff_view (tables : Tables m) (live : (m.view id).Live) :
    m.Served id ↔ (m.view id).Served := by
  have open' {resource : Resource} (own : resource.tunnelID = id)
      (missing : resource ∉ (m.view id).closed) : m.Live resource := by
    intro member
    exact missing (List.mem_filter.mpr ⟨member, decide_eq_true own⟩)
  constructor
  · rintro (⟨listener, found, -⟩ | ⟨binding, found, -, assigned⟩)
    · exact Or.inl (Option.isSome_iff_exists.mpr ⟨listener, found⟩)
    · exact Or.inr ⟨Option.isSome_iff_exists.mpr ⟨binding, found⟩, assigned⟩
  · rintro (found | ⟨found, assigned⟩)
    · obtain ⟨listener, present⟩ := Option.isSome_iff_exists.mp found
      exact Or.inl ⟨listener, present,
        open' (tables.listeners id listener present).own (live.listener listener present)⟩
    · obtain ⟨binding, present⟩ := Option.isSome_iff_exists.mp found
      exact Or.inr ⟨binding, present,
        open' (tables.relayBinds id binding present).own (live.relayBind binding present), assigned⟩

/-- **Running means served.**  In every run in which the store accepts every status, the operations
take turns on the tunnel and no branch is taken that leaves it in a state its status does not tell:
when no operation is in progress, the status of the tunnel is `running` if and only if the manager
has a live listener for it, or a live binding together with an assignment. -/
theorem running_means_served (ready : Ready id m)
    (reached : tunnels.Run (CarefulRun id) { shared := m, threads := [] } config)
    (quiet : ∀ task ∈ config.threads, task.isReturned = true) :
    config.shared.running id = true ↔ config.shared.Served id := by
  have agreed := agreed_of_careful ready reached
  obtain ⟨tables, -⟩ := tables_of_run ready.tables reached
  rw [served_iff_view tables agreed.live]
  refine agreed.agrees fun task member => ?_
  have returned := quiet task member
  cases task with
  | returned err => exact fun acting => by cases acting
  | _ => cases returned

end Runs

/-! ## Runs of one tunnel -/

/-- Two relay nodes register, and the tunnel is started on the first one. -/
def relayedMoves : List (Move Task Choice) :=
  .arrive (.register (relayNode "relay-1") none) :: succeeds 0 1 ++
    .arrive (.register (relayNode "relay-2") none) :: succeeds 1 1 ++
    .arrive (.startTunnel "tunnel-1") :: succeeds 2 6

/-- The tunnel is to be moved to the second node, which does not bind it.  The operations are called
one after the other. -/
theorem running_tunnel_unserved :
    ∃ config,
      tunnels.Run (fun config move => OneAtATime config move ∧ StoreAccepts config move)
        (idle tunnelStore (some (.newRelayRegistry 0)) true) config ∧
      (∀ task ∈ config.threads, task.isReturned = true) ∧
      config.shared.running "tunnel-1" = true ∧ ¬ config.shared.Served "tunnel-1" := by
  obtain ⟨config, reached, quiet, running, listener, binding⟩ :
      ∃ config,
        tunnels.Run (fun config move => OneAtATime config move ∧ StoreAccepts config move)
          (idle tunnelStore (some (.newRelayRegistry 0)) true) config ∧
        (∀ task ∈ config.threads, task.isReturned = true) ∧
        config.shared.running "tunnel-1" = true ∧
        config.shared.listeners.lookup "tunnel-1" = none ∧
        config.shared.relayBinds.lookup "tunnel-1" = none := by
    refine Machine.exists_run_of_replay
      (relayedMoves ++ .arrive (.reassignRelayTunnel "tunnel-1") :: succeeds 3 5 ++
        [.run 3 (.failed "connection refused"), .run 3 (.go 0)]) ?_
    decide +kernel
  refine ⟨config, reached, quiet, running, ?_⟩
  rintro (⟨_, found, -⟩ | ⟨_, found, -⟩)
  · cases listener.symm.trans found
  · cases binding.symm.trans found

/-- The second node binds the tunnel. -/
theorem running_means_served_moved :
    ∃ config, tunnels.Run (CarefulRun "tunnel-1")
        (idle tunnelStore (some (.newRelayRegistry 0)) true) config ∧
      config.shared.running "tunnel-1" = true ∧ config.shared.Served "tunnel-1" := by
  obtain ⟨config, reached, quiet, running⟩ :
      ∃ config, tunnels.Run (CarefulRun "tunnel-1")
          (idle tunnelStore (some (.newRelayRegistry 0)) true) config ∧
        (∀ task ∈ config.threads, task.isReturned = true) ∧
        config.shared.running "tunnel-1" = true := by
    refine Machine.exists_run_of_replay
      (relayedMoves ++ .arrive (.reassignRelayTunnel "tunnel-1") :: succeeds 3 7) ?_
    decide +kernel
  refine ⟨config, reached, running, ?_⟩
  have tcp : IsTCP tunnelStore "tunnel-1" := by
    refine ⟨⟨stoppedTunnel, List.mem_singleton.mpr rfl, rfl⟩, fun tunnel member _ => ?_⟩
    rw [List.mem_singleton.mp member]
    rfl
  exact (running_means_served (ready_newManager tcp (by decide)) reached quiet).mp running

end NryNet.Tunnels

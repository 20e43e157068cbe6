import NryNet.Tunnels.Manager

/-!
# Listeners and bindings

What is opened for a tunnel goes from hand to hand: the goroutine that opened it puts it into a map,
another one takes it out and closes it.  This module follows it on its way, on every run and whatever
the operations do to each other.  Each map holds its own kind of resources, under the tunnels they
were opened for (`Tables`); so does a goroutine that has one in its hands (`Task.Typed`); and a
resource that is opened is a new one.
-/

namespace NryNet.Tunnels

open ThreadPool Advanced

/-- The server before the first operation. -/
def idle (store : Store) (registry : Option RelayRegistry) (binder : Bool) : Config Manager Task where
  shared := newManager store registry binder
  threads := []

/-- The goroutine has come to its end. -/
def Task.isReturned : Task → Bool
  | .returned _ => true
  | _ => false

/-- Everything that was taken. -/
def Taken.all (taken : Taken) : List Resource :=
  taken.listener.toList ++ taken.udp.toList ++ taken.relayBind.toList

/-- What the goroutine will close or put into a map. -/
def Task.held : Task → Option Resource
  | .bound _ binding _ => some binding
  | .stopRelease _ taken _ | .stopClose _ taken _ => taken.toClose
  | .closeBinding _ binding => some binding
  | .closeListener _ listener _ => some listener
  | _ => none

/-- The tunnel whose entries the goroutine has taken out of the maps. -/
def Task.stopping : Task → Option String
  | .stopRelease id _ _ | .stopClose id _ _ | .stopped id _ _ => some id
  | _ => none

section Calls

variable {tunnel : Tunnel} {err : Option String}

/-- A goroutine that comes out of a call has nothing in its hands. -/
structure Task.Free (task : Task) : Prop where
  held : task.held = none
  stopping : task.stopping = none

theorem free_resume (caller : StartCaller) : (caller.resume tunnel err).Free := by
  cases caller with
  | startTunnel => cases err <;> exact ⟨rfl, rfl⟩
  | reassignRelayTunnel => exact ⟨rfl, rfl⟩
  | assignAvailable rest => exact ⟨rfl, rfl⟩

theorem free_start (caller : StartCaller) : (start tunnel caller).Free := by
  unfold start
  split
  · exact free_resume caller
  · split
    · exact free_resume caller
    · split
      · exact ⟨rfl, rfl⟩
      · split
        · exact ⟨rfl, rfl⟩
        · split
          · exact free_resume caller
          · exact ⟨rfl, rfl⟩

theorem free_succeed (caller : BindCaller) : (caller.succeed tunnel).Free := by
  unfold BindCaller.succeed
  split
  · exact free_resume _
  · exact ⟨rfl, rfl⟩
  · exact ⟨rfl, rfl⟩

theorem free_fail (caller : BindCaller) : (caller.fail tunnel).Free := by
  cases caller <;> exact ⟨rfl, rfl⟩

theorem free_of_entry {task : Task} (entry : task.entry = true) : task.Free := by
  cases task with
  | startTunnel id => exact ⟨rfl, rfl⟩
  | stopTunnel id => exact ⟨rfl, rfl⟩
  | reassignRelayTunnel id => exact ⟨rfl, rfl⟩
  | assignAvailableRelayTunnels => exact ⟨rfl, rfl⟩
  | register node invalid => exact ⟨rfl, rfl⟩
  | heartbeat id connections => exact ⟨rfl, rfl⟩
  | markUnhealthy id => exact ⟨rfl, rfl⟩
  | _ => cases entry

theorem free_of_returned {task : Task} (returned : task.isReturned = true) : task.Free := by
  cases task with
  | returned err => exact ⟨rfl, rfl⟩
  | _ => cases returned

end Calls

/-- If there is one thing at most, `stop` closes it. -/
theorem Taken.toClose_of_single {taken : Taken} {resource : Resource}
    (single : taken.all.length ≤ 1) (member : resource ∈ taken.all) :
    taken.toClose = some resource := by
  obtain ⟨listener, udp, relayBind⟩ := taken
  cases listener <;> cases udp <;> cases relayBind <;>
    simp_all [Taken.all, Taken.toClose]

theorem Taken.mem_all_of_toClose {taken : Taken} {resource : Resource}
    (found : taken.toClose = some resource) : resource ∈ taken.all := by
  obtain ⟨listener, udp, relayBind⟩ := taken
  cases listener <;> cases udp <;> cases relayBind <;>
    simp_all [Taken.all, Taken.toClose]

/-! ## What the maps hold, and for whom -/

/-- The resource is one of the first `count` ones, and was opened for the tunnel in this way. -/
structure Resource.Fits (count : ℕ) (id : String) (kind : Kind) (resource : Resource) : Prop where
  own : resource.tunnelID = id
  kind : resource.kind = kind
  known : resource.number < count

/-- Every map holds its kind of resources, under the tunnels they were opened for. -/
structure Tables (m : Manager) : Prop where
  listeners : ∀ id resource, m.listeners.lookup id = some resource →
    resource.Fits m.opened.length id .listener
  udpRuntimes : ∀ id resource, m.udpRuntimes.lookup id = some resource →
    resource.Fits m.opened.length id .udp
  relayBinds : ∀ id resource, m.relayBinds.lookup id = some resource →
    resource.Fits m.opened.length id .binding
  closed : ∀ resource ∈ m.closes.map Prod.fst, resource.number < m.opened.length

/-- So do the goroutines. -/
def Task.Typed (count : ℕ) : Task → Prop
  | .bound tunnel binding _ | .closeBinding tunnel binding => binding.Fits count tunnel.id .binding
  | .closeListener item listener _ => listener.Fits count item.id .listener
  | .stopRelease id taken _ | .stopClose id taken _ =>
      ∀ resource, taken.toClose = some resource → ∃ kind, resource.Fits count id kind
  | _ => True

section Facts

variable {m m' : Manager} {task task' : Task} {choice : Choice} {id : String}

/-- What is in a map is among everything. -/
theorem mem_taken_all {id : String} {resource : Resource} :
    resource ∈ (m.taken id).all ↔ m.listeners.lookup id = some resource ∨
      m.udpRuntimes.lookup id = some resource ∨ m.relayBinds.lookup id = some resource := by
  unfold Taken.all Manager.taken
  simp

/-- No call of `Close` is forgotten. -/
theorem closes_of_action (action : Action m task choice m' task') :
    ∀ call ∈ m.closes, call ∈ m'.closes := by
  intro call member
  cases action with
  | stopClose caller choice found => exact List.mem_append_left _ member
  | closeBinding tunnel binding choice => exact List.mem_append_left _ member
  | closeListener item listener rest choice => exact List.mem_append_left _ member
  | _ => exact member

/-- A goroutine that has returned takes no step. -/
theorem not_returned_of_action (action : Action m task choice m' task') :
    task.isReturned = false := by
  cases action with
  | leave err entry same =>
      cases task with
      | returned err => cases entry
      | _ => rfl
  | _ => rfl

theorem Resource.Fits.mono {resource : Resource} {kind : Kind} {count count' : ℕ}
    (fits : resource.Fits count id kind) (grows : count ≤ count') : resource.Fits count' id kind :=
  ⟨fits.own, fits.kind, fits.known.trans_le grows⟩

theorem Task.Typed.mono {count count' : ℕ} (typed : task.Typed count) (grows : count ≤ count') :
    task.Typed count' := by
  cases task with
  | bound tunnel binding caller => exact Resource.Fits.mono typed grows
  | closeBinding tunnel binding => exact Resource.Fits.mono typed grows
  | closeListener item listener rest => exact Resource.Fits.mono typed grows
  | stopRelease id taken caller =>
      intro resource found
      obtain ⟨kind, fits⟩ := typed resource found
      exact ⟨kind, fits.mono grows⟩
  | stopClose id taken caller =>
      intro resource found
      obtain ⟨kind, fits⟩ := typed resource found
      exact ⟨kind, fits.mono grows⟩
  | _ => trivial

theorem opened_le_of_action (action : Action m task choice m' task') :
    m.opened.length ≤ m'.opened.length := by
  cases action with
  | listen caller now absent => simp
  | listenUDP caller now absent => simp
  | bind tunnel assignment caller now => simp
  | _ => exact le_refl _

/-- What has nothing in its hands has nothing wrong in its hands. -/
theorem Task.Free.typed {count : ℕ} (free : task.Free) : task.Typed count := by
  cases task with
  | bound tunnel binding caller => cases free.held
  | closeBinding tunnel binding => cases free.held
  | closeListener item listener rest => cases free.held
  | stopRelease id taken caller => cases free.stopping
  | stopClose id taken caller => cases free.stopping
  | _ => trivial

theorem fits_fresh (m : Manager) (tunnel : Tunnel) (kind : Kind) :
    (m.fresh tunnel kind).Fits (m.opened ++ [m.fresh tunnel kind]).length tunnel.id kind := by
  refine ⟨rfl, rfl, ?_⟩
  rw [List.length_append]
  exact Nat.lt_succ_self _

/-- What is put into a map fits, and the rest does as before. -/
theorem fits_insert {map : GoMap String Resource} {kind : Kind} {count count' : ℕ}
    (fits : ∀ key resource, map.lookup key = some resource → resource.Fits count key kind)
    (grows : count ≤ count') {new : Resource} (fresh : new.Fits count' id kind) (key : String)
    (resource : Resource) (found : (map.insert id new).lookup key = some resource) :
    resource.Fits count' key kind := by
  rw [GoMap.lookup_insert_if] at found
  split at found
  · rename_i own
    cases found
    rw [own]
    exact fresh
  · exact (fits key resource found).mono grows

/-- What is left in a map fits. -/
theorem fits_erase {map : GoMap String Resource} {kind : Kind} {count : ℕ}
    (fits : ∀ key resource, map.lookup key = some resource → resource.Fits count key kind)
    (key : String) (resource : Resource) (found : (map.erase id).lookup key = some resource) :
    resource.Fits count key kind := by
  rw [GoMap.lookup_erase_if] at found
  split at found
  · cases found
  · exact fits key resource found

theorem closed_close {resource : Resource} {err : Option String} {count : ℕ}
    (closed : ∀ other ∈ m.closes.map Prod.fst, other.number < count)
    (known : resource.number < count) :
    ∀ other ∈ (m.close resource err).closes.map Prod.fst, other.number < count := by
  intro other member
  unfold Manager.close at member
  rw [List.map_append] at member
  rcases List.mem_append.mp member with old | new
  · exact closed other old
  · rw [List.mem_singleton.mp new]
    exact known

theorem Tables.action (tables : Tables m) (typed : task.Typed m.opened.length)
    (action : Action m task choice m' task') : Tables m' := by
  have grows := opened_le_of_action action
  cases action with
  | @listen tunnel caller now absent =>
      exact ⟨fits_insert tables.listeners grows (fits_fresh m tunnel .listener),
        fun key resource found => (tables.udpRuntimes key resource found).mono grows,
        fun key resource found => (tables.relayBinds key resource found).mono grows,
        fun resource member => (tables.closed resource member).trans_le grows⟩
  | @listenUDP tunnel caller now absent =>
      exact ⟨fun key resource found => (tables.listeners key resource found).mono grows,
        fits_insert tables.udpRuntimes grows (fits_fresh m tunnel .udp),
        fun key resource found => (tables.relayBinds key resource found).mono grows,
        fun resource member => (tables.closed resource member).trans_le grows⟩
  | bind tunnel assignment caller now =>
      exact ⟨fun key resource found => (tables.listeners key resource found).mono grows,
        fun key resource found => (tables.udpRuntimes key resource found).mono grows,
        fun key resource found => (tables.relayBinds key resource found).mono grows,
        fun resource member => (tables.closed resource member).trans_le grows⟩
  | put tunnel binding caller choice =>
      exact ⟨tables.listeners, tables.udpRuntimes, fits_insert tables.relayBinds grows typed,
        tables.closed⟩
  | take id caller choice =>
      exact ⟨fits_erase tables.listeners, fits_erase tables.udpRuntimes,
        fits_erase tables.relayBinds, tables.closed⟩
  | stopClose caller choice found =>
      obtain ⟨kind, fits⟩ := typed _ found
      exact ⟨tables.listeners, tables.udpRuntimes, tables.relayBinds,
        closed_close tables.closed fits.known⟩
  | takeBinding choice present =>
      exact ⟨tables.listeners, tables.udpRuntimes, fits_erase tables.relayBinds, tables.closed⟩
  | closeBinding tunnel binding choice =>
      exact ⟨tables.listeners, tables.udpRuntimes, tables.relayBinds,
        closed_close tables.closed (Resource.Fits.known typed)⟩
  | takeListener rest choice present =>
      exact ⟨fits_erase tables.listeners, tables.udpRuntimes, tables.relayBinds, tables.closed⟩
  | closeListener item listener rest choice =>
      exact ⟨tables.listeners, tables.udpRuntimes, tables.relayBinds,
        closed_close tables.closed (Resource.Fits.known typed)⟩
  | _ => exact ⟨tables.listeners, tables.udpRuntimes, tables.relayBinds, tables.closed⟩

theorem typed_of_action (tables : Tables m) (typed : task.Typed m.opened.length)
    (action : Action m task choice m' task') : task'.Typed m'.opened.length := by
  cases action with
  | bind tunnel assignment caller now => exact fits_fresh m tunnel .binding
  | take id caller choice =>
      intro resource found
      rcases mem_taken_all.mp (Taken.mem_all_of_toClose found) with listener | udp | binding
      · exact ⟨_, tables.listeners id resource listener⟩
      · exact ⟨_, tables.udpRuntimes id resource udp⟩
      · exact ⟨_, tables.relayBinds id resource binding⟩
  | stopRelease id taken caller choice removed => exact typed
  | takeBinding choice present => exact tables.relayBinds _ _ present
  | takeListener rest choice present => exact tables.listeners _ _ present
  | getStart now found => exact (free_start _).typed
  | listening caller choice present => exact (free_resume caller).typed
  | listen caller now absent => exact (free_resume caller).typed
  | listenFails caller cause message absent => exact (free_resume caller).typed
  | runningUDP caller choice present => exact (free_resume caller).typed
  | listenUDP caller now absent => exact (free_resume caller).typed
  | listenUDPFails caller message absent => exact (free_resume caller).typed
  | release tunnel caller choice removed => exact (free_fail caller).typed
  | put tunnel binding caller choice => exact (free_succeed caller).typed
  | releaseReassigned tunnel choice removed => exact (free_start _).typed
  | releaseItem item rest choice removed => exact (free_start _).typed
  | _ => trivial

/-- Every map holds its own kind of resources, along every run. -/
theorem tables_of_run {allowed : Config Manager Task → Move Task Choice → Prop}
    {config : Config Manager Task} (tables : Tables m)
    (reached : tunnels.Run allowed { shared := m, threads := [] } config) :
    Tables config.shared ∧ ∀ task ∈ config.threads, task.Typed config.shared.opened.length := by
  refine reached.pool_invariant Tables (fun m task => task.Typed m.opened.length) ?_ ?_ ?_
  · exact ⟨tables, fun task member => by cases member⟩
  · exact fun m task _ entry => (free_of_entry entry).typed
  · intro config index choice task m' task' spawned tables threads present _ stepped
    obtain ⟨action, rfl⟩ := action_of_step stepped
    have typed := threads task (List.mem_of_getElem? present)
    have grows := opened_le_of_action action
    exact ⟨tables.action typed action, typed_of_action tables typed action,
      fun _ member => (by cases member), fun other _ typed => typed.mono grows⟩

/-- A manager that was just made holds nothing. -/
theorem tables_newManager (store : Store) (registry : Option RelayRegistry) (binder : Bool) :
    Tables (newManager store registry binder) :=
  ⟨fun _ _ found => (by cases found), fun _ _ found => (by cases found),
    fun _ _ found => (by cases found), fun _ member => (by cases member)⟩

end Facts

/-! ## A small server for concrete runs -/

/-- A tunnel that has not been started. -/
def stoppedTunnel : Tunnel := { Auth.officeTunnel with status := .stopped }

/-- The database of `Auth.office`, with this tunnel. -/
def tunnelStore : Store :=
  { Auth.office with
    tunnels := [stoppedTunnel]
    tunnels_client := by
      intro tunnel member
      rw [List.mem_singleton.mp member]
      exact ⟨Auth.officeClient, List.mem_singleton.mpr rfl, rfl⟩ }

/-- A relay node. -/
def relayNode (id : String) : RelayNode := ⟨id, "192.0.2.7", "", 0, true, 0⟩

/-- The moves of goroutine `index`, when everything it calls succeeds. -/
def succeeds (index count : ℕ) : List (Move Task Choice) :=
  List.replicate count (.run index (.go 0))

end NryNet.Tunnels

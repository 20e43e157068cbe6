import NryNet.Advanced.RelayRegistry
import NryNet.Auth
import NryNet.Lib.ThreadPool

/-!
# Starting and stopping tunnels (`server/tunnel/manager.go`, `relay_binding.go`)

A tunnel is served by a listener of the server itself or by a binding on a relay node.  The `Manager`
keeps them in two maps, sockets of UDP tunnels in a third one, the assignments to relay nodes in the
registry, and the status of the tunnel in the store.  No lock is held over a whole operation: the
mutex of the manager guards the maps, the registry has one of its own, and the calls over the network
are made outside of both, with the exception of `net.Listen`.

## The model

`Manager` is all of that, with two logs nobody in the program reads: what was ever opened, and on
what `Close` was called with which result.

A goroutine (`Task`) stands between two of these atomic actions.  `start` and `bindRelayTunnel` have
several callers, which are part of the program point (`StartCaller`, `BindCaller`, `StopCaller`), so
that what follows a return can be read off it.  The environment decides when `net.Listen`,
`BindTunnel`, `Close` and the statements of the store fail, and what time it is (`Choice`).

`SetRelayRegistry` is called before anything else, so that `relayDependencies` returns the same
pointers all the time.  The paths shown to the agent (`notifyTunnelPath`), the event log and the
snapshot `SyncClient` sends are left out, they have no influence on anything here.  So are the accept
loop of a listener and the goroutines of a `udpRuntime`, which live on what was opened and end when
it is closed.
-/

namespace NryNet.Tunnels

open ThreadPool Advanced

/-- What a tunnel is reached through. -/
inductive Kind where
  /-- a `net.Listener` of the server -/
  | listener
  /-- the socket of a `udpRuntime` -/
  | udp
  /-- a `RelayBinding` -/
  | binding
  deriving DecidableEq, Repr

/-- Something that was opened for a tunnel. -/
structure Resource where
  number : ℕ
  tunnelID : String
  kind : Kind
  deriving DecidableEq, Repr

/-- The fields of `Manager` that starting and stopping is about. -/
structure Manager where
  store : Store
  listeners : GoMap String Resource
  udpRuntimes : GoMap String Resource
  relayBinds : GoMap String Resource
  registry : Option RelayRegistry
  binder : Bool
  /-- everything that was ever opened -/
  opened : List Resource
  /-- the calls of `Close`, with the errors they returned -/
  closes : List (Resource × Option String)

/-- `NewManager`, followed by `SetRelayRegistry`. -/
def newManager (store : Store) (registry : Option RelayRegistry) (binder : Bool) : Manager where
  store := store
  listeners := ∅
  udpRuntimes := ∅
  relayBinds := ∅
  registry := registry
  binder := binder
  opened := []
  closes := []

/-- Who has called `start`. -/
inductive StartCaller where
  | startTunnel
  | reassignRelayTunnel
  /-- `AssignAvailableRelayTunnels`, with the tunnels it has not got to yet -/
  | assignAvailable (rest : List Tunnel)
  deriving DecidableEq, Repr

/-- Who has called `bindRelayTunnel`. -/
inductive BindCaller where
  | tryRelayStart (caller : StartCaller)
  | reassignRelayTunnel
  | assignAvailable (rest : List Tunnel)
  deriving DecidableEq, Repr

/-- Who has called `stop`. -/
inductive StopCaller where
  /-- `StartTunnel`, when the store has returned this error -/
  | startTunnel (message : String)
  | stopTunnel (clientID : String)
  deriving DecidableEq, Repr

/-- What the critical section of `stop` takes out of the maps. -/
structure Taken where
  listener : Option Resource
  udp : Option Resource
  relayBind : Option Resource
  deriving DecidableEq, Repr

/-- What `stop` closes: it returns after the first of the three it finds. -/
def Taken.toClose (taken : Taken) : Option Resource :=
  taken.relayBind.orElse fun _ => taken.udp.orElse fun _ => taken.listener

/-- A goroutine at one of its program points. -/
inductive Task where
  | startTunnel (id : String)
  /-- `tryRelayStart`, before `AssignTunnel` -/
  | tryRelayStart (tunnel : Tunnel) (caller : StartCaller)
  | startTCPListener (tunnel : Tunnel) (caller : StartCaller)
  | startUDP (tunnel : Tunnel) (caller : StartCaller)
  /-- `bindRelayTunnel`, before `BindTunnel` -/
  | bindRelayTunnel (tunnel : Tunnel) (assignment : TunnelAssignment) (caller : BindCaller)
  /-- `bindRelayTunnel`, before the release after a failed `BindTunnel` -/
  | unbound (tunnel : Tunnel) (caller : BindCaller)
  /-- `bindRelayTunnel`, before the binding is put into the map -/
  | bound (tunnel : Tunnel) (binding : Resource) (caller : BindCaller)
  /-- `StartTunnel`, before `SetTunnelStatus` with `running` -/
  | setRunning (tunnel : Tunnel)
  /-- `StartTunnel`, before `SetTunnelStatus` with `error` -/
  | setError (tunnel : Tunnel) (message : String)
  | syncClient (clientID : String)
  | stopTunnel (id : String)
  /-- `stop`, before its critical section -/
  | stop (id : String) (caller : StopCaller)
  /-- `stop`, before `ReleaseTunnel` -/
  | stopRelease (id : String) (taken : Taken) (caller : StopCaller)
  /-- `stop`, before `Close` -/
  | stopClose (id : String) (taken : Taken) (caller : StopCaller)
  /-- `stop` has returned -/
  | stopped (id : String) (err : Option String) (caller : StopCaller)
  | reassignRelayTunnel (id : String)
  /-- `closeRelayBinding`, before its critical section -/
  | closeRelayBinding (tunnel : Tunnel)
  /-- `closeRelayBinding`, before `Close` -/
  | closeBinding (tunnel : Tunnel) (binding : Resource)
  /-- `ReassignTunnel`, before its first critical section -/
  | reassignTunnel (tunnel : Tunnel)
  /-- `ReassignTunnel`, before `assign` -/
  | reassign (tunnel : Tunnel) (exclude : String)
  /-- `ReassignRelayTunnel`, before the release after a failed `ReassignTunnel` -/
  | releaseReassigned (tunnel : Tunnel)
  | assignAvailableRelayTunnels
  /-- `AssignAvailableRelayTunnels`, at the head of its loop -/
  | assignAvailable (items : List Tunnel)
  /-- `closeLocalListener`, before its critical section -/
  | closeLocalListener (item : Tunnel) (rest : List Tunnel)
  /-- `closeLocalListener`, before `Close` -/
  | closeListener (item : Tunnel) (listener : Resource) (rest : List Tunnel)
  /-- `AssignAvailableRelayTunnels`, before `AssignTunnel` -/
  | assignItem (item : Tunnel) (rest : List Tunnel)
  /-- `AssignAvailableRelayTunnels`, before `ReleaseTunnel` -/
  | releaseItem (item : Tunnel) (rest : List Tunnel)
  /-- `RelayRegistry.Register`, and what `ValidateSecureHTTPURL` says of the control address -/
  | register (node : RelayNode) (invalid : Option String)
  /-- `RelayRegistry.Heartbeat` -/
  | heartbeat (id : String) (connections : ℤ)
  /-- `RelayRegistry.MarkUnhealthy` -/
  | markUnhealthy (id : String)
  | returned (err : Option String)
  deriving DecidableEq, Repr

/-- What the environment decides. -/
inductive Choice where
  /-- the call succeeds, at this instant -/
  | go (now : Time)
  /-- the call returns this error -/
  | failed (message : String)
  deriving DecidableEq, Repr

/-- The error a call returns. -/
def Choice.err : Choice → Option String
  | .go _ => none
  | .failed message => some message

/-! ## What follows a call -/

/-- `start` has returned. -/
def StartCaller.resume (tunnel : Tunnel) (err : Option String) : StartCaller → Task
  | .startTunnel =>
      match err with
      | none => .setRunning tunnel
      | some message => .setError tunnel message
  | .reassignRelayTunnel => .returned err
  | .assignAvailable rest => .assignAvailable rest

/-- `start`; the branch for `tcp` is `startTCP`. -/
def start (tunnel : Tunnel) (caller : StartCaller) : Task :=
  if tunnel.protocol = "visitor_webrtc" then caller.resume tunnel none
  else if tunnel.protocol = "http" ∨ tunnel.protocol = "https" then caller.resume tunnel none
  else if tunnel.protocol = "tcp" then .tryRelayStart tunnel caller
  else if tunnel.protocol = "udp" then .startUDP tunnel caller
  else if tunnel.protocol ≠ "p2p" then
    caller.resume tunnel (some (tunnel.protocol ++ " tunnel runtime is not available yet"))
  else .startTCPListener tunnel caller

/-- `bindRelayTunnel` has returned `true`. -/
def BindCaller.succeed (tunnel : Tunnel) : BindCaller → Task
  | .tryRelayStart caller => caller.resume tunnel none
  | .reassignRelayTunnel => .returned none
  | .assignAvailable rest => .assignAvailable rest

/-- `bindRelayTunnel` has returned `false`. -/
def BindCaller.fail (tunnel : Tunnel) : BindCaller → Task
  | .tryRelayStart caller => .startTCPListener tunnel caller
  | .reassignRelayTunnel => .returned (some "bind reassigned relay")
  | .assignAvailable rest => .releaseItem tunnel rest

/-! ## The critical sections -/

namespace Manager

/-- `relayDependencies`, as far as callers go on with it. -/
def relayDependencies (m : Manager) : Option RelayRegistry :=
  if m.binder then m.registry else none

/-- `registry.ReleaseTunnel`, if there is a registry. -/
def releaseTunnel (m : Manager) (id : String) : Manager :=
  { m with registry := m.registry.map fun registry => registry.releaseTunnel id }

/-- `Close`. -/
def close (m : Manager) (resource : Resource) (err : Option String) : Manager :=
  { m with closes := m.closes ++ [(resource, err)] }

/-- What a successful `net.Listen`, `net.ListenUDP` or `BindTunnel` returns. -/
def fresh (m : Manager) (tunnel : Tunnel) (kind : Kind) : Resource :=
  ⟨m.opened.length, tunnel.id, kind⟩

/-- `GetTunnel`, which every operation on a tunnel begins with. -/
def getTunnel (m : Manager) (id : String) : Choice → Except String Tunnel
  | .go _ => m.store.getTunnel id
  | .failed message => .error message

/-- `SetTunnelStatus`. -/
def setTunnelStatus (m : Manager) (id : String) (status : TunnelStatus) :
    Choice → Except String Manager
  | .go now => (m.store.setTunnelStatus id status now).map fun store => { m with store := store }
  | .failed message => .error message

/-- `assign` of the registry, and what follows. -/
def assign (m : Manager) (registry : RelayRegistry) (tunnel : Tunnel) (exclude : String)
    (now : Time) (assigned : TunnelAssignment → Task) (otherwise : Task) : Manager × Task :=
  match registry.assign now tunnel.id exclude with
  | (registry, .ok assignment) => ({ m with registry := some registry }, assigned assignment)
  | (registry, .error _) => ({ m with registry := some registry }, otherwise)

/-- `tryRelayStart`, up to `bindRelayTunnel`. -/
def tryRelayStart (m : Manager) (tunnel : Tunnel) (caller : StartCaller) (now : Time) :
    Manager × Task :=
  match m.relayDependencies with
  | none => (m, .startTCPListener tunnel caller)
  | some registry =>
      if tunnel.protocol ≠ "tcp" then (m, .startTCPListener tunnel caller)
      else
        m.assign registry tunnel "" now
          (fun assignment => .bindRelayTunnel tunnel assignment (.tryRelayStart caller))
          (.startTCPListener tunnel caller)

/-- `startTCPListener`: the mutex is held while `net.Listen` runs. -/
def startTCPListener (m : Manager) (tunnel : Tunnel) (caller : StartCaller) :
    Choice → Manager × Task
  | .go _ =>
      match m.listeners.lookup tunnel.id with
      -- a tunnel that listens already is left alone
      | some _ => (m, caller.resume tunnel none)
      | none =>
          ({ m with
              listeners := m.listeners.insert tunnel.id (m.fresh tunnel .listener)
              opened := m.opened ++ [m.fresh tunnel .listener] },
            caller.resume tunnel none)
  | .failed message =>
      match m.listeners.lookup tunnel.id with
      | some _ => (m, caller.resume tunnel none)
      | none =>
          (m, caller.resume tunnel
            (some ("listen on remote port " ++ toString tunnel.remotePort ++ ": " ++ message)))

/-- `startUDP`: the mutex is held while `listenUDP` runs, whose error is returned as it is. -/
def startUDP (m : Manager) (tunnel : Tunnel) (caller : StartCaller) : Choice → Manager × Task
  | .go _ =>
      match m.udpRuntimes.lookup tunnel.id with
      | some _ => (m, caller.resume tunnel none)
      | none =>
          ({ m with
              udpRuntimes := m.udpRuntimes.insert tunnel.id (m.fresh tunnel .udp)
              opened := m.opened ++ [m.fresh tunnel .udp] },
            caller.resume tunnel none)
  | .failed message =>
      match m.udpRuntimes.lookup tunnel.id with
      | some _ => (m, caller.resume tunnel none)
      | none => (m, caller.resume tunnel (some message))

/-- What the critical section of `stop` finds. -/
def taken (m : Manager) (id : String) : Taken where
  listener := m.listeners.lookup id
  udp := m.udpRuntimes.lookup id
  relayBind := m.relayBinds.lookup id

/-- What the critical section of `stop` leaves behind. -/
def withoutTunnel (m : Manager) (id : String) : Manager :=
  { m with
    listeners := m.listeners.erase id
    udpRuntimes := m.udpRuntimes.erase id
    relayBinds := m.relayBinds.erase id }

/-- `AssignAvailableRelayTunnels`, up to its loop. -/
def assignAvailableRelayTunnels (m : Manager) (choice : Choice) : Manager × Task :=
  match m.relayDependencies with
  | none => (m, .returned none)
  | some _ =>
      match choice with
      | .go _ => (m, .assignAvailable m.store.listTunnels)
      | .failed _ => (m, .returned none)

/-- One turn of the loop of `AssignAvailableRelayTunnels`, up to `closeLocalListener`. -/
def nextItem (m : Manager) (item : Tunnel) (rest : List Tunnel) (now : Time) : Manager × Task :=
  if item.status ≠ .running ∨ item.protocol ≠ "tcp" then (m, .assignAvailable rest)
  else
    match m.registry with
    | none => (m, .assignAvailable rest)
    | some registry =>
        ({ m with registry := some (registry.assignment now item.id).1 },
          if (registry.assignment now item.id).2.isSome then .assignAvailable rest
          else .closeLocalListener item rest)

/-- `Register`, when `ValidateSecureHTTPURL` returns this error. -/
def register (m : Manager) (node : RelayNode) (invalid : Option String) (now : Time) :
    Manager × Task :=
  match m.registry with
  | none => (m, .returned none)
  | some registry =>
      match registry.register (fun _ => invalid.elim (.ok ()) .error) now node with
      | .ok (registry, _) => ({ m with registry := some registry }, .returned none)
      | .error message => (m, .returned (some message))

/-- `Heartbeat`. -/
def heartbeat (m : Manager) (id : String) (connections : ℤ) (now : Time) : Manager × Task :=
  match m.registry with
  | none => (m, .returned none)
  | some registry =>
      match registry.heartbeat now id connections with
      | .ok (registry, _) => ({ m with registry := some registry }, .returned none)
      | .error message => (m, .returned (some message))

end Manager

/-! ## The step function -/

/-- One atomic action of a goroutine. -/
def step (m : Manager) : Task → Choice → Option (Manager × Task)
  | .startTunnel id, choice =>
      match m.getTunnel id choice with
      | .error message => some (m, .returned (some message))
      | .ok tunnel => some (m, start tunnel .startTunnel)
  | .tryRelayStart tunnel caller, .go now => some (m.tryRelayStart tunnel caller now)
  | .startTCPListener tunnel caller, choice => some (m.startTCPListener tunnel caller choice)
  | .startUDP tunnel caller, choice => some (m.startUDP tunnel caller choice)
  | .bindRelayTunnel tunnel _ caller, .go _ =>
      some ({ m with opened := m.opened ++ [m.fresh tunnel .binding] },
        .bound tunnel (m.fresh tunnel .binding) caller)
  | .bindRelayTunnel tunnel _ caller, .failed _ => some (m, .unbound tunnel caller)
  | .unbound tunnel caller, _ => some (m.releaseTunnel tunnel.id, caller.fail tunnel)
  | .bound tunnel binding caller, _ =>
      some ({ m with relayBinds := m.relayBinds.insert tunnel.id binding }, caller.succeed tunnel)
  | .setRunning tunnel, choice =>
      match m.setTunnelStatus tunnel.id .running choice with
      | .error message => some (m, .stop tunnel.id (.startTunnel message))
      | .ok m => some (m, .syncClient tunnel.clientID)
  | .setError tunnel message, choice =>
      match m.setTunnelStatus tunnel.id .error choice with
      -- `_ = m.store.SetTunnelStatus(…)`: the caller sees the error of `start`
      | .error _ => some (m, .returned (some message))
      | .ok m => some (m, .returned (some message))
  | .syncClient _, choice => some (m, .returned choice.err)
  | .stopTunnel id, choice =>
      match m.getTunnel id choice with
      | .error message => some (m, .returned (some message))
      | .ok tunnel => some (m, .stop id (.stopTunnel tunnel.clientID))
  | .stop id caller, _ => some (m.withoutTunnel id, .stopRelease id (m.taken id) caller)
  | .stopRelease id taken caller, _ => some (m.releaseTunnel id, .stopClose id taken caller)
  | .stopClose id taken caller, choice =>
      match taken.toClose with
      | none => some (m, .stopped id none caller)
      | some resource => some (m.close resource choice.err, .stopped id choice.err caller)
  -- `_ = m.stop(id)`: the caller sees the error of the store
  | .stopped _ _ (.startTunnel message), _ => some (m, .returned (some message))
  | .stopped _ (some message) (.stopTunnel _), _ => some (m, .returned (some message))
  | .stopped id none (.stopTunnel clientID), choice =>
      match m.setTunnelStatus id .stopped choice with
      | .error message => some (m, .returned (some message))
      | .ok m => some (m, .syncClient clientID)
  | .reassignRelayTunnel id, choice =>
      match m.getTunnel id choice with
      | .error message => some (m, .returned (some message))
      | .ok tunnel =>
          match m.relayDependencies with
          | none => some (m, .returned (some "relay runtime is disabled"))
          | some _ => some (m, .closeRelayBinding tunnel)
  | .closeRelayBinding tunnel, _ =>
      match m.relayBinds.lookup tunnel.id with
      | none => some (m, .reassignTunnel tunnel)
      | some binding =>
          some ({ m with relayBinds := m.relayBinds.erase tunnel.id },
            .closeBinding tunnel binding)
  -- the error of `Close` is dropped here and in `closeLocalListener`
  | .closeBinding tunnel binding, choice =>
      some (m.close binding choice.err, .reassignTunnel tunnel)
  | .reassignTunnel tunnel, _ =>
      m.registry.map fun registry => (m, .reassign tunnel (registry.assignedNode tunnel.id))
  | .reassign tunnel exclude, .go now =>
      m.registry.map fun registry =>
        m.assign registry tunnel exclude now
          (fun assignment => .bindRelayTunnel tunnel assignment .reassignRelayTunnel)
          (.releaseReassigned tunnel)
  | .releaseReassigned tunnel, _ =>
      some (m.releaseTunnel tunnel.id, start tunnel .reassignRelayTunnel)
  | .assignAvailableRelayTunnels, choice =>
      some (m.assignAvailableRelayTunnels choice)
  | .assignAvailable [], _ => some (m, .returned none)
  | .assignAvailable (item :: rest), .go now => some (m.nextItem item rest now)
  | .closeLocalListener item rest, _ =>
      match m.listeners.lookup item.id with
      | none => some (m, .assignAvailable rest)
      | some listener =>
          some ({ m with listeners := m.listeners.erase item.id },
            .closeListener item listener rest)
  | .closeListener item listener rest, choice =>
      some (m.close listener choice.err, .assignItem item rest)
  | .assignItem item rest, .go now =>
      m.registry.map fun registry =>
        m.assign registry item "" now
          (fun assignment => .bindRelayTunnel item assignment (.assignAvailable rest))
          (.releaseItem item rest)
  | .releaseItem item rest, _ =>
      some (m.releaseTunnel item.id, start item (.assignAvailable rest))
  | .register node invalid, .go now => some (m.register node invalid now)
  | .heartbeat id connections, .go now => some (m.heartbeat id connections now)
  | .markUnhealthy id, _ =>
      some ({ m with registry := m.registry.map fun registry => registry.markUnhealthy id },
        .returned none)
  | .returned _, _ => none
  | .tryRelayStart _ _, .failed _ | .reassign _ _, .failed _ | .assignAvailable (_ :: _), .failed _
  | .assignItem _ _, .failed _ | .register _ _, .failed _ | .heartbeat _ _, .failed _ => none

/-- The goroutines that arrive from outside. -/
def Task.entry : Task → Bool
  | .startTunnel _ | .stopTunnel _ | .reassignRelayTunnel _ | .assignAvailableRelayTunnels
  | .register _ _ | .heartbeat _ _ | .markUnhealthy _ => true
  | _ => false

/-- The pool of these goroutines.  None of them starts another one that is modelled here. -/
def tunnels : Machine Manager Task Choice where
  entry := Task.entry
  step m task choice := (step m task choice).map fun outcome => (outcome.1, outcome.2, [])

/-! ## What an action does

`Action` lists the steps with what they change.  The registry appears with its assignments only: an
action leaves all of them as they are, adds one or takes one away. -/

/-- The registry has an assignment for the tunnel. -/
def Manager.assigned (m : Manager) (id : String) : Bool :=
  (m.registry.bind fun registry => registry.assignments.lookup id).isSome

/-- The assignments with this registry in place of that of the manager. -/
abbrev Manager.assignedWith (m : Manager) (registry : Option RelayRegistry) : String → Bool :=
  ({ m with registry := registry } : Manager).assigned

inductive Action (m : Manager) : Task → Choice → Manager → Task → Prop
  | getStart {id : String} {tunnel : Tunnel} (now : Time) (found : m.store.getTunnel id = .ok tunnel) :
      Action m (.startTunnel id) (.go now) m (start tunnel .startTunnel)
  | getStop {id : String} {tunnel : Tunnel} (now : Time) (found : m.store.getTunnel id = .ok tunnel) :
      Action m (.stopTunnel id) (.go now) m (.stop id (.stopTunnel tunnel.clientID))
  | getReassign {id : String} {tunnel : Tunnel} (now : Time)
      (found : m.store.getTunnel id = .ok tunnel) :
      Action m (.reassignRelayTunnel id) (.go now) m (.closeRelayBinding tunnel)
  | list (now : Time) :
      Action m .assignAvailableRelayTunnels (.go now) m (.assignAvailable m.store.listTunnels)
  /-- an operation that returns at once: the tunnel is not there, relaying is disabled, or it is one
  of the registry's own -/
  | leave {task : Task} {choice : Choice} {registry : Option RelayRegistry} (err : Option String)
      (entry : task.entry = true) (same : ∀ id, m.assignedWith registry id = m.assigned id) :
      Action m task choice { m with registry := registry } (.returned err)
  | noRelay (tunnel : Tunnel) (caller : StartCaller) (now : Time) {registry : Option RelayRegistry}
      (same : ∀ id, m.assignedWith registry id = m.assigned id) :
      Action m (.tryRelayStart tunnel caller) (.go now) { m with registry := registry }
        (.startTCPListener tunnel caller)
  | relay (tunnel : Tunnel) (caller : StartCaller) (now : Time) {registry : Option RelayRegistry}
      (assignment : TunnelAssignment)
      (added : ∀ id, m.assignedWith registry id = (decide (id = tunnel.id) || m.assigned id)) :
      Action m (.tryRelayStart tunnel caller) (.go now) { m with registry := registry }
        (.bindRelayTunnel tunnel assignment (.tryRelayStart caller))
  | listening {tunnel : Tunnel} {listener : Resource} (caller : StartCaller) (choice : Choice)
      (present : m.listeners.lookup tunnel.id = some listener) :
      Action m (.startTCPListener tunnel caller) choice m (caller.resume tunnel none)
  | listen {tunnel : Tunnel} (caller : StartCaller) (now : Time)
      (absent : m.listeners.lookup tunnel.id = none) :
      Action m (.startTCPListener tunnel caller) (.go now)
        { m with
          listeners := m.listeners.insert tunnel.id (m.fresh tunnel .listener)
          opened := m.opened ++ [m.fresh tunnel .listener] }
        (caller.resume tunnel none)
  | listenFails {tunnel : Tunnel} (caller : StartCaller) (cause message : String)
      (absent : m.listeners.lookup tunnel.id = none) :
      Action m (.startTCPListener tunnel caller) (.failed cause) m
        (caller.resume tunnel (some message))
  | runningUDP {tunnel : Tunnel} {socket : Resource} (caller : StartCaller) (choice : Choice)
      (present : m.udpRuntimes.lookup tunnel.id = some socket) :
      Action m (.startUDP tunnel caller) choice m (caller.resume tunnel none)
  | listenUDP {tunnel : Tunnel} (caller : StartCaller) (now : Time)
      (absent : m.udpRuntimes.lookup tunnel.id = none) :
      Action m (.startUDP tunnel caller) (.go now)
        { m with
          udpRuntimes := m.udpRuntimes.insert tunnel.id (m.fresh tunnel .udp)
          opened := m.opened ++ [m.fresh tunnel .udp] }
        (caller.resume tunnel none)
  | listenUDPFails {tunnel : Tunnel} (caller : StartCaller) (message : String)
      (absent : m.udpRuntimes.lookup tunnel.id = none) :
      Action m (.startUDP tunnel caller) (.failed message) m (caller.resume tunnel (some message))
  | bind (tunnel : Tunnel) (assignment : TunnelAssignment) (caller : BindCaller) (now : Time) :
      Action m (.bindRelayTunnel tunnel assignment caller) (.go now)
        { m with opened := m.opened ++ [m.fresh tunnel .binding] }
        (.bound tunnel (m.fresh tunnel .binding) caller)
  | bindFails (tunnel : Tunnel) (assignment : TunnelAssignment) (caller : BindCaller)
      (message : String) :
      Action m (.bindRelayTunnel tunnel assignment caller) (.failed message) m
        (.unbound tunnel caller)
  | release (tunnel : Tunnel) (caller : BindCaller) (choice : Choice)
      {registry : Option RelayRegistry}
      (removed : ∀ id, m.assignedWith registry id = (decide (id ≠ tunnel.id) && m.assigned id)) :
      Action m (.unbound tunnel caller) choice { m with registry := registry } (caller.fail tunnel)
  | put (tunnel : Tunnel) (binding : Resource) (caller : BindCaller) (choice : Choice) :
      Action m (.bound tunnel binding caller) choice
        { m with relayBinds := m.relayBinds.insert tunnel.id binding } (caller.succeed tunnel)
  | setRunning {tunnel : Tunnel} {now : Time} {store : Store}
      (written : m.store.setTunnelStatus tunnel.id .running now = .ok store) :
      Action m (.setRunning tunnel) (.go now) { m with store := store }
        (.syncClient tunnel.clientID)
  | setRunningFails (tunnel : Tunnel) (choice : Choice) (message : String)
      (refused : m.setTunnelStatus tunnel.id .running choice = .error message) :
      Action m (.setRunning tunnel) choice m (.stop tunnel.id (.startTunnel message))
  | setError {tunnel : Tunnel} {now : Time} {store : Store} (message : String)
      (written : m.store.setTunnelStatus tunnel.id .error now = .ok store) :
      Action m (.setError tunnel message) (.go now) { m with store := store }
        (.returned (some message))
  | setErrorFails (tunnel : Tunnel) (message cause : String) (choice : Choice)
      (refused : m.setTunnelStatus tunnel.id .error choice = .error cause) :
      Action m (.setError tunnel message) choice m (.returned (some message))
  | sync (clientID : String) (choice : Choice) :
      Action m (.syncClient clientID) choice m (.returned choice.err)
  | take (id : String) (caller : StopCaller) (choice : Choice) :
      Action m (.stop id caller) choice (m.withoutTunnel id) (.stopRelease id (m.taken id) caller)
  | stopRelease (id : String) (taken : Taken) (caller : StopCaller) (choice : Choice)
      {registry : Option RelayRegistry}
      (removed : ∀ other, m.assignedWith registry other = (decide (other ≠ id) && m.assigned other)) :
      Action m (.stopRelease id taken caller) choice { m with registry := registry }
        (.stopClose id taken caller)
  | nothingToClose {id : String} {taken : Taken} (caller : StopCaller) (choice : Choice)
      (nothing : taken.toClose = none) :
      Action m (.stopClose id taken caller) choice m (.stopped id none caller)
  | stopClose {id : String} {taken : Taken} {resource : Resource} (caller : StopCaller)
      (choice : Choice) (found : taken.toClose = some resource) :
      Action m (.stopClose id taken caller) choice (m.close resource choice.err)
        (.stopped id choice.err caller)
  | startGivesUp (id : String) (err : Option String) (message : String) (choice : Choice) :
      Action m (.stopped id err (.startTunnel message)) choice m (.returned (some message))
  | stopFails (id clientID message : String) (choice : Choice) :
      Action m (.stopped id (some message) (.stopTunnel clientID)) choice m
        (.returned (some message))
  | setStopped {id : String} {now : Time} {store : Store} (clientID : String)
      (written : m.store.setTunnelStatus id .stopped now = .ok store) :
      Action m (.stopped id none (.stopTunnel clientID)) (.go now) { m with store := store }
        (.syncClient clientID)
  | setStoppedFails (id clientID message : String) (choice : Choice)
      (refused : m.setTunnelStatus id .stopped choice = .error message) :
      Action m (.stopped id none (.stopTunnel clientID)) choice m (.returned (some message))
  | noBinding {tunnel : Tunnel} (choice : Choice) (absent : m.relayBinds.lookup tunnel.id = none) :
      Action m (.closeRelayBinding tunnel) choice m (.reassignTunnel tunnel)
  | takeBinding {tunnel : Tunnel} {binding : Resource} (choice : Choice)
      (present : m.relayBinds.lookup tunnel.id = some binding) :
      Action m (.closeRelayBinding tunnel) choice
        { m with relayBinds := m.relayBinds.erase tunnel.id } (.closeBinding tunnel binding)
  | closeBinding (tunnel : Tunnel) (binding : Resource) (choice : Choice) :
      Action m (.closeBinding tunnel binding) choice (m.close binding choice.err)
        (.reassignTunnel tunnel)
  | readAssignment (tunnel : Tunnel) (exclude : String) (choice : Choice) :
      Action m (.reassignTunnel tunnel) choice m (.reassign tunnel exclude)
  | reassigned (tunnel : Tunnel) (exclude : String) (now : Time) {registry : Option RelayRegistry}
      (assignment : TunnelAssignment)
      (added : ∀ id, m.assignedWith registry id = (decide (id = tunnel.id) || m.assigned id)) :
      Action m (.reassign tunnel exclude) (.go now) { m with registry := registry }
        (.bindRelayTunnel tunnel assignment .reassignRelayTunnel)
  | notReassigned (tunnel : Tunnel) (exclude : String) (now : Time)
      {registry : Option RelayRegistry} (same : ∀ id, m.assignedWith registry id = m.assigned id) :
      Action m (.reassign tunnel exclude) (.go now) { m with registry := registry }
        (.releaseReassigned tunnel)
  | releaseReassigned (tunnel : Tunnel) (choice : Choice) {registry : Option RelayRegistry}
      (removed : ∀ id, m.assignedWith registry id = (decide (id ≠ tunnel.id) && m.assigned id)) :
      Action m (.releaseReassigned tunnel) choice { m with registry := registry }
        (start tunnel .reassignRelayTunnel)
  | itemsDone (choice : Choice) : Action m (.assignAvailable []) choice m (.returned none)
  | skipItem (item : Tunnel) (rest : List Tunnel) (now : Time) {registry : Option RelayRegistry}
      (same : ∀ id, m.assignedWith registry id = m.assigned id) :
      Action m (.assignAvailable (item :: rest)) (.go now) { m with registry := registry }
        (.assignAvailable rest)
  | pickItem (item : Tunnel) (rest : List Tunnel) (now : Time) {registry : Option RelayRegistry}
      (same : ∀ id, m.assignedWith registry id = m.assigned id) :
      Action m (.assignAvailable (item :: rest)) (.go now) { m with registry := registry }
        (.closeLocalListener item rest)
  | noListener {item : Tunnel} (rest : List Tunnel) (choice : Choice)
      (absent : m.listeners.lookup item.id = none) :
      Action m (.closeLocalListener item rest) choice m (.assignAvailable rest)
  | takeListener {item : Tunnel} {listener : Resource} (rest : List Tunnel) (choice : Choice)
      (present : m.listeners.lookup item.id = some listener) :
      Action m (.closeLocalListener item rest) choice
        { m with listeners := m.listeners.erase item.id } (.closeListener item listener rest)
  | closeListener (item : Tunnel) (listener : Resource) (rest : List Tunnel) (choice : Choice) :
      Action m (.closeListener item listener rest) choice (m.close listener choice.err)
        (.assignItem item rest)
  | itemAssigned (item : Tunnel) (rest : List Tunnel) (now : Time)
      {registry : Option RelayRegistry} (assignment : TunnelAssignment)
      (added : ∀ id, m.assignedWith registry id = (decide (id = item.id) || m.assigned id)) :
      Action m (.assignItem item rest) (.go now) { m with registry := registry }
        (.bindRelayTunnel item assignment (.assignAvailable rest))
  | itemNotAssigned (item : Tunnel) (rest : List Tunnel) (now : Time)
      {registry : Option RelayRegistry} (same : ∀ id, m.assignedWith registry id = m.assigned id) :
      Action m (.assignItem item rest) (.go now) { m with registry := registry }
        (.releaseItem item rest)
  | releaseItem (item : Tunnel) (rest : List Tunnel) (choice : Choice)
      {registry : Option RelayRegistry}
      (removed : ∀ id, m.assignedWith registry id = (decide (id ≠ item.id) && m.assigned id)) :
      Action m (.releaseItem item rest) choice { m with registry := registry }
        (start item (.assignAvailable rest))

section Steps

variable {m m' : Manager} {task task' : Task} {choice : Choice}

/-- `ReleaseTunnel` takes one assignment away. -/
theorem Manager.assigned_releaseTunnel (m : Manager) (id other : String) :
    (m.releaseTunnel id).assigned other = (decide (other ≠ id) && m.assigned other) := by
  unfold Manager.assigned Manager.releaseTunnel
  cases m.registry with
  | none => simp
  | some registry =>
      simp only [Option.map_some, Option.bind_some, RelayRegistry.assignments_releaseTunnel,
        GoMap.lookup_erase_if]
      by_cases same : other = id
      · simp [same]
      · simp [same]

/-- A registry with the same assignments assigns the same tunnels. -/
theorem Manager.assignedWith_same {registry registry' : RelayRegistry}
    (current : m.registry = some registry) (same : registry'.assignments = registry.assignments)
    (id : String) : m.assignedWith (some registry') id = m.assigned id := by
  unfold Manager.assignedWith Manager.assigned
  rw [current]
  simp only [Option.bind_some, same]

/-- `assign` adds the assignment of the tunnel, or leaves the assignments as they are. -/
theorem Manager.assign_cases {registry : RelayRegistry} (current : m.registry = some registry)
    (tunnel : Tunnel) (exclude : String) (now : Time) (assigned : TunnelAssignment → Task)
    (otherwise : Task) :
    (∃ registry' assignment, m.assign registry tunnel exclude now assigned otherwise =
        ({ m with registry := registry' }, assigned assignment) ∧
      ∀ id, m.assignedWith registry' id = (decide (id = tunnel.id) || m.assigned id)) ∨
    ∃ registry', m.assign registry tunnel exclude now assigned otherwise =
        ({ m with registry := registry' }, otherwise) ∧
      ∀ id, m.assignedWith registry' id = m.assigned id := by
  unfold Manager.assign
  rcases h : registry.assign now tunnel.id exclude with ⟨registry', result⟩
  have outcome := registry.assignments_assign now tunnel.id exclude
  rw [h] at outcome
  rcases outcome with ⟨message, rfl, same⟩ | ⟨assignment, rfl, added⟩
  · exact Or.inr ⟨some registry', rfl, Manager.assignedWith_same current same⟩
  · refine Or.inl ⟨some registry', assignment, rfl, fun id => ?_⟩
    unfold Manager.assignedWith Manager.assigned
    simp only at added
    rw [current, Option.bind_some, Option.bind_some, added, GoMap.lookup_insert_if]
    by_cases same : id = tunnel.id
    · simp [same]
    · simp [same]

theorem Manager.getTunnel_ok {id : String} {tunnel : Tunnel}
    (found : m.getTunnel id choice = .ok tunnel) :
    ∃ now, choice = .go now ∧ m.store.getTunnel id = .ok tunnel := by
  cases choice with
  | go now => exact ⟨now, rfl, found⟩
  | failed message => cases found

theorem Manager.setTunnelStatus_ok {id : String} {status : TunnelStatus}
    (written : m.setTunnelStatus id status choice = .ok m') :
    ∃ now store, choice = .go now ∧ m.store.setTunnelStatus id status now = .ok store ∧
      m' = { m with store := store } := by
  cases choice with
  | failed message => cases written
  | go now =>
      unfold Manager.setTunnelStatus at written
      cases h : m.store.setTunnelStatus id status now with
      | error message =>
          simp only [h] at written
          cases written
      | ok store =>
          simp only [h] at written
          cases written
          exact ⟨now, store, rfl, h, rfl⟩

/-- What leaves the registry alone keeps its assignments. -/
theorem Manager.assignedWith_registry (m : Manager) (id : String) :
    m.assignedWith m.registry id = m.assigned id :=
  rfl

/-- `tryRelayStart` gets an assignment, or the tunnel is served locally. -/
theorem tryRelayStart_action {tunnel : Tunnel} {caller : StartCaller}
    (stepped : step m (.tryRelayStart tunnel caller) choice = some (m', task')) :
    Action m (.tryRelayStart tunnel caller) choice m' task' := by
  cases choice with
  | failed message => cases stepped
  | go now =>
      replace stepped := Option.some.inj stepped
      unfold Manager.tryRelayStart Manager.relayDependencies at stepped
      split at stepped
      · cases stepped
        exact .noRelay tunnel caller now m.assignedWith_registry
      · rename_i registry current
        split at stepped
        · cases stepped
          exact .noRelay tunnel caller now m.assignedWith_registry
        · split at current
          · rcases Manager.assign_cases current tunnel "" now
                (fun assignment => .bindRelayTunnel tunnel assignment (.tryRelayStart caller))
                (.startTCPListener tunnel caller) with
              ⟨registry', assignment, outcome, added⟩ | ⟨registry', outcome, same⟩
            · rw [outcome] at stepped
              cases stepped
              exact .relay tunnel caller now assignment added
            · rw [outcome] at stepped
              cases stepped
              exact .noRelay tunnel caller now same
          · cases current

/-- `startTCPListener` listens unless there is a listener already. -/
theorem startTCPListener_action {tunnel : Tunnel} {caller : StartCaller}
    (stepped : step m (.startTCPListener tunnel caller) choice = some (m', task')) :
    Action m (.startTCPListener tunnel caller) choice m' task' := by
  replace stepped := Option.some.inj stepped
  cases h : m.listeners.lookup tunnel.id with
  | some listener =>
      have returns : m.startTCPListener tunnel caller choice =
          (m, caller.resume tunnel none) := by
        cases choice <;> simp only [Manager.startTCPListener, h]
      rw [returns] at stepped
      cases stepped
      exact .listening caller choice h
  | none =>
      cases choice with
      | go now =>
          simp only [Manager.startTCPListener, h] at stepped
          cases stepped
          exact .listen caller now h
      | failed message =>
          simp only [Manager.startTCPListener, h] at stepped
          cases stepped
          exact .listenFails caller message _ h

/-- `startUDP` listens unless there is a runtime already. -/
theorem startUDP_action {tunnel : Tunnel} {caller : StartCaller}
    (stepped : step m (.startUDP tunnel caller) choice = some (m', task')) :
    Action m (.startUDP tunnel caller) choice m' task' := by
  replace stepped := Option.some.inj stepped
  cases h : m.udpRuntimes.lookup tunnel.id with
  | some socket =>
      have returns : m.startUDP tunnel caller choice = (m, caller.resume tunnel none) := by
        cases choice <;> simp only [Manager.startUDP, h]
      rw [returns] at stepped
      cases stepped
      exact .runningUDP caller choice h
  | none =>
      cases choice with
      | go now =>
          simp only [Manager.startUDP, h] at stepped
          cases stepped
          exact .listenUDP caller now h
      | failed message =>
          simp only [Manager.startUDP, h] at stepped
          cases stepped
          exact .listenUDPFails caller message h

/-- What the two callers of `stop` do when it has returned. -/
theorem stopped_action {id : String} {err : Option String} {caller : StopCaller}
    (stepped : step m (.stopped id err caller) choice = some (m', task')) :
    Action m (.stopped id err caller) choice m' task' := by
  cases caller with
  | startTunnel message =>
      cases stepped
      exact .startGivesUp id err message choice
  | stopTunnel clientID =>
      cases err with
      | some message =>
          cases stepped
          exact .stopFails id clientID message choice
      | none =>
          unfold step at stepped
          cases written : m.setTunnelStatus id .stopped choice with
          | error message =>
              simp only [written] at stepped
              cases stepped
              exact .setStoppedFails id clientID message choice written
          | ok m' =>
              simp only [written] at stepped
              cases stepped
              obtain ⟨now, store, rfl, written', rfl⟩ := Manager.setTunnelStatus_ok written
              exact .setStopped clientID written'

/-- `ReassignTunnel` gets another assignment, or none. -/
theorem reassign_action {tunnel : Tunnel} {exclude : String}
    (stepped : step m (.reassign tunnel exclude) choice = some (m', task')) :
    Action m (.reassign tunnel exclude) choice m' task' := by
  cases choice with
  | failed message => cases stepped
  | go now =>
      obtain ⟨registry, current, outcome⟩ := Option.map_eq_some_iff.mp stepped
      rcases Manager.assign_cases current tunnel exclude now
          (fun assignment => .bindRelayTunnel tunnel assignment .reassignRelayTunnel)
          (.releaseReassigned tunnel) with
        ⟨registry', assignment, equal, added⟩ | ⟨registry', equal, same⟩
      · rw [equal] at outcome
        cases outcome
        exact .reassigned tunnel exclude now assignment added
      · rw [equal] at outcome
        cases outcome
        exact .notReassigned tunnel exclude now same

/-- The loop of `AssignAvailableRelayTunnels` skips a tunnel or takes it on. -/
theorem assignAvailable_action {items : List Tunnel}
    (stepped : step m (.assignAvailable items) choice = some (m', task')) :
    Action m (.assignAvailable items) choice m' task' := by
  cases items with
  | nil =>
      cases stepped
      exact .itemsDone choice
  | cons item rest =>
      cases choice with
      | failed message => cases stepped
      | go now =>
          replace stepped := Option.some.inj stepped
          unfold Manager.nextItem at stepped
          split at stepped
          · cases stepped
            exact .skipItem item rest now m.assignedWith_registry
          · split at stepped
            · cases stepped
              exact .skipItem item rest now m.assignedWith_registry
            · rename_i registry current
              have same (id : String) :
                  m.assignedWith (some (registry.assignment now item.id).1) id =
                    m.assigned id :=
                Manager.assignedWith_same current RelayRegistry.assignments_assignment id
              split at stepped
              · cases stepped
                exact .skipItem item rest now same
              · cases stepped
                exact .pickItem item rest now same

/-- `AssignTunnel` in the loop of `AssignAvailableRelayTunnels`. -/
theorem assignItem_action {item : Tunnel} {rest : List Tunnel}
    (stepped : step m (.assignItem item rest) choice = some (m', task')) :
    Action m (.assignItem item rest) choice m' task' := by
  cases choice with
  | failed message => cases stepped
  | go now =>
      obtain ⟨registry, current, outcome⟩ := Option.map_eq_some_iff.mp stepped
      rcases Manager.assign_cases current item "" now
          (fun assignment => .bindRelayTunnel item assignment (.assignAvailable rest))
          (.releaseItem item rest) with
        ⟨registry', assignment, equal, added⟩ | ⟨registry', equal, same⟩
      · rw [equal] at outcome
        cases outcome
        exact .itemAssigned item rest now assignment added
      · rw [equal] at outcome
        cases outcome
        exact .itemNotAssigned item rest now same

/-- `Register` leaves the assignments alone. -/
theorem register_action {node : RelayNode} {invalid : Option String}
    (stepped : step m (.register node invalid) choice = some (m', task')) :
    Action m (.register node invalid) choice m' task' := by
  cases choice with
  | failed message => cases stepped
  | go now =>
      replace stepped := Option.some.inj stepped
      unfold Manager.register at stepped
      split at stepped
      · cases stepped
        exact .leave _ rfl m.assignedWith_registry
      · rename_i registry current
        split at stepped
        · rename_i registered
          cases stepped
          exact .leave _ rfl
            (Manager.assignedWith_same current (RelayRegistry.assignments_register registered))
        · cases stepped
          exact .leave _ rfl m.assignedWith_registry

/-- `Heartbeat` leaves the assignments alone. -/
theorem heartbeat_action {id : String} {connections : ℤ}
    (stepped : step m (.heartbeat id connections) choice = some (m', task')) :
    Action m (.heartbeat id connections) choice m' task' := by
  cases choice with
  | failed message => cases stepped
  | go now =>
      replace stepped := Option.some.inj stepped
      unfold Manager.heartbeat at stepped
      split at stepped
      · cases stepped
        exact .leave _ rfl m.assignedWith_registry
      · rename_i registry current
        split at stepped
        · rename_i beaten
          cases stepped
          exact .leave _ rfl
            (Manager.assignedWith_same current (RelayRegistry.assignments_heartbeat beaten))
        · cases stepped
          exact .leave _ rfl m.assignedWith_registry

/-- `MarkUnhealthy` leaves the assignments alone. -/
theorem markUnhealthy_action {id : String}
    (stepped : step m (.markUnhealthy id) choice = some (m', task')) :
    Action m (.markUnhealthy id) choice m' task' := by
  cases stepped
  refine .leave _ rfl fun other => ?_
  cases current : m.registry with
  | none =>
      show (_ : Option String).isSome = _
      unfold Manager.assigned
      rw [current]
      rfl
  | some registry =>
      exact Manager.assignedWith_same current RelayRegistry.assignments_markUnhealthy other

/-- Every step is one of the actions. -/
theorem step_action (stepped : step m task choice = some (m', task')) :
    Action m task choice m' task' := by
  cases task with
  | startTunnel id =>
      unfold step at stepped
      cases found : m.getTunnel id choice with
      | error message =>
          simp only [found] at stepped
          cases stepped
          exact .leave _ rfl m.assignedWith_registry
      | ok tunnel =>
          simp only [found] at stepped
          cases stepped
          obtain ⟨now, rfl, found⟩ := Manager.getTunnel_ok found
          exact .getStart now found
  | tryRelayStart tunnel caller => exact tryRelayStart_action stepped
  | startTCPListener tunnel caller => exact startTCPListener_action stepped
  | startUDP tunnel caller => exact startUDP_action stepped
  | bindRelayTunnel tunnel assignment caller =>
      cases choice with
      | go now =>
          cases stepped
          exact .bind tunnel assignment caller now
      | failed message =>
          cases stepped
          exact .bindFails tunnel assignment caller message
  | unbound tunnel caller =>
      cases stepped
      exact .release tunnel caller choice (m.assigned_releaseTunnel tunnel.id)
  | bound tunnel binding caller =>
      cases stepped
      exact .put tunnel binding caller choice
  | setRunning tunnel =>
      unfold step at stepped
      cases written : m.setTunnelStatus tunnel.id .running choice with
      | error message =>
          simp only [written] at stepped
          cases stepped
          exact .setRunningFails tunnel choice message written
      | ok m' =>
          simp only [written] at stepped
          cases stepped
          obtain ⟨now, store, rfl, written', rfl⟩ := Manager.setTunnelStatus_ok written
          exact .setRunning written'
  | setError tunnel message =>
      unfold step at stepped
      cases written : m.setTunnelStatus tunnel.id .error choice with
      | error cause =>
          simp only [written] at stepped
          cases stepped
          exact .setErrorFails tunnel message cause choice written
      | ok m' =>
          simp only [written] at stepped
          cases stepped
          obtain ⟨now, store, rfl, written', rfl⟩ := Manager.setTunnelStatus_ok written
          exact .setError message written'
  | syncClient clientID =>
      cases stepped
      exact .sync clientID choice
  | stopTunnel id =>
      unfold step at stepped
      cases found : m.getTunnel id choice with
      | error message =>
          simp only [found] at stepped
          cases stepped
          exact .leave _ rfl m.assignedWith_registry
      | ok tunnel =>
          simp only [found] at stepped
          cases stepped
          obtain ⟨now, rfl, found⟩ := Manager.getTunnel_ok found
          exact .getStop now found
  | stop id caller =>
      cases stepped
      exact .take id caller choice
  | stopRelease id taken caller =>
      cases stepped
      exact .stopRelease id taken caller choice (m.assigned_releaseTunnel id)
  | stopClose id taken caller =>
      unfold step at stepped
      cases found : taken.toClose with
      | none =>
          simp only [found] at stepped
          cases stepped
          exact .nothingToClose caller choice found
      | some resource =>
          simp only [found] at stepped
          cases stepped
          exact .stopClose caller choice found
  | stopped id err caller => exact stopped_action stepped
  | reassignRelayTunnel id =>
      unfold step at stepped
      cases found : m.getTunnel id choice with
      | error message =>
          simp only [found] at stepped
          cases stepped
          exact .leave _ rfl m.assignedWith_registry
      | ok tunnel =>
          simp only [found] at stepped
          obtain ⟨now, rfl, found⟩ := Manager.getTunnel_ok found
          split at stepped
          · cases stepped
            exact .leave _ rfl m.assignedWith_registry
          · cases stepped
            exact .getReassign now found
  | closeRelayBinding tunnel =>
      unfold step at stepped
      cases h : m.relayBinds.lookup tunnel.id with
      | none =>
          simp only [h] at stepped
          cases stepped
          exact .noBinding choice h
      | some binding =>
          simp only [h] at stepped
          cases stepped
          exact .takeBinding choice h
  | closeBinding tunnel binding =>
      cases stepped
      exact .closeBinding tunnel binding choice
  | reassignTunnel tunnel =>
      unfold step at stepped
      obtain ⟨registry, current, outcome⟩ := Option.map_eq_some_iff.mp stepped
      cases outcome
      exact .readAssignment tunnel _ choice
  | reassign tunnel exclude => exact reassign_action stepped
  | releaseReassigned tunnel =>
      cases stepped
      exact .releaseReassigned tunnel choice (m.assigned_releaseTunnel tunnel.id)
  | assignAvailableRelayTunnels =>
      replace stepped := Option.some.inj stepped
      unfold Manager.assignAvailableRelayTunnels at stepped
      split at stepped
      · cases stepped
        exact .leave _ rfl m.assignedWith_registry
      · cases choice with
        | go now =>
            cases stepped
            exact .list now
        | failed message =>
            cases stepped
            exact .leave _ rfl m.assignedWith_registry
  | assignAvailable items => exact assignAvailable_action stepped
  | closeLocalListener item rest =>
      unfold step at stepped
      cases h : m.listeners.lookup item.id with
      | none =>
          simp only [h] at stepped
          cases stepped
          exact .noListener rest choice h
      | some listener =>
          simp only [h] at stepped
          cases stepped
          exact .takeListener rest choice h
  | closeListener item listener rest =>
      cases stepped
      exact .closeListener item listener rest choice
  | assignItem item rest => exact assignItem_action stepped
  | releaseItem item rest =>
      cases stepped
      exact .releaseItem item rest choice (m.assigned_releaseTunnel item.id)
  | register node invalid => exact register_action stepped
  | heartbeat id connections => exact heartbeat_action stepped
  | markUnhealthy id => exact markUnhealthy_action stepped
  | returned err => cases stepped

/-- A step of the pool is an action of one goroutine. -/
theorem action_of_step {spawned : List Task}
    (stepped : tunnels.step m task choice = some (m', task', spawned)) :
    Action m task choice m' task' ∧ spawned = [] := by
  obtain ⟨⟨m'', task''⟩, below, built⟩ := Option.map_eq_some_iff.mp stepped
  cases built
  exact ⟨step_action below, rfl⟩

end Steps

end NryNet.Tunnels

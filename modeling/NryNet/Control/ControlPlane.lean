import NryNet.Control.Hub
import NryNet.Lib.ThreadPool

/-!
# The control plane (`server/client`, `server/api`)

The goroutines that run over the hub and the database, one atomic action at a time:

* handshakes and sessions (`Handle`, `serveTransport`): authenticate, record the use of the token,
  `acceptHello` with its `UpsertClient`, `register`, `markClientOnline`, the read loop, and the
  deferred cleanups;
* write queues, whose `onError` unregisters the session, and failing sends, which do the same;
* `Hub.Disconnect`, which reads the current session and then unregisters it;
* `clientHandler.update`, `tokenHandler.update` and `tokenHandler.delete`.

A handshake may rest anywhere between its authentication and its hello.  So the control streams of
a QUIC session, which `handleSession` authenticates once and serves whenever they are opened, are
covered: each is a handshake that was authenticated when the session was.

`Manager.DisconnectClient` is `Hub.Disconnect` followed by work on the broker, which the hub does
not see; the connect and disconnect handlers of the hub belong to the manager as well.
-/

namespace NryNet.Control

open ThreadPool

/-- The rest of a token handler once the token is disabled. -/
inductive Revocation where
  | update (tokenID : String)
  /-- with the clients it has listed, whose tunnels are stopped later -/
  | delete (tokenID : String) (clients : List String)
  deriving DecidableEq, Repr

/-- The token of a token handler. -/
def Revocation.tokenID : Revocation → String
  | .update tokenID => tokenID
  | .delete tokenID _ => tokenID

/-- Where `unregister` and `Hub.Disconnect` return to. -/
inductive Return where
  | nothing
  /-- `sendHeartbeatAck`, whose failure ends the read loop -/
  | readLoop (conn : ℕ)
  /-- the deferred calls of `serveTransport` -/
  | deferred (conn : ℕ)
  /-- `clientHandler.update`, and how often the client had been enabled when it was disabled -/
  | clientUpdate (enabledAt : ℕ)
  /-- `disconnectClients`, with the clients that are still to be disconnected -/
  | disconnectClients (rest : List String) (revocation : Revocation)
  deriving DecidableEq, Repr

/-- A goroutine at one of its program points. -/
inductive Goroutine where
  | clock
  /-- before `AuthenticateAgent` -/
  | authenticate (value : String)
  /-- `AuthenticateAgent`, before its second statement -/
  | touch (token : Token)
  /-- `acceptHello`, before the hello has arrived -/
  | hello (conn : ℕ) (tokenID : String)
  /-- `UpsertClient`, before the row is read back -/
  | readBack (conn : ℕ) (tokenID deviceID : String)
  /-- `acceptHello`, before a disabled client is turned away -/
  | refuse (conn : ℕ) (clientID : String)
  /-- before `register` -/
  | register (conn : ℕ) (tokenID clientID : String)
  /-- before `markClientOnline` -/
  | markOnline (conn : ℕ) (clientID : String)
  /-- `markClientOnline`, before the statement -/
  | setOnline (conn : ℕ) (clientID : String)
  /-- in `readLoop` -/
  | serving (conn : ℕ) (clientID : String)
  /-- the goroutine of a session's write queue -/
  | queue (conn : ℕ) (clientID : String)
  /-- before `send` -/
  | send (clientID : String)
  /-- before `unregister` -/
  | unregister (conn : ℕ) (clientID : String) (next : Return)
  /-- before `markClientOffline` -/
  | markOffline (clientID : String) (next : Return)
  /-- `markClientOffline`, before the statement -/
  | setOffline (clientID : String) (next : Return)
  /-- before the deferred closure for the write queue -/
  | forgetQueue (conn : ℕ) (clientID : String)
  /-- before `Hub.Disconnect` -/
  | disconnect (clientID : String) (next : Return)
  /-- `clientHandler.update`, before the first statement of `UpdateClient` -/
  | clientUpdate (id name : String) (disabled : Option Bool)
  /-- `clientHandler.update`, before `setClientDisabled` -/
  | clientFlag (id name : String) (disabled : Option Bool)
  /-- `clientHandler.update` has returned; `enabledAt` is set when it disabled the client -/
  | clientUpdated (id : String) (enabledAt : Option ℕ)
  /-- `tokenHandler.update`, before `SetTokenDisabled` -/
  | tokenUpdate (id : String) (disabled : Bool)
  /-- `tokenHandler.update`, before `clientsUsingToken` -/
  | listClients (id : String)
  /-- `tokenHandler.delete`, before `clientsUsingToken` -/
  | tokenDelete (id : String)
  /-- `tokenHandler.delete`, before `SetTokenDisabled` -/
  | disableToken (id : String) (clients : List String)
  /-- `tokenHandler.delete`, in `stopClientTunnels`, and before `DeleteToken` when nothing is left to
  stop -/
  | stopTunnels (id : String) (tunnels clients : List String)
  /-- `tokenHandler.update` or `tokenHandler.delete` has returned, the token being revoked -/
  | tokenRevoked (id : String)
  | finished

/-- What the environment decides. -/
inductive Choice where
  | go
  | tick (elapsed : ℕ)
  /-- the hello that was read, and the identifier that was drawn -/
  | hello (hello : ClientHello) (id : String)
  /-- a read or a write failed -/
  | fail
  /-- the read loop ends -/
  | ended

/-- The next call of `disconnectClients`, or what follows the loop. -/
def disconnectClients (rest : List String) (revocation : Revocation) : Goroutine :=
  match rest with
  | clientID :: rest => .disconnect clientID (.disconnectClients rest revocation)
  | [] =>
      match revocation with
      | .update tokenID => .tokenRevoked tokenID
      | .delete tokenID clients => .stopTunnels tokenID [] clients

/-- The goroutine after `unregister` or `Hub.Disconnect` has returned. -/
def Return.resume (clientID : String) : Return → Goroutine
  | .nothing => .finished
  | .readLoop conn => .unregister conn clientID (.deferred conn)
  | .deferred conn => .forgetQueue conn clientID
  | .clientUpdate enabledAt => .clientUpdated clientID (some enabledAt)
  | .disconnectClients rest revocation => Control.disconnectClients rest revocation

namespace Hub

/-- `clientsUsingToken`. -/
def clientsUsingToken (h : Hub) (tokenID : String) : List String :=
  (h.store.listClientsByToken tokenID).map Client.id

/-- The tunnels `stopClientTunnels` stops for a client. -/
def runningTunnels (h : Hub) (clientID : String) : List String :=
  ((h.store.listClientTunnels clientID).filter fun tunnel => tunnel.status = .running).map Tunnel.id

/-- The end of `acceptHello`: a disabled client is turned away. -/
def readBack (h : Hub) (conn : ℕ) (tokenID deviceID : String) : Hub × Goroutine :=
  match h.store.getClientByDevice deviceID with
  | .error _ => (h.close [conn], .finished)
  | .ok client =>
      (h, if client.disabled then .refuse conn client.id else .register conn tokenID client.id)

/-- The statement of `setClientDisabled` in `clientHandler.update`, and what follows it. -/
def setDisabled (h : Hub) (id : String) (flag : Bool) (store : Store) : Hub × Goroutine :=
  if flag then
    ({ h with store := store }, .disconnect id (.clientUpdate (h.enables id)))
  else
    ({ h with
        store := store
        enables := fun other => h.enables other + if other = id then 1 else 0 },
      .clientUpdated id none)

/-- `stopClientTunnels` and `DeleteToken`, one statement at a time. -/
def stopTunnels (h : Hub) (id : String) : List String → List String → Hub × Goroutine
  | tunnel :: tunnels, clients =>
      match h.store.setTunnelStatus tunnel .stopped h.now with
      | .error _ => (h, .finished)
      | .ok store => ({ h with store := store }, .stopTunnels id tunnels clients)
  | [], clientID :: clients => (h, .stopTunnels id (h.runningTunnels clientID) clients)
  | [], [] =>
      match h.store.deleteToken id with
      | .error _ => (h, .finished)
      | .ok store => ({ h with store := store }, .tokenRevoked id)

/-- The goroutines whose next action leaves nothing to the environment. -/
def run (h : Hub) : Goroutine → Option (Hub × Goroutine × List Goroutine)
  | .authenticate value =>
      match Auth.authenticateAgent h.store value h.now with
      | .error _ => some (h, .finished, [])
      | .ok token => some (h, .touch token, [])
  | .touch token =>
      let touched := { h with
        store := h.store.touchToken token.id (token.lastUsed.getD h.now) }
      let opened := touched.openTransport token.id
      some (opened.1, .hello opened.2 token.id, [])
  | .readBack conn tokenID deviceID =>
      some ((h.readBack conn tokenID deviceID).1, (h.readBack conn tokenID deviceID).2, [])
  | .refuse conn clientID => some ((h.setStatus clientID .offline).close [conn], .finished, [])
  | .register conn _ clientID =>
      some (h.register clientID conn, .markOnline conn clientID, [.queue conn clientID])
  | .markOnline conn clientID =>
      if h.statusMu then none
      else if h.conns.lookup clientID = some conn then
        some ({ h with statusMu := true }, .setOnline conn clientID, [])
      else some (h, .serving conn clientID, [])
  -- `statusMu` is held from the look at `conns` to the write
  | .setOnline conn clientID =>
      some ({ h.setStatus clientID .online with statusMu := false }, .serving conn clientID, [])
  | .send _ => some (h, .finished, [])
  | .unregister conn clientID next =>
      match h.unregister clientID conn with
      | (h', true) => some (h', .markOffline clientID next, [])
      | (_, false) => some (h, next.resume clientID, [])
  | .markOffline clientID next =>
      if h.statusMu then none
      else
        match h.conns.lookup clientID with
        | some _ => some (h, next.resume clientID, [])
        | none => some ({ h with statusMu := true }, .setOffline clientID next, [])
  | .setOffline clientID next =>
      some ({ h.setStatus clientID .offline with statusMu := false }, next.resume clientID, [])
  | .forgetQueue conn clientID => some (h.forgetQueue clientID conn, .finished, [])
  | .disconnect clientID next =>
      match h.conns.lookup clientID with
      | none => some (h, next.resume clientID, [])
      | some conn => some (h.close [conn], .unregister conn clientID next, [])
  | .clientUpdate id name disabled =>
      some (if name ≠ "" then { h with store := h.store.setClientName id name } else h,
        .clientFlag id name disabled, [])
  | .clientFlag id name disabled =>
      match disabled with
      | none =>
          if name = "" then some (h, .finished, []) else some (h, .clientUpdated id none, [])
      | some flag =>
          match h.store.setClientDisabled id flag with
          | .error _ => some (h, .finished, [])
          | .ok store => some ((h.setDisabled id flag store).1, (h.setDisabled id flag store).2, [])
  | .tokenUpdate id disabled =>
      match h.store.setTokenDisabled id disabled with
      | .error _ => some (h, .finished, [])
      | .ok store =>
          some ({ h with store := store }, if disabled then .listClients id else .finished, [])
  | .listClients id => some (h, disconnectClients (h.clientsUsingToken id) (.update id), [])
  -- the clients are listed before the token is disabled, and not again
  | .tokenDelete id => some (h, .disableToken id (h.clientsUsingToken id), [])
  | .disableToken id clients =>
      match h.store.setTokenDisabled id true with
      | .error _ => some (h, .finished, [])
      | .ok store =>
          some ({ h with store := store }, disconnectClients clients (.delete id clients), [])
  | .stopTunnels id tunnels clients =>
      some ((h.stopTunnels id tunnels clients).1, (h.stopTunnels id tunnels clients).2, [])
  | _ => none

/-- One atomic action of a goroutine. -/
def step (h : Hub) (goroutine : Goroutine) (choice : Choice) :
    Option (Hub × Goroutine × List Goroutine) :=
  match goroutine, choice with
  | .clock, .tick elapsed => some ({ h with now := h.now + elapsed }, .clock, [])
  | .hello conn tokenID, .hello hello id =>
      if id ∈ h.issued then none
      else
        match h.acceptHello tokenID hello id with
        | .error _ => some (h.close [conn], .finished, [])
        | .ok h' => some (h', .readBack conn tokenID hello.deviceID, [])
  | .hello conn _, .fail => some (h.close [conn], .finished, [])
  | .serving conn clientID, .ended =>
      some (h.close [conn], .unregister conn clientID (.deferred conn), [])
  -- an acknowledgement that cannot be queued: `readLoop` unregisters if it is current, and the
  -- deferred call does so again
  | .serving conn clientID, .fail =>
      if h.conns.lookup clientID = some conn then
        some (h.close [conn], .unregister conn clientID (.readLoop conn), [])
      else some (h.close [conn], .unregister conn clientID (.deferred conn), [])
  | .queue conn clientID, .fail => some (h.close [conn], .unregister conn clientID .nothing, [])
  | .queue _ _, .ended => some (h, .finished, [])
  | .send clientID, .fail =>
      match h.conns.lookup clientID with
      | none => some (h, .finished, [])
      | some conn => some (h.close [conn], .unregister conn clientID .nothing, [])
  | goroutine, .go => h.run goroutine
  | _, _ => none

end Hub

/-- The goroutines that start on their own. -/
def Goroutine.arrives : Goroutine → Bool
  | .clock | .authenticate _ | .send _ | .clientUpdate _ _ _ | .tokenUpdate _ _ | .tokenDelete _ =>
      true
  | .disconnect _ .nothing => true
  | _ => false

/-- The control plane: any number of goroutines of every kind. -/
def controlPlane : Machine Hub Goroutine Choice where
  entry := Goroutine.arrives
  step := Hub.step

/-- A hub that has just started on some database. -/
def controlPlaneStart (store : Store) (now : Time) : Config Hub Goroutine where
  shared := .newHub store now
  threads := []

/-! ## What one action does

`Action` lists every branch of `step` once, with its guard.  Proofs about the control plane are case
analyses over it and never unfold `step`. -/

/-- The goroutines that may give up, closing at most their own transport. -/
def Goroutine.idle : Goroutine → Bool
  | .authenticate _ | .hello _ _ | .readBack _ _ _ | .queue _ _ | .send _ | .clientFlag _ _ _
  | .tokenUpdate _ _ | .disableToken _ _ | .stopTunnels _ _ _ => true
  | _ => false

/-- The branches of `step`. -/
inductive Action (h : Hub) : Goroutine → Hub → Goroutine → List Goroutine → Prop
  | tick (elapsed : ℕ) : Action h .clock { h with now := h.now + elapsed } .clock []
  | quit (goroutine : Goroutine) (conns : List ℕ) (idle : goroutine.idle = true) :
      Action h goroutine (h.close conns) .finished []
  | authenticate {value : String} {token : Token}
      (accepted : Auth.authenticateAgent h.store value h.now = .ok token) :
      Action h (.authenticate value) h (.touch token) []
  | touch (token : Token) (time : Time) :
      Action h (.touch token)
        { h with
          store := h.store.touchToken token.id time
          transports := h.transports ++ [token.id] }
        (.hello h.transports.length token.id) []
  | hello {conn : ℕ} {tokenID : String} {hello : ClientHello} {id : String} {h' : Hub}
      (fresh : id ∉ h.issued) (accepted : h.acceptHello tokenID hello id = .ok h') :
      Action h (.hello conn tokenID) h' (.readBack conn tokenID hello.deviceID) []
  | turnAway {conn : ℕ} {tokenID deviceID : String} {client : Client}
      (read : h.store.getClientByDevice deviceID = .ok client) (disabled : client.disabled = true) :
      Action h (.readBack conn tokenID deviceID) h (.refuse conn client.id) []
  | accept {conn : ℕ} {tokenID deviceID : String} {client : Client}
      (read : h.store.getClientByDevice deviceID = .ok client) (enabled : client.disabled = false) :
      Action h (.readBack conn tokenID deviceID) h (.register conn tokenID client.id) []
  | refuse (conn : ℕ) (clientID : String) :
      Action h (.refuse conn clientID) ((h.setStatus clientID .offline).close [conn]) .finished []
  | register (conn : ℕ) (tokenID clientID : String) :
      Action h (.register conn tokenID clientID) (h.register clientID conn)
        (.markOnline conn clientID) [.queue conn clientID]
  | markOnline {conn : ℕ} {clientID : String} (free : h.statusMu = false)
      (current : h.conns.lookup clientID = some conn) :
      Action h (.markOnline conn clientID) { h with statusMu := true } (.setOnline conn clientID) []
  | replaced {conn : ℕ} {clientID : String} (free : h.statusMu = false)
      (stale : h.conns.lookup clientID ≠ some conn) :
      Action h (.markOnline conn clientID) h (.serving conn clientID) []
  | setOnline (conn : ℕ) (clientID : String) :
      Action h (.setOnline conn clientID) { h.setStatus clientID .online with statusMu := false }
        (.serving conn clientID) []
  | ended (conn : ℕ) (clientID : String) :
      Action h (.serving conn clientID) (h.close [conn])
        (.unregister conn clientID (.deferred conn)) []
  | ackFails {conn : ℕ} {clientID : String} (current : h.conns.lookup clientID = some conn) :
      Action h (.serving conn clientID) (h.close [conn])
        (.unregister conn clientID (.readLoop conn)) []
  | queueFails (conn : ℕ) (clientID : String) :
      Action h (.queue conn clientID) (h.close [conn]) (.unregister conn clientID .nothing) []
  | sendFails {conn : ℕ} {clientID : String} (current : h.conns.lookup clientID = some conn) :
      Action h (.send clientID) (h.close [conn]) (.unregister conn clientID .nothing) []
  | unregister {conn : ℕ} {clientID : String} (next : Return)
      (current : h.conns.lookup clientID = some conn) :
      Action h (.unregister conn clientID next) (h.unregister clientID conn).1
        (.markOffline clientID next) []
  | unregistered {conn : ℕ} {clientID : String} (next : Return)
      (stale : h.conns.lookup clientID ≠ some conn) :
      Action h (.unregister conn clientID next) h (next.resume clientID) []
  | reconnected {clientID : String} (next : Return) (free : h.statusMu = false)
      (connected : h.conns.lookup clientID ≠ none) :
      Action h (.markOffline clientID next) h (next.resume clientID) []
  | markOffline {clientID : String} (next : Return) (free : h.statusMu = false)
      (disconnected : h.conns.lookup clientID = none) :
      Action h (.markOffline clientID next) { h with statusMu := true }
        (.setOffline clientID next) []
  | setOffline (clientID : String) (next : Return) :
      Action h (.setOffline clientID next)
        { h.setStatus clientID .offline with statusMu := false } (next.resume clientID) []
  | forgetQueue (conn : ℕ) (clientID : String) :
      Action h (.forgetQueue conn clientID) (h.forgetQueue clientID conn) .finished []
  | disconnect {conn : ℕ} {clientID : String} (next : Return)
      (current : h.conns.lookup clientID = some conn) :
      Action h (.disconnect clientID next) (h.close [conn]) (.unregister conn clientID next) []
  | disconnected {clientID : String} (next : Return) (missing : h.conns.lookup clientID = none) :
      Action h (.disconnect clientID next) h (next.resume clientID) []
  | rename (id name : String) (disabled : Option Bool) :
      Action h (.clientUpdate id name disabled)
        { h with store := h.store.setClientName id name } (.clientFlag id name disabled) []
  | noRename (id name : String) (disabled : Option Bool) :
      Action h (.clientUpdate id name disabled) h (.clientFlag id name disabled) []
  | renamed (id name : String) (disabled : Option Bool) :
      Action h (.clientFlag id name disabled) h (.clientUpdated id none) []
  | disable {id name : String} {store : Store}
      (written : h.store.setClientDisabled id true = .ok store) :
      Action h (.clientFlag id name (some true)) { h with store := store }
        (.disconnect id (.clientUpdate (h.enables id))) []
  | enable {id name : String} {store : Store}
      (written : h.store.setClientDisabled id false = .ok store) :
      Action h (.clientFlag id name (some false))
        { h with
          store := store
          enables := fun other => h.enables other + if other = id then 1 else 0 }
        (.clientUpdated id none) []
  | revoke {id : String} {store : Store} (written : h.store.setTokenDisabled id true = .ok store) :
      Action h (.tokenUpdate id true) { h with store := store } (.listClients id) []
  | restore {id : String} {store : Store}
      (written : h.store.setTokenDisabled id false = .ok store) :
      Action h (.tokenUpdate id false) { h with store := store } .finished []
  | listClients (id : String) :
      Action h (.listClients id) h (disconnectClients (h.clientsUsingToken id) (.update id)) []
  | tokenDelete (id : String) :
      Action h (.tokenDelete id) h (.disableToken id (h.clientsUsingToken id)) []
  | disableToken {id : String} {clients : List String} {store : Store}
      (written : h.store.setTokenDisabled id true = .ok store) :
      Action h (.disableToken id clients) { h with store := store }
        (disconnectClients clients (.delete id clients)) []
  | stopTunnel {id tunnel : String} {tunnels clients : List String} {store : Store}
      (written : h.store.setTunnelStatus tunnel .stopped h.now = .ok store) :
      Action h (.stopTunnels id (tunnel :: tunnels) clients) { h with store := store }
        (.stopTunnels id tunnels clients) []
  | nextTunnels (id clientID : String) (tunnels clients : List String) :
      Action h (.stopTunnels id [] (clientID :: clients)) h (.stopTunnels id tunnels clients) []
  | deleteToken {id : String} {store : Store} (written : h.store.deleteToken id = .ok store) :
      Action h (.stopTunnels id [] []) { h with store := store } (.tokenRevoked id) []

namespace Hub

variable {h h' : Hub} {goroutine goroutine' : Goroutine} {spawned : List Goroutine}
variable {choice : Choice}

/-- Giving up without closing anything. -/
theorem quit_action (idle : goroutine.idle = true) : Action h goroutine h .finished [] := by
  have quits : Action h goroutine (h.close []) .finished [] := .quit goroutine [] idle
  unfold close at quits
  rw [List.append_nil] at quits
  exact quits

theorem readBack_action {conn : ℕ} {tokenID deviceID : String} :
    Action h (.readBack conn tokenID deviceID) (h.readBack conn tokenID deviceID).1
      (h.readBack conn tokenID deviceID).2 [] := by
  unfold readBack
  split
  · exact .quit _ [conn] rfl
  · rename_i client read
    by_cases disabled : client.disabled = true
    · rw [if_pos disabled]
      exact .turnAway read disabled
    · rw [if_neg disabled]
      exact .accept read (by simpa using disabled)

theorem stopTunnels_action {id : String} {tunnels clients : List String} :
    Action h (.stopTunnels id tunnels clients) (h.stopTunnels id tunnels clients).1
      (h.stopTunnels id tunnels clients).2 [] := by
  unfold stopTunnels
  split
  · split
    · exact quit_action rfl
    · rename_i written
      exact .stopTunnel written
  · exact .nextTunnels id _ _ _
  · split
    · exact quit_action rfl
    · rename_i written
      exact .deleteToken written

theorem setDisabled_action {id name : String} {flag : Bool} {store : Store}
    (written : h.store.setClientDisabled id flag = .ok store) :
    Action h (.clientFlag id name (some flag)) (h.setDisabled id flag store).1
      (h.setDisabled id flag store).2 [] := by
  cases flag with
  | true => exact .disable written
  | false => exact .enable written

/-- What `run` does is one of the listed actions. -/
theorem action_of_run (ran : h.run goroutine = some (h', goroutine', spawned)) :
    Action h goroutine h' goroutine' spawned := by
  cases goroutine with
  | authenticate value =>
      rw [run] at ran
      split at ran <;> cases ran
      · exact quit_action rfl
      · rename_i accepted
        exact .authenticate accepted
  | touch token =>
      cases ran
      exact .touch token _
  | readBack conn tokenID deviceID =>
      cases ran
      exact readBack_action
  | refuse conn clientID =>
      cases ran
      exact .refuse conn clientID
  | register conn tokenID clientID =>
      cases ran
      exact .register conn tokenID clientID
  | markOnline conn clientID =>
      rw [run] at ran
      split at ran
      · cases ran
      · rename_i free
        split at ran <;> cases ran
        · rename_i current
          exact .markOnline (by simpa using free) current
        · rename_i stale
          exact .replaced (by simpa using free) stale
  | setOnline conn clientID =>
      cases ran
      exact .setOnline conn clientID
  | send clientID =>
      cases ran
      exact quit_action rfl
  | unregister conn clientID next =>
      rw [run] at ran
      by_cases current : h.conns.lookup clientID = some conn
      · have removed : Action h (.unregister conn clientID next) _ _ _ := .unregister next current
        unfold unregister at ran removed
        rw [if_pos current] at ran removed
        cases ran
        exact removed
      · unfold unregister at ran
        rw [if_neg current] at ran
        cases ran
        exact .unregistered next current
  | markOffline clientID next =>
      rw [run] at ran
      split at ran
      · cases ran
      · rename_i free
        split at ran <;> cases ran
        · rename_i connected
          exact .reconnected next (by simpa using free) (by simp [connected])
        · rename_i missing
          exact .markOffline next (by simpa using free) missing
  | setOffline clientID next =>
      cases ran
      exact .setOffline clientID next
  | forgetQueue conn clientID =>
      cases ran
      exact .forgetQueue conn clientID
  | disconnect clientID next =>
      rw [run] at ran
      split at ran <;> cases ran
      · rename_i missing
        exact .disconnected next missing
      · rename_i current
        exact .disconnect next current
  | clientUpdate id name disabled =>
      rw [run] at ran
      cases ran
      split
      · exact .rename id name disabled
      · exact .noRename id name disabled
  | clientFlag id name disabled =>
      cases disabled with
      | none =>
          rw [run] at ran
          split at ran <;> cases ran
          · exact quit_action rfl
          · exact .renamed id name none
      | some flag =>
          rw [run] at ran
          split at ran <;> cases ran
          · exact quit_action rfl
          · rename_i written
            exact setDisabled_action written
  | tokenUpdate id disabled =>
      rw [run] at ran
      split at ran <;> cases ran
      · exact quit_action rfl
      · rename_i written
        cases disabled with
        | true => exact .revoke written
        | false => exact .restore written
  | listClients id =>
      cases ran
      exact .listClients id
  | tokenDelete id =>
      cases ran
      exact .tokenDelete id
  | disableToken id clients =>
      rw [run] at ran
      split at ran <;> cases ran
      · exact quit_action rfl
      · rename_i written
        exact .disableToken written
  | stopTunnels id tunnels clients =>
      cases ran
      exact stopTunnels_action
  | _ => cases ran

/-- Every step is one of the listed actions. -/
theorem action_of_step (stepped : h.step goroutine choice = some (h', goroutine', spawned)) :
    Action h goroutine h' goroutine' spawned := by
  unfold step at stepped
  split at stepped
  · cases stepped
    exact .tick _
  · split at stepped
    · cases stepped
    · rename_i fresh
      split at stepped <;> cases stepped
      · exact .quit _ _ rfl
      · rename_i accepted
        exact .hello fresh accepted
  · cases stepped
    exact .quit _ _ rfl
  · cases stepped
    exact .ended _ _
  · split at stepped <;> cases stepped
    · rename_i current
      exact .ackFails current
    · exact .ended _ _
  · cases stepped
    exact .queueFails _ _
  · cases stepped
    exact quit_action rfl
  · split at stepped <;> cases stepped
    · exact quit_action rfl
    · rename_i current
      exact .sendFails current
  · exact action_of_run stepped
  · cases stepped

end Hub

/-! ## Sessions and records

What an action does to handshakes, to the table of sessions and to the rows of clients. -/

/-- Where a handshake stands, between its authentication and its registration. -/
inductive Handshake where
  | touch (tokenID : String)
  | hello (conn : ℕ) (tokenID : String)
  | readBack (conn : ℕ) (tokenID deviceID : String)
  | register (conn : ℕ) (tokenID clientID : String)
  deriving DecidableEq, Repr

/-- The handshake a goroutine is in. -/
def Goroutine.handshake : Goroutine → Option Handshake
  | .touch token => some (.touch token.id)
  | .hello conn tokenID => some (.hello conn tokenID)
  | .readBack conn tokenID deviceID => some (.readBack conn tokenID deviceID)
  | .register conn tokenID clientID => some (.register conn tokenID clientID)
  | _ => none

section Actions

variable {h h' : Hub} {goroutine goroutine' : Goroutine} {spawned : List Goroutine}

/-- A session appears by `register` and disappears by `unregister`. -/
theorem action_conns (action : Action h goroutine h' goroutine' spawned) :
    h'.conns = h.conns ∨
    (∃ conn tokenID clientID, goroutine = .register conn tokenID clientID ∧
      h' = h.register clientID conn) ∨
    (∃ conn clientID next, goroutine = .unregister conn clientID next ∧
      goroutine' = .markOffline clientID next ∧ h.conns.lookup clientID = some conn ∧
      h' = (h.unregister clientID conn).1) := by
  have status (clientID : String) (status : ClientStatus) :
      (h.setStatus clientID status).conns = h.conns := by
    unfold Hub.setStatus
    split <;> rfl
  cases action with
  | hello fresh accepted =>
      obtain ⟨-, store, -, rfl⟩ := Hub.acceptHello_ok accepted
      exact Or.inl rfl
  | refuse conn clientID => exact Or.inl (status clientID .offline)
  | setOnline conn clientID => exact Or.inl (status clientID .online)
  | setOffline clientID next => exact Or.inl (status clientID .offline)
  | register conn tokenID clientID =>
      exact Or.inr (Or.inl ⟨conn, tokenID, clientID, rfl, rfl⟩)
  | unregister next current =>
      exact Or.inr (Or.inr ⟨_, _, next, rfl, rfl, current, rfl⟩)
  | forgetQueue conn clientID => exact Or.inl Hub.conns_forgetQueue
  | _ => exact Or.inl rfl

/-- A transport is opened when its token has been authenticated, and never changes its token. -/
theorem action_transports (action : Action h goroutine h' goroutine' spawned) :
    h'.transports = h.transports ∨
      ∃ token, goroutine = .touch token ∧ h'.transports = h.transports ++ [token.id] := by
  have status (clientID : String) (status : ClientStatus) :
      (h.setStatus clientID status).transports = h.transports := by
    unfold Hub.setStatus
    split <;> rfl
  cases action with
  | touch token time => exact Or.inr ⟨token, rfl, rfl⟩
  | hello fresh accepted =>
      obtain ⟨-, store, -, rfl⟩ := Hub.acceptHello_ok accepted
      exact Or.inl rfl
  | refuse conn clientID => exact Or.inl (status clientID .offline)
  | setOnline conn clientID => exact Or.inl (status clientID .online)
  | setOffline clientID next => exact Or.inl (status clientID .offline)
  | register conn tokenID clientID => exact Or.inl rfl
  | unregister next current => exact Or.inl Hub.unregister_records.transports
  | forgetQueue conn clientID => exact Or.inl Hub.forgetQueue_records.transports
  | _ => exact Or.inl rfl

/-- The rows of clients change, as far as authorization is concerned, by a hello, by a flag and when
a token is deleted. -/
theorem action_records (action : Action h goroutine h' goroutine' spawned) :
    (h.store.SameAccess h'.store ∧ h'.issued = h.issued ∧ h'.enables = h.enables) ∨
    (∃ conn tokenID hello id, goroutine = .hello conn tokenID ∧
      goroutine' = .readBack conn tokenID hello.deviceID ∧ id ∉ h.issued ∧
      h.store.insertClient id tokenID hello h.now = .ok h'.store ∧
      h'.issued = id :: h.issued ∧ h'.enables = h.enables) ∨
    (∃ id name flag, goroutine = .clientFlag id name (some flag) ∧
      h.store.setClientDisabled id flag = .ok h'.store ∧ h'.issued = h.issued ∧
      h'.enables = fun other => h.enables other + if other = id ∧ flag = false then 1 else 0) ∨
    (∃ id, goroutine = .stopTunnels id [] [] ∧ h.store.deleteToken id = .ok h'.store ∧
      h'.issued = h.issued ∧ h'.enables = h.enables) := by
  have status (clientID : String) (status : ClientStatus) :
      h.store.SameAccess (h.setStatus clientID status).store ∧
        (h.setStatus clientID status).issued = h.issued ∧
        (h.setStatus clientID status).enables = h.enables := by
    unfold Hub.setStatus
    split
    · exact ⟨rfl, rfl, rfl⟩
    · rename_i written
      exact ⟨(Store.setClientStatus_access written).1, rfl, rfl⟩
  have same (records : h.SameRecords h') :
      h.store.SameAccess h'.store ∧ h'.issued = h.issued ∧ h'.enables = h.enables := by
    refine ⟨?_, records.issued, records.enables⟩
    rw [records.store]
    rfl
  cases action with
  | hello fresh accepted =>
      obtain ⟨-, store, inserted, rfl⟩ := Hub.acceptHello_ok accepted
      exact Or.inr (Or.inl ⟨_, _, _, _, rfl, rfl, fresh, inserted, rfl, rfl⟩)
  | refuse conn clientID => exact Or.inl (status clientID .offline)
  | setOnline conn clientID => exact Or.inl (status clientID .online)
  | setOffline clientID next => exact Or.inl (status clientID .offline)
  | register conn tokenID clientID => exact Or.inl (same Hub.register_records)
  | unregister next current => exact Or.inl (same Hub.unregister_records)
  | forgetQueue conn clientID => exact Or.inl (same Hub.forgetQueue_records)
  | rename id name disabled => exact Or.inl ⟨Store.setClientName_access _ id name, rfl, rfl⟩
  | @disable id name store written =>
      exact Or.inr (Or.inr (Or.inl ⟨id, name, true, rfl, written, rfl, by simp⟩))
  | @enable id name store written =>
      exact Or.inr (Or.inr (Or.inl ⟨id, name, false, rfl, written, rfl, by simp⟩))
  -- the statements about tokens and tunnels do not write to `clients`
  | revoke written =>
      refine Or.inl ⟨?_, rfl, rfl⟩
      show _ = _
      rw [(Store.setTokenDisabled_ok written).2.1]
  | restore written =>
      refine Or.inl ⟨?_, rfl, rfl⟩
      show _ = _
      rw [(Store.setTokenDisabled_ok written).2.1]
  | disableToken written =>
      refine Or.inl ⟨?_, rfl, rfl⟩
      show _ = _
      rw [(Store.setTokenDisabled_ok written).2.1]
  | stopTunnel written =>
      refine Or.inl ⟨?_, rfl, rfl⟩
      show _ = _
      rw [(Store.setTunnelStatus_clients written).1]
  | @deleteToken id store written =>
      exact Or.inr (Or.inr (Or.inr ⟨id, rfl, written, rfl, rfl⟩))
  | _ => exact Or.inl ⟨rfl, rfl, rfl⟩

/-- The stages of a handshake are passed one by one. -/
theorem action_handshake (action : Action h goroutine h' goroutine' spawned) {other : Goroutine}
    (born : other = goroutine' ∨ other ∈ spawned) {stage : Handshake}
    (standing : other.handshake = some stage) :
    (∃ value row, goroutine = .authenticate value ∧ stage = .touch row.id ∧
      row ∈ h.store.tokens ∧ row.disabled = false ∧ h' = h) ∨
    (∃ token, goroutine = .touch token ∧ stage = .hello h.transports.length token.id ∧
      h'.transports = h.transports ++ [token.id]) ∨
    (∃ conn tokenID hello id, goroutine = .hello conn tokenID ∧
      stage = .readBack conn tokenID hello.deviceID ∧
      h.store.insertClient id tokenID hello h.now = .ok h'.store) ∨
    (∃ conn tokenID client, goroutine = .readBack conn tokenID client.deviceID ∧
      stage = .register conn tokenID client.id ∧ client ∈ h.store.clients ∧
      client.disabled = false ∧ h' = h) := by
  have unresumed (next : Return) (clientID : String) : (next.resume clientID).handshake = none := by
    cases next with
    | disconnectClients rest revocation => cases rest <;> cases revocation <;> rfl
    | _ => rfl
  have unlooped (rest : List String) (revocation : Revocation) :
      (disconnectClients rest revocation).handshake = none :=
    unresumed (.disconnectClients rest revocation) ""
  cases action with
  | authenticate accepted =>
      obtain rfl | impossible := born
      · obtain ⟨id, secret, row, -, member, -, enabled, -, rfl⟩ := Auth.authenticateAgent_ok accepted
        cases standing
        exact Or.inl ⟨_, row, rfl, rfl, member, enabled, rfl⟩
      · cases impossible
  | touch token time =>
      obtain rfl | impossible := born
      · cases standing
        exact Or.inr (Or.inl ⟨token, rfl, rfl, rfl⟩)
      · cases impossible
  | hello fresh accepted =>
      obtain rfl | impossible := born
      · cases standing
        obtain ⟨-, store, inserted, rfl⟩ := Hub.acceptHello_ok accepted
        exact Or.inr (Or.inr (Or.inl ⟨_, _, _, _, rfl, rfl, inserted⟩))
      · cases impossible
  | accept read enabled =>
      obtain rfl | impossible := born
      · cases standing
        obtain ⟨member, rfl⟩ := Store.mem_of_getClientByDevice read
        exact Or.inr (Or.inr (Or.inr ⟨_, _, _, rfl, rfl, member, enabled, rfl⟩))
      · cases impossible
  -- what follows is past its handshake, or never was in one
  | register conn tokenID clientID =>
      obtain rfl | spawnedHere := born
      · cases standing
      · rw [List.mem_singleton.mp spawnedHere] at standing
        cases standing
  | unregistered next stale =>
      obtain rfl | impossible := born
      · rw [unresumed] at standing
        cases standing
      · cases impossible
  | reconnected next free connected =>
      obtain rfl | impossible := born
      · rw [unresumed] at standing
        cases standing
      · cases impossible
  | setOffline clientID next =>
      obtain rfl | impossible := born
      · rw [unresumed] at standing
        cases standing
      · cases impossible
  | disconnected next missing =>
      obtain rfl | impossible := born
      · rw [unresumed] at standing
        cases standing
      · cases impossible
  | listClients id =>
      obtain rfl | impossible := born
      · rw [unlooped] at standing
        cases standing
      · cases impossible
  | disableToken written =>
      obtain rfl | impossible := born
      · rw [unlooped] at standing
        cases standing
      · cases impossible
  | _ =>
      obtain rfl | impossible := born
      · cases standing
      · cases impossible

end Actions

end NryNet.Control

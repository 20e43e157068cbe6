import NryNet.Lib.Fallible
import NryNet.Relay.DataAuth

/-!
# The administrative handlers (`server/api/tokens.go`, `clients.go`, `token_sessions.go`)

The handlers that change tokens and clients, as they run when no other request is in flight: each is
the chain of calls of the source, in its order, and returns early where the source does.  Every call
that can fail for a reason outside the data (the database, a listener that does not close) is a
`Call`, and `Env.fails` decides which of them do.  What a call did before the chain broke off stays
done, which is the point of `Fallible`.

`Manager.DisconnectClient` ends the sessions and the data channels of a client.  Of the database it
touches the client's status only, and only when the hub had a session (`Env.connected`).  Events and
traffic are not modelled.

`Effect` lists what a request may have done to the authority of the database and to the cache, and
`effect_of_handle` says that the list is complete.
-/

namespace NryNet.Api

open Relay Fallible

/-- The calls of the handlers that may fail. -/
inductive Call where
  | setTokenDisabled
  | listClientsByToken
  | listClientTunnels (clientID : String)
  | getTunnel (id : String)
  /-- `Manager.stop`, which closes the listener -/
  | stop (id : String)
  | setTunnelStatus (id : String)
  /-- `SyncClient` after the tunnel has been stopped -/
  | syncClient (id : String)
  | deleteToken
  | getClient
  | setClientName
  | setClientDisabled
  | createAgentToken
  | withCertificatePin
  | updateClientToken
  | revokeClientDevice
  | deleteClient
  deriving DecidableEq, Repr

/-- What a handler meets: the calls that fail, and the clients that have a session in the hub. -/
structure Env where
  fails : Call → Bool
  connected : String → Bool

/-- Nothing fails. -/
def Env.smooth : Env := ⟨fun _ => false, fun _ => false⟩

/-- The error of a handler: what `respondError` sends. -/
structure Response where
  status : ℕ
  message : String
  deriving DecidableEq, Repr

/-- A call on the store or on the runtime. -/
abbrev Runtime := Fallible AuthState String

/-- A request handler. -/
abbrev Handler := Fallible AuthState Response

/-- The error of a call that failed for a reason outside the data. -/
def errUnavailable : String := "database is unavailable"

/-- A call that reads. -/
def query {α : Type} (env : Env) (call : Call) (read : Store → Except String α) : Runtime α := fun s =>
  if env.fails call then (s, .error errUnavailable) else (s, read s.store)

/-- A call that writes, in one statement or one transaction. -/
def exec (env : Env) (call : Call) (write : Store → Time → Except String Store) : Runtime Unit :=
  fun s =>
    if env.fails call then (s, .error errUnavailable)
    else
      match write s.store s.now with
      | .error message => (s, .error message)
      | .ok store => (s.mutate store, .ok ())

/-- An invalidation of the relay's cache. -/
def invalidate (clear : RelayAuthCache → RelayAuthCache) : Handler Unit := fun s =>
  (s.invalidate clear, .ok ())

/-- `respondError` with the call's own error. -/
def responding {α : Type} (status : ℕ) (program : Runtime α) : Handler α :=
  program.reporting fun message => ⟨status, message⟩

/-- `Manager.DisconnectClient`, as far as the database sees it; errors are dropped. -/
def disconnectClient (env : Env) (clientID : String) : Handler Unit := fun s =>
  if env.connected clientID then
    match s.store.setClientStatus clientID .offline s.now with
    | .error _ => (s, .ok ())
    | .ok store => (s.mutate store, .ok ())
  else (s, .ok ())

/-! ## `token_sessions.go` -/

/-- `clientsUsingToken`. -/
def clientsUsingToken (env : Env) (tokenID : String) : Runtime (List Client) :=
  query env .listClientsByToken fun store => .ok (store.listClientsByToken tokenID)

/-- `disconnectClients`. -/
def disconnectClients (env : Env) (clients : List Client) : Handler Unit :=
  each (fun client => disconnectClient env client.id) clients

/-- `Manager.StopTunnel`. -/
def stopTunnel (env : Env) (id : String) : Runtime Unit := do
  let tunnel ← query env (.getTunnel id) fun store => store.getTunnel id
  query env (.stop id) fun _ => .ok ()
  exec env (.setTunnelStatus id) fun store now => store.setTunnelStatus id .stopped now
  -- The snapshot is sent on a best-effort basis; only the query can fail.
  let _snapshot ← query env (.syncClient id) fun store =>
    .ok (store.listClientTunnels tunnel.clientID)
  pure ()

/-- `stopClientTunnels`: the tunnels that run. -/
def stopClientTunnels (env : Env) (clients : List Client) : Runtime Unit :=
  each (fun client => do
    let tunnels ← query env (.listClientTunnels client.id) fun store =>
      .ok (store.listClientTunnels client.id)
    each (fun tunnel => if tunnel.status ≠ .running then pure () else stopTunnel env tunnel.id)
      tunnels) clients

/-! ## `tokens.go` -/

/-- `CreateAgentToken` and `WithCertificatePin`, with the identifier and the secret that are
drawn. -/
def createAgentToken (env : Env) (id name secret : String) : Runtime Unit := do
  exec env .createAgentToken fun store now =>
    (Auth.createAgentToken store id name secret now).map fun created => created.1
  query env .withCertificatePin fun _ => .ok ()

/-- `tokenHandler.create`. -/
def tokenCreate (env : Env) (id name secret : String) : Handler Unit :=
  if name = "" then abort ⟨400, "token name is required"⟩
  else responding 500 (createAgentToken env id name secret)

/-- The part of `tokenHandler.update` that a disabled token calls for. -/
def disconnectToken (env : Env) (id : String) (disabled : Bool) : Handler Unit :=
  if disabled then do
    let clients ← responding 500 (clientsUsingToken env id)
    disconnectClients env clients
  else pure ()

/-- `tokenHandler.update`. -/
def tokenUpdate (env : Env) (id : String) (disabled : Bool) : Handler Unit := do
  responding 404 (exec env .setTokenDisabled fun store _ => store.setTokenDisabled id disabled)
  disconnectToken env id disabled
  invalidate fun c => c.invalidateToken id

/-- `tokenHandler.delete`. -/
def tokenDelete (env : Env) (id : String) : Handler Unit := do
  let clients ← responding 500 (clientsUsingToken env id)
  responding 404 (exec env .setTokenDisabled fun store _ => store.setTokenDisabled id true)
  disconnectClients env clients
  responding 409 (stopClientTunnels env clients)
  responding 409 (exec env .deleteToken fun store _ => store.deleteToken id)
  invalidate fun c => c.invalidateToken id

/-! ## `clients.go` -/

/-- The first half of `UpdateClient`. -/
def updateClientName (env : Env) (id name : String) : Runtime Unit :=
  if name ≠ "" then exec env .setClientName fun store _ => .ok (store.setClientName id name)
  else pure ()

/-- The second half of `UpdateClient`. -/
def updateClientFlag (env : Env) (id name : String) : Option Bool → Runtime Unit
  | some flag => exec env .setClientDisabled fun store _ => store.setClientDisabled id flag
  | none => if name = "" then abort "no client changes supplied" else pure ()

/-- `Store.UpdateClient`, statement by statement. -/
def updateClient (env : Env) (id name : String) (disabled : Option Bool) : Runtime Unit := do
  updateClientName env id name
  updateClientFlag env id name disabled

/-- The part of `clientHandler.update` that a disabled client calls for. -/
def disconnectDisabled (env : Env) (id : String) (disabled : Option Bool) : Handler Unit :=
  if disabled = some true then disconnectClient env id else pure ()

/-- `clientHandler.update`. -/
def clientUpdate (env : Env) (id name : String) (disabled : Option Bool) : Handler Unit := do
  responding 400 (updateClient env id name disabled)
  disconnectDisabled env id disabled
  invalidate fun c => c.invalidateClient id

/-- `GetClient` as the handlers of a client begin. -/
def getClient (env : Env) (id : String) : Handler Client :=
  (query env .getClient fun store => store.getClient id).reporting
    fun _ => ⟨404, "client not found"⟩

/-- `clientHandler.delete`. -/
def clientDelete (env : Env) (id : String) : Handler Unit := do
  let client ← getClient env id
  responding 409 (exec env .revokeClientDevice fun store now =>
    store.revokeClientDevice client.id now)
  disconnectClient env client.id
  invalidate fun c => c.invalidateDevice client.deviceID
  invalidate fun c => c.invalidateClient client.id
  let tunnels ← responding 500 (query env (.listClientTunnels id) fun store =>
    .ok (store.listClientTunnels id))
  responding 409 (each (fun tunnel => stopTunnel env tunnel.id) tunnels)
  responding 409 (exec env .deleteClient fun store now => store.deleteClient id now)

/-- `clientHandler.resetToken`, with the identifier and the secret that are drawn. -/
def clientResetToken (env : Env) (clientID id secret : String) : Handler Unit := do
  let client ← getClient env clientID
  responding 500 (createAgentToken env id (client.name ++ " reset") secret)
  responding 500 (exec env .updateClientToken fun store _ => store.updateClientToken client.id id)
  disconnectClient env client.id
  invalidate fun c => c.invalidateClient client.id

/-- The requests of an administrator. -/
inductive Admin where
  | tokenCreate (id name secret : String)
  | tokenUpdate (id : String) (disabled : Bool)
  | tokenDelete (id : String)
  | clientUpdate (id name : String) (disabled : Option Bool)
  | clientResetToken (clientID id secret : String)
  | clientDelete (id : String)
  deriving DecidableEq, Repr

/-- The handler of a request. -/
def Admin.handle (env : Env) : Admin → Handler Unit
  | .tokenCreate id name secret => Api.tokenCreate env id name secret
  | .tokenUpdate id disabled => Api.tokenUpdate env id disabled
  | .tokenDelete id => Api.tokenDelete env id
  | .clientUpdate id name disabled => Api.clientUpdate env id name disabled
  | .clientResetToken clientID id secret => Api.clientResetToken env clientID id secret
  | .clientDelete id => Api.clientDelete env id

/-- The token identifier a request draws. -/
def Admin.draws : Admin → Option String
  | .tokenCreate id _ _ => some id
  | .clientResetToken _ id _ => some id
  | _ => none

/-! ## Where a handler stands

`Reached s a c s'` says that a handler that started in `s` has by now brought the authority to `a`
and the cache to `c`.  `Stage` adds that the tunnels are those of `s`, some of them stopped, which
the loops over the tunnels need and which is so until the handler deletes them. -/

/-- The tunnels are the ones from before, and no other ones run. -/
structure KeepsTunnels (before after : List Tunnel) : Prop where
  ids : after.map Tunnel.id = before.map Tunnel.id
  origin : ∀ tunnel ∈ after, ∃ old ∈ before, old.id = tunnel.id ∧ old.clientID = tunnel.clientID ∧
    (tunnel.status = .running → old.status = .running)

theorem KeepsTunnels.refl (tunnels : List Tunnel) : KeepsTunnels tunnels tunnels :=
  ⟨rfl, fun tunnel member => ⟨tunnel, member, rfl, rfl, id⟩⟩

theorem KeepsTunnels.trans {first second third : List Tunnel} (earlier : KeepsTunnels first second)
    (later : KeepsTunnels second third) : KeepsTunnels first third := by
  refine ⟨later.ids.trans earlier.ids, fun tunnel member => ?_⟩
  obtain ⟨middle, present, same, owner, runs⟩ := later.origin tunnel member
  obtain ⟨old, present', same', owner', runs'⟩ := earlier.origin middle present
  exact ⟨old, present', same'.trans same, owner'.trans owner, fun running => runs' (runs running)⟩

theorem keepsTunnels_setTunnelStatus {store store' : Store} {id : String} {now : Time}
    (written : store.setTunnelStatus id .stopped now = .ok store') :
    KeepsTunnels store.tunnels store'.tunnels := by
  unfold Store.setTunnelStatus at written
  split at written
  · cases written
    refine ⟨Table.map_update fun _ => rfl, fun tunnel member => ?_⟩
    obtain ⟨old, present, rfl⟩ := Table.mem_update.mp member
    refine ⟨old, present, ?_⟩
    by_cases hit : (old.id == id) = true
    · rw [if_pos hit]
      exact ⟨rfl, rfl, fun stopped => by cases stopped⟩
    · rw [if_neg hit]
      exact ⟨rfl, rfl, fun running => running⟩
  · cases written

structure Reached (s : AuthState) (a : Authority) (c : RelayAuthCache) (s' : AuthState) :
    Prop where
  authority : s'.store.authority = a
  cache : s'.cache = c
  now : s'.now = s.now

structure Stage (s : AuthState) (a : Authority) (c : RelayAuthCache) (s' : AuthState) : Prop
    extends Reached s a c s' where
  tunnels : KeepsTunnels s.store.tunnels s'.store.tunnels

namespace Stage

variable {s s' : AuthState} {a : Authority} {c : RelayAuthCache} {env : Env} {call : Call}
variable {fail : AuthState → Prop} {α : Type}

theorem start (s : AuthState) : Stage s s.store.authority s.cache s :=
  ⟨⟨rfl, rfl, rfl⟩, .refl _⟩

/-- A call that reads. -/
theorem query {read : Store → Except String α} (fact : α → Prop)
    (reads : ∀ s' value, Stage s a c s' → env.fails call = false → read s'.store = .ok value →
      fact value)
    (breaks : ∀ s', Stage s a c s' →
      env.fails call = true ∨ (∃ message, read s'.store = .error message) → fail s') :
    Triple (Stage s a c) (Api.query env call read) (fun value s' => Stage s a c s' ∧ fact value)
      fail := by
  intro s' stage
  unfold Api.query
  by_cases broken : env.fails call = true
  · rw [if_pos broken]
    exact breaks s' stage (Or.inl broken)
  · rw [if_neg broken]
    cases answer : read s'.store with
    | error message => exact breaks s' stage (Or.inr ⟨message, answer⟩)
    | ok value => exact ⟨stage, reads s' value stage (Bool.eq_false_of_not_eq_true broken) answer⟩

/-- A call that reads something nothing depends on. -/
theorem ask {read : Store → Except String α}
    (breaks : ∀ s', Stage s a c s' →
      env.fails call = true ∨ (∃ message, read s'.store = .error message) → fail s') :
    Triple (Stage s a c) (Api.query env call read) (fun _ => Stage s a c) fail :=
  (query (fun _ => True) (fun _ _ _ _ _ => trivial) breaks).weaken (fun _ stage => stage)
    (fun _ _ after => after.1) fun _ failed => failed

/-- A call that writes. -/
theorem exec {write : Store → Time → Except String Store} (a' : Authority) (fact : Prop)
    (writes : ∀ s' store, Stage s a c s' → env.fails call = false →
      write s'.store s'.now = .ok store →
      store.authority = a' ∧ KeepsTunnels s'.store.tunnels store.tunnels ∧ fact)
    (breaks : ∀ s', Stage s a c s' →
      env.fails call = true ∨ (∃ message, write s'.store s'.now = .error message) → fail s') :
    Triple (Stage s a c) (Api.exec env call write) (fun _ s' => Stage s a' c s' ∧ fact) fail := by
  intro s' stage
  unfold Api.exec
  by_cases broken : env.fails call = true
  · rw [if_pos broken]
    exact breaks s' stage (Or.inl broken)
  · rw [if_neg broken]
    cases written : write s'.store s'.now with
    | error message => exact breaks s' stage (Or.inr ⟨message, written⟩)
    | ok store =>
        obtain ⟨authority, tunnels, known⟩ :=
          writes s' store stage (Bool.eq_false_of_not_eq_true broken) written
        exact ⟨⟨⟨authority, stage.cache, stage.now⟩, stage.tunnels.trans tunnels⟩, known⟩

/-- The call that writes last; what becomes of the tunnels no longer matters. -/
theorem last {write : Store → Time → Except String Store} (a' : Authority)
    (writes : ∀ s' store, Stage s a c s' → write s'.store s'.now = .ok store →
      store.authority = a')
    (breaks : ∀ s', Stage s a c s' →
      env.fails call = true ∨ (∃ message, write s'.store s'.now = .error message) → fail s') :
    Triple (Stage s a c) (Api.exec env call write) (fun _ => Reached s a' c) fail := by
  intro s' stage
  unfold Api.exec
  by_cases broken : env.fails call = true
  · rw [if_pos broken]
    exact breaks s' stage (Or.inl broken)
  · rw [if_neg broken]
    cases written : write s'.store s'.now with
    | error message => exact breaks s' stage (Or.inr ⟨message, written⟩)
    | ok store => exact ⟨writes s' store stage written, stage.cache, stage.now⟩

theorem invalidate {clear : RelayAuthCache → RelayAuthCache} :
    Triple (Stage s a c) (Api.invalidate clear) (fun _ => Stage s a (clear c)) fail := by
  intro s' stage
  have cleared : clear s'.cache = clear c := congrArg clear stage.cache
  exact ⟨⟨stage.authority, cleared, stage.now⟩, stage.tunnels⟩

/-- Ending the sessions of a client does not show. -/
theorem disconnectClient {clientID : String} :
    Triple (Stage s a c) (Api.disconnectClient env clientID) (fun _ => Stage s a c) fail := by
  intro s' stage
  unfold Api.disconnectClient
  by_cases connected : env.connected clientID = true
  · rw [if_pos connected]
    cases written : s'.store.setClientStatus clientID .offline s'.now with
    | error message => exact stage
    | ok store =>
        have authority := Store.setClientStatus_authority written
        have tunnels : store.tunnels = s'.store.tunnels := by
          unfold Store.setClientStatus at written
          split at written <;> cases written
          rfl
        refine ⟨⟨authority.trans stage.authority, stage.cache, stage.now⟩, ?_⟩
        show KeepsTunnels _ store.tunnels
        rw [tunnels]
        exact stage.tunnels
  · rw [if_neg connected]
    exact stage

theorem disconnectClients {clients : List Client} :
    Triple (Stage s a c) (Api.disconnectClients env clients) (fun _ => Stage s a c) fail :=
  Triple.each fun _ _ => disconnectClient

end Stage

/-! ## Stopping tunnels -/

/-- One of the calls of `StopTunnel` fails. -/
def Env.StopFails (env : Env) (id : String) : Prop :=
  ∃ call ∈ [Call.getTunnel id, .stop id, .setTunnelStatus id, .syncClient id],
    env.fails call = true

instance (env : Env) (id : String) : Decidable (env.StopFails id) :=
  inferInstanceAs (Decidable (∃ _ ∈ _, _))

/-- `tokenHandler.update` disables the token and breaks off afterwards. -/
def Env.TokenUpdateBreaks (env : Env) (store : Store) (id : String) : Prop :=
  (env.fails .setTokenDisabled = false ∧ ¬ store.authority.Unknown id) ∧
    env.fails .listClientsByToken = true

instance (env : Env) (store : Store) (id : String) : Decidable (env.TokenUpdateBreaks store id) :=
  inferInstanceAs (Decidable ((_ ∧ ¬ _) ∧ _))

/-- `tokenHandler.delete` disables the token and breaks off afterwards: at a running tunnel of one of
its clients, or at `DeleteToken`. -/
def Env.TokenDeleteBreaks (env : Env) (store : Store) (id : String) : Prop :=
  env.fails .listClientsByToken = false ∧
    (env.fails .setTokenDisabled = false ∧ ¬ store.authority.Unknown id) ∧
    ((∃ client ∈ store.listClientsByToken id, env.fails (.listClientTunnels client.id) = true ∨
      ∃ tunnel ∈ store.listClientTunnels client.id,
        tunnel.status = .running ∧ env.StopFails tunnel.id) ∨
    env.fails .deleteToken = true)

instance (env : Env) (store : Store) (id : String) : Decidable (env.TokenDeleteBreaks store id) :=
  inferInstanceAs (Decidable (_ ∧ (_ ∧ ¬ _) ∧ ((∃ _ ∈ _, _ ∨ ∃ _ ∈ _, _) ∨ _)))

/-- `clientHandler.delete` revokes the device and breaks off afterwards: at a tunnel of the client, or
at `DeleteClient`. -/
def Env.ClientDeleteBreaks (env : Env) (store : Store) (id : String) : Prop :=
  env.fails .getClient = false ∧ (∃ client ∈ store.authority.clients, client.id = id) ∧
    env.fails .revokeClientDevice = false ∧
    (env.fails (.listClientTunnels id) = true ∨
      (∃ tunnel ∈ store.listClientTunnels id, env.StopFails tunnel.id) ∨
      env.fails .deleteClient = true)

instance (env : Env) (store : Store) (id : String) : Decidable (env.ClientDeleteBreaks store id) :=
  inferInstanceAs (Decidable (_ ∧ (∃ _ ∈ _, _) ∧ _ ∧ (_ ∨ (∃ _ ∈ _, _) ∨ _)))

namespace Stage

variable {s s' : AuthState} {a : Authority} {c : RelayAuthCache} {env : Env}
variable {fail : AuthState → Prop} {id clientID : String}

/-- A listed tunnel is a tunnel of the client from the start. -/
theorem listed (stage : Stage s a c s') {tunnel : Tunnel}
    (member : tunnel ∈ s'.store.listClientTunnels clientID) :
    ∃ old ∈ s.store.listClientTunnels clientID, old.id = tunnel.id ∧
      (tunnel.status = .running → old.status = .running) := by
  obtain ⟨present, owner⟩ := Table.mem_selectAll.mp member
  obtain ⟨old, kept, same, owner', runs⟩ := stage.tunnels.origin tunnel present
  refine ⟨old, Table.mem_selectAll.mpr ⟨kept, ?_⟩, same, runs⟩
  rw [owner']
  exact owner

/-- A tunnel from the start is still there. -/
theorem exists_tunnel (stage : Stage s a c s') (known : id ∈ s.store.tunnels.map Tunnel.id) :
    ∃ tunnel ∈ s'.store.tunnels, tunnel.id = id := by
  rw [← stage.tunnels.ids] at known
  exact List.mem_map.mp known

/-- `StopTunnel` on a tunnel that exists fails for a reason outside the data only. -/
theorem stopTunnel (known : id ∈ s.store.tunnels.map Tunnel.id)
    (breaks : ∀ s', Stage s a c s' → env.StopFails id → fail s') :
    Triple (Stage s a c) (Api.stopTunnel env id) (fun _ => Stage s a c) fail := by
  have fault : ∀ {call : Call}, call ∈ [Call.getTunnel id, .stop id, .setTunnelStatus id,
      .syncClient id] → env.fails call = true → env.StopFails id :=
    fun member broken => ⟨_, member, broken⟩
  unfold Api.stopTunnel
  refine Triple.bind (Stage.ask ?_) fun tunnel => ?_
  · rintro s' stage (broken | ⟨message, missing⟩)
    · exact breaks s' stage (fault (by simp) broken)
    · obtain ⟨tunnel, present, same⟩ := stage.exists_tunnel known
      unfold Store.getTunnel at missing
      cases found : Table.select s'.store.tunnels Tunnel.id id with
      | none => exact absurd same (Table.select_eq_none.mp found tunnel present)
      | some other => simp [found] at missing
  refine Triple.bind (Stage.ask ?_) fun _ => ?_
  · rintro s' stage (broken | ⟨message, missing⟩)
    · exact breaks s' stage (fault (by simp) broken)
    · cases missing
  -- `setTunnelStatus` does not touch what the authority is made of, and no stage drops a tunnel
  refine Triple.bind (Stage.exec a True ?_ ?_) fun _ => Triple.assuming fun _ => ?_
  · intro s' store stage _ written
    exact ⟨(Store.setTunnelStatus_authority written).trans stage.authority,
      keepsTunnels_setTunnelStatus written, trivial⟩
  · rintro s' stage (broken | ⟨message, missing⟩)
    · exact breaks s' stage (fault (by simp) broken)
    · obtain ⟨tunnel, present, same⟩ := stage.exists_tunnel known
      have found : (s'.store.tunnels.any fun tunnel => tunnel.id == id) = true :=
        List.any_eq_true.mpr ⟨tunnel, present, by simpa using same⟩
      simp [Store.setTunnelStatus, found] at missing
  refine Triple.bind (Stage.ask ?_) fun _ => Triple.pure fun _ stage => stage
  rintro s' stage (broken | ⟨message, missing⟩)
  · exact breaks s' stage (fault (by simp) broken)
  · cases missing

theorem known_of_listed {tunnel : Tunnel} (member : tunnel ∈ s.store.listClientTunnels clientID) :
    tunnel.id ∈ s.store.tunnels.map Tunnel.id :=
  List.mem_map_of_mem (Table.mem_selectAll.mp member).1

/-- `stopClientTunnels` fails for a reason outside the data only. -/
theorem stopClientTunnels {clients : List Client}
    (breaks : ∀ s', Stage s a c s' → (∃ client ∈ clients,
      env.fails (.listClientTunnels client.id) = true ∨
        ∃ tunnel ∈ s.store.listClientTunnels client.id,
          tunnel.status = .running ∧ env.StopFails tunnel.id) → fail s') :
    Triple (Stage s a c) (Api.stopClientTunnels env clients) (fun _ => Stage s a c) fail := by
  refine Triple.each fun client among => ?_
  -- What the loop reads later is known at the start: no tunnel starts to run in between.
  refine Triple.bind (Stage.query (fun tunnels => ∀ tunnel ∈ tunnels,
      ∃ old ∈ s.store.listClientTunnels client.id, old.id = tunnel.id ∧
        (tunnel.status = .running → old.status = .running)) ?_ ?_) fun tunnels =>
    Triple.assuming fun known => Triple.each fun tunnel member => ?_
  · rintro s' tunnels stage - read tunnel member
    cases read
    exact stage.listed member
  · rintro s' stage (broken | ⟨message, missing⟩)
    · exact breaks s' stage ⟨client, among, Or.inl broken⟩
    · cases missing
  obtain ⟨old, listed, same, runs⟩ := known tunnel member
  by_cases running : tunnel.status = .running
  · rw [if_neg (not_not.mpr running), ← same]
    refine Stage.stopTunnel (known_of_listed listed) fun s' stage fault => ?_
    exact breaks s' stage ⟨client, among, Or.inr ⟨old, listed, runs running, fault⟩⟩
  · rw [if_pos running]
    exact Triple.pure fun _ stage => stage

end Stage

/-! ## What a request does -/

/-- What a request that found the authority `a` and the cache `c` may have made of them, and whether
it succeeded. -/
inductive Effect (env : Env) (store : Store) (c : RelayAuthCache) :
    Admin → Bool → Authority → RelayAuthCache → Prop
  /-- nothing that authorization would notice -/
  | refused (op : Admin) : Effect env store c op false store.authority c
  | created (id name secret : String) (succeeded : Bool) (grant : TokenGrant)
      (named : grant.id = id) :
      Effect env store c (.tokenCreate id name secret) succeeded (store.authority.addToken grant) c
  | switched (id : String) (disabled : Bool) :
      Effect env store c (.tokenUpdate id disabled) true
        (store.authority.setTokenDisabled id disabled) (c.invalidateToken id)
  /-- the token is disabled, but the handler broke off before it cleared the cache -/
  | halfSwitched (id : String) (fault : env.TokenUpdateBreaks store id) :
      Effect env store c (.tokenUpdate id true) false (store.authority.setTokenDisabled id true) c
  | deleted (id : String) :
      Effect env store c (.tokenDelete id) true
        ((store.authority.setTokenDisabled id true).deleteToken id) (c.invalidateToken id)
  /-- the token is disabled, but the handler broke off before it cleared the cache -/
  | halfDeleted (id : String) (fault : env.TokenDeleteBreaks store id) :
      Effect env store c (.tokenDelete id) false (store.authority.setTokenDisabled id true) c
  | updated (id name : String) (disabled : Option Bool) :
      Effect env store c (.clientUpdate id name disabled) true
        (store.authority.updateClient id disabled) c.invalidateAll
  | reset (clientID id secret : String) (grant : TokenGrant) (named : grant.id = id) :
      Effect env store c (.clientResetToken clientID id secret) true
        ((store.authority.addToken grant).updateClientToken clientID id) c.invalidateAll
  /-- the new token exists, but no client uses it -/
  | halfReset (clientID id secret : String) (grant : TokenGrant) (named : grant.id = id) :
      Effect env store c (.clientResetToken clientID id secret) false
        (store.authority.addToken grant) c
  | removed (id : String) (client : ClientGrant) (member : client ∈ store.authority.clients)
      (named : client.id = id) :
      Effect env store c (.clientDelete id) true
        (((store.authority.revoke client.deviceID).revoke client.deviceID).deleteClient id)
        c.invalidateAll
  /-- the device is revoked, but its client is still there -/
  | halfRemoved (id : String) (client : ClientGrant) (member : client ∈ store.authority.clients)
      (named : client.id = id) (fault : env.ClientDeleteBreaks store id) :
      Effect env store c (.clientDelete id) false (store.authority.revoke client.deviceID)
        c.invalidateAll

/-- The state a request leaves behind, in these terms. -/
def Leaves (env : Env) (s : AuthState) (op : Admin) (succeeded : Bool) (s' : AuthState) : Prop :=
  Effect env s.store s.cache op succeeded s'.store.authority s'.cache ∧ s'.now = s.now

/-- The triple that a handler has to meet. -/
def Meets (env : Env) (s : AuthState) (op : Admin) (handler : Handler Unit) : Prop :=
  Triple (Stage s s.store.authority s.cache) handler (fun _ => Leaves env s op true)
    (Leaves env s op false)

namespace Reached

variable {s s' : AuthState} {a : Authority} {c : RelayAuthCache} {env : Env} {op : Admin}

theorem leaves {succeeded : Bool} (reached : Reached s a c s')
    (effect : Effect env s.store s.cache op succeeded a c) : Leaves env s op succeeded s' := by
  refine ⟨?_, reached.now⟩
  rw [reached.authority, reached.cache]
  exact effect

/-- As long as nothing has been written, giving up leaves nothing behind. -/
theorem refuses (reached : Reached s s.store.authority s.cache s') : Leaves env s op false s' :=
  reached.leaves (.refused op)

/-- The invalidation a handler ends with. -/
theorem invalidates {clear : RelayAuthCache → RelayAuthCache} {fail : AuthState → Prop}
    (effect : Effect env s.store s.cache op true a (clear c)) :
    Triple (Reached s a c) (Api.invalidate clear) (fun _ => Leaves env s op true) fail := by
  intro s' reached
  have cleared : clear s'.cache = clear c := congrArg clear reached.cache
  exact leaves ⟨reached.authority, cleared, reached.now⟩ effect

end Reached

/-! ## The handlers -/

section Handlers

variable {env : Env} {s : AuthState}

/-- The statement that disables or enables a token: it gives up before it has done anything, or
there is such a token. -/
theorem Stage.setTokenDisabled {fail : AuthState → Prop} {id : String} {disabled : Bool}
    (breaks : ∀ s', Stage s s.store.authority s.cache s' → fail s') :
    Triple (Stage s s.store.authority s.cache)
      (Api.exec env .setTokenDisabled fun store _ => store.setTokenDisabled id disabled)
      (fun _ s' => Stage s (s.store.authority.setTokenDisabled id disabled) s.cache s' ∧
        env.fails .setTokenDisabled = false ∧ ¬ s.store.authority.Unknown id) fail := by
  refine Stage.exec _ _ ?_ fun s' stage _ => breaks s' stage
  intro s' store stage intact written
  have authority := Store.setTokenDisabled_authority written
  rw [stage.authority] at authority
  refine ⟨authority, ?_, intact, fun unknown => ?_⟩
  · unfold Store.setTokenDisabled at written
    split at written <;> cases written
    exact .refl _
  · obtain ⟨⟨row, member, same⟩, -⟩ := Store.setTokenDisabled_ok written
    have known : row.grant ∈ s'.store.authority.tokens := List.mem_map_of_mem member
    rw [stage.authority] at known
    exact unknown row.grant known same

theorem tokenUpdate_meets (id : String) (disabled : Bool) :
    Meets env s (.tokenUpdate id disabled) (tokenUpdate env id disabled) := by
  unfold Meets tokenUpdate
  refine Triple.bind (Triple.reporting (Stage.setTokenDisabled fun s' stage => stage.refuses)) fun _ =>
    Triple.assuming fun begun => ?_
  have listed : Triple (Stage s (s.store.authority.setTokenDisabled id disabled) s.cache)
      (disconnectToken env id disabled)
      (fun _ => Stage s (s.store.authority.setTokenDisabled id disabled) s.cache)
      (Leaves env s (.tokenUpdate id disabled) false) := by
    cases disabled with
    | false => exact Triple.pure fun _ stage => stage
    | true =>
        refine Triple.bind (Triple.reporting (Stage.ask ?_)) fun _ => Stage.disconnectClients
        rintro s' stage (broken | ⟨message, missing⟩)
        · exact stage.leaves (.halfSwitched id ⟨begun, broken⟩)
        · cases missing
  exact Triple.bind listed fun _ =>
    (Reached.invalidates (.switched id disabled)).before fun _ stage => stage.toReached

/-- A client that is listed for a token has been listed from the start. -/
theorem Stage.listedClient {s' : AuthState} {c : RelayAuthCache}
    (stage : Stage s s.store.authority c s') {id : String} {client : Client}
    (member : client ∈ s'.store.listClientsByToken id) :
    ∃ old ∈ s.store.listClientsByToken id, old.id = client.id := by
  obtain ⟨present, own⟩ := Table.mem_selectAll.mp member
  have granted : client.grant ∈ s'.store.authority.clients := List.mem_map_of_mem present
  rw [stage.authority] at granted
  obtain ⟨old, kept, same⟩ := List.mem_map.mp granted
  simp only [Client.grant, ClientGrant.mk.injEq] at same
  refine ⟨old, Table.mem_selectAll.mpr ⟨kept, ?_⟩, same.1⟩
  rw [same.2.2.1]
  exact own

theorem tokenDelete_meets (id : String) : Meets env s (.tokenDelete id) (tokenDelete env id) := by
  unfold Meets tokenDelete
  refine Triple.bind (Triple.reporting (Stage.query (fun clients =>
    env.fails .listClientsByToken = false ∧
      ∀ client ∈ clients, ∃ old ∈ s.store.listClientsByToken id, old.id = client.id) ?_
    fun s' stage _ => stage.refuses)) fun clients => Triple.assuming fun listed => ?_
  · intro s' clients stage intact read
    cases read
    exact ⟨intact, fun client member => stage.listedClient member⟩
  obtain ⟨intact, listed⟩ := listed
  refine Triple.bind (Triple.reporting (Stage.setTokenDisabled fun s' stage => stage.refuses)) fun _ =>
    Triple.assuming fun begun => Triple.bind Stage.disconnectClients fun _ => ?_
  refine Triple.bind (Triple.reporting (Stage.stopClientTunnels ?_)) fun _ => ?_
  · -- the token is disabled already, and stays so
    rintro s' stage ⟨client, member, fault⟩
    obtain ⟨old, present, same⟩ := listed client member
    rw [← same] at fault
    exact stage.leaves (.halfDeleted id ⟨intact, begun, Or.inl ⟨old, present, fault⟩⟩)
  refine Triple.bind (Triple.reporting (Stage.last
    ((s.store.authority.setTokenDisabled id true).deleteToken id) ?_ ?_)) fun _ =>
    Reached.invalidates (.deleted id)
  · intro s' store stage written
    have authority := Store.deleteToken_authority written
    rw [stage.authority] at authority
    exact authority
  · rintro s' stage (broken | ⟨message, missing⟩)
    · exact stage.leaves (.halfDeleted id ⟨intact, begun, Or.inr broken⟩)
    · -- `DeleteToken` cannot miss a token that `SetTokenDisabled` has just found
      have unknown := Store.deleteToken_error missing
      rw [stage.authority, Authority.unknown_setTokenDisabled] at unknown
      exact absurd unknown begun.2

/-- `CreateAgentToken` gives up before it has inserted the row; the pin is added afterwards. -/
theorem Stage.createAgentToken {fail : AuthState → Prop} {id name secret : String}
    (refused : ∀ s', Stage s s.store.authority s.cache s' → fail s')
    (unpinned : ∀ s', Stage s (s.store.authority.addToken (Auth.tokenRow id name secret s.now).grant)
      s.cache s' → fail s') :
    Triple (Stage s s.store.authority s.cache) (Api.createAgentToken env id name secret)
      (fun _ => Stage s (s.store.authority.addToken (Auth.tokenRow id name secret s.now).grant)
        s.cache) fail := by
  refine Triple.bind (Stage.exec _ True ?_ fun s' stage _ => refused s' stage) fun _ =>
    Triple.assuming fun _ => Stage.ask fun s' stage _ => unpinned s' stage
  intro s' store stage _ written
  unfold Auth.createAgentToken at written
  split at written
  · cases written
  · cases inserted : s'.store.insertToken (Auth.tokenRow id name secret s'.now) with
    | error message => simp [inserted, Except.map] at written
    | ok store' =>
        simp only [inserted, Except.map, Except.ok.injEq] at written
        subst written
        have authority := Store.insertToken_authority inserted
        rw [stage.authority, stage.now] at authority
        refine ⟨authority, ?_, trivial⟩
        unfold Store.insertToken at inserted
        split at inserted <;> cases inserted
        exact .refl _

theorem tokenCreate_meets (id name secret : String) :
    Meets env s (.tokenCreate id name secret) (tokenCreate env id name secret) := by
  unfold Meets tokenCreate
  by_cases empty : name = ""
  · rw [if_pos empty]
    exact Triple.abort fun s' stage => stage.refuses
  · rw [if_neg empty]
    refine Triple.reporting ((Stage.createAgentToken (fun s' stage => stage.refuses)
      fun s' stage => ?_).weaken (fun _ stage => stage) (fun _ s' stage => ?_) fun _ failed => failed)
    · exact stage.leaves (.created id name secret false _ rfl)
    · exact stage.leaves (.created id name secret true _ rfl)

/-- `UpdateClient` gives up before it has done anything that shows. -/
theorem Stage.updateClient {fail : AuthState → Prop} {id name : String} {disabled : Option Bool}
    (refused : ∀ s', Stage s s.store.authority s.cache s' → fail s') :
    Triple (Stage s s.store.authority s.cache) (Api.updateClient env id name disabled)
      (fun _ => Stage s (s.store.authority.updateClient id disabled) s.cache) fail := by
  have named : Triple (Stage s s.store.authority s.cache) (Api.updateClientName env id name)
      (fun _ => Stage s s.store.authority s.cache) fail := by
    unfold Api.updateClientName
    by_cases given : name ≠ ""
    · rw [if_pos given]
      refine (Stage.exec s.store.authority True ?_ fun s' stage _ => refused s' stage).weaken
        (fun _ stage => stage) (fun _ _ after => after.1) fun _ failed => failed
      intro s' store stage _ written
      cases written
      rw [Store.setClientName_authority]
      exact ⟨stage.authority, .refl _, trivial⟩
    · rw [if_neg given]
      exact Triple.pure fun _ stage => stage
  -- the name comes first; it shows in no authority
  refine Triple.bind named fun _ => ?_
  cases disabled with
  | none =>
      unfold Api.updateClientFlag
      by_cases empty : name = ""
      · rw [if_pos empty]
        exact Triple.abort refused
      · rw [if_neg empty]
        exact Triple.pure fun _ stage => stage
  | some flag =>
      show Triple _ (Api.exec env .setClientDisabled fun store _ =>
        store.setClientDisabled id flag) _ _
      refine (Stage.exec (s.store.authority.updateClient id (some flag)) True ?_
        fun s' stage _ => refused s' stage).weaken
        (fun _ stage => stage) (fun _ _ after => after.1) fun _ failed => failed
      intro s' store stage _ written
      have authority := Store.setClientDisabled_authority written
      rw [stage.authority] at authority
      refine ⟨authority, ?_, trivial⟩
      unfold Store.setClientDisabled at written
      split at written <;> cases written
      exact .refl _

theorem clientUpdate_meets (id name : String) (disabled : Option Bool) :
    Meets env s (.clientUpdate id name disabled) (clientUpdate env id name disabled) := by
  unfold Meets clientUpdate
  refine Triple.bind (Triple.reporting (Stage.updateClient fun s' stage => stage.refuses)) fun _ => ?_
  have ended : Triple (Stage s (s.store.authority.updateClient id disabled) s.cache)
      (disconnectDisabled env id disabled)
      (fun _ => Stage s (s.store.authority.updateClient id disabled) s.cache)
      (Leaves env s (.clientUpdate id name disabled) false) := by
    unfold disconnectDisabled
    by_cases off : disabled = some true
    · rw [if_pos off]
      exact Stage.disconnectClient
    · rw [if_neg off]
      exact Triple.pure fun _ stage => stage
  refine Triple.bind ended fun _ =>
    (Reached.invalidates (.updated id name disabled)).before fun _ stage => stage.toReached

/-- The client the handlers of a client begin with. -/
theorem Stage.getClient {fail : AuthState → Prop} {id : String}
    (refused : ∀ s', Stage s s.store.authority s.cache s' → fail s') :
    Triple (Stage s s.store.authority s.cache) (Api.getClient env id)
      (fun client s' => Stage s s.store.authority s.cache s' ∧
        env.fails .getClient = false ∧ client.grant ∈ s.store.authority.clients ∧ client.id = id)
      fail := by
  refine Triple.reporting (Stage.query _ ?_ fun s' stage _ => refused s' stage)
  intro s' client stage intact read
  unfold Store.getClient at read
  cases found : Table.select s'.store.clients Client.id id with
  | none => simp [found] at read
  | some row =>
      simp only [found, Except.ok.injEq] at read
      subst read
      obtain ⟨member, same⟩ := (Table.select_eq_some s'.store.clients_primary).mp found
      have granted : row.grant ∈ s'.store.authority.clients := List.mem_map_of_mem member
      rw [stage.authority] at granted
      exact ⟨intact, granted, same⟩

theorem clientResetToken_meets (clientID id secret : String) :
    Meets env s (.clientResetToken clientID id secret)
      (clientResetToken env clientID id secret) := by
  unfold Meets clientResetToken
  refine Triple.bind (Stage.getClient fun s' stage => stage.refuses) fun client =>
    Triple.assuming fun found => ?_
  refine Triple.bind (Triple.reporting (Stage.createAgentToken (fun s' stage => stage.refuses)
    fun s' stage => ?_)) fun _ => ?_
  · -- the token was inserted, and its pin was not: nothing takes it back
    exact stage.leaves (.halfReset clientID id secret _ rfl)
  refine Triple.bind (Triple.reporting (Stage.exec ((s.store.authority.addToken
      (Auth.tokenRow id (client.name ++ " reset") secret s.now).grant).updateClientToken client.id id)
      True ?_ fun s' stage _ => ?_)) fun _ =>
    Triple.assuming fun _ => Triple.bind Stage.disconnectClient fun _ =>
      (Reached.invalidates ?_).before fun _ stage => stage.toReached
  · intro s' store stage _ written
    have authority := Store.updateClientToken_authority written
    rw [stage.authority] at authority
    refine ⟨authority, ?_, trivial⟩
    unfold Store.updateClientToken at written
    split at written
    · split at written <;> cases written
      exact .refl _
    · cases written
  · exact stage.leaves (.halfReset clientID id secret _ rfl)
  · rw [found.2.2]
    exact .reset clientID id secret _ rfl

theorem clientDelete_meets (id : String) :
    Meets env s (.clientDelete id) (clientDelete env id) := by
  unfold Meets clientDelete
  refine Triple.bind (Stage.getClient fun s' stage => stage.refuses) fun client =>
    Triple.assuming fun found => ?_
  obtain ⟨found, member, named⟩ := found
  -- Whatever row a later statement finds under the identifier has the device of this client.
  have device : ∀ {store : Store} {row : Client}, store.authority.clients = s.store.authority.clients →
      row ∈ store.clients → row.id = id → row.deviceID = client.deviceID := by
    intro store row same present identified
    have granted : row.grant ∈ store.authority.clients := List.mem_map_of_mem present
    rw [same] at granted
    have equal := Store.grant_unique_id granted member (identified.trans named.symm)
    exact congrArg ClientGrant.deviceID equal
  refine Triple.bind (Triple.reporting (Stage.exec (s.store.authority.revoke client.deviceID)
    (env.fails .revokeClientDevice = false) ?_ fun s' stage _ => stage.refuses)) fun _ =>
    Triple.assuming fun begun => ?_
  · intro s' store stage intact written
    obtain ⟨row, present, identified, authority⟩ := Store.revokeClientDevice_authority written
    rw [device (congrArg Authority.clients stage.authority) present (identified.trans named),
      stage.authority] at authority
    refine ⟨authority, ?_, intact⟩
    unfold Store.revokeClientDevice at written
    split at written <;> cases written
    exact .refl _
  refine Triple.bind Stage.disconnectClient fun _ => Triple.bind Stage.invalidate fun _ =>
    Triple.bind Stage.invalidate fun _ => ?_
  have half : ∀ s', Stage s (s.store.authority.revoke client.deviceID)
      ((s.cache.invalidateDevice client.deviceID).invalidateClient client.id) s' →
      (env.fails (.listClientTunnels id) = true ∨
        (∃ tunnel ∈ s.store.listClientTunnels id, env.StopFails tunnel.id) ∨
        env.fails .deleteClient = true) → Leaves env s (.clientDelete id) false s' :=
    fun s' stage fault => stage.leaves (.halfRemoved id client.grant member named
      ⟨found, ⟨client.grant, member, named⟩, begun, fault⟩)
  refine Triple.bind (Triple.reporting (Stage.query (fun tunnels => ∀ tunnel ∈ tunnels,
    ∃ old ∈ s.store.listClientTunnels id, old.id = tunnel.id) ?_ ?_)) fun tunnels =>
    Triple.assuming fun listed => ?_
  · rintro s' tunnels stage - read tunnel present
    cases read
    obtain ⟨old, kept, same, -⟩ := stage.listed present
    exact ⟨old, kept, same⟩
  · rintro s' stage (broken | ⟨message, missing⟩)
    · exact half s' stage (Or.inl broken)
    · cases missing
  refine Triple.bind (Triple.reporting (Triple.each fun tunnel present => ?_)) fun _ =>
    Triple.reporting ((Stage.last (((s.store.authority.revoke client.deviceID).revoke
      client.deviceID).deleteClient id) ?_ ?_).weaken (fun _ stage => stage)
        (fun _ s' reached => reached.leaves (.removed id client.grant member named))
        fun _ failed => failed)
  · obtain ⟨old, kept, same⟩ := listed tunnel present
    rw [← same]
    refine Stage.stopTunnel (Stage.known_of_listed kept) fun s' stage fault => ?_
    exact half s' stage (Or.inr (Or.inl ⟨old, kept, fault⟩))
  · intro s' store stage written
    obtain ⟨row, present, identified, authority⟩ := Store.deleteClient_authority written
    have same : s'.store.authority.clients = s.store.authority.clients := by
      rw [stage.authority]
      rfl
    rw [device same present identified, stage.authority] at authority
    exact authority
  · rintro s' stage (broken | ⟨message, missing⟩)
    · exact half s' stage (Or.inr (Or.inr broken))
    · have gone := Store.deleteClient_error missing
      rw [stage.authority] at gone
      exact absurd named (gone client.grant member)

/-- **What a request does**, whichever of its calls fail. -/
theorem effect_of_handle (op : Admin) :
    Leaves env s op (op.handle env s).2.isOk (op.handle env s).1 := by
  have meets : Meets env s op (op.handle env) := by
    cases op with
    | tokenCreate id name secret => exact tokenCreate_meets id name secret
    | tokenUpdate id disabled => exact tokenUpdate_meets id disabled
    | tokenDelete id => exact tokenDelete_meets id
    | clientUpdate id name disabled => exact clientUpdate_meets id name disabled
    | clientResetToken clientID id secret => exact clientResetToken_meets clientID id secret
    | clientDelete id => exact clientDelete_meets id
  have ended := meets s (Stage.start s)
  cases outcome : op.handle env s with
  | mk s' result =>
      rw [outcome] at ended
      cases result with
      | error response => exact ended
      | ok value => exact ended

end Handlers

end NryNet.Api

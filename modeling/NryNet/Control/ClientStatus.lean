import NryNet.Control.ControlPlane

/-!
# The stored status of a client (`server/client/client_status.go`)

The status column of a client is written by three statements: the `UpsertClient` of a hello, which
says `online` before there is a session, `markClientOnline` and `markClientOffline`.  The last two
hold `statusMu`, and look at the table of sessions before they write; but `register` and `unregister`
do not take that lock, so a session may come or go between the look and the statement.

That the column nevertheless agrees with the table when nothing is under way rests on one argument,
made once for each direction.  Whoever changes the table has a statement still to come, and it will
look again:

* as long as a client has a session, it is stored as online and nobody is about to write `offline`,
  or the session has not been marked yet (`Settled.connected`);
* as long as it has none, it is not stored as online and nobody is about to write `online`, or a
  handshake or an `unregister` of the client is not finished yet (`Settled.disconnected`).

A statement under the lock is alone, since `statusMu` is held by one goroutine (`Settled.locked`).
-/

namespace NryNet

/-! ## The rows of a client -/

namespace Store

/-- The client is stored as online. -/
def Online (s : Store) (clientID : String) : Prop :=
  ∃ client ∈ s.clients, client.id = clientID ∧ client.status = .online

/-- The client has a row, with this device. -/
def HasDevice (s : Store) (clientID deviceID : String) : Prop :=
  ∃ client ∈ s.clients, client.id = clientID ∧ client.deviceID = deviceID

/-- The client is not disabled, if it has a row. -/
def Admits (s : Store) (clientID : String) : Prop :=
  ∀ client ∈ s.clients, client.id = clientID → client.disabled = false

instance (s : Store) (clientID : String) : Decidable (s.Online clientID) :=
  inferInstanceAs (Decidable (∃ client ∈ s.clients, _))

instance (s : Store) (clientID deviceID : String) : Decidable (s.HasDevice clientID deviceID) :=
  inferInstanceAs (Decidable (∃ client ∈ s.clients, _))

instance (s : Store) (clientID : String) : Decidable (s.Admits clientID) :=
  inferInstanceAs (Decidable (∀ client ∈ s.clients, _))

/-- The rows of a client stay, and none is disabled. -/
structure Stays (clientID : String) (s s' : Store) : Prop where
  device : ∀ deviceID, s.HasDevice clientID deviceID → s'.HasDevice clientID deviceID
  admits : s.Admits clientID → s'.Admits clientID

/-- Its status stays as well. -/
structure Kept (clientID : String) (s s' : Store) : Prop extends Stays clientID s s' where
  online : s'.Online clientID ↔ s.Online clientID

variable {s s' : Store} {clientID id tokenID : String} {now : Time}

theorem Kept.of_clients (same : s'.clients = s.clients) : Kept clientID s s' := by
  refine ⟨⟨fun deviceID => ?_, ?_⟩, ?_⟩
  · unfold HasDevice
    rw [same]
    exact fun row => row
  · unfold Admits
    rw [same]
    exact fun admitted => admitted
  · unfold Online
    rw [same]

section Update

variable {hit : Client → Bool} {set : Client → Client}
variable {keeps : ∀ row, (set row).id = row.id ∧ (set row).deviceID = row.deviceID ∧
  (set row).tokenID = row.tokenID}

theorem updated_row (hit : Client → Bool)
    (keeps : ∀ row, (set row).id = row.id ∧ (set row).deviceID = row.deviceID ∧
      (set row).tokenID = row.tokenID) (old : Client) :
    (if hit old then set old else old).id = old.id ∧
      (if hit old then set old else old).deviceID = old.deviceID := by
  split
  · exact ⟨(keeps old).1, (keeps old).2.1⟩
  · exact ⟨rfl, rfl⟩

/-- An `UPDATE` assigns no identifier, so the rows stay. -/
theorem Stays.update
    (enabled : ∀ row, row.id = clientID → hit row = true → row.disabled = false →
      (set row).disabled = false) :
    Stays clientID s (s.updateClients hit set keeps) := by
  constructor
  · rintro deviceID ⟨old, present, own, device⟩
    obtain ⟨id, deviceID⟩ := updated_row hit keeps old
    exact ⟨_, Table.mem_update.mpr ⟨old, present, rfl⟩, id.trans own, deviceID.trans device⟩
  · intro admitted client member own
    obtain ⟨old, present, rfl⟩ := Table.mem_update.mp member
    rw [(updated_row hit keeps old).1] at own
    split
    · rename_i found
      exact enabled old own found (admitted old present own)
    · exact admitted old present own

/-- An `UPDATE` keeps a client if it does not assign the status of its rows. -/
theorem Kept.update
    (enabled : ∀ row, row.id = clientID → hit row = true → row.disabled = false →
      (set row).disabled = false)
    (spared : ∀ row ∈ s.clients, row.id = clientID → hit row = true →
      (set row).status = row.status) :
    Kept clientID s (s.updateClients hit set keeps) := by
  have status (old : Client) (present : old ∈ s.clients) (own : old.id = clientID) :
      (if hit old then set old else old).status = old.status := by
    split
    · rename_i found
      exact spared old present own found
    · rfl
  refine ⟨Stays.update enabled, ?_, ?_⟩
  · rintro ⟨client, member, own, online⟩
    obtain ⟨old, present, rfl⟩ := Table.mem_update.mp member
    rw [(updated_row hit keeps old).1] at own
    rw [status old present own] at online
    exact ⟨old, present, own, online⟩
  · rintro ⟨old, present, own, online⟩
    refine ⟨_, Table.mem_update.mpr ⟨old, present, rfl⟩, (updated_row hit keeps old).1.trans own, ?_⟩
    rw [status old present own]
    exact online

end Update

theorem Stays.setClientStatus {status : ClientStatus}
    (written : s.setClientStatus id status now = .ok s') : Stays clientID s s' := by
  unfold Store.setClientStatus at written
  split at written
  · cases written
    exact Stays.update fun _ _ _ enabled => enabled
  · cases written

/-- `SetClientStatus` writes the status of one client. -/
theorem Kept.setClientStatus {status : ClientStatus} (different : clientID ≠ id)
    (written : s.setClientStatus id status now = .ok s') : Kept clientID s s' := by
  unfold Store.setClientStatus at written
  split at written
  · cases written
    refine Kept.update (fun _ _ _ enabled => enabled) fun row _ own hit => ?_
    exact absurd (own.symm.trans (by simpa using hit)) different
  · cases written

theorem Kept.setClientName (name : String) : Kept clientID s (s.setClientName id name) := by
  unfold Store.setClientName
  exact Kept.update (fun _ _ _ enabled => enabled) fun _ _ _ _ => rfl

/-- `setClientDisabled` keeps a client that it does not disable. -/
theorem Kept.setClientDisabled {flag : Bool} (written : s.setClientDisabled id flag = .ok s')
    (spared : flag = true → clientID ≠ id) : Kept clientID s s' := by
  unfold Store.setClientDisabled at written
  split at written
  · cases written
    refine Kept.update (fun row own hit _ => ?_) fun _ _ _ _ => rfl
    cases flag with
    | true => exact absurd (own.symm.trans (by simpa using hit)) (spared rfl)
    | false => rfl
  · cases written

theorem online_of_setClientStatus {status : ClientStatus}
    (written : s.setClientStatus id status now = .ok s') : s'.Online id ↔ status = .online := by
  unfold setClientStatus at written
  split at written
  · rename_i found
    obtain ⟨client, present, same⟩ := List.any_eq_true.mp found
    cases written
    constructor
    · rintro ⟨row, member, own, online⟩
      obtain ⟨old, -, rfl⟩ := Table.mem_update.mp member
      by_cases hit : (old.id == id) = true
      · rw [if_pos hit] at online
        exact online
      · rw [if_neg hit] at own
        exact absurd (by simpa using own) hit
    · rintro rfl
      refine ⟨_, Table.mem_update.mpr ⟨client, present, rfl⟩, ?_⟩
      rw [if_pos same]
      exact ⟨by simpa using same, rfl⟩
  · cases written

/-- A client without a row is not online. -/
theorem not_online_of_setClientStatus {status : ClientStatus} {message : String}
    (failed : s.setClientStatus id status now = .error message) (deviceID : String) :
    ¬ s.Online id ∧ ¬ s.HasDevice id deviceID := by
  unfold setClientStatus at failed
  split at failed
  · cases failed
  · rename_i missing
    have none (client : Client) (present : client ∈ s.clients) : client.id ≠ id := by
      intro own
      exact missing (List.any_eq_true.mpr ⟨client, present, by simpa using own⟩)
    constructor
    · rintro ⟨client, present, own, -⟩
      exact none client present own
    · rintro ⟨client, present, own, -⟩
      exact none client present own

/-- A new row that is enabled takes nothing away. -/
theorem Stays.append {row : Client} (enabled : row.disabled = false)
    (appended : s'.clients = s.clients ++ [row]) : Stays clientID s s' := by
  constructor
  · rintro deviceID ⟨client, present, own, device⟩
    refine ⟨client, ?_, own, device⟩
    rw [appended]
    exact List.mem_append_left _ present
  · intro admitted client member own
    rw [appended] at member
    rcases List.mem_append.mp member with present | last
    · exact admitted client present own
    · rw [List.mem_singleton.mp last]
      exact enabled

/-- The statement of `UpsertClient` brings one client online and keeps the others. -/
theorem insertClient_online {hello : ClientHello}
    (inserted : s.insertClient id tokenID hello now = .ok s') (clientID : String) :
    Kept clientID s s' ∨
      (s'.Online clientID ∧ s'.HasDevice clientID hello.deviceID ∧ Stays clientID s s') := by
  unfold insertClient at inserted
  split at inserted
  · cases inserted
  · split at inserted
    · split at inserted
      · cases inserted
        -- the device is known: its row is updated in place
        by_cases own : s.HasDevice clientID hello.deviceID
        · refine Or.inr ⟨?_, ?_, Stays.update fun _ _ _ enabled => enabled⟩
          · obtain ⟨client, present, same, device⟩ := own
            refine ⟨_, Table.mem_update.mpr ⟨client, present, rfl⟩, ?_⟩
            rw [if_pos (by simpa using device)]
            exact ⟨same, rfl⟩
          · obtain ⟨client, present, same, device⟩ := own
            refine ⟨_, Table.mem_update.mpr ⟨client, present, rfl⟩, ?_⟩
            rw [if_pos (by simpa using device)]
            exact ⟨same, device⟩
        · refine Or.inl (Kept.update (fun _ _ _ enabled => enabled) fun row present same hit => ?_)
          exact absurd ⟨row, present, same, by simpa using hit⟩ own
      · cases inserted
    · split at inserted
      · split at inserted
        · cases inserted
          -- the device is new: a row is appended
          have new : helloRow id tokenID hello now ∈ s.clients ++ [helloRow id tokenID hello now] :=
            List.mem_append_right _ List.mem_cons_self
          by_cases own : id = clientID
          · exact Or.inr ⟨⟨_, new, own, rfl⟩, ⟨_, new, own, rfl⟩, Stays.append rfl rfl⟩
          · refine Or.inl ⟨Stays.append rfl rfl, ?_, ?_⟩
            · rintro ⟨client, member, same, online⟩
              rcases List.mem_append.mp member with present | last
              · exact ⟨client, present, same, online⟩
              · rw [List.mem_singleton.mp last] at same
                exact absurd same own
            · rintro ⟨client, present, same, online⟩
              exact ⟨client, List.mem_append_left _ present, same, online⟩
        · cases inserted
      · cases inserted

/-- `DeleteToken` keeps the clients of other tokens. -/
theorem Kept.deleteToken (written : s.deleteToken id = .ok s')
    (other : ∀ client ∈ s.clients, client.id = clientID → client.tokenID ≠ id) :
    Kept clientID s s' := by
  have rows := (deleteToken_ok written).1
  refine ⟨⟨?_, ?_⟩, ?_, ?_⟩
  · rintro deviceID ⟨client, present, own, device⟩
    exact ⟨client, (rows client).mpr ⟨present, other client present own⟩, own, device⟩
  · intro admitted client member own
    exact admitted client ((rows client).mp member).1 own
  · rintro ⟨client, member, own, online⟩
    exact ⟨client, ((rows client).mp member).1, own, online⟩
  · rintro ⟨client, present, own, online⟩
    exact ⟨client, (rows client).mpr ⟨present, other client present own⟩, own, online⟩

end Store

namespace Control

open ThreadPool

/-! ## What is under way -/

/-- Connecting or disconnecting a client has begun to change something and is not finished. -/
def Goroutine.InProgress (s : Store) (clientID : String) : Goroutine → Prop
  | .readBack _ _ deviceID => s.HasDevice clientID deviceID
  | .register _ _ id | .markOnline _ id | .setOnline _ id | .markOffline id _ | .setOffline id _ =>
      id = clientID
  | _ => False

instance (s : Store) (clientID : String) (goroutine : Goroutine) :
    Decidable (goroutine.InProgress s clientID) := by
  unfold Goroutine.InProgress
  split <;> infer_instance

/-- The goroutines that will see to it that a client without a session is not left online. -/
def Goroutine.Mends (s : Store) (clientID : String) : Goroutine → Prop
  | .readBack _ _ deviceID => s.HasDevice clientID deviceID
  | .register _ _ id | .markOffline id _ | .setOffline id _ => id = clientID
  | _ => False

/-- The goroutines that act for a client whose row they have read. -/
def Goroutine.actsFor : Goroutine → Option String
  | .register _ _ id | .markOnline _ id | .setOnline _ id => some id
  | _ => none

/-- The goroutines that are neither about to register a session nor about to write a status. -/
def Goroutine.quiet : Goroutine → Bool
  | .register _ _ _ | .refuse _ _ | .markOnline _ _ | .setOnline _ _ | .setOffline _ _ => false
  | _ => true

/-- The goroutines that hold `statusMu`. -/
def Goroutine.locks : Goroutine → ℕ
  | .setOnline _ _ | .setOffline _ _ => 1
  | _ => 0

/-- The step neither disables the client nor deletes its row. -/
def Undisturbed (clientID : String) (config : Config Hub Goroutine) : Goroutine → Prop
  | .clientFlag id _ (some true) => id ≠ clientID
  | .stopTunnels id [] [] =>
      ∀ client ∈ config.shared.store.clients, client.id = clientID → client.tokenID ≠ id
  | _ => True

instance (clientID : String) (config : Config Hub Goroutine) (goroutine : Goroutine) :
    Decidable (Undisturbed clientID config goroutine) := by
  unfold Undisturbed
  split <;> infer_instance

/-- The half of the invariant that is about clients with a session.  It holds whatever the database
says in the beginning. -/
structure Marked (clientID : String) (config : Config Hub Goroutine) : Prop where
  locked : config.total Goroutine.locks = if config.shared.statusMu then 1 else 0
  admits : config.shared.store.Admits clientID
  known : ∀ goroutine ∈ config.threads, goroutine.actsFor = some clientID →
    ∃ deviceID, config.shared.store.HasDevice clientID deviceID
  unrefused : ∀ conn, .refuse conn clientID ∉ config.threads
  connected : ∀ conn, config.shared.conns.lookup clientID = some conn →
    .markOnline conn clientID ∈ config.threads ∨ .setOnline conn clientID ∈ config.threads ∨
      config.shared.store.Online clientID ∧ ∀ next, .setOffline clientID next ∉ config.threads

/-- The invariant. -/
structure Settled (clientID : String) (config : Config Hub Goroutine) : Prop
    extends Marked clientID config where
  disconnected : config.shared.conns.lookup clientID = none →
    (∃ goroutine ∈ config.threads, goroutine.Mends config.shared.store clientID) ∨
      ¬ config.shared.store.Online clientID ∧ ∀ conn, .setOnline conn clientID ∉ config.threads

/-! ## What one action does -/

section Actions

variable {h h' : Hub} {goroutine goroutine' : Goroutine} {spawned : List Goroutine}
variable {clientID : String}

theorem quiet_resume (next : Return) (id : String) : (next.resume id).quiet = true := by
  cases next with
  | disconnectClients rest revocation => cases rest <;> cases revocation <;> rfl
  | _ => rfl

theorem locks_of_quiet (quiet : goroutine.quiet = true) : goroutine.locks = 0 := by
  cases goroutine <;> first | rfl | cases quiet

theorem statusMu_setStatus (id : String) (status : ClientStatus) :
    (h.setStatus id status).statusMu = h.statusMu := by
  unfold Hub.setStatus
  split <;> rfl

/-- How `statusMu` changes hands. -/
theorem action_locks (action : Action h goroutine h' goroutine' spawned) :
    (goroutine.locks = 0 ∧ goroutine'.locks = 0 ∧ (∀ fresh ∈ spawned, fresh.locks = 0) ∧
      h'.statusMu = h.statusMu) ∨
    (goroutine.locks = 0 ∧ goroutine'.locks = 1 ∧ spawned = [] ∧ h.statusMu = false ∧
      h'.statusMu = true) ∨
    (goroutine.locks = 1 ∧ goroutine'.locks = 0 ∧ spawned = [] ∧ h'.statusMu = false) := by
  have alone : ∀ fresh ∈ ([] : List Goroutine), fresh.locks = 0 := fun _ member => by
    cases member
  cases action with
  | quit goroutine conns idle =>
      refine Or.inl ⟨?_, rfl, alone, rfl⟩
      cases goroutine <;> first | rfl | cases idle
  | hello fresh accepted =>
      obtain ⟨-, store, -, rfl⟩ := Hub.acceptHello_ok accepted
      exact Or.inl ⟨rfl, rfl, alone, rfl⟩
  | refuse conn id => exact Or.inl ⟨rfl, rfl, alone, statusMu_setStatus id _⟩
  | register conn tokenID id =>
      refine Or.inl ⟨rfl, rfl, fun fresh member => ?_, rfl⟩
      rw [List.mem_singleton.mp member]
      rfl
  | markOnline free current => exact Or.inr (Or.inl ⟨rfl, rfl, rfl, free, rfl⟩)
  | setOnline conn id => exact Or.inr (Or.inr ⟨rfl, rfl, rfl, rfl⟩)
  | unregister next current =>
      refine Or.inl ⟨rfl, rfl, alone, ?_⟩
      unfold Hub.unregister
      split <;> rfl
  | unregistered next stale => exact Or.inl ⟨rfl, locks_of_quiet (quiet_resume _ _), alone, rfl⟩
  | reconnected next free connected => exact Or.inl ⟨rfl, locks_of_quiet (quiet_resume _ _), alone, rfl⟩
  | markOffline next free disconnected => exact Or.inr (Or.inl ⟨rfl, rfl, rfl, free, rfl⟩)
  | setOffline id next => exact Or.inr (Or.inr ⟨rfl, locks_of_quiet (quiet_resume _ _), rfl, rfl⟩)
  | forgetQueue conn id =>
      refine Or.inl ⟨rfl, rfl, alone, ?_⟩
      unfold Hub.forgetQueue
      split <;> rfl
  | disconnected next missing => exact Or.inl ⟨rfl, locks_of_quiet (quiet_resume _ _), alone, rfl⟩
  | listClients id =>
      exact Or.inl ⟨rfl, locks_of_quiet (quiet_resume (.disconnectClients _ _) ""), alone, rfl⟩
  | disableToken written =>
      exact Or.inl ⟨rfl, locks_of_quiet (quiet_resume (.disconnectClients _ _) ""), alone, rfl⟩
  | _ => exact Or.inl ⟨rfl, rfl, alone, rfl⟩

/-- What an action does to the row of a client that it neither disables nor deletes. -/
theorem action_row {config : Config Hub Goroutine} (undisturbed : Undisturbed clientID config goroutine)
    (action : Action config.shared goroutine h' goroutine' spawned) :
    Store.Kept clientID config.shared.store h'.store ∨
    (h'.store.Online clientID ∧ goroutine'.Mends h'.store clientID ∧
      Store.Stays clientID config.shared.store h'.store) ∨
    (∃ conn, goroutine = .setOnline conn clientID) ∨
    (∃ next, goroutine = .setOffline clientID next) ∨
    ∃ conn, goroutine = .refuse conn clientID := by
  have status {id : String} (status : ClientStatus) (different : clientID ≠ id) :
      Store.Kept clientID config.shared.store (config.shared.setStatus id status).store := by
    unfold Hub.setStatus
    split
    · exact .of_clients rfl
    · rename_i written
      exact .setClientStatus different written
  cases action with
  | @hello conn tokenID hello id h' fresh accepted =>
      obtain ⟨-, store, inserted, rfl⟩ := Hub.acceptHello_ok accepted
      rcases Store.insertClient_online inserted clientID with kept | ⟨online, row, stays⟩
      · exact Or.inl kept
      · exact Or.inr (Or.inl ⟨online, row, stays⟩)
  | refuse conn id =>
      by_cases own : clientID = id
      · subst own
        exact Or.inr (Or.inr (Or.inr (Or.inr ⟨conn, rfl⟩)))
      · exact Or.inl (status .offline own)
  | setOnline conn id =>
      by_cases own : clientID = id
      · subst own
        exact Or.inr (Or.inr (Or.inl ⟨conn, rfl⟩))
      · exact Or.inl (status .online own)
  | setOffline id next =>
      by_cases own : clientID = id
      · subst own
        exact Or.inr (Or.inr (Or.inr (Or.inl ⟨next, rfl⟩)))
      · exact Or.inl (status .offline own)
  | register conn tokenID id => exact Or.inl (.of_clients rfl)
  | unregister next current =>
      exact Or.inl (.of_clients (congrArg Store.clients Hub.unregister_records.store))
  | forgetQueue conn id =>
      exact Or.inl (.of_clients (congrArg Store.clients Hub.forgetQueue_records.store))
  | rename id name disabled => exact Or.inl (.setClientName name)
  | disable written =>
      exact Or.inl (.setClientDisabled written fun _ own => undisturbed own.symm)
  | enable written => exact Or.inl (.setClientDisabled written fun impossible => nomatch impossible)
  | revoke written => exact Or.inl (.of_clients (Store.setTokenDisabled_ok written).2.1)
  | restore written => exact Or.inl (.of_clients (Store.setTokenDisabled_ok written).2.1)
  | disableToken written => exact Or.inl (.of_clients (Store.setTokenDisabled_ok written).2.1)
  | stopTunnel written => exact Or.inl (.of_clients (Store.setTunnelStatus_clients written).1)
  | deleteToken written => exact Or.inl (.deleteToken written undisturbed)
  | _ => exact Or.inl (.of_clients rfl)

/-- The rows of the client stay, whatever is done to its status. -/
theorem stays_of_action {config : Config Hub Goroutine}
    (undisturbed : Undisturbed clientID config goroutine)
    (action : Action config.shared goroutine h' goroutine' spawned) :
    Store.Stays clientID config.shared.store h'.store := by
  have status (id : String) (status : ClientStatus) :
      Store.Stays clientID config.shared.store (config.shared.setStatus id status).store := by
    unfold Hub.setStatus
    split
    · exact Store.Kept.toStays (.of_clients rfl)
    · rename_i written
      exact .setClientStatus written
  rcases action_row undisturbed action with kept | ⟨-, -, stays⟩ | ⟨conn, rfl⟩ | ⟨next, rfl⟩ |
    ⟨conn, rfl⟩
  · exact kept.toStays
  · exact stays
  · cases action with
    | quit _ _ idle => cases idle
    | setOnline => exact status clientID .online
  · cases action with
    | quit _ _ idle => cases idle
    | setOffline => exact status clientID .offline
  · cases action with
    | quit _ _ idle => cases idle
    | refuse => exact status clientID .offline

/-- The goroutines that are about to register a session or to write a status come from few
places. -/
theorem action_next (action : Action h goroutine h' goroutine' spawned) :
    goroutine'.quiet = true ∨
    (∃ conn tokenID, ∃ client ∈ h.store.clients, client.disabled = false ∧
      goroutine' = .register conn tokenID client.id) ∨
    (∃ conn, ∃ client ∈ h.store.clients, client.disabled = true ∧
      goroutine' = .refuse conn client.id) ∨
    (∃ conn tokenID id, goroutine = .register conn tokenID id ∧
      goroutine' = .markOnline conn id) ∨
    (∃ conn id, goroutine = .markOnline conn id ∧ h.conns.lookup id = some conn ∧
      goroutine' = .setOnline conn id) ∨
    (∃ id next, goroutine = .markOffline id next ∧ h.conns.lookup id = none ∧
      goroutine' = .setOffline id next) := by
  cases action with
  | turnAway read disabled =>
      obtain ⟨member, -⟩ := Store.mem_of_getClientByDevice read
      exact Or.inr (Or.inr (Or.inl ⟨_, _, member, disabled, rfl⟩))
  | accept read enabled =>
      obtain ⟨member, -⟩ := Store.mem_of_getClientByDevice read
      exact Or.inr (Or.inl ⟨_, _, _, member, enabled, rfl⟩)
  | register conn tokenID id =>
      exact Or.inr (Or.inr (Or.inr (Or.inl ⟨conn, tokenID, id, rfl, rfl⟩)))
  | markOnline free current =>
      exact Or.inr (Or.inr (Or.inr (Or.inr (Or.inl ⟨_, _, rfl, current, rfl⟩))))
  | markOffline next free missing =>
      exact Or.inr (Or.inr (Or.inr (Or.inr (Or.inr ⟨_, next, rfl, missing, rfl⟩))))
  | unregistered next stale => exact Or.inl (quiet_resume _ _)
  | reconnected next free connected => exact Or.inl (quiet_resume _ _)
  | setOffline id next => exact Or.inl (quiet_resume _ _)
  | disconnected next missing => exact Or.inl (quiet_resume _ _)
  | listClients id => exact Or.inl (quiet_resume (.disconnectClients _ _) "")
  | disableToken written => exact Or.inl (quiet_resume (.disconnectClients _ _) "")
  | _ => exact Or.inl rfl

theorem action_spawned (action : Action h goroutine h' goroutine' spawned) :
    ∀ fresh ∈ spawned, fresh.quiet = true := by
  intro fresh member
  cases action with
  | register conn tokenID id =>
      rw [List.mem_singleton.mp member]
      rfl
  | _ => cases member

/-- A hello of the client that has been recorded goes on to `register`. -/
theorem readBack_step {conn : ℕ} {tokenID deviceID : String} {choice : Choice}
    (row : h.store.HasDevice clientID deviceID) (admits : h.store.Admits clientID)
    (stepped : h.step (.readBack conn tokenID deviceID) choice = some (h', goroutine', spawned)) :
    goroutine' = .register conn tokenID clientID := by
  obtain ⟨client, present, own, device⟩ := row
  have selected := (Table.select_eq_some h.store.clients_device).mpr ⟨present, device⟩
  have read : h.store.getClientByDevice deviceID = .ok client := by
    unfold Store.getClientByDevice
    rw [selected]
  cases choice with
  | go =>
      change some _ = some _ at stepped
      cases stepped
      unfold Hub.readBack
      rw [read]
      simp only [admits client present own, own]
      rfl
  | _ => cases stepped

end Actions

/-! ## One step -/

section Steps

variable {config : Config Hub Goroutine} {index : ℕ} {choice : Choice}
variable {goroutine goroutine' : Goroutine} {h' : Hub} {spawned : List Goroutine}
variable {clientID : String}

theorem locked_step (present : config.threads[index]? = some goroutine)
    (locked : config.total Goroutine.locks = if config.shared.statusMu then 1 else 0)
    (action : Action config.shared goroutine h' goroutine' spawned) :
    ({ shared := h', threads := config.threads.set index goroutine' ++ spawned } :
      Config Hub Goroutine).total Goroutine.locks = if h'.statusMu then 1 else 0 := by
  rcases action_locks action with ⟨own, own', fresh, same⟩ | ⟨own, own', rfl, free, taken⟩ |
    ⟨own, own', rfl, freed⟩
  · exact Machine.mutex_run Goroutine.locks Hub.statusMu h' goroutine' spawned present locked fresh
      (Or.inl ⟨own'.trans own.symm, same⟩)
  · exact Machine.mutex_run Goroutine.locks Hub.statusMu h' goroutine' [] present locked
      (fun _ impossible => nomatch impossible) (Or.inr (Or.inl ⟨own, own', free, taken⟩))
  · -- the lock is released by the one goroutine that held it
    exact Machine.mutex_run Goroutine.locks Hub.statusMu h' goroutine' [] present locked
      (fun _ impossible => nomatch impossible) (Or.inr (Or.inr ⟨own, own', freed⟩))

/-- While nobody holds `statusMu`, nobody is about to write a status under it. -/
theorem unlocked {other : Goroutine} (free : config.total Goroutine.locks = 0)
    (member : other ∈ config.threads) : other.locks = 0 := by
  have bound : other.locks ≤ config.total Goroutine.locks := Config.le_total member
  omega

/-- What is true of the old goroutines, of the one that stepped and of the new ones is true of all
after a step. -/
theorem forall_threads (property : Goroutine → Prop)
    (old : ∀ other ∈ config.threads, property other) (next : property goroutine')
    (fresh : ∀ other ∈ spawned, property other) :
    ∀ other ∈ config.threads.set index goroutine' ++ spawned, property other := by
  intro other member
  rcases Machine.mem_threads_of_step member with rfl | born | present
  · exact next
  · exact fresh other born
  · exact old other present

/-- A goroutine that acts for a client finds its row. -/
theorem known_step (marked : Marked clientID config)
    (present : config.threads[index]? = some goroutine)
    (undisturbed : Undisturbed clientID config goroutine)
    (action : Action config.shared goroutine h' goroutine' spawned) :
    ∀ other ∈ config.threads.set index goroutine' ++ spawned, other.actsFor = some clientID →
      ∃ deviceID, h'.store.HasDevice clientID deviceID := by
  have stays := stays_of_action undisturbed action
  have kept {other : Goroutine} (member : other ∈ config.threads)
      (acts : other.actsFor = some clientID) : ∃ deviceID, h'.store.HasDevice clientID deviceID := by
    obtain ⟨deviceID, row⟩ := marked.known other member acts
    exact ⟨deviceID, stays.device deviceID row⟩
  have own := List.mem_of_getElem? present
  have silent {other : Goroutine} (quiet : other.quiet = true) : other.actsFor ≠ some clientID := by
    intro acts
    cases other <;> cases quiet <;> cases acts
  refine forall_threads _ (fun other => kept) (fun acts => ?_) fun other born acts => ?_
  · rcases action_next action with quiet | ⟨conn, tokenID, client, member, -, rfl⟩ |
      ⟨conn, client, -, -, rfl⟩ | ⟨conn, tokenID, id, rfl, rfl⟩ | ⟨conn, id, rfl, -, rfl⟩ |
      ⟨id, next, rfl, -, rfl⟩
    · exact absurd acts (silent quiet)
    · exact ⟨_, stays.device _ ⟨client, member, Option.some.inj acts, rfl⟩⟩
    · cases acts
    · exact kept own acts
    · exact kept own acts
    · cases acts
  · exact absurd acts (silent (action_spawned action other born))

/-- Nobody is about to turn the client away. -/
theorem unrefused_step (marked : Marked clientID config)
    (action : Action config.shared goroutine h' goroutine' spawned) (conn : ℕ) :
    .refuse conn clientID ∉ config.threads.set index goroutine' ++ spawned := by
  intro member
  refine forall_threads (fun other => other ≠ .refuse conn clientID) ?_ ?_ ?_ _ member rfl
  · rintro other present rfl
    exact marked.unrefused conn present
  · rintro rfl
    rcases action_next action with quiet | ⟨_, _, _, -, -, impossible⟩ |
      ⟨_, client, row, disabled, same⟩ | ⟨_, _, _, -, impossible⟩ | ⟨_, _, -, -, impossible⟩ |
      ⟨_, _, -, -, impossible⟩
    · cases quiet
    · cases impossible
    · cases same
      rw [marked.admits client row rfl] at disabled
      cases disabled
    · cases impossible
    · cases impossible
    · cases impossible
  · rintro other born rfl
    cases action_spawned action _ born

/-- While the client has a session, nobody begins to write that it is offline. -/
theorem no_setOffline_step {conn : ℕ} (current : config.shared.conns.lookup clientID = some conn)
    (none : ∀ next, .setOffline clientID next ∉ config.threads)
    (action : Action config.shared goroutine h' goroutine' spawned) (next : Return) :
    .setOffline clientID next ∉ config.threads.set index goroutine' ++ spawned := by
  intro member
  rcases Machine.mem_threads_of_step member with rfl | born | old
  · rcases action_next action with quiet | ⟨_, _, _, -, -, impossible⟩ |
      ⟨_, _, -, -, impossible⟩ | ⟨_, _, _, -, impossible⟩ | ⟨_, _, -, -, impossible⟩ |
      ⟨_, _, -, missing, same⟩
    · cases quiet
    · cases impossible
    · cases impossible
    · cases impossible
    · cases impossible
    · cases same
      rw [current] at missing
      cases missing
  · cases action_spawned action _ born
  · exact none next old

/-- While it has none, nobody begins to write that it is online. -/
theorem no_setOnline_step (missing : config.shared.conns.lookup clientID = none)
    (none : ∀ conn, .setOnline conn clientID ∉ config.threads)
    (action : Action config.shared goroutine h' goroutine' spawned) (conn : ℕ) :
    .setOnline conn clientID ∉ config.threads.set index goroutine' ++ spawned := by
  intro member
  rcases Machine.mem_threads_of_step member with rfl | born | old
  · rcases action_next action with quiet | ⟨_, _, _, -, -, impossible⟩ |
      ⟨_, _, -, -, impossible⟩ | ⟨_, _, _, -, impossible⟩ | ⟨_, _, -, current, same⟩ |
      ⟨_, _, -, -, impossible⟩
    · cases quiet
    · cases impossible
    · cases impossible
    · cases impossible
    · cases same
      rw [missing] at current
      cases current
    · cases impossible
  · cases action_spawned action _ born
  · exact none conn old

/-- The statement of `markClientOnline`: the client is online, and nobody else writes a status. -/
theorem setOnline_step {conn : ℕ} (marked : Marked clientID config)
    (present : config.threads[index]? = some (.setOnline conn clientID))
    (action : Action config.shared (.setOnline conn clientID) h' goroutine' spawned) :
    h'.store.Online clientID ∧
      ∀ next, .setOffline clientID next ∉ config.threads.set index goroutine' ++ spawned := by
  have locked := locked_step present marked.locked action
  cases action with
  | quit _ _ idle => cases idle
  | setOnline =>
      constructor
      · obtain ⟨deviceID, row⟩ := marked.known _ (List.mem_of_getElem? present) rfl
        show (config.shared.setStatus clientID .online).store.Online clientID
        unfold Hub.setStatus
        split
        · rename_i failed
          exact absurd row (Store.not_online_of_setClientStatus failed deviceID).2
        · rename_i written
          exact (Store.online_of_setClientStatus written).mpr rfl
      · intro next member
        exact absurd (unlocked locked member) Nat.one_ne_zero

/-- The statement of `markClientOffline`. -/
theorem setOffline_step {next : Return} (marked : Marked clientID config)
    (present : config.threads[index]? = some (.setOffline clientID next))
    (action : Action config.shared (.setOffline clientID next) h' goroutine' spawned) :
    ¬ h'.store.Online clientID ∧
      ∀ conn, .setOnline conn clientID ∉ config.threads.set index goroutine' ++ spawned := by
  have locked := locked_step present marked.locked action
  cases action with
  | quit _ _ idle => cases idle
  | setOffline =>
      constructor
      · show ¬ (config.shared.setStatus clientID .offline).store.Online clientID
        unfold Hub.setStatus
        split
        · rename_i failed
          exact (Store.not_online_of_setClientStatus failed "").1
        · rename_i written
          rw [Store.online_of_setClientStatus written]
          exact nofun
      · intro conn member
        exact absurd (unlocked locked member) Nat.one_ne_zero

/-- The session of a client after a step was there before, or is about to be marked. -/
theorem conns_step {conn : ℕ} (action : Action config.shared goroutine h' goroutine' spawned)
    (current : h'.conns.lookup clientID = some conn) :
    config.shared.conns.lookup clientID = some conn ∨ goroutine' = .markOnline conn clientID := by
  rcases action_conns action with same | ⟨other, tokenID, id, rfl, built⟩ |
    ⟨other, id, next, rfl, rfl, -, rfl⟩
  · rw [same] at current
    exact Or.inl current
  · rw [built, Hub.conns_register] at current
    split at current
    · rename_i own
      subst own
      cases current
      cases action with
      | quit _ _ idle => cases idle
      | register => exact Or.inr rfl
    · exact Or.inl current
  · rw [Hub.conns_unregister] at current
    split at current
    · cases current
    · exact Or.inl current

/-- A client without a session after a step had none before, or is about to be marked. -/
theorem missing_step (action : Action config.shared goroutine h' goroutine' spawned)
    (missing : h'.conns.lookup clientID = none) :
    config.shared.conns.lookup clientID = none ∨ ∃ next, goroutine' = .markOffline clientID next := by
  rcases action_conns action with same | ⟨other, tokenID, id, rfl, rfl⟩ |
    ⟨other, id, next, rfl, rfl, -, rfl⟩
  · rw [same] at missing
    exact Or.inl missing
  · rw [Hub.conns_register] at missing
    split at missing
    · cases missing
    · exact Or.inl missing
  · by_cases own : clientID = id
    · subst own
      exact Or.inr ⟨next, rfl⟩
    · rw [Hub.conns_unregister, if_neg fun both => own both.1] at missing
      exact Or.inl missing

/-- A client with a session stays online, or will be marked. -/
theorem connected_step {conn : ℕ} (marked : Marked clientID config)
    (present : config.threads[index]? = some goroutine)
    (undisturbed : Undisturbed clientID config goroutine)
    (action : Action config.shared goroutine h' goroutine' spawned)
    (current' : h'.conns.lookup clientID = some conn) :
    .markOnline conn clientID ∈ config.threads.set index goroutine' ++ spawned ∨
      .setOnline conn clientID ∈ config.threads.set index goroutine' ++ spawned ∨
      h'.store.Online clientID ∧
        ∀ next, .setOffline clientID next ∉ config.threads.set index goroutine' ++ spawned := by
  have own := List.mem_of_getElem? present
  have next : goroutine' ∈ config.threads.set index goroutine' ++ spawned :=
    Machine.stepped_mem_threads present
  rcases conns_step action current' with current | rfl
  · -- the session was there before: what was promised of it is still to come or has been done
    rcases marked.connected conn current with marks | writes | ⟨online, none⟩
    · rcases Machine.mem_threads_after_step present marks with rfl | still
      · cases action with
        | quit _ _ idle => cases idle
        | markOnline free current => exact Or.inr (Or.inl next)
        | replaced free stale => exact absurd current stale
      · exact Or.inl still
    · rcases Machine.mem_threads_after_step present writes with rfl | still
      · exact Or.inr (Or.inr (setOnline_step marked present action))
      · exact Or.inr (Or.inl still)
    · refine Or.inr (Or.inr ⟨?_, no_setOffline_step current none action⟩)
      rcases action_row undisturbed action with kept | ⟨online, -⟩ | ⟨other, rfl⟩ | ⟨next, rfl⟩ |
        ⟨other, rfl⟩
      · exact kept.online.mpr online
      · exact online
      · exact (setOnline_step marked present action).1
      · exact absurd own (none next)
      · exact absurd own (marked.unrefused other)
  · -- `register`: the next action of the same goroutine is `markOnline`
    exact Or.inl next

/-- A client without a session stays offline, or somebody will see to it. -/
theorem disconnected_step (settled : Settled clientID config)
    (present : config.threads[index]? = some goroutine)
    (undisturbed : Undisturbed clientID config goroutine)
    (stepped : config.shared.step goroutine choice = some (h', goroutine', spawned))
    (missing' : h'.conns.lookup clientID = none) :
    (∃ other ∈ config.threads.set index goroutine' ++ spawned, other.Mends h'.store clientID) ∨
      ¬ h'.store.Online clientID ∧
        ∀ conn, .setOnline conn clientID ∉ config.threads.set index goroutine' ++ spawned := by
  have action := Hub.action_of_step stepped
  have own := List.mem_of_getElem? present
  have next : goroutine' ∈ config.threads.set index goroutine' ++ spawned :=
    Machine.stepped_mem_threads present
  have stays := stays_of_action undisturbed action
  rcases missing_step action missing' with missing | ⟨after, rfl⟩
  · rcases settled.disconnected missing with ⟨other, member, mends⟩ | ⟨offline, none⟩
    · rcases Machine.mem_threads_after_step present member with rfl | still
      · -- the goroutine that was to see to it makes its next step
        cases other with
        | readBack conn tokenID deviceID =>
            have registers := readBack_step mends settled.admits stepped
            exact Or.inl ⟨goroutine', next, by rw [registers]; rfl⟩
        | register conn tokenID id =>
            cases mends
            cases action with
            | quit _ _ idle => cases idle
            | register =>
                rw [Hub.conns_register, if_pos rfl] at missing'
                cases missing'
        | markOffline id after =>
            cases mends
            cases action with
            | quit _ _ idle => cases idle
            | reconnected after free connected => exact absurd missing connected
            | markOffline after free missing => exact Or.inl ⟨_, next, rfl⟩
        | setOffline id after =>
            cases mends
            exact Or.inr (setOffline_step settled.toMarked present action)
        | _ => cases mends
      · refine Or.inl ⟨other, still, ?_⟩
        cases other with
        | readBack conn tokenID deviceID => exact stays.device deviceID mends
        | _ => exact mends
    · rcases action_row undisturbed action with kept | ⟨-, mends, -⟩ | ⟨conn, rfl⟩ | ⟨after, rfl⟩ |
        ⟨conn, rfl⟩
      · refine Or.inr ⟨fun online => offline (kept.online.mp online), ?_⟩
        exact no_setOnline_step missing none action
      · exact Or.inl ⟨goroutine', next, mends⟩
      · exact absurd own (none conn)
      · exact Or.inr (setOffline_step settled.toMarked present action)
      · exact absurd own (settled.unrefused conn)
  · -- `unregister`: the next action of the same goroutine is `markOffline`
    exact Or.inl ⟨_, next, rfl⟩

theorem Marked.step (marked : Marked clientID config)
    (present : config.threads[index]? = some goroutine)
    (undisturbed : Undisturbed clientID config goroutine)
    (stepped : config.shared.step goroutine choice = some (h', goroutine', spawned)) :
    Marked clientID
      { shared := h', threads := config.threads.set index goroutine' ++ spawned } := by
  have action := Hub.action_of_step stepped
  exact
    { locked := locked_step present marked.locked action
      admits := (stays_of_action undisturbed action).admits marked.admits
      known := known_step marked present undisturbed action
      unrefused := unrefused_step marked action
      connected := fun conn => connected_step marked present undisturbed action }

/-- **One step keeps the invariant.** -/
theorem Settled.step (settled : Settled clientID config)
    (present : config.threads[index]? = some goroutine)
    (undisturbed : Undisturbed clientID config goroutine)
    (stepped : config.shared.step goroutine choice = some (h', goroutine', spawned)) :
    Settled clientID
      { shared := h', threads := config.threads.set index goroutine' ++ spawned } :=
  { settled.toMarked.step present undisturbed stepped with
    disconnected := disconnected_step settled present undisturbed stepped }

/-- What arrives is not about to register a session or to write a status. -/
theorem mem_of_arrive {other : Goroutine} (arrives : goroutine.arrives = true)
    (loud : other.quiet = false) (member : other ∈ config.threads ++ [goroutine]) :
    other ∈ config.threads := by
  have quiet : goroutine.quiet = true := by
    cases goroutine <;> first | rfl | cases arrives
  rcases List.mem_append.mp member with present | last
  · exact present
  · rw [List.mem_singleton.mp last, quiet] at loud
    cases loud

theorem Marked.arrive (marked : Marked clientID config) (arrives : goroutine.arrives = true) :
    Marked clientID { config with threads := config.threads ++ [goroutine] } := by
  have unlocked : goroutine.locks = 0 := by
    cases goroutine <;> first | rfl | cases arrives
  refine
    { locked := ?_
      admits := marked.admits
      known := ?_
      unrefused := fun conn member => marked.unrefused conn (mem_of_arrive arrives rfl member)
      connected := ?_ }
  · rw [← marked.locked]
    simp [Config.total, unlocked]
  · intro other member acts
    refine marked.known other (mem_of_arrive arrives ?_ member) acts
    cases other <;> first | rfl | cases acts
  · intro conn current
    rcases marked.connected conn current with marks | writes | ⟨online, none⟩
    · exact Or.inl (List.mem_append_left _ marks)
    · exact Or.inr (Or.inl (List.mem_append_left _ writes))
    · refine Or.inr (Or.inr ⟨online, fun next member => ?_⟩)
      exact none next (mem_of_arrive arrives rfl member)

theorem Settled.arrive (settled : Settled clientID config) (arrives : goroutine.arrives = true) :
    Settled clientID { config with threads := config.threads ++ [goroutine] } := by
  refine { settled.toMarked.arrive arrives with disconnected := fun missing => ?_ }
  rcases settled.disconnected missing with ⟨other, member, mends⟩ | ⟨offline, none⟩
  · exact Or.inl ⟨other, List.mem_append_left _ member, mends⟩
  · refine Or.inr ⟨offline, fun conn member => ?_⟩
    exact none conn (mem_of_arrive arrives rfl member)

end Steps

/-! ## Every run -/

variable {store : Store} {now : Time} {config : Config Hub Goroutine} {clientID : String}

theorem marked_of_undisturbed (admits : store.Admits clientID)
    (reached : controlPlane.Run (Machine.AtStep (Undisturbed clientID)) (controlPlaneStart store now)
      config) :
    Marked clientID config := by
  refine reached.step_invariant (Marked clientID) ?_ ?_ ?_
  · exact
      { locked := rfl
        admits := admits
        known := fun _ member => nomatch member
        unrefused := fun _ member => nomatch member
        connected := fun _ impossible => nomatch impossible }
  · intro config goroutine marked arrives
    exact marked.arrive arrives
  · intro config index choice goroutine h' goroutine' spawned marked present undisturbed stepped
    exact marked.step present undisturbed stepped

theorem settled_of_settled {start : Config Hub Goroutine} (settled : Settled clientID start)
    (reached : controlPlane.Run (Machine.AtStep (Undisturbed clientID)) start config) :
    Settled clientID config := by
  refine reached.step_invariant (Settled clientID) settled ?_ ?_
  · intro config goroutine settled arrives
    exact settled.arrive arrives
  · intro config index choice goroutine h' goroutine' spawned settled present undisturbed stepped
    exact settled.step present undisturbed stepped

/-- The run does not begin with a client that a server before this one left stored as online, or
the client has had a session in the run. -/
def Begun (clientID : String) (start config : Config Hub Goroutine) : Prop :=
  ¬ start.shared.store.Online clientID ∨
    ∃ middle, controlPlane.Run (Machine.AtStep (Undisturbed clientID)) start middle ∧
      (middle.shared.conns.lookup clientID).isSome = true ∧
      controlPlane.Run (Machine.AtStep (Undisturbed clientID)) middle config

/-- **The stored status of a client matches the hub.**  In every run in which a client is neither
disabled nor deleted: whenever no connect and no disconnect of the client is in progress, the client
is stored as online if and only if the hub holds a session for it. -/
theorem client_status_matches (admits : store.Admits clientID)
    (reached : controlPlane.Run (Machine.AtStep (Undisturbed clientID)) (controlPlaneStart store now)
      config)
    (begun : Begun clientID (controlPlaneStart store now) config)
    (idle : ∀ goroutine ∈ config.threads, ¬ goroutine.InProgress config.shared.store clientID) :
    config.shared.store.Online clientID ↔ (config.shared.conns.lookup clientID).isSome = true := by
  have settled : Settled clientID config := by
    rcases begun with offline | ⟨middle, before, connected, after⟩
    · refine settled_of_settled ?_ reached
      exact
        { marked_of_undisturbed admits .refl with
          disconnected := fun _ => Or.inr ⟨offline, fun _ member => nomatch member⟩ }
    · -- once the client has been connected, what was stored before does not matter
      refine settled_of_settled ?_ after
      refine { marked_of_undisturbed admits before with disconnected := fun missing => ?_ }
      rw [missing] at connected
      cases connected
  constructor
  · intro online
    cases missing : config.shared.conns.lookup clientID with
    | some conn => rfl
    | none =>
        rcases settled.disconnected missing with ⟨goroutine, member, mends⟩ | ⟨stored, -⟩
        · refine absurd ?_ (idle goroutine member)
          cases goroutine <;> first | exact mends | cases mends
        · exact absurd online stored
  · intro connected
    obtain ⟨conn, current⟩ := Option.isSome_iff_exists.mp connected
    rcases settled.connected conn current with marks | writes | ⟨online, -⟩
    · exact absurd rfl (idle _ marks)
    · exact absurd rfl (idle _ writes)
    · exact online

/-- The hello of a client that the office has not seen before. -/
def laptopHello : ClientHello := ⟨"laptop", "device-2", "192.0.2.2", "linux", "1.0"⟩

/-- A handshake of that client arrives as goroutine `index` and goes on to its read loop. -/
def laptopMoves (index : ℕ) (id : String) : List (Move Goroutine Choice) :=
  [.arrive (.authenticate Auth.officeToken), .run index .go, .run index .go,
    .run index (.hello laptopHello id), .run index .go, .run index .go, .run index .go,
    .run index .go]

/-- The client connects twice, and the first session ends after it was replaced: the second session
is there, and the client is stored as online. -/
theorem client_status_matches_laptop :
    ∃ config,
      controlPlane.Run (Machine.AtStep (Undisturbed "client-2")) (controlPlaneStart Auth.office 0)
        config ∧
      (∀ goroutine ∈ config.threads, ¬ goroutine.InProgress config.shared.store "client-2") ∧
      config.shared.conns.lookup "client-2" = some 1 ∧ config.shared.store.Online "client-2" := by
  obtain ⟨config, reached, idle, current⟩ :
      ∃ config,
        controlPlane.Run (Machine.AtStep (Undisturbed "client-2"))
          (controlPlaneStart Auth.office 0) config ∧
        (∀ goroutine ∈ config.threads, ¬ goroutine.InProgress config.shared.store "client-2") ∧
        config.shared.conns.lookup "client-2" = some 1 := by
    refine Machine.exists_run_of_replay
      (laptopMoves 0 "client-2" ++ laptopMoves 2 "client-3" ++
        [.run 0 .ended, .run 0 .go, .run 0 .go]) ?_
    decide +kernel
  have stored := client_status_matches (by decide) reached (Or.inl (by decide)) idle
  refine ⟨config, reached, idle, current, stored.mpr ?_⟩
  rw [current]
  rfl

end Control

end NryNet

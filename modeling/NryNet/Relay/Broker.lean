import NryNet.Relay.AuthCache
import NryNet.Relay.WorkConnectionPool

/-!
# The broker's tables (`server/relay/broker.go`, `connection_failures.go`)

A visitor that needs a data channel is registered in `pending` under a request ID and waits on two
channels: `paired`, closed when a data channel claims it, and `done`, which carries the outcome.
An entry can leave `pending` in five ways: a data channel claims it, `Fail` or `FailPendingClient`
reports that the agent cannot serve it, its caller cancels it, or its wait times out.

Entries are compared by pointer and request IDs may be used again, so entries live on a heap and
`pending` maps a request ID to a heap position.  This module has the critical sections and the
channel operations, one function each; the goroutines that run them are in `DataPlane`.

Ghost fields of an entry record how it left `pending` and how many values went through `done`.
`closed` is the log of all `Close` calls.  The traffic callback, the bandwidth meter, the rejection
counter and the handler for visitors that arrive through a relay node are not modelled.
-/

namespace NryNet.Relay

/-- A Go `error`; `none` is `nil`. -/
abbrev GoError := Option String

/-- How an entry left `pending`.  A claim records the channel, the generation it carries and the
client's generation at that moment. -/
inductive Removal where
  | claimed (conn : Closer) (generation current : ℕ)
  | failed
  | clientFailed
  | cancelled
  | timedOut
  deriving DecidableEq, Repr

/-- `pendingConn`.  `done` is the content of the channel of capacity one, `paired` how often that
channel has been closed; the last three fields are ghosts. -/
structure PendingConn where
  requestID : String
  visitor : Closer
  tunnel : Tunnel
  connectionGeneration : ℕ
  done : Option GoError
  paired : ℕ
  sent : ℕ
  received : ℕ
  removals : List Removal
  deriving DecidableEq, Repr

/-- `Broker`, together with the database and the cache it authorizes with.  `enables` is a ghost:
how often each client has been enabled by an administrator. -/
structure Broker where
  auth : AuthState
  pending : GoMap String ℕ
  entries : List PendingConn
  connections : ClientConnections
  workers : WorkConnectionPool
  closed : List Closer
  enables : String → ℕ

def errClientDisconnected : String := "client was disconnected"

def errDuplicateRequest : String := "request already pending"

def errRequestNotFound : String := "request is not pending"

namespace Broker

/-- `NewBroker`. -/
def newBroker (store : Store) (now : Time) : Broker where
  auth := { store := store, cache := .newRelayAuthCache, now := now, version := 0 }
  pending := ∅
  entries := []
  connections := .newClientConnections
  workers := .newWorkConnectionPool defaultWorkConnectionPoolSize
  closed := []
  enables _ := 0

/-- `Close` on some connections. -/
def close (b : Broker) (conns : List Closer) : Broker :=
  { b with closed := b.closed ++ conns }

/-- An assignment through a pointer. -/
def modifyEntry (b : Broker) (entry : ℕ) (set : PendingConn → PendingConn) : Broker :=
  { b with entries := b.entries.modify entry set }

/-- `delete(b.pending, requestID)` for the entry stored there, with the reason. -/
def removePending (b : Broker) (requestID : String) (entry : ℕ) (reason : Removal) : Broker :=
  { b with
    pending := b.pending.erase requestID
    entries := b.entries.modify entry fun record =>
      { record with removals := record.removals ++ [reason] } }

/-- `RegisterPending`. -/
def registerPending (b : Broker) (requestID : String) (visitor : Closer) (tunnel : Tunnel) :
    Except String (Broker × ℕ) :=
  if requestID = "" then .error "request_id is required"
  else
    match b.pending.lookup requestID with
    | some _ => .error errDuplicateRequest
    | none =>
        .ok ({ b with
            pending := b.pending.insert requestID b.entries.length
            entries := b.entries ++ [⟨requestID, visitor, tunnel, 0, none, 0, 0, 0, []⟩] },
          b.entries.length)

/-- `claimPendingForClient`.  The generation is stored in the entry; nothing compares it here. -/
def claimPendingForClient (b : Broker) (conn : Closer) (clientID requestID : String)
    (generation : ℕ) : Except String (Broker × ℕ) :=
  match b.pending.lookup requestID with
  | none => .error errRequestNotFound
  | some entry =>
      match b.entries[entry]? with
      | none => .error errRequestNotFound
      | some record =>
          if record.tunnel.clientID ≠ clientID then .error "request does not belong to client"
          else
            .ok ((b.removePending requestID entry
                (.claimed conn generation (b.connections.generationFor clientID))).modifyEntry entry
                  fun record =>
                    { record with connectionGeneration := generation, paired := record.paired + 1 },
              entry)

/-- `cancelPending`, which leaves alone whatever else has the request ID by now. -/
def cancelPending (b : Broker) (requestID : String) (entry : ℕ) (reason : Removal) :
    Broker × Bool :=
  if b.pending.lookup requestID = some entry then
    (b.removePending requestID entry reason, true)
  else (b, false)

/-- The critical section of `Fail`: the entry that was removed, if there was one. -/
def failPending (b : Broker) (clientID requestID : String) : Broker × Option ℕ :=
  match b.pending.lookup requestID with
  | none => (b, none)
  | some entry =>
      match b.entries[entry]? with
      | none => (b, none)
      | some record =>
          if record.tunnel.clientID = clientID then
            (b.removePending requestID entry .failed, some entry)
          else (b, none)

/-- The entry waits for a channel of the client. -/
def belongsTo (b : Broker) (clientID : String) (entry : ℕ) : Bool :=
  (b.entries[entry]?).any fun record => record.tunnel.clientID == clientID

/-- The entries of a client, in the order in which the loop over the map meets them. -/
def pendingOf (b : Broker) (clientID : String) : List ℕ :=
  b.pending.valuesWhere fun _ entry => b.belongsTo clientID entry

/-- The critical section of `FailPendingClient`: the entries of `pendingOf` are removed. -/
def failPendingClient (b : Broker) (clientID : String) : Broker :=
  { b with
    pending := b.pending.deleteWhere fun _ entry => b.belongsTo clientID entry
    entries := b.entries.mapIdx fun entry record =>
      if entry ∈ b.pendingOf clientID then
        { record with removals := record.removals ++ [.clientFailed] }
      else record }

/-- `entry.done <- err`, blocked while the buffer is full. -/
def sendDone (b : Broker) (entry : ℕ) (result : GoError) : Option Broker :=
  match b.entries[entry]? with
  | none => none
  | some record =>
      if record.done = none then
        some (b.modifyEntry entry fun record =>
          { record with done := some result, sent := record.sent + 1 })
      else none

/-- `select { case entry.done <- err: default: }`. -/
def trySendDone (b : Broker) (entry : ℕ) (result : GoError) : Broker :=
  (b.sendDone entry result).getD b

/-- `<-entry.done`, blocked while the buffer is empty. -/
def receiveDone (b : Broker) (entry : ℕ) : Option (Broker × GoError) :=
  match b.entries[entry]? with
  | none => none
  | some record =>
      match record.done with
      | none => none
      | some result =>
          some (b.modifyEntry entry fun record =>
            { record with done := none, received := record.received + 1 }, result)

/-- The visitor of an entry. -/
def visitorOf (b : Broker) (entry : ℕ) : List Closer :=
  ((b.entries[entry]?).map fun record => record.visitor).toList

/-- Both ends of some active connections. -/
def endsOf (b : Broker) (connections : Finset ℕ) : List Closer :=
  (b.connections.heap.zipIdx.filter fun slot => slot.2 ∈ connections).flatMap
    fun slot => [slot.1.data, slot.1.visitor]

/-! ## Accounts

What has happened to an entry, in numbers.  Each operation changes the account of one entry (or of
the entries `failPendingClient` removes) and leaves every other account as it is; that is all the
conservation argument over runs needs to know about it. -/

/-- The pending map refers to allocated entries, each under its own request ID. -/
def Keyed (b : Broker) : Prop :=
  ∀ requestID entry, b.pending.lookup requestID = some entry →
    ∃ record, b.entries[entry]? = some record ∧ record.requestID = requestID

end Broker

/-- The account of one entry. -/
@[ext]
structure Account where
  /-- the entry exists -/
  allocated : ℕ
  /-- it is in `pending` -/
  pending : ℕ
  /-- how often it was removed from `pending` -/
  removals : ℕ
  /-- how often by `Cancel` -/
  cancelled : ℕ
  /-- how often by the timer of `Wait` -/
  timedOut : ℕ
  sent : ℕ
  received : ℕ
  /-- values in the buffer of `done` -/
  buffered : ℕ
  deriving DecidableEq, Repr

namespace Account

def none : Account := ⟨0, 0, 0, 0, 0, 0, 0, 0⟩

/-- The account of an entry that was just registered. -/
def fresh : Account := ⟨1, 1, 0, 0, 0, 0, 0, 0⟩

/-- The entry leaves `pending`. -/
def remove (account : Account) (reason : Removal) : Account :=
  { account with
    pending := 0
    removals := account.removals + 1
    cancelled := account.cancelled + if reason = .cancelled then 1 else 0
    timedOut := account.timedOut + if reason = .timedOut then 1 else 0 }

/-- A value is put into the empty buffer of `done`. -/
def send (account : Account) : Account :=
  { account with sent := account.sent + 1, buffered := 1 }

/-- The value is taken out again. -/
def receive (account : Account) : Account :=
  { account with received := account.received + 1, buffered := 0 }

end Account

namespace Broker

/-- The account of an entry that is known to exist. -/
def accountOf (b : Broker) (entry : ℕ) (record : PendingConn) : Account where
  allocated := 1
  pending := if b.pending.lookup record.requestID = some entry then 1 else 0
  removals := record.removals.length
  cancelled := record.removals.count .cancelled
  timedOut := record.removals.count .timedOut
  sent := record.sent
  received := record.received
  buffered := if record.done = none then 0 else 1

def account (b : Broker) (entry : ℕ) : Account :=
  match b.entries[entry]? with
  | none => .none
  | some record => b.accountOf entry record

variable {b b' : Broker} {entry other : ℕ} {requestID clientID : String} {record : PendingConn}

theorem account_of_some (found : b.entries[entry]? = some record) :
    b.account entry = b.accountOf entry record := by
  rw [account, found]

/-- Accounts depend on the two tables only. -/
theorem account_congr (pending : b'.pending = b.pending) (entries : b'.entries = b.entries) :
    b'.account entry = b.account entry := by
  simp only [account, accountOf, pending, entries]

/-- An assignment through a pointer changes the account of that entry only. -/
theorem account_modifyEntry {set : PendingConn → PendingConn}
    (found : b.entries[entry]? = some record) :
    (b.modifyEntry entry set).account other =
      if other = entry then b.accountOf entry (set record) else b.account other := by
  by_cases same : other = entry
  · subst same
    have changed : (b.modifyEntry other set).entries[other]? = some (set record) := by
      simp [modifyEntry, found]
    rw [if_pos rfl, account_of_some changed]
    rfl
  · rw [if_neg same]
    have kept : (b.modifyEntry entry set).entries[other]? = b.entries[other]? := by
      simp [modifyEntry, Ne.symm same]
    rw [account, account, kept]
    rfl

theorem account_removePending (keyed : b.Keyed)
    (found : b.pending.lookup requestID = some entry) (reason : Removal) :
    (b.removePending requestID entry reason).account other =
      if other = entry then (b.account other).remove reason else b.account other := by
  obtain ⟨record, present, rfl⟩ := keyed requestID entry found
  by_cases same : other = entry
  · subst same
    have present' : (b.removePending record.requestID other reason).entries[other]? =
        some { record with removals := record.removals ++ [reason] } := by
      simp [removePending, present]
    rw [if_pos rfl, account_of_some present', account_of_some present]
    ext <;> simp [accountOf, removePending, Account.remove, List.count_append,
      List.count_singleton]
  · rw [if_neg same]
    have unchanged : (b.removePending record.requestID entry reason).entries[other]? =
        b.entries[other]? := by
      simp [removePending, Ne.symm same]
    rw [account, account, unchanged]
    cases located : b.entries[other]? with
    | none => rfl
    | some record' =>
        simp only [accountOf, removePending, GoMap.lookup_erase_if]
        -- An entry under the erased request ID would be `entry` itself.
        by_cases shared : record'.requestID = record.requestID
        · have absent : b.pending.lookup record'.requestID ≠ some other := by
            rw [shared, found]
            exact fun equal => same (Option.some.inj equal).symm
          simp [shared, absent]
        · simp [shared]

theorem account_registerPending {visitor : Closer} {tunnel : Tunnel}
    (registered : b.registerPending requestID visitor tunnel = .ok (b', entry)) (other : ℕ) :
    entry = b.entries.length ∧
      b'.account other = if other = entry then .fresh else b.account other := by
  unfold registerPending at registered
  by_cases empty : requestID = ""
  · rw [if_pos empty] at registered
    cases registered
  rw [if_neg empty] at registered
  cases free : b.pending.lookup requestID with
  | some taken => simp [free] at registered
  | none =>
      simp only [free, Except.ok.injEq, Prod.mk.injEq] at registered
      obtain ⟨rfl, rfl⟩ := registered
      refine ⟨rfl, ?_⟩
      rcases Nat.lt_trichotomy other b.entries.length with before | rfl | after
      · rw [if_neg (Nat.ne_of_lt before)]
        simp only [account, List.getElem?_append_left before]
        cases located : b.entries[other]? with
        | none => rfl
        | some record' =>
            simp only [accountOf, GoMap.lookup_insert_if]
            by_cases shared : record'.requestID = requestID
            · subst shared
              simp [free, Nat.ne_of_gt before]
            · simp [shared]
      · simp [account, accountOf, Account.fresh]
      · have beyond : b.entries.length < other := after
        rw [if_neg (Nat.ne_of_gt after)]
        simp [account, List.getElem?_append_right (Nat.le_of_lt beyond),
          List.getElem?_eq_none (Nat.le_of_lt beyond), Nat.sub_ne_zero_of_lt beyond]

theorem account_sendDone {result : GoError} (sent : b.sendDone entry result = some b')
    (other : ℕ) :
    (b.account entry).buffered = 0 ∧
      b'.account other = if other = entry then (b.account other).send else b.account other := by
  unfold sendDone at sent
  cases located : b.entries[entry]? with
  | none => simp [located] at sent
  | some record =>
      simp only [located] at sent
      by_cases room : record.done = none
      · rw [if_pos room, Option.some.injEq] at sent
        subst sent
        refine ⟨by simp [account_of_some located, accountOf, room], ?_⟩
        rw [account_modifyEntry located]
        split
        · rename_i same
          rw [same, account_of_some located]
          rfl
        · rfl
      · rw [if_neg room] at sent
        cases sent

/-- A send succeeds exactly on an empty buffer. -/
theorem sendDone_isSome (result : GoError) (exists' : (b.account entry).allocated = 1)
    (room : (b.account entry).buffered = 0) : (b.sendDone entry result).isSome := by
  unfold account sendDone at *
  cases located : b.entries[entry]? with
  | none => simp [located, Account.none] at exists'
  | some record =>
      simp only [located, accountOf] at room
      by_cases empty : record.done = none
      · simp [empty]
      · simp [empty] at room

theorem account_receiveDone {result : GoError}
    (received : b.receiveDone entry = some (b', result)) (other : ℕ) :
    (b.account entry).buffered = 1 ∧
      b'.account other = if other = entry then (b.account other).receive else b.account other := by
  unfold receiveDone at received
  cases located : b.entries[entry]? with
  | none => simp [located] at received
  | some record =>
      cases full : record.done with
      | none => simp [located, full] at received
      | some value =>
          simp only [located, full, Option.some.injEq, Prod.mk.injEq] at received
          obtain ⟨rfl, -⟩ := received
          refine ⟨by simp [account_of_some located, accountOf, full], ?_⟩
          rw [account_modifyEntry located]
          split
          · rename_i same
            rw [same, account_of_some located]
            rfl
          · rfl

/-- An entry in the pending map, found by its own request ID. -/
theorem account_pending (found : b.pending.lookup requestID = some entry) (keyed : b.Keyed) :
    (b.account entry).pending = 1 := by
  obtain ⟨record, located, rfl⟩ := keyed requestID entry found
  simp [account_of_some located, accountOf, found]

theorem claimPendingForClient_ok {conn : Closer} {generation : ℕ}
    (claimed : b.claimPendingForClient conn clientID requestID generation = .ok (b', entry)) :
    ∃ record, b.pending.lookup requestID = some entry ∧ b.entries[entry]? = some record ∧
      record.tunnel.clientID = clientID ∧
      b' = (b.removePending requestID entry
        (.claimed conn generation (b.connections.generationFor clientID))).modifyEntry entry
          fun record =>
            { record with connectionGeneration := generation, paired := record.paired + 1 } := by
  unfold claimPendingForClient at claimed
  cases found : b.pending.lookup requestID with
  | none => simp [found] at claimed
  | some position =>
      cases located : b.entries[position]? with
      | none => simp [found, located] at claimed
      | some record =>
          simp only [found, located] at claimed
          by_cases owner : record.tunnel.clientID = clientID
          · rw [if_neg (not_not_intro owner)] at claimed
            simp only [Except.ok.injEq, Prod.mk.injEq] at claimed
            obtain ⟨rfl, rfl⟩ := claimed
            exact ⟨record, rfl, located, owner, rfl⟩
          · rw [if_pos owner] at claimed
            cases claimed

theorem account_claim {conn : Closer} {generation : ℕ} (keyed : b.Keyed)
    (claimed : b.claimPendingForClient conn clientID requestID generation = .ok (b', entry))
    (other : ℕ) :
    (b.account entry).pending = 1 ∧
      b'.account other =
        if other = entry then
          (b.account other).remove
            (.claimed conn generation (b.connections.generationFor clientID))
        else b.account other := by
  obtain ⟨record, found, located, -, rfl⟩ := claimPendingForClient_ok claimed
  have removed : (b.removePending requestID entry
      (.claimed conn generation (b.connections.generationFor clientID))).entries[entry]? =
      some { record with removals := record.removals ++
        [.claimed conn generation (b.connections.generationFor clientID)] } := by
    simp [removePending, located]
  refine ⟨account_pending found keyed, ?_⟩
  rw [account_modifyEntry removed, ← account_removePending keyed found]
  split
  · rename_i same
    rw [same, account_of_some removed]
    rfl
  · rfl

/-- A successful cancellation removes the entry. -/
theorem cancelPending_true {reason : Removal}
    (cancelled : b.cancelPending requestID entry reason = (b', true)) :
    b.pending.lookup requestID = some entry ∧ b' = b.removePending requestID entry reason := by
  unfold cancelPending at cancelled
  split at cancelled
  · rename_i found
    exact ⟨found, (Prod.mk.inj cancelled).1.symm⟩
  · simp at cancelled

theorem failPending_some (failed : b.failPending clientID requestID = (b', some entry)) :
    b.pending.lookup requestID = some entry ∧
      b' = b.removePending requestID entry .failed := by
  unfold failPending at failed
  cases found : b.pending.lookup requestID with
  | none => simp [found] at failed
  | some position =>
      cases located : b.entries[position]? with
      | none => simp [found, located] at failed
      | some record =>
          simp only [found, located] at failed
          split at failed
          · simp only [Prod.mk.injEq, Option.some.injEq] at failed
            obtain ⟨rfl, rfl⟩ := failed
            exact ⟨rfl, rfl⟩
          · simp at failed

/-- No two request IDs lead to one entry. -/
theorem Keyed.injective (keyed : b.Keyed) {other : String}
    (found : b.pending.lookup requestID = some entry)
    (found' : b.pending.lookup other = some entry) : requestID = other := by
  obtain ⟨record, located, rfl⟩ := keyed requestID entry found
  obtain ⟨record', located', rfl⟩ := keyed other entry found'
  rw [located, Option.some.injEq] at located'
  rw [located']

/-- `FailPendingClient` collects each entry at most once. -/
theorem nodup_pendingOf (keyed : b.Keyed) : (b.pendingOf clientID).Nodup :=
  GoMap.nodup_valuesWhere fun _ _ _ found found' => keyed.injective found found'

theorem mem_pendingOf (keyed : b.Keyed) :
    entry ∈ b.pendingOf clientID ↔
      (b.account entry).pending = 1 ∧ b.belongsTo clientID entry = true := by
  unfold pendingOf
  rw [GoMap.mem_valuesWhere]
  constructor
  · rintro ⟨requestID, found, owner⟩
    exact ⟨account_pending found keyed, owner⟩
  · rintro ⟨waiting, owner⟩
    cases located : b.entries[entry]? with
    | none => simp [account, located, Account.none] at waiting
    | some record =>
        refine ⟨record.requestID, ?_, owner⟩
        by_contra missing
        simp [account_of_some located, accountOf, missing] at waiting

theorem entries_failPendingClient :
    (b.failPendingClient clientID).entries[entry]? = (b.entries[entry]?).map fun record =>
      if entry ∈ b.pendingOf clientID then
        { record with removals := record.removals ++ [.clientFailed] }
      else record := by
  simp only [failPendingClient, List.getElem?_mapIdx]

theorem account_failPendingClient (keyed : b.Keyed) :
    (b.failPendingClient clientID).account other =
      if other ∈ b.pendingOf clientID then (b.account other).remove .clientFailed
      else b.account other := by
  cases located : b.entries[other]? with
  | none =>
      have absent : (b.failPendingClient clientID).entries[other]? = none := by
        rw [entries_failPendingClient, located]
        rfl
      have missed : other ∉ b.pendingOf clientID := fun member => by
        have waiting := ((mem_pendingOf keyed).mp member).1
        simp [account, located, Account.none] at waiting
      rw [if_neg missed, account, account, absent, located]
  | some record =>
      have located' := @entries_failPendingClient b other clientID
      rw [located, Option.map_some] at located'
      rw [account_of_some located', account_of_some located]
      by_cases member : other ∈ b.pendingOf clientID
      · rw [if_pos member, if_pos member]
        obtain ⟨waiting, owner⟩ := (mem_pendingOf keyed).mp member
        -- The one slot that could hold the entry has been deleted.
        have gone : (b.failPendingClient clientID).pending.lookup record.requestID ≠
            some other := by
          intro found
          have kept := (GoMap.lookup_deleteWhere_eq_some.mp found).2
          rw [owner] at kept
          cases kept
        ext <;> simp [accountOf, Account.remove, List.count_append, gone]
      · rw [if_neg member, if_neg member]
        have same : (b.failPendingClient clientID).pending.lookup record.requestID =
            some other ↔ b.pending.lookup record.requestID = some other := by
          refine GoMap.lookup_deleteWhere_eq_some.trans
            ⟨fun kept => kept.1, fun found => ⟨found, ?_⟩⟩
          cases owner : b.belongsTo clientID other with
          | false => rfl
          | true =>
              exact absurd ((mem_pendingOf keyed).mpr ⟨account_pending found keyed, owner⟩) member
        simp only [accountOf, same]

/-! ## The pending map stays keyed -/

/-- Removing requests and assigning to entries without renaming them keeps the map keyed. -/
theorem Keyed.mono (keyed : b.Keyed)
    (pending : ∀ requestID entry, b'.pending.lookup requestID = some entry →
      b.pending.lookup requestID = some entry)
    (entries : ∀ (entry : ℕ) record, b.entries[entry]? = some record →
      ∃ record', b'.entries[entry]? = some record' ∧ record'.requestID = record.requestID) :
    b'.Keyed := by
  intro requestID entry found
  obtain ⟨record, located, own⟩ := keyed requestID entry (pending requestID entry found)
  obtain ⟨record', located', same⟩ := entries entry record located
  exact ⟨record', located', same.trans own⟩

theorem Keyed.modifyEntry (keyed : b.Keyed) {set : PendingConn → PendingConn}
    (keeps : ∀ record, (set record).requestID = record.requestID) :
    (b.modifyEntry entry set).Keyed := by
  refine keyed.mono (fun _ _ found => found) fun other record located => ?_
  refine ⟨if entry = other then set record else record, ?_, ?_⟩
  · simp [Broker.modifyEntry, List.getElem?_modify, located]
  · split
    · exact keeps record
    · rfl

theorem Keyed.removePending (keyed : b.Keyed) {reason : Removal} :
    (b.removePending requestID entry reason).Keyed := by
  have renamed : (b.modifyEntry entry fun record =>
      { record with removals := record.removals ++ [reason] }).Keyed :=
    keyed.modifyEntry fun _ => rfl
  refine renamed.mono (fun other position found => ?_) fun other record located =>
    ⟨record, located, rfl⟩
  simp only [Broker.removePending, GoMap.lookup_erase_if] at found
  split at found
  · cases found
  · exact found

theorem Keyed.failPendingClient (keyed : b.Keyed) : (b.failPendingClient clientID).Keyed := by
  refine keyed.mono (fun other position found => ?_) fun other record located => ?_
  · exact (GoMap.lookup_deleteWhere_eq_some.mp found).1
  · have located' := @entries_failPendingClient b other clientID
    rw [located, Option.map_some] at located'
    refine ⟨_, located', ?_⟩
    split <;> rfl

theorem Keyed.registerPending (keyed : b.Keyed) {visitor : Closer} {tunnel : Tunnel}
    (registered : b.registerPending requestID visitor tunnel = .ok (b', entry)) : b'.Keyed := by
  unfold Broker.registerPending at registered
  split at registered
  · cases registered
  · cases free : b.pending.lookup requestID with
    | some taken => simp [free] at registered
    | none =>
        simp only [free, Except.ok.injEq, Prod.mk.injEq] at registered
        obtain ⟨rfl, rfl⟩ := registered
        intro other position found
        simp only [GoMap.lookup_insert_if] at found
        split at found
        · rename_i same
          cases found
          exact ⟨⟨requestID, visitor, tunnel, 0, none, 0, 0, 0, []⟩, by simp, same.symm⟩
        · obtain ⟨record, located, own⟩ := keyed other position found
          have bound := (List.getElem?_eq_some_iff.mp located).1
          exact ⟨record, by rw [List.getElem?_append_left bound]; exact located, own⟩

theorem Keyed.sendDone (keyed : b.Keyed) {result : GoError}
    (sent : b.sendDone entry result = some b') : b'.Keyed := by
  unfold Broker.sendDone at sent
  split at sent
  · cases sent
  · split at sent
    · rw [← Option.some.inj sent]
      exact keyed.modifyEntry fun _ => rfl
    · cases sent

theorem Keyed.trySendDone (keyed : b.Keyed) {result : GoError} :
    (b.trySendDone entry result).Keyed := by
  unfold Broker.trySendDone
  cases sent : b.sendDone entry result with
  | none => exact keyed
  | some broker => exact keyed.sendDone sent

theorem Keyed.receiveDone (keyed : b.Keyed) {result : GoError}
    (received : b.receiveDone entry = some (b', result)) : b'.Keyed := by
  unfold Broker.receiveDone at received
  split at received
  · cases received
  · split at received
    · cases received
    · rw [← (Prod.mk.inj (Option.some.inj received)).1]
      exact keyed.modifyEntry fun _ => rfl

/-! ## What the operations on entries leave alone -/

/-- Everything but the two tables of entries, and the log, is as it was. -/
structure SameRest (b b' : Broker) : Prop where
  auth : b'.auth = b.auth
  connections : b'.connections = b.connections
  workers : b'.workers = b.workers
  enables : b'.enables = b.enables

theorem sendDone_rest {result : GoError} (sent : b.sendDone entry result = some b') :
    b.SameRest b' := by
  unfold sendDone at sent
  split at sent
  · cases sent
  · split at sent
    · rw [← Option.some.inj sent]
      exact ⟨rfl, rfl, rfl, rfl⟩
    · cases sent

theorem trySendDone_rest {result : GoError} : b.SameRest (b.trySendDone entry result) := by
  unfold trySendDone
  cases sent : b.sendDone entry result with
  | none => exact ⟨rfl, rfl, rfl, rfl⟩
  | some broker => exact sendDone_rest sent

theorem receiveDone_rest {result : GoError} (received : b.receiveDone entry = some (b', result)) :
    b.SameRest b' := by
  unfold receiveDone at received
  split at received
  · cases received
  · split at received
    · cases received
    · rw [← (Prod.mk.inj (Option.some.inj received)).1]
      exact ⟨rfl, rfl, rfl, rfl⟩

theorem registerPending_rest {visitor : Closer} {tunnel : Tunnel}
    (registered : b.registerPending requestID visitor tunnel = .ok (b', entry)) :
    b.SameRest b' := by
  unfold registerPending at registered
  split at registered
  · cases registered
  · split at registered
    · cases registered
    · cases registered
      exact ⟨rfl, rfl, rfl, rfl⟩

theorem claimPendingForClient_rest {conn : Closer} {generation : ℕ}
    (claimed : b.claimPendingForClient conn clientID requestID generation = .ok (b', entry)) :
    b.SameRest b' := by
  obtain ⟨record, -, -, -, rfl⟩ := claimPendingForClient_ok claimed
  exact ⟨rfl, rfl, rfl, rfl⟩

/-- No entry changes its tunnel or its generation, and none appears. -/
def KeepsEntries (b b' : Broker) : Prop :=
  ∀ (entry : ℕ) record', b'.entries[entry]? = some record' →
    ∃ record, b.entries[entry]? = some record ∧ record'.tunnel = record.tunnel ∧
      record'.connectionGeneration = record.connectionGeneration

theorem keepsEntries_of_eq (same : b'.entries = b.entries) : b.KeepsEntries b' :=
  fun _ record' located => ⟨record', same ▸ located, rfl, rfl⟩

theorem keepsEntries_modifyEntry {set : PendingConn → PendingConn}
    (keeps : ∀ record, (set record).tunnel = record.tunnel ∧
      (set record).connectionGeneration = record.connectionGeneration) :
    b.KeepsEntries (b.modifyEntry entry set) := by
  intro other record' located
  simp only [modifyEntry, List.getElem?_modify, Option.map_eq_map,
    Option.map_eq_some_iff] at located
  obtain ⟨record, located, rfl⟩ := located
  refine ⟨record, located, ?_⟩
  split
  · exact keeps record
  · exact ⟨rfl, rfl⟩

theorem keepsEntries_removePending (requestID : String) {reason : Removal} :
    b.KeepsEntries (b.removePending requestID entry reason) := by
  have marked : b.KeepsEntries (b.modifyEntry entry fun record =>
      { record with removals := record.removals ++ [reason] }) :=
    keepsEntries_modifyEntry fun _ => ⟨rfl, rfl⟩
  exact marked

theorem keepsEntries_sendDone {result : GoError} (sent : b.sendDone entry result = some b') :
    b.KeepsEntries b' := by
  unfold sendDone at sent
  split at sent
  · cases sent
  · split at sent
    · rw [← Option.some.inj sent]
      exact keepsEntries_modifyEntry fun _ => ⟨rfl, rfl⟩
    · cases sent

theorem keepsEntries_trySendDone {result : GoError} :
    b.KeepsEntries (b.trySendDone entry result) := by
  unfold trySendDone
  cases sent : b.sendDone entry result with
  | none => exact keepsEntries_of_eq rfl
  | some broker => exact keepsEntries_sendDone sent

theorem keepsEntries_receiveDone {result : GoError}
    (received : b.receiveDone entry = some (b', result)) : b.KeepsEntries b' := by
  unfold receiveDone at received
  split at received
  · cases received
  · split at received
    · cases received
    · rw [← (Prod.mk.inj (Option.some.inj received)).1]
      exact keepsEntries_modifyEntry fun _ => ⟨rfl, rfl⟩

theorem keepsEntries_failPendingClient : b.KeepsEntries (b.failPendingClient clientID) := by
  intro other record' located
  rw [entries_failPendingClient, Option.map_eq_some_iff] at located
  obtain ⟨record, located, rfl⟩ := located
  refine ⟨record, located, ?_⟩
  split <;> exact ⟨rfl, rfl⟩

/-- A registered entry is at generation zero; the others are as they were. -/
theorem entries_registerPending {visitor : Closer} {tunnel : Tunnel}
    (registered : b.registerPending requestID visitor tunnel = .ok (b', entry)) {position : ℕ}
    {record' : PendingConn} (located : b'.entries[position]? = some record') :
    b.entries[position]? = some record' ∨
      record' = ⟨requestID, visitor, tunnel, 0, none, 0, 0, 0, []⟩ := by
  unfold registerPending at registered
  split at registered
  · cases registered
  · split at registered
    · cases registered
    · cases registered
      rcases Nat.lt_or_ge position b.entries.length with before | beyond
      · rw [List.getElem?_append_left before] at located
        exact Or.inl located
      · rw [List.getElem?_append_right beyond] at located
        have only := List.mem_of_getElem? located
        exact Or.inr (List.mem_singleton.mp only)

end Broker

end NryNet.Relay

import NryNet.Relay.DataPlane

/-!
# The lifecycle of a pending visitor

Claims by data connections, streams and workers, `Fail`, `FailPendingClient`, `Cancel` and the timer
of `Wait` race for one entry of `Broker.pending`.  Whoever removes the entry owes it exactly one
completion; only `Cancel` and the timer settle it themselves.

The argument is a conservation law.  For every entry, being in `pending`, being held by a goroutine
that has still to report, having been reported on `done`, and having been cancelled or timed out are
together counted exactly once, from the registration on; and so is its caller, who waits, has
received, has timed out, or never waits.  `Account.Law` states this for the account of an entry and
the numbers of goroutines that hold it and wait for it; each action moves the numbers without
changing the sums (`action_balanced`), so the law holds along every run (`law_of_reachable`).  That a
second value is never sent, that a send never finds the buffer full and that no wait is left behind
are arithmetic consequences.
-/

namespace NryNet.Relay

open ThreadPool

/-! ## The law and its conservation -/

/-- What holds of an entry at any time: `holds` goroutines have its outcome to report, `waits` are
in or before its `Wait`, and `cancels` will not wait for it. -/
structure Account.Law (account : Account) (holds waits cancels : ℕ) : Prop where
  outcome : account.pending + account.sent + account.cancelled + account.timedOut + holds =
    account.allocated
  removal : account.pending + account.removals = account.allocated
  channel : account.buffered + account.received = account.sent
  caller : account.received + account.timedOut + waits + cancels = account.allocated
  cancel : 0 < account.cancelled → 0 < cancels

/-- An action moves an entry between the places the law counts, and creates an entry only together
with its caller. -/
structure Account.Balanced (before after : Account) (holds holds' waits waits' cancels cancels' : ℕ) :
    Prop where
  outcome :
    after.pending + after.sent + after.cancelled + after.timedOut + holds' + before.allocated =
      before.pending + before.sent + before.cancelled + before.timedOut + holds + after.allocated
  removal : after.pending + after.removals + before.allocated =
    before.pending + before.removals + after.allocated
  channel : after.buffered + after.received + before.sent =
    before.buffered + before.received + after.sent
  caller : after.received + after.timedOut + waits' + cancels' + before.allocated =
    before.received + before.timedOut + waits + cancels + after.allocated
  cancel : cancels ≤ cancels' ∧ (after.cancelled ≤ before.cancelled ∨ 0 < cancels')

namespace Account

variable {before after : Account} {holds holds' waits waits' cancels cancels' : ℕ}

/-- Nothing moves. -/
theorem Balanced.same (account : after = before) (held : holds' = holds) (waited : waits' = waits)
    (cancelled : cancels' = cancels) :
    Balanced before after holds holds' waits waits' cancels cancels' := by
  subst account held waited cancelled
  exact ⟨rfl, rfl, rfl, rfl, Nat.le_refl _, Or.inl (Nat.le_refl _)⟩

/-- The law survives a balanced action, the rest of the pool contributing the same on both sides. -/
theorem Law.balanced {others others' awaiting awaiting' cancelling cancelling' : ℕ}
    (law : before.Law others awaiting cancelling)
    (moved : Balanced before after holds holds' waits waits' cancels cancels')
    (heldTotal : others' + holds = others + holds')
    (waitTotal : awaiting' + waits = awaiting + waits')
    (cancelTotal : cancelling' + cancels = cancelling + cancels') (own : cancels ≤ cancelling) :
    after.Law others' awaiting' cancelling' := by
  obtain ⟨outcome, removal, channel, caller, cancel⟩ := law
  obtain ⟨outcome', removal', channel', caller', grows, cancel'⟩ := moved
  refine ⟨?_, ?_, ?_, ?_, ?_⟩
  · omega
  · omega
  · omega
  · omega
  · intro positive
    rcases cancel' with kept | present
    · have earlier := cancel (Nat.lt_of_lt_of_le positive kept)
      omega
    · omega

end Account

/-! ## Every action is balanced -/

/-- The action of a goroutine leaves the account of an entry and the goroutine's weights
balanced. -/
def BalancedAt (b b' : Broker) (goroutine goroutine' : Goroutine) (spawned : List Goroutine)
    (entry : ℕ) : Prop :=
  Account.Balanced (b.account entry) (b'.account entry)
    (goroutine.holds entry) (goroutine'.holds entry + (spawned.map (Goroutine.holds entry)).sum)
    (goroutine.waits entry) (goroutine'.waits entry + (spawned.map (Goroutine.waits entry)).sum)
    (goroutine.cancels entry)
    (goroutine'.cancels entry + (spawned.map (Goroutine.cancels entry)).sum)

section Actions

variable {b b' : Broker} {goroutine goroutine' : Goroutine} {spawned : List Goroutine}
variable {entry held : ℕ}

/-- Weights of a goroutine that has nothing to do with any entry. -/
theorem weights_of_idle (idle : goroutine.idle = true) :
    goroutine.holds entry = 0 ∧ goroutine.waits entry = 0 ∧ goroutine.cancels entry = 0 := by
  cases goroutine <;> first | exact ⟨rfl, rfl, rfl⟩ | cases idle

theorem weights_setLookup (goroutine : Goroutine) (pc : LookupPC) :
    (goroutine.setLookup pc).holds entry = goroutine.holds entry ∧
      (goroutine.setLookup pc).waits entry = goroutine.waits entry ∧
      (goroutine.setLookup pc).cancels entry = goroutine.cancels entry := by
  cases goroutine <;> exact ⟨rfl, rfl, rfl⟩

/-- An action that leaves the two tables alone and changes no weight. -/
theorem balanced_of_frame (pending : b'.pending = b.pending) (entries : b'.entries = b.entries)
    (heldSame : goroutine'.holds entry + (spawned.map (Goroutine.holds entry)).sum =
      goroutine.holds entry)
    (waitsSame : goroutine'.waits entry + (spawned.map (Goroutine.waits entry)).sum =
      goroutine.waits entry)
    (cancelsSame : goroutine'.cancels entry + (spawned.map (Goroutine.cancels entry)).sum =
      goroutine.cancels entry) :
    BalancedAt b b' goroutine goroutine' spawned entry :=
  .same (Broker.account_congr pending entries) heldSame waitsSame cancelsSame

/-- A non-blocking send by the goroutine that holds the entry finds room. -/
theorem account_trySendDone {result : GoError} (exists' : (b.account held).allocated = 1)
    (room : (b.account held).buffered = 0) :
    (b.trySendDone held result).account entry =
      if entry = held then (b.account entry).send else b.account entry := by
  obtain ⟨broker, sent⟩ := Option.isSome_iff_exists.mp
    (Broker.sendDone_isSome result exists' room)
  rw [Broker.trySendDone, sent, Option.getD_some]
  exact (Broker.account_sendDone sent entry).2

/-- An action that takes `held` out of `pending`.  Unless it cancels or times out, the goroutine
holds the entry afterwards; if it times out, the goroutine has stopped waiting. -/
theorem balanced_of_removal {requestID : String} {reason : Removal} (keyed : b.Keyed)
    (present : b.pending.lookup requestID = some held)
    (account : b'.account entry =
      if entry = held then (b.account entry).remove reason else b.account entry)
    (heldSame : goroutine'.holds entry + (spawned.map (Goroutine.holds entry)).sum =
      goroutine.holds entry +
        if entry = held ∧ reason ≠ .cancelled ∧ reason ≠ .timedOut then 1 else 0)
    (waitsSame : goroutine'.waits entry + (spawned.map (Goroutine.waits entry)).sum +
      (if entry = held ∧ reason = .timedOut then 1 else 0) = goroutine.waits entry)
    (cancelsSame : goroutine'.cancels entry + (spawned.map (Goroutine.cancels entry)).sum =
      goroutine.cancels entry)
    (canceller : entry = held → reason = .cancelled → 0 < goroutine.cancels entry) :
    BalancedAt b b' goroutine goroutine' spawned entry := by
  unfold BalancedAt
  rw [account]
  by_cases same : entry = held
  · subst same
    have waiting := Broker.account_pending present keyed
    rw [if_pos rfl]
    simp only [true_and] at heldSame waitsSame canceller
    by_cases cancelled : reason = .cancelled
    · subst cancelled
      have positive := canceller trivial rfl
      simp only [ne_eq, not_true_eq_false, false_and, if_false, reduceCtorEq] at heldSame waitsSame
      constructor <;> simp only [Account.remove, if_true, reduceCtorEq, if_false] <;> omega
    · by_cases timedOut : reason = .timedOut
      · subst timedOut
        simp only [ne_eq, not_true_eq_false, and_false, if_false, if_true] at heldSame waitsSame
        constructor <;> simp only [Account.remove, if_true, reduceCtorEq, if_false] <;> omega
      · simp only [ne_eq, cancelled, timedOut, not_false_eq_true, and_true, if_true,
          if_false] at heldSame waitsSame
        constructor <;> simp only [Account.remove, cancelled, timedOut, if_false] <;> omega
  · simp only [same, false_and, if_false] at heldSame waitsSame ⊢
    exact .same rfl heldSame waitsSame cancelsSame

/-- An action by which a goroutine that holds `held` reports its outcome. -/
theorem balanced_of_send (account : b'.account entry =
      if entry = held then (b.account entry).send else b.account entry)
    (room : (b.account held).buffered = 0)
    (heldSame : goroutine'.holds entry + (spawned.map (Goroutine.holds entry)).sum +
      (if entry = held then 1 else 0) = goroutine.holds entry)
    (waitsSame : goroutine'.waits entry + (spawned.map (Goroutine.waits entry)).sum =
      goroutine.waits entry)
    (cancelsSame : goroutine'.cancels entry + (spawned.map (Goroutine.cancels entry)).sum =
      goroutine.cancels entry) :
    BalancedAt b b' goroutine goroutine' spawned entry := by
  unfold BalancedAt
  rw [account]
  by_cases same : entry = held
  · subst same
    rw [if_pos rfl] at heldSame ⊢
    constructor <;> simp only [Account.send] <;> omega
  · rw [if_neg same] at heldSame ⊢
    exact .same rfl heldSame waitsSame cancelsSame

/-- An action by which the waiting caller of `held` receives its outcome. -/
theorem balanced_of_receive {result : GoError}
    (received : b.receiveDone held = some (b', result))
    (heldSame : goroutine'.holds entry + (spawned.map (Goroutine.holds entry)).sum =
      goroutine.holds entry)
    (waitsSame : goroutine'.waits entry + (spawned.map (Goroutine.waits entry)).sum +
      (if entry = held then 1 else 0) = goroutine.waits entry)
    (cancelsSame : goroutine'.cancels entry + (spawned.map (Goroutine.cancels entry)).sum =
      goroutine.cancels entry) :
    BalancedAt b b' goroutine goroutine' spawned entry := by
  unfold BalancedAt
  obtain ⟨full, account⟩ := Broker.account_receiveDone received entry
  rw [account]
  by_cases same : entry = held
  · subst same
    rw [if_pos rfl] at waitsSame ⊢
    constructor <;> simp only [Account.receive] <;> omega
  · rw [if_neg same] at waitsSame ⊢
    exact .same rfl heldSame waitsSame cancelsSame

/-- Registering an entry creates it together with its caller. -/
theorem balanced_of_register {requestID : String} {conn : Closer} {tunnel : Tunnel}
    {caller : Caller} (registered : b.registerPending requestID conn tunnel = .ok (b', held)) :
    BalancedAt b b' (.visitor requestID conn tunnel caller)
      (Broker.afterRegister caller held requestID) [] entry := by
  unfold BalancedAt
  obtain ⟨position, account⟩ := Broker.account_registerPending registered entry
  rw [account]
  by_cases same : entry = held
  · subst same
    have missing : b.account entry = .none := by
      rw [Broker.account, List.getElem?_eq_none (by omega)]
    rw [if_pos rfl, missing]
    cases caller <;> constructor <;>
      simp [Account.fresh, Account.none, Broker.afterRegister, Goroutine.holds, Goroutine.waits,
        Goroutine.cancels]
  · rw [if_neg same]
    cases caller <;>
      exact .same rfl (by simp [Broker.afterRegister, Goroutine.holds])
        (by simp [Broker.afterRegister, Goroutine.waits, Ne.symm same])
        (by simp [Broker.afterRegister, Goroutine.cancels, Ne.symm same])

/-- `FailPendingClient` takes over all entries of the client at once. -/
theorem balanced_of_failClient {clientID : String} {next : Aftermath} (keyed : b.Keyed) :
    BalancedAt b (b.failPendingClient clientID) (.failClient clientID next)
      (.failSends (b.pendingOf clientID) clientID next) [] entry := by
  unfold BalancedAt
  rw [Broker.account_failPendingClient keyed]
  have unique : (b.pendingOf clientID).Nodup := Broker.nodup_pendingOf keyed
  by_cases member : entry ∈ b.pendingOf clientID
  · have waiting := ((Broker.mem_pendingOf keyed).mp member).1
    have once : (b.pendingOf clientID).count entry = 1 := List.count_eq_one_of_mem unique member
    rw [if_pos member]
    constructor <;> simp [Account.remove, Goroutine.holds, Goroutine.waits, Goroutine.cancels,
      once] <;> omega
  · rw [if_neg member]
    exact .same rfl (by simp [Goroutine.holds, List.count_eq_zero_of_not_mem member]) rfl rfl

/-- Every action is balanced, provided the entries its goroutine holds exist and have room in their
`done` channel. -/
theorem action_balanced (action : Action b goroutine b' goroutine' spawned) (keyed : b.Keyed)
    (room : ∀ held, 0 < goroutine.holds held →
      (b.account held).allocated = 1 ∧ (b.account held).buffered = 0) :
    BalancedAt b b' goroutine goroutine' spawned entry := by
  cases action with
  | quit _ conns idle =>
      obtain ⟨heldNone, waitsNone, cancelsNone⟩ := @weights_of_idle _ entry idle
      exact balanced_of_frame rfl rfl heldNone.symm waitsNone.symm cancelsNone.symm
  | lookup _ looking stepped =>
      obtain ⟨heldSame, waitsSame, cancelsSame⟩ := @weights_setLookup entry _ _
      exact balanced_of_frame rfl rfl heldSame waitsSame cancelsSame
  | claim claimed =>
      obtain ⟨record, present, -⟩ := Broker.claimPendingForClient_ok claimed
      refine balanced_of_removal keyed present (Broker.account_claim keyed claimed entry).2 ?_ ?_
        rfl ?_
      · simp [Goroutine.holds, eq_comm]
      · simp [Goroutine.waits]
      · intro _ impossible
        cases impossible
  | complete sent =>
      refine balanced_of_send (Broker.account_sendDone sent entry).2
        (Broker.account_sendDone sent entry).1 ?_ rfl rfl
      simp [Goroutine.holds, eq_comm]
  | visitor caller registered => exact balanced_of_register registered
  | waitDone received =>
      refine balanced_of_receive received rfl ?_ rfl
      simp [Goroutine.waits, eq_comm]
  | awaitDone received =>
      refine balanced_of_receive received rfl ?_ rfl
      simp [Goroutine.waits, eq_comm]
  | timeOut conns present =>
      refine balanced_of_removal keyed present
        (Broker.account_removePending keyed present .timedOut) ?_ ?_ rfl ?_
      · simp [Goroutine.holds]
      · simp [Goroutine.waits, eq_comm]
      · intro _ impossible
        cases impossible
  | cancel conns present =>
      refine balanced_of_removal keyed present
        (Broker.account_removePending keyed present .cancelled) ?_ ?_ rfl ?_
      · simp [Goroutine.holds]
      · simp [Goroutine.waits]
      · rintro rfl -
        simp [Goroutine.cancels]
  | fail cause cause' worker present =>
      refine balanced_of_removal keyed present
        (Broker.account_removePending keyed present .failed) ?_ ?_ rfl ?_
      · simp [Goroutine.holds, eq_comm]
      · simp [Goroutine.waits]
      · intro _ impossible
        cases impossible
  | failSend clientID requestID cause held worker conns =>
      obtain ⟨exists', free⟩ := room held (by simp [Goroutine.holds])
      refine balanced_of_send (account_trySendDone exists' free) free ?_ rfl rfl
      simp [Goroutine.holds, eq_comm]
  | failClient clientID next => exact balanced_of_failClient keyed
  | failOne clientID next conns listed =>
      rename_i entries held
      have present : 0 < entries.count held := List.count_pos_iff.mpr listed
      obtain ⟨exists', free⟩ := room held present
      refine balanced_of_send (account_trySendDone exists' free) free ?_ rfl rfl
      simp only [Goroutine.holds, List.map_nil, List.sum_nil, Nat.add_zero]
      by_cases same : entry = held
      · subst same
        rw [List.count_erase_self, if_pos rfl]
        omega
      · rw [List.count_erase_of_ne same, if_neg same, Nat.add_zero]
  | failReturns clientID next =>
      cases next <;> exact balanced_of_frame rfl rfl rfl rfl rfl
  | _ => exact balanced_of_frame rfl rfl rfl rfl rfl

/-- Every action keeps the pending map keyed. -/
theorem action_keyed (action : Action b goroutine b' goroutine' spawned) (keyed : b.Keyed) :
    b'.Keyed := by
  cases action with
  | claim claimed =>
      obtain ⟨record, present, -, -, rfl⟩ := Broker.claimPendingForClient_ok claimed
      exact (keyed.removePending).modifyEntry fun _ => rfl
  | complete sent => exact keyed.sendDone sent
  | visitor caller registered => exact keyed.registerPending registered
  | waitDone received => exact keyed.receiveDone received
  | awaitDone received => exact keyed.receiveDone received
  | timeOut conns present => exact keyed.removePending
  | cancel conns present => exact keyed.removePending
  | fail cause cause' worker present => exact keyed.removePending
  | failSend clientID requestID cause held worker conns => exact keyed.trySendDone
  | failClient clientID next => exact keyed.failPendingClient
  | failOne clientID next conns listed => exact keyed.trySendDone
  | _ => exact keyed

end Actions

/-! ## Along every run -/

/-- An entry exists at most once. -/
theorem allocated_le_one (b : Broker) (entry : ℕ) : (b.account entry).allocated ≤ 1 := by
  unfold Broker.account
  cases b.entries[entry]? with
  | none => exact Nat.zero_le 1
  | some record => exact Nat.le_refl 1

/-- Goroutines arrive with nothing to report and nothing to wait for. -/
theorem weights_of_arrives {goroutine : Goroutine} (arrives : goroutine.arrives = true)
    (entry : ℕ) : goroutine.holds entry = 0 ∧ goroutine.waits entry = 0 ∧
      goroutine.cancels entry = 0 := by
  cases goroutine <;> first | exact ⟨rfl, rfl, rfl⟩ | cases arrives

/-- The invariant: the pending map is keyed and every entry obeys the law. -/
structure Lawful (config : Config Broker Goroutine) : Prop where
  keyed : config.shared.Keyed
  law : ∀ entry, (config.shared.account entry).Law (config.total (Goroutine.holds entry))
    (config.total (Goroutine.waits entry)) (config.total (Goroutine.cancels entry))

/-- What a goroutine holds exists, and its `done` channel is empty. -/
theorem Lawful.room {config : Config Broker Goroutine} (lawful : Lawful config)
    {goroutine : Goroutine} (member : goroutine ∈ config.threads) {held : ℕ}
    (holds : 0 < goroutine.holds held) :
    (config.shared.account held).allocated = 1 ∧ (config.shared.account held).buffered = 0 := by
  have outcome := (lawful.law held).outcome
  have channel := (lawful.law held).channel
  have bound := allocated_le_one config.shared held
  have share : goroutine.holds held ≤ config.total (Goroutine.holds held) :=
    Config.le_total member
  omega

theorem lawful_arrive {config : Config Broker Goroutine} (lawful : Lawful config)
    {goroutine : Goroutine} (arrives : goroutine.arrives = true) :
    Lawful { config with threads := config.threads ++ [goroutine] } := by
  refine ⟨lawful.keyed, fun entry => ?_⟩
  obtain ⟨heldNone, waitsNone, cancelsNone⟩ := weights_of_arrives arrives entry
  simpa [Config.total, heldNone, waitsNone, cancelsNone] using lawful.law entry

theorem lawful_run {config : Config Broker Goroutine} (lawful : Lawful config) {index : ℕ}
    {choice : Choice} {goroutine goroutine' : Goroutine} {b' : Broker} {spawned : List Goroutine}
    (present : config.threads[index]? = some goroutine)
    (stepped : config.shared.step goroutine choice = some (b', goroutine', spawned)) :
    Lawful { shared := b', threads := config.threads.set index goroutine' ++ spawned } := by
  have member : goroutine ∈ config.threads := List.mem_of_getElem? present
  have action := Broker.action_of_step stepped
  refine ⟨action_keyed action lawful.keyed, fun entry => ?_⟩
  have moved : BalancedAt config.shared b' goroutine goroutine' spawned entry :=
    action_balanced action lawful.keyed fun held holds => lawful.room member holds
  have heldTotal := Machine.total_run (Goroutine.holds entry) b' goroutine' spawned present
  have waitTotal := Machine.total_run (Goroutine.waits entry) b' goroutine' spawned present
  have cancelTotal := Machine.total_run (Goroutine.cancels entry) b' goroutine' spawned present
  refine (lawful.law entry).balanced moved ?_ ?_ ?_ (Config.le_total member)
  · omega
  · omega
  · omega

/-- Every entry obeys the law in every reachable configuration. -/
theorem lawful_of_reachable {store : Store} {now : Time} {config : Config Broker Goroutine}
    (reached : dataPlane.Reachable (dataPlaneStart store now) config) : Lawful config := by
  refine reached.invariant Lawful ?_ ?_
  · refine ⟨fun _ _ found => (nomatch found), fun entry => ?_⟩
    exact ⟨rfl, rfl, rfl, rfl, fun positive => absurd positive (Nat.lt_irrefl 0)⟩
  · rintro config next (goroutine | ⟨index, choice⟩) lawful - moved
    · obtain ⟨arrives, rfl⟩ := Machine.exec_arrive moved
      exact lawful_arrive lawful arrives
    · obtain ⟨goroutine, b', goroutine', spawned, present, stepped, rfl⟩ := Machine.exec_run moved
      exact lawful_run lawful present stepped

/-- **The lifecycle of a pending visitor.**  In every reachable configuration, for every entry that
was registered: it is in `pending` or has left it exactly once (and then by one of the listed
operations), so its visitor has been handed to at most one data channel and at most one goroutine
has its outcome to report; at most one value has been sent on `done`; a goroutine about to send on
`done` is not blocked; and while its `Wait` is unfinished it is in `pending`, or a claim or failure of
it is in progress, or `done` holds a value. -/
theorem pending_lifecycle {store : Store} {now : Time} {config : Config Broker Goroutine}
    (reached : dataPlane.Reachable (dataPlaneStart store now) config) (entry : ℕ)
    (record : PendingConn) (located : config.shared.entries[entry]? = some record) :
    (if config.shared.pending.lookup record.requestID = some entry then record.removals = []
      else ∃ reason, record.removals = [reason]) ∧
    (record.removals.filter fun reason => reason matches .claimed _ _ _).length ≤ 1 ∧
    config.total (Goroutine.holds entry) ≤ 1 ∧ record.sent ≤ 1 ∧
    (∀ result, .complete entry result ∈ config.threads →
      (config.shared.sendDone entry result).isSome) ∧
    (∀ goroutine ∈ config.threads, 0 < goroutine.waits entry →
      config.shared.pending.lookup record.requestID = some entry ∨
      (∃ other ∈ config.threads, 0 < other.holds entry) ∨ record.done ≠ none) := by
  have lawful := lawful_of_reachable reached
  have account := Broker.account_of_some located
  have law := lawful.law entry
  rw [account] at law
  obtain ⟨outcome, removal, channel, caller, cancel⟩ := law
  simp only [Broker.accountOf] at outcome removal channel caller cancel
  have atMostOnce : record.removals.length ≤ 1 := by omega
  refine ⟨?_, ?_, by omega, by omega, ?_, ?_⟩
  · split
    · rename_i waiting
      rw [if_pos waiting] at removal
      exact List.length_eq_zero_iff.mp (by omega)
    · rename_i gone
      rw [if_neg gone] at removal
      exact List.length_eq_one_iff.mp (by omega)
  · exact (List.length_filter_le _ _).trans atMostOnce
  · intro result member
    obtain ⟨exists', room⟩ := @Lawful.room _ lawful _ member entry (by simp [Goroutine.holds])
    exact Broker.sendDone_isSome result exists' room
  · intro goroutine member waits
    have share : goroutine.waits entry ≤ config.total (Goroutine.waits entry) :=
      Config.le_total member
    by_cases waiting : config.shared.pending.lookup record.requestID = some entry
    · exact Or.inl waiting
    refine Or.inr ?_
    by_cases held : 0 < config.total (Goroutine.holds entry)
    · refine Or.inl ?_
      by_contra nobody
      push Not at nobody
      have zero : config.total (Goroutine.holds entry) = 0 := by
        rw [Config.total, List.sum_eq_zero_iff]
        intro weight isWeight
        obtain ⟨other, present, rfl⟩ := List.mem_map.mp isWeight
        exact Nat.le_zero.mp (nobody other present)
      omega
    · -- Neither pending nor held, and its caller waits: the value has been sent and not received.
      refine Or.inr fun empty => ?_
      rw [if_neg waiting] at outcome removal
      rw [if_pos empty] at channel
      have nobodyCancels : record.removals.count .cancelled = 0 := by
        by_contra cancelled
        have := cancel (Nat.pos_of_ne_zero cancelled)
        omega
      omega

/-- A visitor waits, a stream claims it, relays and is about to report. -/
def relayedMoves : List (Move Goroutine Choice) :=
  visitorMoves 0 .wait ++ streamMoves 1 ++ [.run 1 .go] ++ loadMoves 1 ++
    [.run 1 .go, .run 1 .go, .run 1 .go, .run 1 (.relayed none), .run 1 .go]

/-- The lifecycle of the visitor in that run. -/
theorem pending_lifecycle_relayed :
    ∃ config record, dataPlane.Reachable (dataPlaneStart Auth.office 0) config ∧
      config.shared.entries[0]? = some record ∧
      record.removals = [.claimed (.data 1) 0 0] ∧
      ∀ result, .complete 0 result ∈ config.threads →
        (config.shared.sendDone 0 result).isSome := by
  obtain ⟨config, reached, shape⟩ :
      ∃ config, dataPlane.Reachable (dataPlaneStart Auth.office 0) config ∧
        (config.shared.entries[0]?).map PendingConn.removals =
          some [.claimed (.data 1) 0 0] := by
    refine Machine.exists_run_of_replay relayedMoves ?_
    decide +kernel
  obtain ⟨record, located, removed⟩ := Option.map_eq_some_iff.mp shape
  exact ⟨config, record, reached, located, removed,
    (pending_lifecycle reached 0 record located).2.2.2.2.1⟩

end NryNet.Relay

import NryNet.Control.Sessions

/-!
# The tables of the hub

Sessions come and go through many hands: a session of a client is replaced by the next one, its read
loop ends, its writer fails, a send fails, an administrator disconnects the client, and in the end
its own deferred closure looks at the tables once more.  `Tables` is what the three tables have in
common all the time; `Task.Fits` is what a goroutine may rely on about the session it is concerned
with.  The delicate case is the deferred closure, which deletes from `writeQueues` alone: by then
its session is not in the tables, and since it cannot come back, there is nothing to delete.
-/

namespace NryNet.Control

open ThreadPool

namespace Hub

variable {h : Hub} {clientID : String} {conn : ℕ}

/-- The transport and the write queue of a client are those of one session. -/
def Agrees (h : Hub) : Prop :=
  ∀ clientID, h.writeQueues.lookup clientID = h.conns.lookup clientID

/-- The clients with a transport are the clients with a time of registration. -/
def Dated (h : Hub) : Prop :=
  ∀ clientID, (h.connected.lookup clientID).isSome = (h.conns.lookup clientID).isSome

theorem Agrees.register (agrees : h.Agrees) : (h.register clientID conn).Agrees := by
  intro other
  rw [conns_register]
  show (h.writeQueues.insert clientID conn).lookup other = _
  rw [GoMap.lookup_insert_if, agrees other]

theorem Dated.register (dated : h.Dated) : (h.register clientID conn).Dated := by
  intro other
  rw [conns_register]
  show ((h.connected.insert clientID h.now).lookup other).isSome = _
  rw [GoMap.lookup_insert_if]
  by_cases same : other = clientID
  · rw [if_pos same, if_pos same]
    rfl
  · rw [if_neg same, if_neg same]
    exact dated other

/-- A session that is removed is removed from all three tables. -/
theorem unregister_current (current : h.conns.lookup clientID = some conn) :
    h.unregister clientID conn =
      ({ h with
          conns := h.conns.erase clientID
          connected := h.connected.erase clientID
          writeQueues := h.writeQueues.erase clientID },
        true) := by
  unfold unregister
  rw [if_pos current]

theorem unregister_stale (stale : h.conns.lookup clientID ≠ some conn) :
    h.unregister clientID conn = (h, false) := by
  unfold unregister
  rw [if_neg stale]

theorem Agrees.unregister (agrees : h.Agrees) : (h.unregister clientID conn).1.Agrees := by
  by_cases current : h.conns.lookup clientID = some conn
  · rw [unregister_current current]
    intro other
    show (h.writeQueues.erase clientID).lookup other = (h.conns.erase clientID).lookup other
    rw [GoMap.lookup_erase_if, GoMap.lookup_erase_if, agrees other]
  · rw [unregister_stale current]
    exact agrees

theorem Dated.unregister (dated : h.Dated) : (h.unregister clientID conn).1.Dated := by
  by_cases current : h.conns.lookup clientID = some conn
  · rw [unregister_current current]
    intro other
    show ((h.connected.erase clientID).lookup other).isSome =
      ((h.conns.erase clientID).lookup other).isSome
    rw [GoMap.lookup_erase_if, GoMap.lookup_erase_if]
    by_cases same : other = clientID
    · rw [if_pos same, if_pos same]
    · rw [if_neg same, if_neg same]
      exact dated other
  · rw [unregister_stale current]
    exact dated

/-- The deferred closure of a session that is not in the tables finds nothing to delete. -/
theorem forgetQueue_stale (agrees : h.Agrees) (stale : h.conns.lookup clientID ≠ some conn) :
    h.forgetQueue clientID conn = h := by
  unfold forgetQueue
  rw [agrees clientID, if_neg stale]

end Hub

namespace Sessions

/-! ## The invariant -/

/-- The session a call of `sendOpenConnection` has read from the tables. -/
def OpenPoint.conn : OpenPoint → Option ℕ
  | .enqueue _ conn | .waiting _ conn _ => some conn
  | _ => none

/-- What the tables have in common.  `retired` sessions have closed queues. -/
structure Tables (s : State) : Prop where
  agrees : s.hub.Agrees
  dated : s.hub.Dated
  known : ∀ clientID conn, s.hub.conns.lookup clientID = some conn → conn < s.sessions
  points : ∀ call conn, (s.opens call).point.conn = some conn → conn < s.sessions
  retired : ∀ conn ∈ s.retired, (s.queue conn).queue.closed = true

/-- A session that existed and is not registered for the client, so that it never will be again. -/
def Gone (s : State) (conn : ℕ) (clientID : String) : Prop :=
  conn < s.sessions ∧ s.hub.conns.lookup clientID ≠ some conn

/-- Whoever closes a queue closes the queue of the session it has replaced or removed. -/
def Then.Fits (s : State) (queue : ℕ) : Then → Prop
  | .registered conn _ replaced => conn < s.sessions ∧ replaced = some queue
  | .unregistered conn clientID _ => Gone s conn clientID ∧ conn = queue
  | .forget conn clientID => Gone s conn clientID

/-- What a goroutine may rely on. -/
def Task.Fits (s : State) : Task → Prop
  | .serving conn _ | .ack _ conn _ _ | .ackWaiting _ conn _ _ | .writer conn _
  | .enqueue _ conn _ _ | .unregister conn _ _ => conn < s.sessions
  | .close queue next => next.Fits s queue
  | .closing queue _ next => next.Fits s queue ∧ (s.queue queue).queue.closed = true
  | .forget conn clientID => Gone s conn clientID
  | _ => True

section Invariant

variable {s s' : State} {task task' : Task} {spawned : List Task}

theorem Gone.evolve {conn : ℕ} {clientID : String} (gone : Gone s conn clientID)
    (evolves : Evolves s s') : Gone s' conn clientID :=
  ⟨lt_of_lt_of_le gone.1 evolves.sessions,
    fun current => gone.2 (evolves.conns clientID conn gone.1 current)⟩

theorem Then.Fits.evolve {queue : ℕ} {next : Then} (fits : next.Fits s queue)
    (evolves : Evolves s s') : next.Fits s' queue := by
  cases next with
  | registered conn clientID replaced =>
      exact ⟨lt_of_lt_of_le fits.1 evolves.sessions, fits.2⟩
  | unregistered conn clientID after => exact ⟨Gone.evolve fits.1 evolves, fits.2⟩
  | forget conn clientID => exact Gone.evolve fits evolves

/-- What a goroutine relies on survives what the others do. -/
theorem Task.Fits.evolve (fits : task.Fits s) (evolves : Evolves s s') : task.Fits s' := by
  have older {conn : ℕ} (old : conn < s.sessions) : conn < s'.sessions :=
    lt_of_lt_of_le old evolves.sessions
  cases task with
  | serving conn clientID => exact older fits
  | ack queue conn clientID message => exact older fits
  | ackWaiting queue conn ticket clientID => exact older fits
  | writer conn clientID => exact older fits
  | enqueue queue conn clientID message => exact older fits
  | unregister conn clientID after => exact older fits
  | close queue next => exact Then.Fits.evolve fits evolves
  | closing queue pending next =>
      exact ⟨Then.Fits.evolve fits.1 evolves, (evolves.queues queue).closed fits.2⟩
  | forget conn clientID => exact Gone.evolve fits evolves
  | _ => trivial

/-- The session that is read from the tables. -/
theorem Tables.of_current (tables : Tables s) {clientID : String} {conn queue : ℕ}
    (current : s.current clientID = some (conn, queue)) : conn < s.sessions := by
  unfold State.current at current
  split at current
  · rename_i found _
    cases current
    exact tables.known clientID conn found
  · cases current

/-- The tables do not depend on what is in the queues. -/
theorem Tables.setQueue (tables : Tables s) {queue : ℕ} {w : WriteQueue}
    (grows : Grows (s.queue queue) w) : Tables (s.setQueue queue w) :=
  { tables with
    retired := fun conn member => (grows_update grows conn).closed (tables.retired conn member) }

/-- After an `unregister` of a session that is gone. -/
theorem fits_resume {conn : ℕ} {clientID : String} (gone : Gone s conn clientID) (after : After) :
    (after.resume conn clientID).Fits s := by
  cases after with
  | nothing => trivial
  | readLoop => exact gone.1
  | deferred => exact gone
  | openConnection call => trivial

/-- A queue has been closed, and whoever closed it goes on. -/
theorem tables_resume (tables : Tables s) {queue : ℕ} {next : Then} (fits : next.Fits s queue)
    (closed : (s.queue queue).queue.closed = true) :
    Tables (s.resume next).1 ∧ (s.resume next).2.Fits (s.resume next).1 := by
  have retire {more : List ℕ} (all : ∀ conn ∈ more, conn = queue) :
      Tables { s with retired := s.retired ++ more } :=
    { tables with
      retired := fun conn member => by
        rcases List.mem_append.mp member with earlier | now
        · exact tables.retired conn earlier
        · rw [all conn now]
          exact closed }
  cases next with
  | registered conn clientID replaced =>
      obtain ⟨old, rfl⟩ := fits
      exact ⟨retire fun other member => List.mem_singleton.mp member, old⟩
  | unregistered conn clientID after =>
      obtain ⟨gone, rfl⟩ := fits
      refine ⟨retire fun other member => List.mem_singleton.mp member, ?_⟩
      exact fits_resume (s := (s.resume (.unregistered conn clientID after)).1) gone after
  | forget conn clientID => exact ⟨tables, fits⟩

/-- `register` and `unregister` close the queue they found, if they found one. -/
theorem tables_closeThen (tables : Tables s) (found : Option ℕ) {next : Then}
    (fits : ∀ queue, found = some queue → next.Fits s queue)
    (nothing : found = none → ∃ conn clientID, next = .registered conn clientID none ∧
      conn < s.sessions) :
    Tables (s.closeThen found next).1 ∧
      (s.closeThen found next).2.Fits (s.closeThen found next).1 := by
  cases found with
  | none =>
      obtain ⟨conn, clientID, rfl, old⟩ := nothing rfl
      refine ⟨{ tables with retired := fun conn member => ?_ }, old⟩
      have member : conn ∈ s.retired ++ (none : Option ℕ).toList := member
      rw [Option.toList_none, List.append_nil] at member
      exact tables.retired conn member
  | some queue => exact ⟨tables, fits queue rfl⟩

theorem tables_register (tables : Tables s) (clientID : String) :
    Tables (s.register clientID).1 ∧ (s.register clientID).2.Fits (s.register clientID).1 := by
  have registered : Tables
      { s with hub := s.hub.register clientID s.sessions, sessions := s.sessions + 1 } :=
    { agrees := tables.agrees.register
      dated := tables.dated.register
      known := fun other conn current => by
        rw [Hub.conns_register] at current
        split at current
        · cases current
          exact Nat.lt_succ_self _
        · exact (tables.known other conn current).trans (Nat.lt_succ_self _)
      points := fun call conn at' => (tables.points call conn at').trans (Nat.lt_succ_self _)
      retired := tables.retired }
  refine tables_closeThen registered _ ?_ ?_
  · intro queue found
    rw [tables.agrees clientID] at found
    exact ⟨Nat.lt_succ_self _, found⟩
  · intro none
    rw [tables.agrees clientID] at none
    exact ⟨s.sessions, clientID, by rw [none], Nat.lt_succ_self _⟩

theorem tables_unregister (tables : Tables s) {conn : ℕ} (clientID : String) (after : After)
    (old : conn < s.sessions) :
    Tables (s.unregister conn clientID after).1 ∧
      (s.unregister conn clientID after).2.Fits (s.unregister conn clientID after).1 := by
  by_cases current : s.hub.conns.lookup clientID = some conn
  · have removed := Hub.unregister_current current
    have gone : Gone { s with hub := (s.hub.unregister clientID conn).1 } conn clientID := by
      refine ⟨old, ?_⟩
      rw [Hub.conns_unregister, if_pos ⟨rfl, current⟩]
      exact fun impossible => nomatch impossible
    have tables' : Tables { s with hub := (s.hub.unregister clientID conn).1 } :=
      { tables with
        agrees := tables.agrees.unregister
        dated := tables.dated.unregister
        known := fun other found current => by
          rw [Hub.conns_unregister] at current
          split at current
          · cases current
          · exact tables.known other found current }
    unfold State.unregister
    rw [removed] at gone tables' ⊢
    refine tables_closeThen tables' _ ?_ ?_
    · intro queue found
      rw [tables.agrees clientID, current] at found
      exact ⟨gone, Option.some.inj found⟩
    · intro none
      rw [tables.agrees clientID, current] at none
      cases none
  · unfold State.unregister
    rw [Hub.unregister_stale current]
    exact ⟨tables, fits_resume ⟨old, current⟩ after⟩

/-- A call of `sendOpenConnection` moves on. -/
theorem Tables.setOpen (tables : Tables s) {call : ℕ} {made : OpenCall}
    (old : ∀ conn, made.point.conn = some conn → conn < s.sessions) :
    Tables { s with opens := Function.update s.opens call made } :=
  { tables with
    points := fun other conn at' => by
      by_cases same : other = call
      · subst same
        simp only [Function.update_self] at at'
        exact old conn at'
      · simp only [Function.update_of_ne same] at at'
        exact tables.points other conn at' }

theorem tables_afterWait (tables : Tables s) (call : ℕ) {conn : ℕ} (err : Option WriteError)
    (old : conn < s.sessions) :
    Tables (s.afterWait call conn err).1 ∧
      (s.afterWait call conn err).2.Fits (s.afterWait call conn err).1 := by
  unfold State.afterWait
  split
  · exact ⟨tables.setOpen fun _ impossible => (nomatch impossible), trivial⟩
  · exact ⟨tables.setOpen fun _ impossible => (nomatch impossible), trivial⟩
  · exact ⟨tables.setOpen fun _ impossible => (nomatch impossible), old⟩

theorem tables_stepOpen (tables : Tables s) {call : ℕ} {choice : Choice}
    (stepped : s.stepOpen call choice = some (s', task')) : Tables s' ∧ task'.Fits s' := by
  unfold State.stepOpen at stepped
  split at stepped
  · split at stepped <;> cases stepped
    · exact ⟨tables.setOpen fun _ impossible => (nomatch impossible), trivial⟩
    · rename_i conn queue current
      refine ⟨tables.setOpen fun other same => ?_, trivial⟩
      cases same
      exact tables.of_current current
  · rename_i queue conn at'
    have old : conn < s.sessions := tables.points call conn (by rw [at']; rfl)
    have opened := Option.some.inj stepped
    unfold State.tryOpen at opened
    split at opened
    · rename_i w err enqueued
      have tables' := tables.setQueue (Grows.enqueueItem enqueued)
      have kept := tables_afterWait tables' call (some err) old
      rw [opened] at kept
      exact kept
    · rename_i w enqueued
      cases opened
      refine ⟨?_, trivial⟩
      refine (tables.setQueue (Grows.enqueueItem enqueued)).setOpen fun other same => ?_
      cases same
      exact old
  · rename_i queue conn ticket at'
    have old : conn < s.sessions := tables.points call conn (by rw [at']; rfl)
    obtain ⟨⟨w, err⟩, received, built⟩ := Option.map_eq_some_iff.mp stepped
    have tables' := tables.setQueue (Grows.receive received)
    have kept := tables_afterWait tables' call err old
    rw [built] at kept
    exact kept
  · rename_i queue conn ticket error at'
    have old : conn < s.sessions := tables.points call conn (by rw [at']; rfl)
    have kept := tables_afterWait tables call (some (.context error)) old
    rw [Option.some.inj stepped] at kept
    exact kept
  · split at stepped <;> cases stepped <;>
      exact ⟨tables.setOpen fun _ impossible => (nomatch impossible), trivial⟩
  · cases stepped
    exact ⟨tables.setOpen fun _ impossible => (nomatch impossible), trivial⟩
  · cases stepped

/-- **One action keeps the tables consistent**, and what its goroutine relies on. -/
theorem tables_of_action (action : Action s task s' task' spawned) (tables : Tables s)
    (fits : task.Fits s) : Tables s' ∧ task'.Fits s' ∧ ∀ fresh ∈ spawned, fresh.Fits s' := by
  have alone {P : Task → Prop} : ∀ fresh ∈ ([] : List Task), P fresh := fun _ member => by
    cases member
  cases action with
  | register clientID =>
      obtain ⟨tables', fits'⟩ := tables_register tables clientID
      refine ⟨tables', fits', fun fresh member => ?_⟩
      rw [List.mem_singleton.mp member]
      have sessions : (s.register clientID).1.sessions = s.sessions + 1 :=
        (closeThen_same _ _).2.1
      show s.sessions < _
      rw [sessions]
      exact Nat.lt_succ_self _
  | leaves conn clientID => exact ⟨tables, fits, alone⟩
  | heartbeat message current => exact ⟨tables, tables.of_current current, alone⟩
  | ackRefused enqueued => exact ⟨tables.setQueue (Grows.enqueueItem enqueued), fits, alone⟩
  | ackQueued enqueued => exact ⟨tables.setQueue (Grows.enqueueItem enqueued), fits, alone⟩
  | @acked queue conn ticket clientID w err received =>
      refine ⟨tables.setQueue (Grows.receive received), ?_, alone⟩
      cases err <;> exact fits
  | ackTimeout queue conn ticket clientID => exact ⟨tables, fits, alone⟩
  | writer ran onError =>
      refine ⟨tables.setQueue (Grows.run ran), fits, fun fresh member => ?_⟩
      rcases onError with rfl | rfl
      · cases member
      · rw [List.mem_singleton.mp member]
        exact fits
  | offline clientID message => exact ⟨tables, trivial, alone⟩
  | send message current => exact ⟨tables, tables.of_current current, alone⟩
  | sent enqueued => exact ⟨tables.setQueue (Grows.enqueueItem enqueued), trivial, alone⟩
  | sendFails enqueued => exact ⟨tables.setQueue (Grows.enqueueItem enqueued), fits, alone⟩
  | openConnection clientID message =>
      have tables' : Tables
          { s with
            opens := Function.update s.opens s.calls
              { clientID := clientID, message := message, point := .attempt, attempts := [] } } :=
        tables.setOpen fun _ impossible => (nomatch impossible)
      exact ⟨{ tables' with }, trivial, alone⟩
  | opening stepped =>
      obtain ⟨tables', fits'⟩ := tables_stepOpen tables stepped
      exact ⟨tables', fits', alone⟩
  | disconnected clientID => exact ⟨tables, trivial, alone⟩
  | disconnect current => exact ⟨tables, tables.known _ _ current, alone⟩
  | unregister conn clientID after =>
      obtain ⟨tables', fits'⟩ := tables_unregister tables clientID after fits
      exact ⟨tables', fits', alone⟩
  | close queue next =>
      have evolves : Evolves s (s.setQueue queue (s.queue queue).close) := .setQueue Grows.close
      refine ⟨tables.setQueue Grows.close, ⟨Then.Fits.evolve fits evolves, ?_⟩, alone⟩
      show (Function.update s.queue queue _ queue).queue.closed = true
      rw [Function.update_self]
      rfl
  | @complete queue item w rest next completes =>
      have grows : Grows (s.queue queue) w := Grows.complete completes w.writer
      have evolves : Evolves s (s.setQueue queue w) := .setQueue grows
      refine ⟨tables.setQueue grows, ⟨Then.Fits.evolve fits.1 evolves, ?_⟩, alone⟩
      exact (evolves.queues queue).closed fits.2
  | closed queue next =>
      obtain ⟨tables', fits'⟩ := tables_resume tables fits.1 fits.2
      exact ⟨tables', fits', alone⟩
  | forget conn clientID =>
      refine ⟨?_, trivial, alone⟩
      rw [Hub.forgetQueue_stale tables.agrees fits.2]
      exact tables

end Invariant

/-! ## Every run -/

variable {store : Store} {now : Time} {config : Config State Task}

/-- The tables are consistent in every configuration that is reached. -/
theorem tables_of_reachable
    (reached : controlSessions.Reachable (controlSessionsStart store now) config) :
    Tables config.shared := by
  refine (Machine.Run.pool_invariant reached Tables (fun s task => task.Fits s) ?_ ?_ ?_).1
  · refine ⟨⟨fun _ => rfl, fun _ => rfl, ?_, ?_, ?_⟩, fun task member => by cases member⟩
    · intro clientID conn impossible
      cases impossible
    · intro call conn impossible
      cases impossible
    · intro conn impossible
      cases impossible
  · intro s task _ arrives
    cases task <;> trivial
  · intro config index choice task s' task' spawned tables fits present _ stepped
    have action := action_of_step stepped
    have own := fits task (List.mem_of_getElem? present)
    obtain ⟨tables', own', born⟩ := tables_of_action action tables own
    exact ⟨tables', own', born, fun other _ other' => other'.evolve (evolves_of_action action)⟩

/-- `unregister` of a session that is not the current one changes none of the tables. -/
theorem unregister_superseded {next : Config State Task} {index : ℕ} {choice : Choice} {conn : ℕ}
    {clientID : String} {after : After}
    (present : config.threads[index]? = some (.unregister conn clientID after))
    (superseded : config.shared.hub.conns.lookup clientID ≠ some conn)
    (moved : controlSessions.exec config (.run index choice) = some next) :
    next.shared.hub = config.shared.hub := by
  obtain ⟨task, s', task', spawned, present', stepped, rfl⟩ := Machine.exec_run moved
  rw [present] at present'
  cases present'
  cases action_of_step stepped with
  | unregister conn clientID after =>
      unfold State.unregister
      rw [Hub.unregister_stale superseded]

/-- **The session tables are consistent** under every interleaving of sessions, disconnects, failing
sends and failing writers: the three tables have the same clients, the transport and the queue of a
client belong to the same session, `unregister` ignores a session that was superseded, and the queue
of every session that a finished `register` or `unregister` replaced or removed is closed. -/
theorem session_tables_consistent
    (reached : controlSessions.Reachable (controlSessionsStart store now) config) :
    (∀ clientID, (clientID ∈ config.shared.hub.conns ↔ clientID ∈ config.shared.hub.connected) ∧
      (clientID ∈ config.shared.hub.conns ↔ clientID ∈ config.shared.hub.writeQueues)) ∧
    (∀ clientID, config.shared.hub.writeQueues.lookup clientID =
      config.shared.hub.conns.lookup clientID) ∧
    (∀ next index choice conn clientID after,
      config.threads[index]? = some (.unregister conn clientID after) →
      config.shared.hub.conns.lookup clientID ≠ some conn →
      controlSessions.exec config (.run index choice) = some next →
      next.shared.hub.conns = config.shared.hub.conns ∧
        next.shared.hub.connected = config.shared.hub.connected ∧
        next.shared.hub.writeQueues = config.shared.hub.writeQueues) ∧
    ∀ conn ∈ config.shared.retired, (config.shared.queue conn).queue.closed = true := by
  have tables := tables_of_reachable reached
  refine ⟨fun clientID => ⟨?_, ?_⟩, tables.agrees, ?_, tables.retired⟩
  · rw [← AList.lookup_isSome, ← AList.lookup_isSome, tables.dated clientID]
  · rw [← AList.lookup_isSome, ← AList.lookup_isSome, tables.agrees clientID]
  · intro next index choice conn clientID after present superseded moved
    rw [unregister_superseded present superseded moved]
    exact ⟨rfl, rfl, rfl⟩

/-- A client connects twice, the second session replaces the first one, and the first one finds that
out when its read loop ends. -/
def replacedMoves : List (Move Task Choice) :=
  [.arrive (.accepted "client-1"), .run 0 .go,
    .arrive (.accepted "client-1"), .run 2 .go, .run 2 .go, .run 2 .go,
    .run 0 .ended, .run 0 .go, .run 0 .go, .run 0 .go, .run 0 .go]

/-- The tables after that run: the second session is there, and the queue of the first is closed. -/
theorem session_tables_consistent_replaced :
    ∃ config, controlSessions.Reachable (controlSessionsStart Store.empty 0) config ∧
      config.shared.hub.conns.lookup "client-1" = some 1 ∧ config.shared.retired = [0] ∧
      config.threads[0]? = some .finished ∧
      config.shared.hub.writeQueues.lookup "client-1" = some 1 ∧
      (config.shared.queue 0).queue.closed = true := by
  obtain ⟨config, reached, current, retired, finished⟩ :
      ∃ config, controlSessions.Reachable (controlSessionsStart Store.empty 0) config ∧
        config.shared.hub.conns.lookup "client-1" = some 1 ∧ config.shared.retired = [0] ∧
        config.threads[0]? = some .finished := by
    refine Machine.exists_run_of_replay replacedMoves ?_
    decide +kernel
  obtain ⟨-, agrees, -, closed⟩ := session_tables_consistent reached
  refine ⟨config, reached, current, retired, finished, ?_, closed 0 ?_⟩
  · rw [agrees, current]
  · rw [retired]
    exact List.mem_cons_self

end Sessions

end NryNet.Control

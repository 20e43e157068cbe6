import NryNet.Api.TunnelHandlers

/-!
# Calls of `StartTunnel` and `StopTunnel`

What a call leaves behind in the store, and what it sends.  A call either changes nothing, or it sets the
status of its tunnel; in the second case `SyncClient` follows, unless something has failed (`Outcome`).

The environment answers action by action, so that a failure is a matter of the way a call takes.
`goesWell kind` says that on this way the actions of a kind all succeed, and an `Outcome` names the kinds
that rule out its worse cases: `call_startTunnel` and `stopTunnel_outcome` are all that is used later on.
-/

namespace NryNet.TunnelApi

open GoText Tunnels Advanced

/-! ## Failures -/

/-- The actions of this kind succeed. -/
def goesWell (kind : Task → Bool) (task : Task) : List Choice → Manager → Bool
  | [], _ => true
  | choice :: rest, m =>
      (!kind task || choice.err.isNone) &&
        match Tunnels.step m task choice with
        | none => true
        | some (m', next) => goesWell kind next rest m'

/-- `ListClientTunnels`, in `SyncClient`. -/
def reading : Task → Bool
  | .syncClient _ => true
  | _ => false

/-- `net.Listen` and `net.ListenUDP` as well. -/
def listening : Task → Bool
  | .startTCPListener _ _ | .startUDP _ _ | .syncClient _ => true
  | _ => false

/-- All that `StartTunnel` needs: the row and its status besides. -/
def starting : Task → Bool
  | .startTunnel _ | .setRunning _ | .startTCPListener _ _ | .startUDP _ _ | .syncClient _ => true
  | _ => false

/-- The protocols that `start` knows. -/
def runnable : List String := ["visitor_webrtc", "http", "https", "tcp", "udp", "p2p"]

/-! ## What a call does

A call of `StartTunnel` or `StopTunnel` changes nothing, or it sets the status of the tunnel.  In the
second case the client of the tunnel gets a snapshot, unless something has failed. -/

section Calls

variable {m m' : Manager} {task : Task} {choice : Choice} {rest choices : List Choice}
variable {log : List Snapshot} {err : Option String} {kind : Task → Bool}
variable {id clientID : String} {s s' : Store} {tunnel : Tunnel}

theorem goesWell_cons {next : Task} (stepped : Tunnels.step m task choice = some (m', next)) :
    goesWell kind task (choice :: rest) m = true ↔
      (kind task = true → choice.err = none) ∧ goesWell kind next rest m' = true := by
  rw [goesWell, stepped, Bool.and_eq_true, Bool.or_eq_true, Bool.not_eq_true', Option.isNone_iff_eq_none]
  cases kind task <;> simp

/-- What a call has done to the store, and what it has sent.  It is not `quiet` if it is `complete`, and
not `untold` if it is `heard`. -/
inductive Outcome (id clientID : String) (s : Store) (complete heard : Prop) :
    Store → List Snapshot → Prop
  | quiet (fault : ¬ complete) : Outcome id clientID s complete heard s []
  | told {status : TunnelStatus} {now : Time} {s' : Store}
      (written : s.setTunnelStatus id status now = .ok s') :
      Outcome id clientID s complete heard s' [(clientID, s'.listClientTunnels clientID)]
  | untold {status : TunnelStatus} {now : Time} {s' : Store}
      (written : s.setTunnelStatus id status now = .ok s') (fault : ¬ complete) (unheard : ¬ heard) :
      Outcome id clientID s complete heard s' []

theorem Outcome.mono {complete complete' heard heard' : Prop} {log : List Snapshot}
    (outcome : Outcome id clientID s complete heard s' log) (less : complete' → complete)
    (fewer : heard' → heard) : Outcome id clientID s complete' heard' s' log := by
  cases outcome with
  | quiet fault => exact .quiet (mt less fault)
  | told written => exact .told written
  | untold written fault unheard => exact .untold written (mt less fault) (mt fewer unheard)

theorem Outcome.told_of_complete {complete heard : Prop} {log : List Snapshot}
    (outcome : Outcome id clientID s complete heard s' log) (holds : complete) :
    log = [(clientID, s'.listClientTunnels clientID)] := by
  cases outcome with
  | quiet fault => exact absurd holds fault
  | told written => rfl
  | untold _ fault _ => exact absurd holds fault

/-- `SyncClient`. -/
theorem call_syncClient (called : call (.syncClient clientID) choices m = some (m', log, err)) :
    m' = m ∧ (log = [(clientID, m.store.listClientTunnels clientID)] ∨
      log = [] ∧ ∀ kind : Task → Bool, kind (.syncClient clientID) = true →
        goesWell kind (.syncClient clientID) choices m ≠ true) := by
  cases choices with
  | nil =>
      obtain ⟨returned, -, -⟩ := call_nil.mp called
      cases returned
  | cons choice rest =>
      obtain ⟨between, next, later, stepped, went, rfl⟩ := call_cons.mp called
      cases stepped
      cases rest with
      | cons _ _ =>
          obtain ⟨_, _, _, impossible, -⟩ := call_cons.mp went
          cases impossible
      | nil =>
          obtain ⟨-, rfl, rfl⟩ := call_nil.mp went
          refine ⟨rfl, ?_⟩
          cases choice with
          | go now => exact Or.inl rfl
          | failed message =>
              refine Or.inr ⟨rfl, fun kind counts fine => ?_⟩
              obtain ⟨succeeds, -⟩ := (goesWell_cons rfl).mp fine
              cases succeeds counts

/-- `stop`, called by a `StartTunnel` that gives up. -/
inductive Undoing : Task → Prop
  | stop (id message : String) : Undoing (.stop id (.startTunnel message))
  | release (id : String) (taken : Taken) (message : String) :
      Undoing (.stopRelease id taken (.startTunnel message))
  | close (id : String) (taken : Taken) (message : String) :
      Undoing (.stopClose id taken (.startTunnel message))
  | stopped (id : String) (err : Option String) (message : String) :
      Undoing (.stopped id err (.startTunnel message))
  | returned (err : Option String) : Undoing (.returned err)

theorem call_undoing (undoing : Undoing task) (called : call task choices m = some (m', log, err)) :
    m'.store = m.store ∧ log = [] := by
  induction choices generalizing m task log with
  | nil =>
      obtain ⟨-, rfl, rfl⟩ := call_nil.mp called
      exact ⟨rfl, rfl⟩
  | cons choice rest ih =>
      obtain ⟨between, next, later, stepped, went, rfl⟩ := call_cons.mp called
      have onwards : Undoing next ∧ between.store = m.store ∧ sent m task choice = [] := by
        cases undoing with
        | stop id message =>
            cases stepped
            exact ⟨.release _ _ _, rfl, rfl⟩
        | release id taken message =>
            cases stepped
            exact ⟨.close _ _ _, rfl, rfl⟩
        | close id taken message =>
            cases step_action stepped with
            | leave _ entry _ => cases entry
            | nothingToClose _ _ _ => exact ⟨.stopped _ _ _, rfl, rfl⟩
            | stopClose _ _ _ => exact ⟨.stopped _ _ _, rfl, rfl⟩
        | stopped id err message =>
            cases step_action stepped with
            | leave _ entry _ => cases entry
            | startGivesUp _ _ _ _ => exact ⟨.returned _, rfl, rfl⟩
        | returned err => cases stepped
      obtain ⟨undoing, store, silent⟩ := onwards
      obtain ⟨same, rfl⟩ := ih undoing went
      exact ⟨same.trans store, by rw [silent]; rfl⟩

/-- `stop`, called by `StopTunnel`. -/
inductive Stopping (id clientID : String) : Task → Prop
  | stop : Stopping id clientID (.stop id (.stopTunnel clientID))
  | release (taken : Taken) : Stopping id clientID (.stopRelease id taken (.stopTunnel clientID))
  | close (taken : Taken) : Stopping id clientID (.stopClose id taken (.stopTunnel clientID))
  | stopped (err : Option String) : Stopping id clientID (.stopped id err (.stopTunnel clientID))

/-- Up to the status, `StopTunnel` leaves the store alone. -/
theorem step_stopping {next : Task} (stopping : Stopping id clientID task)
    (stepped : Tunnels.step m task choice = some (m', next)) :
    sent m task choice = [] ∧
      ((m'.store = m.store ∧ (Stopping id clientID next ∨ ∃ err, next = .returned err)) ∨
        ∃ now, m.store.setTunnelStatus id .stopped now = .ok m'.store ∧
          next = .syncClient clientID) := by
  cases stopping with
  | stop =>
      cases stepped
      exact ⟨rfl, Or.inl ⟨rfl, Or.inl (.release _)⟩⟩
  | release taken =>
      cases stepped
      exact ⟨rfl, Or.inl ⟨rfl, Or.inl (.close _)⟩⟩
  | close taken =>
      cases step_action stepped with
      | leave _ entry _ => cases entry
      | nothingToClose _ _ _ => exact ⟨rfl, Or.inl ⟨rfl, Or.inl (.stopped _)⟩⟩
      | stopClose _ _ _ => exact ⟨rfl, Or.inl ⟨rfl, Or.inl (.stopped _)⟩⟩
  | stopped err =>
      cases step_action stepped with
      | leave _ entry _ => cases entry
      | stopFails _ _ _ _ => exact ⟨rfl, Or.inl ⟨rfl, Or.inr ⟨_, rfl⟩⟩⟩
      | setStopped _ written => exact ⟨rfl, Or.inr ⟨_, written, rfl⟩⟩
      | setStoppedFails _ _ _ _ _ => exact ⟨rfl, Or.inl ⟨rfl, Or.inr ⟨_, rfl⟩⟩⟩

theorem call_stopping (stopping : Stopping id clientID task)
    (called : call task choices m = some (m', log, err)) :
    Outcome id clientID m.store False (goesWell reading task choices m = true) m'.store log := by
  induction choices generalizing m task log with
  | nil =>
      obtain ⟨rfl, -, -⟩ := call_nil.mp called
      cases stopping
  | cons choice rest ih =>
      obtain ⟨between, next, later, stepped, went, rfl⟩ := call_cons.mp called
      have well := @goesWell_cons m between task choice rest reading next stepped
      obtain ⟨silent, ⟨same, onwards⟩ | ⟨now, written, rfl⟩⟩ := step_stopping stopping stepped
      · rw [silent, List.nil_append, ← same]
        rcases onwards with onwards | ⟨message, rfl⟩
        · exact (ih onwards went).mono False.elim fun fine => (well.mp fine).2
        · obtain ⟨stored, rfl⟩ := call_undoing (.returned message) went
          rw [stored]
          exact .quiet not_false
      · rw [silent, List.nil_append]
        obtain ⟨rfl, rfl | ⟨rfl, unread⟩⟩ := call_syncClient went
        · exact .told written
        · exact .untold written not_false fun fine => unread reading rfl (well.mp fine).2

/-- `start`, called by `StartTunnel`, as long as nothing has failed. -/
inductive Starting (tunnel : Tunnel) : Task → Prop
  | relay : Starting tunnel (.tryRelayStart tunnel .startTunnel)
  | listen : Starting tunnel (.startTCPListener tunnel .startTunnel)
  | listenUDP : Starting tunnel (.startUDP tunnel .startTunnel)
  | bind (assignment : TunnelAssignment) :
      Starting tunnel (.bindRelayTunnel tunnel assignment (.tryRelayStart .startTunnel))
  | unbound : Starting tunnel (.unbound tunnel (.tryRelayStart .startTunnel))
  | bound (binding : Resource) :
      Starting tunnel (.bound tunnel binding (.tryRelayStart .startTunnel))
  | running : Starting tunnel (.setRunning tunnel)

/-- Up to the status, `StartTunnel` leaves the store alone. -/
theorem step_starting {next : Task} (begun : Starting tunnel task)
    (found : m.store.getTunnel tunnel.id = .ok tunnel)
    (stepped : Tunnels.step m task choice = some (m', next)) :
    sent m task choice = [] ∧
      ((m'.store = m.store ∧ (Starting tunnel next ∨
          ((∃ message, next = .setError tunnel message) ∧ listening task = true ∧ choice.err ≠ none) ∨
          (Undoing next ∧ task = .setRunning tunnel ∧ choice.err ≠ none))) ∨
        ∃ now, m.store.setTunnelStatus tunnel.id .running now = .ok m'.store ∧
          next = .syncClient tunnel.clientID) := by
  cases begun with
  | relay =>
      cases step_action stepped with
      | leave _ entry _ => cases entry
      | noRelay _ _ _ _ => exact ⟨rfl, Or.inl ⟨rfl, Or.inl .listen⟩⟩
      | relay _ _ _ assignment _ => exact ⟨rfl, Or.inl ⟨rfl, Or.inl (.bind assignment)⟩⟩
  | listen =>
      cases step_action stepped with
      | leave _ entry _ => cases entry
      | listening _ _ _ => exact ⟨rfl, Or.inl ⟨rfl, Or.inl .running⟩⟩
      | listen _ _ _ => exact ⟨rfl, Or.inl ⟨rfl, Or.inl .running⟩⟩
      | listenFails _ _ message _ =>
          exact ⟨rfl, Or.inl ⟨rfl, Or.inr (Or.inl ⟨⟨message, rfl⟩, rfl, nofun⟩)⟩⟩
  | listenUDP =>
      cases step_action stepped with
      | leave _ entry _ => cases entry
      | runningUDP _ _ _ => exact ⟨rfl, Or.inl ⟨rfl, Or.inl .running⟩⟩
      | listenUDP _ _ _ => exact ⟨rfl, Or.inl ⟨rfl, Or.inl .running⟩⟩
      | listenUDPFails _ message _ =>
          exact ⟨rfl, Or.inl ⟨rfl, Or.inr (Or.inl ⟨⟨message, rfl⟩, rfl, nofun⟩)⟩⟩
  | bind assignment =>
      cases step_action stepped with
      | leave _ entry _ => cases entry
      | bind _ _ _ _ => exact ⟨rfl, Or.inl ⟨rfl, Or.inl (.bound _)⟩⟩
      | bindFails _ _ _ _ => exact ⟨rfl, Or.inl ⟨rfl, Or.inl .unbound⟩⟩
  | unbound =>
      cases step_action stepped with
      | leave _ entry _ => cases entry
      | release _ _ _ _ => exact ⟨rfl, Or.inl ⟨rfl, Or.inl .listen⟩⟩
  | bound binding =>
      cases step_action stepped with
      | leave _ entry _ => cases entry
      | put _ _ _ _ => exact ⟨rfl, Or.inl ⟨rfl, Or.inl .running⟩⟩
  | running =>
      cases step_action stepped with
      | leave _ entry _ => cases entry
      | setRunning written => exact ⟨rfl, Or.inr ⟨_, written, rfl⟩⟩
      | setRunningFails _ _ message refused =>
          refine ⟨rfl, Or.inl ⟨rfl, Or.inr (Or.inr ⟨.stop _ _, rfl, ?_⟩)⟩⟩
          cases choice with
          | failed _ => nofun
          | go now =>
              obtain ⟨_, written, -⟩ := setTunnelStatus_of_getTunnel found .running now
              rw [Manager.setTunnelStatus, written] at refused
              cases refused

/-- A `StartTunnel` that has failed. -/
theorem call_setError {message : String}
    (called : call (.setError tunnel message) choices m = some (m', log, err)) :
    log = [] ∧ (m'.store = m.store ∨
      ∃ now, m.store.setTunnelStatus tunnel.id .error now = .ok m'.store) := by
  cases choices with
  | nil =>
      obtain ⟨returned, -, -⟩ := call_nil.mp called
      cases returned
  | cons choice rest =>
      obtain ⟨between, next, later, stepped, went, rfl⟩ := call_cons.mp called
      cases step_action stepped with
      | leave _ entry _ => cases entry
      | setError _ written =>
          obtain ⟨same, rfl⟩ := call_undoing (.returned _) went
          exact ⟨rfl, Or.inr ⟨_, by rw [same]; exact written⟩⟩
      | setErrorFails _ _ _ _ _ =>
          obtain ⟨same, rfl⟩ := call_undoing (.returned _) went
          exact ⟨rfl, Or.inl same⟩

theorem outcome_setError {message : String} {complete heard : Prop}
    (called : call (.setError tunnel message) choices m = some (m', log, err))
    (fault : ¬ complete) (unheard : ¬ heard) :
    Outcome tunnel.id tunnel.clientID m.store complete heard m'.store log := by
  obtain ⟨rfl, same | ⟨now, written⟩⟩ := call_setError called
  · rw [same]
    exact .quiet fault
  · exact .untold written fault unheard

theorem listening_le_starting {task : Task} (counts : listening task = true) :
    starting task = true := by
  cases task <;> first | rfl | cases counts

theorem call_starting (begun : Starting tunnel task)
    (found : m.store.getTunnel tunnel.id = .ok tunnel)
    (called : call task choices m = some (m', log, err)) :
    Outcome tunnel.id tunnel.clientID m.store (goesWell starting task choices m = true)
      (goesWell listening task choices m = true) m'.store log := by
  induction choices generalizing m task log with
  | nil =>
      obtain ⟨rfl, -, -⟩ := call_nil.mp called
      cases begun
  | cons choice rest ih =>
      obtain ⟨between, next, later, stepped, went, rfl⟩ := call_cons.mp called
      have all := @goesWell_cons m between task choice rest starting next stepped
      have heard := @goesWell_cons m between task choice rest listening next stepped
      obtain ⟨silent, ⟨same, onwards⟩ | ⟨now, written, rfl⟩⟩ := step_starting begun found stepped
      · rw [silent, List.nil_append, ← same]
        rcases onwards with onwards | ⟨⟨message, rfl⟩, listens, fails⟩ | ⟨undoing, rfl, fails⟩
        · exact (ih onwards (same ▸ found) went).mono (fun fine => (all.mp fine).2)
            fun fine => (heard.mp fine).2
        · exact outcome_setError went
            (fun fine => fails ((all.mp fine).1 (listening_le_starting listens)))
            fun fine => fails ((heard.mp fine).1 listens)
        · obtain ⟨stored, rfl⟩ := call_undoing undoing went
          rw [stored]
          exact .quiet fun fine => fails ((all.mp fine).1 rfl)
      · rw [silent, List.nil_append]
        obtain ⟨rfl, rfl | ⟨rfl, unread⟩⟩ := call_syncClient went
        · exact .told written
        · exact .untold written (fun fine => unread starting rfl (all.mp fine).2)
            fun fine => unread listening rfl (heard.mp fine).2

/-- `start` knows the protocol, or fails. -/
theorem start_cases (tunnel : Tunnel) :
    Starting tunnel (Tunnels.start tunnel .startTunnel) ∨
      (tunnel.protocol ∉ runnable ∧
        ∃ message, Tunnels.start tunnel .startTunnel = .setError tunnel message) := by
  unfold Tunnels.start
  split
  · exact Or.inl .running
  split
  · exact Or.inl .running
  split
  · exact Or.inl .relay
  split
  · exact Or.inl .listenUDP
  split
  · rename_i visitor http tcp udp p2p
    refine Or.inr ⟨?_, _, rfl⟩
    rw [not_or] at http
    simp [runnable, visitor, http, tcp, udp, p2p]
  · exact Or.inl .listen

/-- `StartTunnel`, of a tunnel that is there. -/
theorem call_startTunnel (found : m.store.getTunnel id = .ok tunnel)
    (called : call (.startTunnel id) choices m = some (m', log, err)) :
    Outcome id tunnel.clientID m.store
      (tunnel.protocol ∈ runnable ∧ goesWell starting (.startTunnel id) choices m = true)
      (tunnel.protocol ∈ runnable ∧ goesWell listening (.startTunnel id) choices m = true)
      m'.store log := by
  obtain ⟨-, rfl, -⟩ := select_of_getTunnel found
  cases choices with
  | nil =>
      obtain ⟨returned, -, -⟩ := call_nil.mp called
      cases returned
  | cons choice rest =>
      obtain ⟨between, next, later, stepped, went, rfl⟩ := call_cons.mp called
      have all := @goesWell_cons m between _ choice rest starting next stepped
      have heard := @goesWell_cons m between _ choice rest listening next stepped
      cases choice with
      | failed message =>
          cases stepped
          obtain ⟨stored, rfl⟩ := call_undoing (.returned _) went
          rw [stored]
          exact .quiet fun fine => nomatch (all.mp fine.2).1 rfl
      | go now =>
          simp only [Tunnels.step, Manager.getTunnel, found] at stepped
          cases stepped
          rcases start_cases tunnel with begun | ⟨unknown, message, starts⟩
          · exact (call_starting begun found went).mono (fun fine => (all.mp fine.2).2)
              fun fine => (heard.mp fine.2).2
          · rw [starts] at went
            exact outcome_setError went (fun fine => unknown fine.1) fun fine => unknown fine.1

/-- `StopTunnel`, of a tunnel that is there. -/
theorem stopTunnel_outcome (found : m.store.getTunnel id = .ok tunnel)
    (called : call (.stopTunnel id) choices m = some (m', log, err)) :
    Outcome id tunnel.clientID m.store False
      (goesWell reading (.stopTunnel id) choices m = true) m'.store log := by
  cases choices with
  | nil =>
      obtain ⟨returned, -, -⟩ := call_nil.mp called
      cases returned
  | cons choice rest =>
      obtain ⟨between, next, later, stepped, went, rfl⟩ := call_cons.mp called
      have heard := @goesWell_cons m between _ choice rest reading next stepped
      cases choice with
      | failed message =>
          cases stepped
          obtain ⟨stored, rfl⟩ := call_undoing (.returned _) went
          rw [stored]
          exact .quiet not_false
      | go now =>
          simp only [Tunnels.step, Manager.getTunnel, found] at stepped
          cases stepped
          exact (call_stopping .stop went).mono False.elim fun fine => (heard.mp fine).2

/-- A call for a tunnel that is not there. -/
theorem call_missing {message : String} (absent : m.store.getTunnel id = .error message)
    (entry : task = .startTunnel id ∨ task = .stopTunnel id)
    (called : call task choices m = some (m', log, err)) : m'.store = m.store ∧ log = [] := by
  cases choices with
  | nil =>
      obtain ⟨rfl, -, -⟩ := call_nil.mp called
      rcases entry with impossible | impossible <;> cases impossible
  | cons choice rest =>
      obtain ⟨between, next, later, stepped, went, rfl⟩ := call_cons.mp called
      have read : ∃ cause, m.getTunnel id choice = .error cause := by
        cases choice with
        | failed cause => exact ⟨cause, rfl⟩
        | go now => exact ⟨message, absent⟩
      obtain ⟨cause, read⟩ := read
      rcases entry with rfl | rfl
      · simp only [Tunnels.step, read] at stepped
        cases stepped
        obtain ⟨same, rfl⟩ := call_undoing (.returned _) went
        exact ⟨same, rfl⟩
      · simp only [Tunnels.step, read] at stepped
        cases stepped
        obtain ⟨same, rfl⟩ := call_undoing (.returned _) went
        exact ⟨same, rfl⟩

end Calls

end NryNet.TunnelApi

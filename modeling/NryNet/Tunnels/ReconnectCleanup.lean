import NryNet.Control.Hub
import NryNet.Lib.ThreadPool

/-!
# The reconnect grace (`server/tunnel/reconnect_cleanup.go`)

When the control session of an agent ends, its data streams are left alone for a while: the agent may
come back.  `scheduleReconnectCleanup` sets a timer, `cancelReconnectCleanup` takes it back, and a
timer that expires cuts the streams with `DisconnectActiveClient`.  Every schedule and every cancel
raises the epoch of the client, so that a timer which has been overtaken finds another epoch than its
own and gives up.

The epochs are guarded by the mutex of the manager, the sessions by the mutex of the hub, and nobody
holds both: `expireReconnectCleanup` looks at the epoch, lets go, looks at the hub, lets go, and looks
at the epoch again.  It then cuts the streams with the mutex of the manager in its hands, and the hub
is free meanwhile.  A session is visible in the hub before its connect handler raises the epoch, so an
agent that comes back after the timer has looked at the hub is cut all the same.

## The model

A goroutine is a session being served, a call of `Manager.DisconnectClient`, any other caller of
`unregister`, or a timer of the runtime, which fires at most once and only if it was not stopped.
`mu` is the mutex of the manager while a timer cuts streams; the other critical sections are atomic,
and wait for it to be free.  Two fields are ghosts: `bumps` counts the schedules and cancels of a
client that have been completed, and a timer has the number of the schedule that set it.

What the handlers do besides (UDP sessions, pending visitors, tunnel paths) touches neither the epochs
nor the tables of the hub and is left out, and so is the broker: what matters is when the two halves
of `DisconnectActiveClient` run.
-/

namespace NryNet.Tunnels.Reconnect

open ThreadPool
open NryNet.Control

/-- What a timer was set for: a client, the epoch it was set in, and the number of the schedule. -/
structure Ticket where
  clientID : String
  epoch : UInt64
  number : ℕ
  deriving DecidableEq, Repr

/-- A `*time.Timer`; `pending` until it fires or is stopped. -/
structure Timer where
  ticket : Ticket
  pending : Bool
  deriving DecidableEq, Repr

/-- The tables of the hub and what the manager knows about reconnecting clients. -/
structure State where
  hub : Hub
  sessions : ℕ
  mu : Bool
  reconnectTimers : GoMap String ℕ
  reconnectEpochs : GoMap String UInt64
  timers : List Timer
  bumps : String → ℕ

/-- What follows a disconnect handler. -/
inductive After where
  | nothing
  /-- `register` returns and the session is served -/
  | serve (conn : ℕ) (clientID : String)
  /-- `Manager.DisconnectClient` goes on -/
  | cancel (clientID : String)
  deriving DecidableEq, Repr

/-- A goroutine at one of its program points. -/
inductive Task where
  /-- `serveTransport`, before `register` -/
  | accepted (clientID : String)
  /-- before `scheduleReconnectCleanup` -/
  | schedule (clientID : String) (after : After)
  /-- before the connect handler, which begins with `cancelReconnectCleanup` -/
  | connect (conn : ℕ) (clientID : String)
  /-- in `readLoop` -/
  | serving (conn : ℕ) (clientID : String)
  /-- before `unregister` -/
  | unregister (conn : ℕ) (clientID : String) (after : After)
  /-- before `Manager.DisconnectClient` -/
  | disconnectClient (clientID : String)
  /-- `Manager.DisconnectClient`, before `cancelReconnectCleanup` -/
  | cancel (clientID : String)
  /-- a timer that may fire -/
  | timer (index : ℕ)
  /-- `expireReconnectCleanup`, before the first look at the epoch -/
  | fired (ticket : Ticket)
  /-- before `ConnectedAt` -/
  | look (ticket : Ticket)
  /-- before the second look at the epoch -/
  | recheck (ticket : Ticket)
  /-- in `DisconnectActiveClient`, before `connections.disconnect` -/
  | disconnect (ticket : Ticket)
  /-- in `DisconnectActiveClient`, before `workers.closeClient` -/
  | closeWorkers (ticket : Ticket)
  | finished
  deriving DecidableEq, Repr

def After.resume : After → Task
  | .nothing => .finished
  | .serve conn clientID => .connect conn clientID
  | .cancel clientID => .cancel clientID

namespace State

/-- `m.reconnectEpochs[clientID]`. -/
def epoch (s : State) (clientID : String) : UInt64 :=
  (s.reconnectEpochs.lookup clientID).getD 0

/-- `m.reconnectEpochs[clientID]++`. -/
def bump (s : State) (clientID : String) : State :=
  { s with
    reconnectEpochs := s.reconnectEpochs.insert clientID (s.epoch clientID + 1)
    bumps := fun other => s.bumps other + if other = clientID then 1 else 0 }

/-- `Stop` on the timer of a client, if it has one. -/
def stopTimer (s : State) (clientID : String) : State :=
  match s.reconnectTimers.lookup clientID with
  | none => s
  | some index =>
      { s with timers := s.timers.modify index fun timer => { timer with pending := false } }

/-- `scheduleReconnectCleanup`. -/
def scheduleReconnectCleanup (s : State) (clientID : String) : State :=
  let s := (s.stopTimer clientID).bump clientID
  { s with
    reconnectTimers := s.reconnectTimers.insert clientID s.timers.length
    timers := s.timers ++ [⟨⟨clientID, s.epoch clientID, s.bumps clientID⟩, true⟩] }

/-- `cancelReconnectCleanup`. -/
def cancelReconnectCleanup (s : State) (clientID : String) : State :=
  let s := s.stopTimer clientID
  { s with reconnectTimers := s.reconnectTimers.erase clientID }.bump clientID

/-- `register` of a new session. -/
def register (s : State) (clientID : String) : State :=
  { s with hub := s.hub.register clientID s.sessions, sessions := s.sessions + 1 }

/-- One action of a goroutine; `none` is one that waits for the mutex, or for ever. -/
def step (s : State) : Task → Option (State × Task × List Task)
  | .accepted clientID =>
      -- the disconnect handler is called for a session that is replaced
      match s.hub.conns.lookup clientID with
      | none => some (s.register clientID, .connect s.sessions clientID, [])
      | some _ => some (s.register clientID, .schedule clientID (.serve s.sessions clientID), [])
  | .schedule clientID after =>
      if s.mu then none else some (s.scheduleReconnectCleanup clientID, after.resume, [])
  | .connect conn clientID =>
      if s.mu then none else some (s.cancelReconnectCleanup clientID, .serving conn clientID, [])
  | .serving conn clientID => some (s, .unregister conn clientID .nothing, [])
  | .unregister conn clientID after =>
      match s.hub.unregister clientID conn with
      | (hub, true) => some ({ s with hub := hub }, .schedule clientID after, [])
      | (_, false) => some (s, after.resume, [])
  | .disconnectClient clientID =>
      match s.hub.conns.lookup clientID with
      | none => some (s, .schedule clientID (.cancel clientID), [])
      | some conn => some (s, .unregister conn clientID (.cancel clientID), [])
  | .cancel clientID =>
      if s.mu then none else some (s.cancelReconnectCleanup clientID, .finished, [])
  | .timer index =>
      match s.timers[index]? with
      | none => none
      | some timer =>
          if timer.pending then
            some ({ s with timers := s.timers.set index { timer with pending := false } },
              .fired timer.ticket, [])
          else none
  | .fired ticket =>
      if s.mu then none
      else some (s, if s.epoch ticket.clientID ≠ ticket.epoch then .finished else .look ticket, [])
  | .look ticket =>
      some (s, if (s.hub.connected.lookup ticket.clientID).isSome then .finished else .recheck ticket,
        [])
  | .recheck ticket =>
      if s.mu then none
      else if s.epoch ticket.clientID ≠ ticket.epoch then some (s, .finished, [])
      else
        some ({ s with mu := true, reconnectTimers := s.reconnectTimers.erase ticket.clientID },
          .disconnect ticket, [])
  | .disconnect ticket => some (s, .closeWorkers ticket, [])
  | .closeWorkers _ => some ({ s with mu := false }, .finished, [])
  | .finished => none

end State

/-- The goroutines that start on their own. -/
def Task.arrives : Task → Bool
  | .accepted _ | .unregister _ _ .nothing | .disconnectClient _ | .timer _ => true
  | _ => false

/-- The hub, the manager and everybody who calls them. -/
def reconnectCleanup : Machine State Task Unit where
  entry := Task.arrives
  step s task _ := s.step task

/-- A manager that has just been made. -/
def reconnectStart (store : Store) (now : Time) : Config State Task where
  shared :=
    { hub := .newHub store now
      sessions := 0
      mu := false
      reconnectTimers := ∅
      reconnectEpochs := ∅
      timers := []
      bumps := fun _ => 0 }
  threads := []

/-- What a goroutine that has begun `expireReconnectCleanup` was set for. -/
def Task.ticket : Task → Option Ticket
  | .fired ticket | .look ticket | .recheck ticket | .disconnect ticket | .closeWorkers ticket =>
      some ticket
  | _ => none

/-- The timer has found no session in the hub, and has not finished. -/
def Task.looked : Task → Option Ticket
  | .recheck ticket | .disconnect ticket | .closeWorkers ticket => some ticket
  | _ => none

/-- The `DisconnectActiveClient` of a timer is running. -/
def Task.cutting : Task → Option Ticket
  | .disconnect ticket | .closeWorkers ticket => some ticket
  | _ => none

/-- Whether a goroutine holds the mutex of the manager between its steps. -/
def Task.holds (task : Task) : ℕ :=
  if task.cutting.isSome then 1 else 0

/-! ## What a step can do -/

/-- The actions of the goroutines. -/
inductive Action (s : State) : Task → State → Task → Prop
  | register {clientID : String} {next : Task} (quiet : next.ticket = none) :
      Action s (.accepted clientID) (s.register clientID) next
  | unregister {conn : ℕ} {clientID : String} {after : After} {hub : Hub}
      (removed : s.hub.unregister clientID conn = (hub, true)) :
      Action s (.unregister conn clientID after) { s with hub := hub } (.schedule clientID after)
  | schedule {clientID : String} (after : After) (free : s.mu = false) :
      Action s (.schedule clientID after) (s.scheduleReconnectCleanup clientID) after.resume
  | connect {conn : ℕ} {clientID : String} (free : s.mu = false) :
      Action s (.connect conn clientID) (s.cancelReconnectCleanup clientID) (.serving conn clientID)
  | cancel {clientID : String} (free : s.mu = false) :
      Action s (.cancel clientID) (s.cancelReconnectCleanup clientID) .finished
  | fire {index : ℕ} {timer : Timer} (present : s.timers[index]? = some timer) :
      Action s (.timer index) { s with timers := s.timers.set index { timer with pending := false } }
        (.fired timer.ticket)
  | check (ticket : Ticket) : Action s (.fired ticket) s (.look ticket)
  | look {ticket : Ticket} (missing : s.hub.connected.lookup ticket.clientID = none) :
      Action s (.look ticket) s (.recheck ticket)
  | enter {ticket : Ticket} (free : s.mu = false)
      (current : s.epoch ticket.clientID = ticket.epoch) :
      Action s (.recheck ticket)
        { s with mu := true, reconnectTimers := s.reconnectTimers.erase ticket.clientID }
        (.disconnect ticket)
  | cut (ticket : Ticket) : Action s (.disconnect ticket) s (.closeWorkers ticket)
  | leave (ticket : Ticket) : Action s (.closeWorkers ticket) { s with mu := false } .finished
  /-- nothing changes, and the goroutine goes on without a ticket -/
  | move {task next : Task} (outside : task.cutting = none) (quiet : next.ticket = none) :
      Action s task s next

section Actions

variable {s s' : State} {task task' : Task} {spawned : List Task}

theorem After.ticket_resume (after : After) : after.resume.ticket = none := by
  cases after <;> rfl

theorem action_of_step (stepped : s.step task = some (s', task', spawned)) :
    Action s task s' task' ∧ spawned = [] := by
  cases task with
  | accepted clientID =>
      rw [State.step] at stepped
      split at stepped <;> cases stepped
      · exact ⟨.register rfl, rfl⟩
      · exact ⟨.register rfl, rfl⟩
  | schedule clientID after =>
      rw [State.step] at stepped
      split at stepped <;> cases stepped
      rename_i free
      exact ⟨.schedule after (by simpa using free), rfl⟩
  | connect conn clientID =>
      rw [State.step] at stepped
      split at stepped <;> cases stepped
      rename_i free
      exact ⟨.connect (by simpa using free), rfl⟩
  | serving conn clientID =>
      cases stepped
      exact ⟨.move rfl rfl, rfl⟩
  | unregister conn clientID after =>
      rw [State.step] at stepped
      split at stepped <;> cases stepped
      · rename_i removed
        exact ⟨.unregister removed, rfl⟩
      · exact ⟨.move rfl after.ticket_resume, rfl⟩
  | disconnectClient clientID =>
      rw [State.step] at stepped
      split at stepped <;> cases stepped
      · exact ⟨.move rfl rfl, rfl⟩
      · exact ⟨.move rfl rfl, rfl⟩
  | cancel clientID =>
      rw [State.step] at stepped
      split at stepped <;> cases stepped
      rename_i free
      exact ⟨.cancel (by simpa using free), rfl⟩
  | timer index =>
      rw [State.step] at stepped
      split at stepped
      · cases stepped
      · rename_i timer present
        split at stepped <;> cases stepped
        exact ⟨.fire present, rfl⟩
  | fired ticket =>
      rw [State.step] at stepped
      split at stepped <;> cases stepped
      split
      · exact ⟨.move rfl rfl, rfl⟩
      · exact ⟨.check ticket, rfl⟩
  | look ticket =>
      cases stepped
      split
      · exact ⟨.move rfl rfl, rfl⟩
      · rename_i missing
        exact ⟨.look (by simpa using missing), rfl⟩
  | recheck ticket =>
      rw [State.step] at stepped
      split at stepped
      · cases stepped
      · rename_i free
        split at stepped <;> cases stepped
        · exact ⟨.move rfl rfl, rfl⟩
        · rename_i current
          exact ⟨.enter (by simpa using free) (not_not.mp current), rfl⟩
  | disconnect ticket =>
      cases stepped
      exact ⟨.cut ticket, rfl⟩
  | closeWorkers ticket =>
      cases stepped
      exact ⟨.leave ticket, rfl⟩
  | finished => cases stepped

end Actions

/-! ## Schedules and cancels -/

/-- What a schedule and a cancel have in common: the epoch is raised, and the timers are the old ones
and perhaps one that was set for this epoch. -/
structure Bumped (s : State) (clientID : String) (s' : State) : Prop where
  hub : s'.hub = s.hub
  mu : s'.mu = s.mu
  epoch : ∀ other, s'.epoch other = if other = clientID then s.epoch clientID + 1 else s.epoch other
  bumps : ∀ other, s'.bumps other = s.bumps other + if other = clientID then 1 else 0
  timers : ∀ timer ∈ s'.timers, (∃ old ∈ s.timers, old.ticket = timer.ticket) ∨
    timer.ticket = ⟨clientID, s'.epoch clientID, s'.bumps clientID⟩

namespace State

variable {s : State} {clientID : String}

theorem epoch_bump (s : State) (clientID other : String) :
    (s.bump clientID).epoch other =
      if other = clientID then s.epoch clientID + 1 else s.epoch other := by
  unfold bump epoch
  simp only
  rw [GoMap.lookup_insert_if]
  split <;> rfl

/-- A stopped timer keeps its ticket. -/
theorem ticket_stopTimer (s : State) (clientID : String) :
    ∀ timer ∈ (s.stopTimer clientID).timers, ∃ old ∈ s.timers, old.ticket = timer.ticket := by
  intro timer member
  unfold stopTimer at member
  split at member
  · exact ⟨timer, member, rfl⟩
  · obtain ⟨position, located⟩ := List.mem_iff_getElem?.mp member
    rw [List.getElem?_modify, Option.map_eq_map, Option.map_eq_some_iff] at located
    obtain ⟨old, present, built⟩ := located
    refine ⟨old, List.mem_of_getElem? present, ?_⟩
    rw [← built]
    split <;> rfl

theorem stopTimer_same (s : State) (clientID : String) :
    (s.stopTimer clientID).hub = s.hub ∧ (s.stopTimer clientID).mu = s.mu ∧
      (s.stopTimer clientID).reconnectEpochs = s.reconnectEpochs ∧
      (s.stopTimer clientID).bumps = s.bumps := by
  unfold stopTimer
  split <;> exact ⟨rfl, rfl, rfl, rfl⟩

theorem bumped_cancelReconnectCleanup : Bumped s clientID (s.cancelReconnectCleanup clientID) := by
  obtain ⟨hub, mu, epochs, bumps⟩ := s.stopTimer_same clientID
  have same (other : String) : (s.stopTimer clientID).epoch other = s.epoch other := by
    unfold epoch
    rw [epochs]
  refine ⟨hub, mu, fun other => ?_, fun other => ?_, fun timer member => ?_⟩
  · unfold cancelReconnectCleanup
    rw [epoch_bump]
    exact congrArg₂ (fun a b => if other = clientID then a + 1 else b) (same clientID) (same other)
  · show (s.stopTimer clientID).bumps other + _ = _
    rw [bumps]
  · exact Or.inl (s.ticket_stopTimer clientID timer member)

theorem bumped_scheduleReconnectCleanup :
    Bumped s clientID (s.scheduleReconnectCleanup clientID) := by
  obtain ⟨hub, mu, epochs, bumps⟩ := s.stopTimer_same clientID
  have same (other : String) : (s.stopTimer clientID).epoch other = s.epoch other := by
    unfold epoch
    rw [epochs]
  refine ⟨hub, mu, fun other => ?_, fun other => ?_, fun timer member => ?_⟩
  · show ((s.stopTimer clientID).bump clientID).epoch other = _
    rw [epoch_bump, same, same]
  · show (s.stopTimer clientID).bumps other + _ = _
    rw [bumps]
  · rcases List.mem_append.mp member with old | new
    · exact Or.inl (s.ticket_stopTimer clientID timer old)
    · rw [List.mem_singleton.mp new]
      exact Or.inr rfl

end State

/-! ## The epochs

What holds as long as the epochs do not wrap around: a timer that is cutting streams has not been
overtaken, since nobody raises an epoch while it holds the mutex. -/

/-- The epoch of the client is not about to wrap around. -/
def Counted (config : Config State Task) : Task → Prop
  | .schedule clientID _ | .connect _ clientID | .cancel clientID =>
      config.shared.bumps clientID + 1 < 2 ^ 64
  | _ => True

/-- The ticket was issued in some epoch. -/
structure Ticket.Issued (bumps : String → ℕ) (ticket : Ticket) : Prop where
  epoch : ticket.epoch = UInt64.ofNat ticket.number
  number : ticket.number ≤ bumps ticket.clientID

structure Dated (config : Config State Task) : Prop where
  exclusive : config.total Task.holds = if config.shared.mu then 1 else 0
  epochs : ∀ clientID, config.shared.epoch clientID = UInt64.ofNat (config.shared.bumps clientID) ∧
    config.shared.bumps clientID < 2 ^ 64
  timers : ∀ timer ∈ config.shared.timers, timer.ticket.Issued config.shared.bumps
  tickets : ∀ task ∈ config.threads, ∀ ticket ∈ task.ticket, ticket.Issued config.shared.bumps
  cutting : ∀ task ∈ config.threads, ∀ ticket ∈ task.cutting,
    ticket.number = config.shared.bumps ticket.clientID

section Epochs

variable {s s' : State} {task task' : Task} {clientID : String} {ticket : Ticket}
variable {config : Config State Task} {index : ℕ}

theorem Task.cutting_of_ticket (quiet : task.ticket = none) : task.cutting = none := by
  cases task <;> first | rfl | cases quiet

theorem Task.holds_of_cutting (outside : task.cutting = none) : task.holds = 0 := by
  unfold Task.holds
  rw [outside]
  rfl

theorem Task.ticket_of_looked (looked : task.looked = some ticket) : task.ticket = some ticket := by
  cases task <;> first | exact looked | cases looked

theorem Task.looked_of_cutting (cutting : task.cutting = some ticket) : task.looked = some ticket := by
  cases task <;> first | exact cutting | cases cutting

theorem Ticket.Issued.bumped (issued : ticket.Issued s.bumps) (bumped : Bumped s clientID s') :
    ticket.Issued s'.bumps := by
  refine ⟨issued.epoch, issued.number.trans ?_⟩
  rw [bumped.bumps]
  exact Nat.le_add_right _ _

/-- While the mutex is free nobody cuts streams. -/
theorem Dated.not_cutting (dated : Dated config) (free : config.shared.mu = false)
    (member : task ∈ config.threads) : task.cutting = none := by
  have bound : task.holds ≤ config.total Task.holds := Config.le_total member
  rw [dated.exclusive, free, if_neg Bool.false_ne_true] at bound
  cases cutting : task.cutting with
  | none => rfl
  | some ticket =>
      unfold Task.holds at bound
      rw [cutting, Option.isSome_some, if_pos rfl] at bound
      omega

/-- A ticket of the current epoch has the number of the last schedule. -/
theorem Dated.current (dated : Dated config) (issued : ticket.Issued config.shared.bumps)
    (current : config.shared.epoch ticket.clientID = ticket.epoch) :
    ticket.number = config.shared.bumps ticket.clientID := by
  obtain ⟨epoch, bound⟩ := dated.epochs ticket.clientID
  rw [epoch, issued.epoch] at current
  have numbers := congrArg UInt64.toNat current
  rw [UInt64.toNat_ofNat_of_lt' bound,
    UInt64.toNat_ofNat_of_lt' (issued.number.trans_lt bound)] at numbers
  exact numbers.symm

/-- A step that raises no epoch and sets no timer. -/
theorem Dated.frame (dated : Dated config) (present : config.threads[index]? = some task)
    (mu : (task'.holds = task.holds ∧ s'.mu = config.shared.mu) ∨
      (task.holds = 0 ∧ task'.holds = 1 ∧ config.shared.mu = false ∧ s'.mu = true) ∨
      (task.holds = 1 ∧ task'.holds = 0 ∧ s'.mu = false))
    (epochs : s'.reconnectEpochs = config.shared.reconnectEpochs)
    (bumps : s'.bumps = config.shared.bumps)
    (timers : ∀ timer ∈ s'.timers, ∃ old ∈ config.shared.timers, old.ticket = timer.ticket)
    (tickets : ∀ ticket ∈ task'.ticket, ticket.Issued config.shared.bumps)
    (cutting : ∀ ticket ∈ task'.cutting, ticket.number = config.shared.bumps ticket.clientID) :
    Dated { shared := s', threads := config.threads.set index task' ++ [] } := by
  refine ⟨?_, fun clientID => ?_, fun timer member => ?_, fun other member => ?_,
    fun other member => ?_⟩
  · exact Machine.mutex_run Task.holds State.mu s' task' [] present dated.exclusive
      (fun _ impossible => nomatch impossible) mu
  · unfold State.epoch
    simp only
    rw [epochs, bumps]
    exact dated.epochs clientID
  · obtain ⟨old, before, same⟩ := timers timer member
    simp only
    rw [bumps, ← same]
    exact dated.timers old before
  · simp only
    rw [bumps]
    rcases Machine.mem_threads_of_step member with rfl | impossible | old
    · exact tickets
    · cases impossible
    · exact dated.tickets other old
  · simp only
    rw [bumps]
    rcases Machine.mem_threads_of_step member with rfl | impossible | old
    · exact cutting
    · cases impossible
    · exact dated.cutting other old

/-- A schedule or a cancel. -/
theorem Dated.bumped (dated : Dated config) (present : config.threads[index]? = some task)
    (free : config.shared.mu = false) (bumped : Bumped config.shared clientID s')
    (counted : config.shared.bumps clientID + 1 < 2 ^ 64) (outside : task.cutting = none)
    (quiet : task'.ticket = none) :
    Dated { shared := s', threads := config.threads.set index task' ++ [] } := by
  have epochs (other : String) :
      s'.epoch other = UInt64.ofNat (s'.bumps other) ∧ s'.bumps other < 2 ^ 64 := by
    obtain ⟨epoch, bound⟩ := dated.epochs other
    rw [bumped.epoch, bumped.bumps]
    by_cases own : other = clientID
    · subst own
      rw [if_pos rfl, if_pos rfl, epoch]
      exact ⟨(UInt64.ofNat_add _ _).symm, counted⟩
    · rw [if_neg own, if_neg own]
      exact ⟨epoch, bound⟩
  refine ⟨?_, epochs, fun timer member => ?_, fun other member ticket own => ?_,
    fun other member ticket own => ?_⟩
  · refine Machine.mutex_run Task.holds State.mu s' task' [] present dated.exclusive
      (fun _ impossible => nomatch impossible) (Or.inl ⟨?_, bumped.mu⟩)
    rw [Task.holds_of_cutting outside, Task.holds_of_cutting (Task.cutting_of_ticket quiet)]
  · rcases bumped.timers timer member with ⟨old, before, same⟩ | new
    · rw [← same]
      exact (dated.timers old before).bumped bumped
    · rw [new]
      exact ⟨(epochs clientID).1, le_rfl⟩
  · rcases Machine.mem_threads_of_step member with rfl | impossible | old
    · rw [quiet] at own
      cases own
    · cases impossible
    · exact (dated.tickets other old ticket own).bumped bumped
  · rcases Machine.mem_threads_of_step member with rfl | impossible | old
    · rw [Task.cutting_of_ticket quiet] at own
      cases own
    · cases impossible
    · rw [dated.not_cutting free old] at own
      cases own

/-- **One action keeps the account of the epochs.** -/
theorem Dated.step (dated : Dated config) (present : config.threads[index]? = some task)
    (counted : Counted config task) (action : Action config.shared task s' task') :
    Dated { shared := s', threads := config.threads.set index task' ++ [] } := by
  have own := List.mem_of_getElem? present
  have kept : ∀ timer ∈ config.shared.timers, ∃ old ∈ config.shared.timers,
      old.ticket = timer.ticket := fun timer member => ⟨timer, member, rfl⟩
  have unticketed {next : Task} (quiet : next.ticket = none) :
      (∀ ticket ∈ next.ticket, ticket.Issued config.shared.bumps) ∧
        ∀ ticket ∈ next.cutting, ticket.number = config.shared.bumps ticket.clientID := by
    rw [Task.cutting_of_ticket quiet, quiet]
    exact ⟨fun _ impossible => (nomatch impossible), fun _ impossible => (nomatch impossible)⟩
  have silent {next : Task} (quiet : next.ticket = none) : next.holds = 0 :=
    Task.holds_of_cutting (Task.cutting_of_ticket quiet)
  cases action with
  | register quiet =>
      exact dated.frame present (Or.inl ⟨silent quiet, rfl⟩) rfl rfl kept (unticketed quiet).1
        (unticketed quiet).2
  | unregister removed =>
      exact dated.frame present (Or.inl ⟨rfl, rfl⟩) rfl rfl kept (unticketed rfl).1 (unticketed rfl).2
  | schedule after free =>
      exact dated.bumped present free State.bumped_scheduleReconnectCleanup counted rfl
        after.ticket_resume
  | connect free =>
      exact dated.bumped present free State.bumped_cancelReconnectCleanup counted rfl rfl
  | cancel free =>
      exact dated.bumped present free State.bumped_cancelReconnectCleanup counted rfl rfl
  | @fire position timer found =>
      refine dated.frame present (Or.inl ⟨rfl, rfl⟩) rfl rfl (fun other member => ?_) ?_
        fun _ impossible => nomatch impossible
      · rcases List.mem_or_eq_of_mem_set member with old | rfl
        · exact ⟨other, old, rfl⟩
        · exact ⟨timer, List.mem_of_getElem? found, rfl⟩
      · intro ticket same
        cases same
        exact dated.timers timer (List.mem_of_getElem? found)
  | check ticket =>
      exact dated.frame present (Or.inl ⟨rfl, rfl⟩) rfl rfl kept (dated.tickets (.fired ticket) own)
        fun _ impossible => nomatch impossible
  | @look ticket missing =>
      exact dated.frame present (Or.inl ⟨rfl, rfl⟩) rfl rfl kept (dated.tickets (.look ticket) own)
        fun _ impossible => nomatch impossible
  | @enter ticket free current =>
      -- the mutex is taken, and the epoch is that of the ticket
      refine dated.frame present (Or.inr (Or.inl ⟨rfl, rfl, free, rfl⟩)) rfl rfl kept
        (dated.tickets (.recheck ticket) own) fun ticket' same => ?_
      cases same
      exact dated.current (dated.tickets (.recheck ticket) own ticket rfl) current
  | cut ticket =>
      exact dated.frame present (Or.inl ⟨rfl, rfl⟩) rfl rfl kept
        (dated.tickets (.disconnect ticket) own) (dated.cutting (.disconnect ticket) own)
  | leave ticket =>
      exact dated.frame present (Or.inr (Or.inr ⟨rfl, rfl, rfl⟩)) rfl rfl kept (unticketed rfl).1
        (unticketed rfl).2
  | move outside quiet =>
      refine dated.frame present (Or.inl ⟨?_, rfl⟩) rfl rfl kept (unticketed quiet).1
        (unticketed quiet).2
      rw [silent quiet, Task.holds_of_cutting outside]

/-- Those who arrive have no ticket. -/
theorem Task.ticket_of_arrives (arrives : task.arrives = true) : task.ticket = none := by
  cases task <;> first | rfl | cases arrives

theorem Dated.arrive (dated : Dated config) (arrives : task.arrives = true) :
    Dated { config with threads := config.threads ++ [task] } := by
  have quiet := Task.ticket_of_arrives arrives
  refine ⟨?_, dated.epochs, dated.timers, fun other member => ?_, fun other member => ?_⟩
  · rw [← dated.exclusive]
    unfold Config.total
    rw [List.map_append, List.sum_append, List.map_singleton, List.sum_singleton,
      Task.holds_of_cutting (Task.cutting_of_ticket quiet), Nat.add_zero]
  · rcases List.mem_append.mp member with old | new
    · exact dated.tickets other old
    · rw [List.mem_singleton.mp new, quiet]
      exact fun _ impossible => nomatch impossible
  · rcases List.mem_append.mp member with old | new
    · exact dated.cutting other old
    · rw [List.mem_singleton.mp new, Task.cutting_of_ticket quiet]
      exact fun _ impossible => nomatch impossible

theorem dated_reconnectStart (store : Store) (now : Time) : Dated (reconnectStart store now) :=
  ⟨rfl, fun _ => ⟨rfl, by show 0 < 2 ^ 64; decide⟩, fun _ impossible => (nomatch impossible),
    fun _ impossible => (nomatch impossible), fun _ impossible => (nomatch impossible)⟩

end Epochs

/-! ## The hub -/

/-- A timer that has found no session is right about that, as long as it is current. -/
structure Watched (config : Config State Task) : Prop where
  agree : ∀ clientID, config.shared.hub.connected.lookup clientID = none ↔
    config.shared.hub.conns.lookup clientID = none
  looked : ∀ task ∈ config.threads, ∀ ticket ∈ task.looked,
    ticket.number = config.shared.bumps ticket.clientID →
      config.shared.hub.conns.lookup ticket.clientID = none

/-- What must not happen: a session registers while a timer of its client that is still current
stands between its look at the hub and the end of its `DisconnectActiveClient`.  Nor may an epoch wrap
around. -/
def Careful (config : Config State Task) : Task → Prop
  | .accepted clientID => ∀ task ∈ config.threads, ∀ ticket ∈ task.looked,
      ticket.clientID = clientID → config.shared.epoch clientID ≠ ticket.epoch
  | task => Counted config task

instance (config : Config State Task) (task : Task) : Decidable (Careful config task) := by
  unfold Careful
  split
  · infer_instance
  · unfold Counted
    split <;> infer_instance

section Hub

variable {s' : State} {task task' : Task} {config : Config State Task} {index : ℕ}

theorem Careful.counted (careful : Careful config task) : Counted config task := by
  cases task <;> trivial

/-- A step that leaves the hub alone, after which nobody is watching who was not. -/
theorem Watched.frame (watched : Watched config) (hub : s'.hub = config.shared.hub)
    (bumps : ∀ other ∈ config.threads, ∀ ticket ∈ other.looked,
      ticket.number = s'.bumps ticket.clientID →
        ticket.number = config.shared.bumps ticket.clientID)
    (next : ∀ ticket ∈ task'.looked, ticket.number = s'.bumps ticket.clientID →
      config.shared.hub.conns.lookup ticket.clientID = none) :
    Watched { shared := s', threads := config.threads.set index task' ++ [] } := by
  refine ⟨?_, fun other member ticket looked current => ?_⟩
  · simp only
    rw [hub]
    exact watched.agree
  · simp only at current ⊢
    rw [hub]
    rcases Machine.mem_threads_of_step member with rfl | impossible | old
    · exact next ticket looked current
    · cases impossible
    · exact watched.looked other old ticket looked (bumps other old ticket looked current)

/-- After a schedule or a cancel the tickets that were current are not. -/
theorem Watched.bumped {clientID : String} (watched : Watched config) (dated : Dated config)
    (bumped : Bumped config.shared clientID s') (quiet : task'.ticket = none) :
    Watched { shared := s', threads := config.threads.set index task' ++ [] } := by
  refine watched.frame bumped.hub (fun other member ticket looked current => ?_) ?_
  · have issued := (dated.tickets other member ticket (Task.ticket_of_looked looked)).number
    rw [bumped.bumps] at current
    split at current
    · omega
    · exact current
  · intro ticket looked
    rw [Task.ticket_of_looked looked] at quiet
    cases quiet

/-- **One action keeps the watch.** -/
theorem Watched.step (watched : Watched config) (dated : Dated config)
    (present : config.threads[index]? = some task) (careful : Careful config task)
    (action : Action config.shared task s' task') :
    Watched { shared := s', threads := config.threads.set index task' ++ [] } := by
  have own := List.mem_of_getElem? present
  have unlooked {next : Task} {bumps : String → ℕ} (quiet : next.ticket = none) :
      ∀ ticket ∈ next.looked, ticket.number = bumps ticket.clientID →
        config.shared.hub.conns.lookup ticket.clientID = none := by
    intro ticket looked
    rw [Task.ticket_of_looked looked] at quiet
    cases quiet
  cases action with
  | @register clientID next quiet =>
      refine ⟨fun other => ?_, fun other member ticket looked current => ?_⟩
      · show AList.lookup other (AList.insert clientID _ _) = none ↔
          AList.lookup other (AList.insert clientID _ _) = none
        rw [GoMap.lookup_insert_if, GoMap.lookup_insert_if]
        split
        · exact ⟨fun impossible => (nomatch impossible), fun impossible => (nomatch impossible)⟩
        · exact watched.agree other
      · rcases Machine.mem_threads_of_step member with rfl | impossible | old
        · rw [Task.ticket_of_looked looked] at quiet
          cases quiet
        · cases impossible
        · -- nobody of this client is watching with a current ticket
          have different : ticket.clientID ≠ clientID := by
            rintro rfl
            have issued := dated.tickets other old ticket (Task.ticket_of_looked looked)
            refine careful other old ticket looked rfl ?_
            rw [(dated.epochs ticket.clientID).1, issued.epoch, current]
            rfl
          show (config.shared.hub.register clientID config.shared.sessions).conns.lookup _ = none
          rw [Hub.conns_register, if_neg different]
          exact watched.looked other old ticket looked current
  | @unregister conn clientID after hub removed =>
      have lookup (other : String) : hub.conns.lookup other =
          if other = clientID ∧ config.shared.hub.conns.lookup clientID = some conn then none
          else config.shared.hub.conns.lookup other := by
        rw [← Hub.conns_unregister, removed]
      refine ⟨fun other => ?_, fun other member ticket looked current => ?_⟩
      · unfold Hub.unregister at removed
        split at removed <;> cases removed
        show AList.lookup other (AList.erase clientID _) = none ↔
          AList.lookup other (AList.erase clientID _) = none
        rw [GoMap.lookup_erase_if, GoMap.lookup_erase_if]
        split
        · exact iff_of_true rfl rfl
        · exact watched.agree other
      · show hub.conns.lookup ticket.clientID = none
        rw [lookup]
        split
        · rfl
        · rcases Machine.mem_threads_of_step member with rfl | impossible | old
          · cases looked
          · cases impossible
          · exact watched.looked other old ticket looked current
  | schedule after free =>
      exact watched.bumped dated State.bumped_scheduleReconnectCleanup after.ticket_resume
  | connect free => exact watched.bumped dated State.bumped_cancelReconnectCleanup rfl
  | cancel free => exact watched.bumped dated State.bumped_cancelReconnectCleanup rfl
  | fire found =>
      exact watched.frame rfl (fun _ _ _ _ same => same) fun _ impossible => nomatch impossible
  | check ticket =>
      exact watched.frame rfl (fun _ _ _ _ same => same) fun _ impossible => nomatch impossible
  | @look ticket missing =>
      refine watched.frame rfl (fun _ _ _ _ same => same) fun ticket' looked _ => ?_
      cases looked
      exact (watched.agree _).mp missing
  | @enter ticket free current =>
      exact watched.frame rfl (fun _ _ _ _ same => same) (watched.looked (.recheck ticket) own)
  | cut ticket =>
      exact watched.frame rfl (fun _ _ _ _ same => same) (watched.looked (.disconnect ticket) own)
  | leave ticket =>
      exact watched.frame rfl (fun _ _ _ _ same => same) fun _ impossible => nomatch impossible
  | move outside quiet =>
      exact watched.frame rfl (fun _ _ _ _ same => same) (unlooked quiet)

theorem Watched.arrive (watched : Watched config) (arrives : task.arrives = true) :
    Watched { config with threads := config.threads ++ [task] } := by
  refine ⟨watched.agree, fun other member ticket looked current => ?_⟩
  rcases List.mem_append.mp member with old | new
  · exact watched.looked other old ticket looked current
  · have quiet := Task.ticket_of_arrives arrives
    rw [← List.mem_singleton.mp new, Task.ticket_of_looked looked] at quiet
    cases quiet

end Hub

variable {config : Config State Task} {store : Store} {now : Time}

/-- Both accounts are kept along a run. -/
theorem watched_of_careful
    (reached : reconnectCleanup.Run (Machine.AtStep Careful) (reconnectStart store now) config) :
    Dated config ∧ Watched config := by
  refine reached.step_invariant (fun config => Dated config ∧ Watched config)
    ⟨dated_reconnectStart store now, fun _ => Iff.rfl, fun _ impossible => nomatch impossible⟩ ?_ ?_
  · rintro config task ⟨dated, watched⟩ arrives
    exact ⟨dated.arrive arrives, watched.arrive arrives⟩
  · rintro config index _ task s' task' spawned ⟨dated, watched⟩ present careful stepped
    obtain ⟨action, rfl⟩ := action_of_step stepped
    exact ⟨dated.step present careful.counted action,
      watched.step dated present careful action⟩

/-- **The reconnect grace cuts no live agent.**  In every run in which no session of a client
registers while a current timer of the client stands between its look at the hub and the end of its
`DisconnectActiveClient` (and no epoch wraps around): whenever a `DisconnectActiveClient` of a timer
is running, the hub has no session for its client, and no cancel and no newer schedule for the client
has been completed. -/
theorem reconnect_grace_spares_live_agents
    (reached : reconnectCleanup.Run (Machine.AtStep Careful) (reconnectStart store now) config)
    {task : Task} (member : task ∈ config.threads) {ticket : Ticket}
    (cutting : task.cutting = some ticket) :
    config.shared.hub.conns.lookup ticket.clientID = none ∧
      config.shared.bumps ticket.clientID = ticket.number := by
  obtain ⟨dated, watched⟩ := watched_of_careful reached
  have current := dated.cutting task member ticket cutting
  exact ⟨watched.looked task member ticket (Task.looked_of_cutting cutting) current, current.symm⟩

/-! ## Two runs -/

/-- Some steps of one goroutine. -/
def steps (index count : ℕ) : List (Move Task Unit) :=
  List.replicate count (.run index ())

/-- A session comes and goes, and the timer it leaves behind has looked at the hub. -/
def expiredMoves : List (Move Task Unit) :=
  .arrive (.accepted "client-1") :: steps 0 5 ++ .arrive (.timer 0) :: steps 1 3

/-- The agent comes back before the timer looks at the epoch again.  The new session is registered
and its connect handler has not run. -/
theorem returning_agent_cut :
    ∃ config, reconnectCleanup.Run (fun _ _ => True) (reconnectStart .empty 0) config ∧
      .disconnect ⟨"client-1", 2, 2⟩ ∈ config.threads ∧
      config.shared.hub.conns.lookup "client-1" = some 1 := by
  refine Machine.exists_run_of_replay
    (expiredMoves ++ .arrive (.accepted "client-1") :: steps 2 1 ++ steps 1 1) ?_
  decide +kernel

/-- An agent that stays away is cut. -/
theorem reconnect_grace_spares_live_agents_away :
    ∃ config, reconnectCleanup.Run (Machine.AtStep Careful) (reconnectStart .empty 0) config ∧
      .disconnect ⟨"client-1", 2, 2⟩ ∈ config.threads ∧
      config.shared.hub.conns.lookup "client-1" = none ∧ config.shared.bumps "client-1" = 2 := by
  obtain ⟨config, reached, member⟩ :
      ∃ config, reconnectCleanup.Run (Machine.AtStep Careful) (reconnectStart .empty 0) config ∧
        .disconnect ⟨"client-1", 2, 2⟩ ∈ config.threads := by
    refine Machine.exists_run_of_replay (expiredMoves ++ steps 1 1) ?_
    decide +kernel
  exact ⟨config, reached, member, reconnect_grace_spares_live_agents reached member rfl⟩

end NryNet.Tunnels.Reconnect

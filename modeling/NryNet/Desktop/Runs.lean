import NryNet.Desktop.Service

/-!
# The runs of the agent do not get in each other's way

`cancel` is set exactly while the service is not disconnected, and it belongs to the run whose number the
service has.  A call that takes over from a run cancels its context before it returns, and a report under
any other number changes nothing.

A run whose agent stops by itself is not cancelled: `setStopped` forgets the cancel function without
calling it, and nothing is left that could be cancelled (`two_uncancelled`).  So what holds of the others
is said of the runs whose agent is running or about to be started: `Task.drives`.
-/

namespace NryNet.Desktop

open ThreadPool GoText

namespace Task

/-- The run that a goroutine belongs to, until it is done with it. -/
def carried : Task → Option ℕ
  | .cancelPrevious _ run _ | .newAgent _ run _ | .cancelFailed _ run _ _ | .stopFailed _ run _ _
  | .runAgent run | .agentReturned run _ | .setStopped run _ => some run
  | _ => none

/-- The run whose agent the goroutine is about to start, or is running. -/
def drives : Task → Option ℕ
  | .cancelPrevious _ run _ | .newAgent _ run _ | .runAgent run => some run
  | _ => none

/-- The run that has lost its place and that the goroutine is about to cancel. -/
def superseding : Task → Option ℕ
  | .cancelPrevious _ _ previous | .cancelDisconnected previous => previous
  | _ => none

/-- The run that the goroutine has cancelled because it has taken its place. -/
def superseded : Task → Option ℕ
  | .newAgent _ _ previous | .cancelFailed _ _ previous _ | .stopFailed _ _ previous _
  | .returned _ previous => previous
  | _ => none

/-- The run under whose number the goroutine speaks to the service. -/
def reports : Task → Option ℕ
  | .callback runID _ => some runID
  | .stopFailed _ run _ _ | .runAgent run | .agentReturned run _ | .setStopped run _ => some run
  | _ => none

theorem carried_of_drives {task : Task} {run : ℕ} (drives : task.drives = some run) :
    task.carried = some run := by
  cases task <;> first | exact drives | cases drives

end Task

/-! ## What a step does to the runs -/

/-- The status says whether there is a run, and the run is the one with the service's number. -/
structure Service.Healthy (s : Service) : Prop where
  cancel_eq_none : s.cancel = none ↔ s.status.state = .disconnected
  connected : s.status.connected = true → s.cancel ≠ none
  current : ∀ run, s.cancel = some run → run = s.runID

/-- A report leaves the runs alone, and keeps the status in order. -/
structure Reported (s s' : Service) : Prop where
  cancel : s'.cancel = s.cancel
  runID : s'.runID = s.runID
  cancelled : s'.cancelled = s.cancelled
  healthy : s.Healthy → s'.Healthy

/-- The steps, as far as the runs go. -/
inductive Turn (s : Service) : Task → Service → Task → List Task → Prop
  | installed {caller : Caller} {restart : Bool} (now : Time) :
      Turn s (.startConnection caller restart)
        { s with
          runID := s.runID + 1
          cancel := some (s.runID + 1)
          status := ⟨false, .connecting, "", 0, 0, some now, none⟩ }
        (.cancelPrevious caller (s.runID + 1) s.cancel) []
  | disconnected (now : Time) (message : String) :
      Turn s .disconnect
        ({ s with runID := s.runID + 1, cancel := none }.setStoppedLocked now message)
        (.cancelDisconnected s.cancel) []
  | cancelled {task task' : Task} (carries : task'.carried = task.carried)
      (drives : task'.drives = task.drives) (hence : task'.superseding = none)
      (superseded : task'.superseded = task.superseding) :
      Turn s task { s with cancelled := task.superseding.toList ++ s.cancelled } task' []
  | failed {caller : Caller} {run : ℕ} {previous : Option ℕ} {err message : String} :
      Turn s (.cancelFailed caller run previous err) { s with cancelled := run :: s.cancelled }
        (.stopFailed caller run previous message) []
  | launched {caller : Caller} {run : ℕ} {previous : Option ℕ} :
      Turn s (.newAgent caller run previous) s (.returned caller previous) [.runAgent run]
  | stopped {task task' : Task} {run : ℕ} (carries : task.carried = some run)
      (gone : task'.carried = none) (waits : task.superseding = none) (now : Time) (message : String)
      (superseded : task'.superseded = none ∨ task'.superseded = task.superseded) :
      Turn s task (s.setStopped now run message) task' []
  | reported {task task' : Task} {s' : Service} (report : Reported s s')
      (carries : task'.carried = none ∨ task'.carried = task.carried)
      (drives : task'.drives = none) (waits : task.superseding = none)
      (superseded : task'.superseded = none ∨ task'.superseded = task.superseded) :
      Turn s task s' task' []

section Steps

variable {s s' : Service} {task task' : Task} {choice : Choice} {spawned : List Task}

/-- Nothing that matters changes. -/
theorem Reported.refl (s : Service) : Reported s s :=
  ⟨rfl, rfl, rfl, id⟩

/-- There is a run, and the report changes the status to that of a run. -/
theorem Reported.of_run (runs : s.cancel ≠ none) (cancel : s'.cancel = s.cancel)
    (runID : s'.runID = s.runID) (cancelled : s'.cancelled = s.cancelled)
    (state : s'.status.state ≠ .disconnected ∨ s'.status.state = s.status.state) : Reported s s' := by
  refine ⟨cancel, runID, cancelled, fun healthy => ⟨?_, fun _ => ?_, fun run same => ?_⟩⟩
  · rw [cancel]
    refine ⟨fun none => absurd none runs, fun disconnected => ?_⟩
    rcases state with other | same
    · exact absurd disconnected other
    · exact healthy.cancel_eq_none.mpr (same.symm.trans disconnected)
  · rw [cancel]
    exact runs
  · rw [runID]
    rw [cancel] at same
    exact healthy.current run same

theorem reported_of_callback [CaseTable] (call : Callback) (runID : ℕ) :
    Reported s (call.run s runID) := by
  cases call with
  | sessionStarted =>
      simp only [Callback.run, Service.onSessionStarted]
      split
      · exact .refl s
      · rename_i current
        exact .of_run (fun none => current (.inr none)) rfl rfl rfl (.inl (nofun))
  | sessionEnded err =>
      simp only [Callback.run, Service.onSessionEnded]
      split
      · exact .refl s
      · rename_i current
        exact .of_run (fun none => current (.inr none)) rfl rfl rfl (.inl (nofun))
  | tunnelSnapshot tunnels =>
      simp only [Callback.run, Service.onTunnelSnapshot]
      split
      · exact .refl s
      · rename_i current
        exact .of_run (fun none => current (.inr none)) rfl rfl rfl (.inr rfl)
  | tunnelPath tunnelID path =>
      simp only [Callback.run, Service.onTunnelPath]
      split
      · exact .refl s
      · rename_i current
        exact .of_run (fun none => current (.inr (.inl none))) rfl rfl rfl (.inr rfl)
  | transfer direction bytes =>
      simp only [Callback.run, Service.onTransfer]
      split
      · exact .refl s
      · rename_i current
        split
        · exact .of_run (fun none => current (.inr none)) rfl rfl rfl (.inr rfl)
        · split
          · exact .of_run (fun none => current (.inr none)) rfl rfl rfl (.inr rfl)
          · exact .refl s

theorem turn_of_step [CaseTable] (stepped : task.step s choice = some (s', task', spawned)) :
    Turn s task s' task' spawned := by
  cases task with
  | saveConfig patch =>
      cases stepped
      exact .reported (.refl s) (.inl rfl) rfl rfl (.inl rfl)
  | saveFile patch previous =>
      simp only [Task.step] at stepped
      split at stepped <;> cases stepped
      · exact .reported (.refl s) (.inl rfl) rfl rfl (.inl rfl)
      · exact .reported ⟨rfl, rfl, rfl, fun healthy => ⟨healthy.1, healthy.2, healthy.3⟩⟩ (.inl rfl) rfl
          rfl (.inl rfl)
  | setAutoStart patch previous =>
      simp only [Task.step] at stepped
      split at stepped <;> cases stepped <;>
        exact .reported (.refl s) (.inl rfl) rfl rfl (.inl rfl)
  | assign patch previous =>
      cases stepped
      have report : Reported s { s with cfg := patch.apply previous } :=
        ⟨rfl, rfl, rfl, fun healthy => ⟨healthy.1, healthy.2, healthy.3⟩⟩
      refine .reported report (.inl ?_) ?_ rfl (.inl ?_) <;> split <;> rfl
  | startConnection caller restart =>
      simp only [Task.step] at stepped
      split at stepped
      · cases stepped
        exact .reported (.refl s) (.inl rfl) rfl rfl (.inl rfl)
      · split at stepped <;> cases stepped
        · exact .reported (.refl s) (.inl rfl) rfl rfl (.inl rfl)
        · exact .installed choice.now
  | cancelPrevious caller run previous =>
      cases stepped
      exact .cancelled rfl rfl rfl rfl
  | newAgent caller run previous =>
      simp only [Task.step] at stepped
      split at stepped <;> cases stepped
      · exact .reported (.refl s) (.inr rfl) rfl rfl (.inr rfl)
      · exact .launched
  | cancelFailed caller run previous err =>
      cases stepped
      exact .failed
  | stopFailed caller run previous message =>
      cases stepped
      exact .stopped rfl rfl rfl _ _ (.inr rfl)
  | disconnect =>
      cases stepped
      exact .disconnected _ _
  | cancelDisconnected previous =>
      cases stepped
      exact .cancelled rfl rfl rfl rfl
  | runAgent run =>
      cases stepped
      exact .reported (.refl s) (.inr rfl) rfl rfl (.inl rfl)
  | agentReturned run err =>
      simp only [Task.step] at stepped
      split at stepped <;> cases stepped
      · exact .reported (.refl s) (.inl rfl) rfl rfl (.inl rfl)
      · exact .reported (.refl s) (.inr rfl) rfl rfl (.inl rfl)
  | setStopped run message =>
      cases stepped
      exact .stopped rfl rfl rfl _ _ (.inl rfl)
  | callback runID call =>
      cases stepped
      exact .reported (reported_of_callback call runID) (.inl rfl) rfl rfl (.inl rfl)
  | returned _ _ | failed _ | stopped _ | reported => cases stepped

theorem setStopped_cases (now : Time) (run : ℕ) (message : String) :
    (run ≠ s.runID ∧ s.setStopped now run message = s) ∨
      (run = s.runID ∧ s.setStopped now run message =
        { s with cancel := none }.setStoppedLocked now message) := by
  by_cases same : run = s.runID
  · exact .inr ⟨same, if_neg (not_not.mpr same)⟩
  · exact .inl ⟨same, if_pos same⟩

theorem healthy_of_turn (turn : Turn s task s' task' spawned) (healthy : s.Healthy) : s'.Healthy := by
  have idle (s : Service) (now : Time) (message : String) :
      ({ s with cancel := none }.setStoppedLocked now message).Healthy :=
    ⟨⟨fun _ => rfl, fun _ => rfl⟩, nofun, nofun⟩
  cases turn with
  | installed now => exact ⟨⟨nofun, nofun⟩, nofun, fun run same => (Option.some.inj same).symm⟩
  | disconnected now message => exact idle { s with runID := s.runID + 1 } now message
  | cancelled | failed => exact ⟨healthy.1, healthy.2, healthy.3⟩
  | launched => exact healthy
  | @stopped _ _ run carries gone waits now message superseded =>
      rcases setStopped_cases now run message with ⟨-, same⟩ | ⟨-, stopped⟩
      · rw [same]
        exact healthy
      · rw [stopped]
        exact idle s now message
  | reported report => exact report.healthy healthy

/-- A context that has been cancelled stays so. -/
theorem cancelled_of_turn (turn : Turn s task s' task' spawned) : s.cancelled ⊆ s'.cancelled := by
  cases turn with
  | cancelled => exact List.subset_append_right _ _
  | failed => exact List.subset_cons_self _ _
  | @stopped _ _ run carries gone waits now message superseded =>
      rcases setStopped_cases now run message with ⟨-, same⟩ | ⟨-, stopped⟩
      · rw [same]
        exact List.Subset.refl _
      · rw [stopped]
        exact List.Subset.refl _
  | reported report =>
      rw [report.cancelled]
      exact List.Subset.refl _
  | installed | disconnected | launched => exact List.Subset.refl _

/-- A run that a goroutine says it has cancelled has been. -/
theorem superseded_of_turn (turn : Turn s task s' task' spawned)
    (before : ∀ run, task.superseded = some run → run ∈ s.cancelled) :
    (∀ run, task'.superseded = some run → run ∈ s'.cancelled) ∧
      ∀ fresh ∈ spawned, fresh.superseded = none := by
  have kept := cancelled_of_turn turn
  have nobody : ∀ fresh ∈ ([] : List Task), fresh.superseded = none := fun _ member => (nomatch member)
  have inherits (same : task'.superseded = none ∨ task'.superseded = task.superseded) (run : ℕ)
      (superseded : task'.superseded = some run) : run ∈ s'.cancelled := by
    rcases same with none | same
    · rw [none] at superseded
      cases superseded
    · exact kept (before run (same.symm.trans superseded))
  cases turn with
  | installed | disconnected => exact ⟨inherits (.inl rfl), nobody⟩
  | cancelled carries drives hence superseded =>
      refine ⟨fun run same => List.mem_append_left _ ?_, nobody⟩
      rw [← superseded, same]
      exact List.mem_singleton_self run
  | failed => exact ⟨inherits (.inr rfl), nobody⟩
  | launched =>
      refine ⟨inherits (.inr rfl), fun fresh member => ?_⟩
      rw [List.mem_singleton.mp member]
      rfl
  | stopped carries gone waits now message superseded => exact ⟨inherits superseded, nobody⟩
  | reported report carries drives waits superseded => exact ⟨inherits superseded, nobody⟩

end Steps

/-! ## Who carries which run -/

/-- The runs that the goroutines carry. -/
def carriedRuns (config : Config Service Task) : Multiset ℕ :=
  config.gather fun task => task.carried.elim 0 fun run => {run}

theorem mem_carriedRuns {config : Config Service Task} {task : Task} {run : ℕ}
    (member : task ∈ config.threads) (carries : task.carried = some run) :
    run ∈ carriedRuns config := by
  refine Multiset.mem_of_le (Config.le_gather member) ?_
  rw [carries]
  exact Multiset.mem_singleton_self run

/-- Every run is carried once, under a number that has been given out; and one whose agent is running, or
about to be started, is the current one, or has been cancelled, or is about to be. -/
structure Attached (config : Config Service Task) : Prop where
  healthy : config.shared.Healthy
  numbered : ∀ run ∈ carriedRuns config, run ≤ config.shared.runID
  unique : (carriedRuns config).Nodup
  attached : ∀ task ∈ config.threads, ∀ run, task.drives = some run →
    run ∉ config.shared.cancelled → config.shared.cancel = some run ∨
      ∃ other ∈ config.threads, other.superseding = some run

section Runs

variable {config : Config Service Task} {index : ℕ} {s' : Service} {task task' : Task}
  {spawned : List Task}

/-- The pool after a step. -/
abbrev after (config : Config Service Task) (index : ℕ) (s' : Service) (task' : Task)
    (spawned : List Task) : Config Service Task :=
  ⟨s', config.threads.set index task' ++ spawned⟩

/-- A step gives out a new number, or carries on what was carried, or drops it. -/
theorem carriedRuns_of_turn (present : config.threads[index]? = some task)
    (turn : Turn config.shared task s' task' spawned) :
    config.shared.runID ≤ s'.runID ∧
    (carriedRuns (after config index s' task' spawned) ≤ carriedRuns config ∨
      s'.runID = config.shared.runID + 1 ∧ carriedRuns (after config index s' task' spawned) =
        {config.shared.runID + 1} + carriedRuns config) := by
  obtain ⟨others, before, later⟩ :=
    Machine.gather_step (fun task : Task => (task.carried.elim 0 fun run => {run} : Multiset ℕ)) present
  -- all steps but one spawn nothing
  have alone (s' : Service) (task' : Task) : carriedRuns (after config index s' task' []) =
      (task'.carried.elim 0 fun run => {run}) + others :=
    later s' task' [] fun _ member => (nomatch member)
  have same (s' : Service) {task' : Task} (carries : task'.carried = task.carried) :
      carriedRuns (after config index s' task' []) = carriedRuns config := by
    rw [alone, carries]
    exact before.symm
  have less (s' : Service) {task' : Task} (gone : task'.carried = none) :
      carriedRuns (after config index s' task' []) ≤ carriedRuns config := by
    rw [alone, gone, carriedRuns, before, Option.elim_none, zero_add]
    exact Multiset.le_add_left _ _
  cases turn with
  | installed now =>
      refine ⟨Nat.le_succ _, .inr ⟨rfl, ?_⟩⟩
      rw [alone, carriedRuns, before]
      simp only [Task.carried, Option.elim_some, Option.elim_none, zero_add]
  | disconnected now message => exact ⟨Nat.le_succ _, .inl (le_of_eq (same _ rfl))⟩
  | cancelled carries => exact ⟨Nat.le_refl _, .inl (same _ carries).le⟩
  | failed => exact ⟨Nat.le_refl _, .inl (le_of_eq (same _ rfl))⟩
  | @launched caller run previous =>
      have traded := Machine.gather_run
        (fun task : Task => (task.carried.elim 0 fun run => {run} : Multiset ℕ)) config.shared
        (.returned caller previous) [.runAgent run] present
      simp only [Task.carried, Option.elim_some, Option.elim_none, List.map_singleton,
        List.sum_singleton, add_zero] at traded
      exact ⟨Nat.le_refl _, .inl (add_right_cancel traded).le⟩
  | stopped carries gone waits now message =>
      refine ⟨?_, .inl (less _ gone)⟩
      rcases setStopped_cases now _ message with ⟨-, same⟩ | ⟨-, stopped⟩
      · rw [same]
      · rw [stopped]
        exact Nat.le_refl _
  | reported report carries =>
      refine ⟨report.runID.ge, .inl ?_⟩
      rcases carries with gone | carries
      · exact less _ gone
      · exact (same _ carries).le

/-- A run that a goroutine drives was driven before, or has just been installed. -/
theorem drives_of_turn (present : config.threads[index]? = some task)
    (turn : Turn config.shared task s' task' spawned) {other : Task} {run : ℕ}
    (member : other ∈ config.threads.set index task' ++ spawned) (drives : other.drives = some run) :
    s'.cancel = some run ∨ ∃ old ∈ config.threads, old.drives = some run := by
  have stepping : task ∈ config.threads := List.mem_of_getElem? present
  rcases Machine.mem_threads_of_step member with rfl | fresh | old
  · cases turn with
    | installed now => exact .inl drives
    | disconnected | launched | failed => cases drives
    | cancelled carries same => exact .inr ⟨task, stepping, same.symm.trans drives⟩
    | stopped carries gone =>
        rw [Task.carried_of_drives drives] at gone
        cases gone
    | reported report carries gone =>
        rw [gone] at drives
        cases drives
  · cases turn with
    | launched =>
        rw [List.mem_singleton.mp fresh] at drives
        exact .inr ⟨_, stepping, drives⟩
    | _ => cases fresh
  · exact .inr ⟨other, old, drives⟩

theorem attached_of_turn (attached : Attached config) (present : config.threads[index]? = some task)
    (turn : Turn config.shared task s' task' spawned) :
    Attached (after config index s' task' spawned) := by
  obtain ⟨grows, carries⟩ := carriedRuns_of_turn present turn
  have numbered : ∀ run ∈ carriedRuns (after config index s' task' spawned), run ≤ s'.runID := by
    intro run member
    rcases carries with less | ⟨next, more⟩
    · exact (attached.numbered run (Multiset.mem_of_le less member)).trans grows
    · rw [more, Multiset.mem_add, Multiset.mem_singleton] at member
      rcases member with rfl | old
      · exact next.ge
      · exact (attached.numbered run old).trans grows
  have unique : (carriedRuns (after config index s' task' spawned)).Nodup := by
    rcases carries with less | ⟨next, more⟩
    · exact Multiset.nodup_of_le less attached.unique
    · rw [more, Multiset.singleton_add]
      refine Multiset.nodup_cons.mpr ⟨fun old => ?_, attached.unique⟩
      exact absurd (attached.numbered _ old) (Nat.not_succ_le_self _)
  refine ⟨healthy_of_turn turn attached.healthy, numbered, unique, ?_⟩
  intro other member run drives uncancelled
  have remains (waits : task.superseding ≠ some run) {waiting : Task}
      (member : waiting ∈ config.threads) (superseding : waiting.superseding = some run) :
      ∃ waiting ∈ config.threads.set index task' ++ spawned, waiting.superseding = some run := by
    rcases Machine.mem_threads_after_step present member with rfl | remains
    · exact absurd superseding waits
    · exact ⟨waiting, remains, superseding⟩
  have last : task' ∈ config.threads.set index task' ++ spawned := Machine.stepped_mem_threads present
  rcases drives_of_turn present turn member drives with installed | ⟨old, before, drove⟩
  · exact .inl installed
  · have uncancelled' : run ∉ config.shared.cancelled :=
      fun cancelled => uncancelled (cancelled_of_turn turn cancelled)
    rcases attached.attached old before run drove uncancelled' with current | ⟨waiting, member', waits'⟩
    · cases turn with
      | installed | disconnected => exact .inr ⟨_, last, current⟩
      | cancelled | failed | launched => exact .inl current
      | @stopped _ _ stopping carried gone waits now message =>
          rcases setStopped_cases now stopping message with ⟨-, same⟩ | ⟨same, -⟩
          · exact .inl (by rw [same]; exact current)
          · -- the run that stops is carried by nobody else, so nobody drives it
            have equal : run = stopping := (attached.healthy.current run current).trans same.symm
            subst equal
            obtain ⟨others, whole, later⟩ := Machine.gather_step
              (fun task : Task => (task.carried.elim 0 fun run => {run} : Multiset ℕ)) present
            have still := mem_carriedRuns member (Task.carried_of_drives drives)
            rw [carriedRuns, later _ _ [] fun _ none => (nomatch none), gone, Option.elim_none,
              zero_add] at still
            have single := attached.unique
            rw [carriedRuns, whole, carried, Option.elim_some, Multiset.singleton_add] at single
            exact absurd still (Multiset.nodup_cons.mp single).1
      | reported report => exact .inl (report.cancel.trans current)
    · refine .inr ?_
      cases turn with
      | installed | disconnected | failed | launched => exact remains nofun member' waits'
      | cancelled carries drives hence =>
          refine remains (fun same => uncancelled (List.mem_append_left _ ?_)) member' waits'
          rw [same]
          exact List.mem_singleton_self run
      | stopped carried gone waits => exact remains (by rw [waits]; nofun) member' waits'
      | reported report carries drives waits => exact remains (by rw [waits]; nofun) member' waits'

/-- A report, or the end of an agent, under a number other than the current one changes nothing. -/
theorem report_ignored [CaseTable] {s : Service} {run : ℕ} {choice : Choice}
    (reports : task.reports = some run) (other : run ≠ s.runID)
    (stepped : task.step s choice = some (s', task', spawned)) : s' = s := by
  have stopped (now : Time) (message : String) : s.setStopped now run message = s := if_pos other
  cases task with
  | stopFailed caller run' previous message | setStopped run' message =>
      cases reports
      cases stepped
      exact stopped _ _
  | runAgent run' =>
      cases stepped
      rfl
  | agentReturned run' err =>
      simp only [Task.step] at stepped
      split at stepped <;> cases stepped <;> rfl
  | callback run' call =>
      cases reports
      cases stepped
      cases call with
      | tunnelPath tunnelID path => exact if_pos (.inl other)
      | _ => exact if_pos (.inl other)
  | _ => cases reports

variable [CaseTable] {file : DiskConfig} {cfg : AppConfig}

theorem attached_of_reachable (reached : desktop.Reachable ⟨.new file cfg, []⟩ config) :
    Attached config := by
  refine reached.reachable_invariant Attached ?_ ?_ ?_
  · exact ⟨⟨⟨fun _ => rfl, fun _ => rfl⟩, nofun, nofun⟩, fun _ none => (nomatch none),
      Multiset.nodup_zero, fun _ none => (nomatch none)⟩
  · intro config task attached arrives
    have none : task.carried = none ∧ task.drives = none := by
      cases task <;> first | exact ⟨rfl, rfl⟩ | cases arrives
    have same : carriedRuns { config with threads := config.threads ++ [task] } =
        carriedRuns config := by
      rw [carriedRuns, Config.gather_arrive, none.1]
      exact add_zero _
    refine ⟨attached.healthy, ?_, ?_, ?_⟩
    · rw [same]
      exact attached.numbered
    · rw [same]
      exact attached.unique
    · intro other member run drives uncancelled
      rcases List.mem_append.mp member with old | new
      · rcases attached.attached other old run drives uncancelled with current | ⟨waiting, old', waits⟩
        · exact .inl current
        · exact .inr ⟨waiting, List.mem_append_left _ old', waits⟩
      · rw [List.mem_singleton.mp new, none.2] at drives
        cases drives
  · intro config index choice task s' task' spawned attached present stepped
    exact attached_of_turn attached present (turn_of_step stepped)

theorem superseded_of_reachable (reached : desktop.Reachable ⟨.new file cfg, []⟩ config) :
    ∀ task ∈ config.threads, ∀ run, task.superseded = some run → run ∈ config.shared.cancelled := by
  refine (reached.pool_invariant (fun _ => True)
    (fun s task => ∀ run, task.superseded = some run → run ∈ s.cancelled)
    ⟨trivial, fun _ none => (nomatch none)⟩ ?_ ?_).2
  · intro s task _ arrives run superseded
    have none : task.superseded = none := by
      cases task <;> first | rfl | cases arrives
    rw [none] at superseded
    cases superseded
  · intro config index choice task s' task' spawned _ before present _ stepped
    have turn := turn_of_step stepped
    obtain ⟨own, born⟩ := superseded_of_turn turn (before task (List.mem_of_getElem? present))
    refine ⟨trivial, own, fun fresh member run superseded => ?_, fun other _ kept run superseded => ?_⟩
    · rw [born fresh member] at superseded
      cases superseded
    · exact cancelled_of_turn turn (kept run superseded)

/-- **The runs are isolated.**  In every state that any interleaving of calls, agents that stop and reports
leads to: there is a cancel function exactly while the service is not disconnected, and there is one
while it says that it is connected; a report or a termination under a number other than the current one
changes nothing; a call that has taken over from a run has cancelled it when it returns; and while no
call is in the middle of taking over, at most one run whose agent has not stopped is uncancelled. -/
theorem desktop_runs_isolated (reached : desktop.Reachable ⟨.new file cfg, []⟩ config) :
    (config.shared.cancel = none ↔ config.shared.status.state = .disconnected) ∧
    (config.shared.status.connected = true → config.shared.cancel ≠ none) ∧
    (∀ (task : Task) run choice s' task' spawned, task.reports = some run →
      run ≠ config.shared.runID → task.step config.shared choice = some (s', task', spawned) →
      s' = config.shared) ∧
    (∀ caller run, Task.returned caller (some run) ∈ config.threads →
      run ∈ config.shared.cancelled) ∧
    ((∀ task ∈ config.threads, task.superseding = none) →
      ∀ task ∈ config.threads, ∀ other ∈ config.threads, ∀ run run',
        task.drives = some run → other.drives = some run' →
        run ∉ config.shared.cancelled → run' ∉ config.shared.cancelled → run = run') := by
  have attached := attached_of_reachable reached
  refine ⟨attached.healthy.cancel_eq_none, attached.healthy.connected, ?_, ?_, ?_⟩
  · intro task run choice s' task' spawned reports other stepped
    exact report_ignored reports other stepped
  · intro caller run member
    exact superseded_of_reachable reached _ member run rfl
  · intro quiet task member other member' run run' drives drives' uncancelled uncancelled'
    have current {task : Task} {run : ℕ} (member : task ∈ config.threads)
        (drives : task.drives = some run) (uncancelled : run ∉ config.shared.cancelled) :
        config.shared.cancel = some run := by
      rcases attached.attached task member run drives uncancelled with current | ⟨waiting, old, waits⟩
      · exact current
      · rw [quiet waiting old] at waits
        cases waits
    exact Option.some.inj ((current member drives uncancelled).symm.trans
      (current member' drives' uncancelled'))

end Runs

/-! ## Two runs -/

/-- A client that has not been set up. -/
def unconfigured : Service := .new (AppConfig.toDisk {}) {}

/-- A call succeeds. -/
def succeeds : Choice := ⟨0, none⟩

/-- The agent panics. -/
def panics : Choice := ⟨0, some "agent panic: nil map"⟩

theorem desktop_runs_isolated_disconnect :
    let _ := CaseTable.ascii
    ∃ config, desktop.Reachable ⟨unconfigured, []⟩ config ∧
      Task.returned .disconnect (some 1) ∈ config.threads ∧ 1 ∈ config.shared.cancelled ∧
      config.shared.status.state = .disconnected ∧ config.shared.cancel = none := by
  intro _
  have run : ∃ config, desktop.Reachable ⟨unconfigured, []⟩ config ∧
      (config.threads = [.returned .connect none, .runAgent 1, .reported,
        .returned .disconnect (some 1)] ∧ config.shared.status.state = .disconnected) :=
    Machine.exists_run_of_replay
      [.arrive (.startConnection .connect false), .run 0 succeeds, .run 0 succeeds, .run 0 succeeds,
        .arrive (.callback 1 .sessionStarted), .run 2 succeeds, .arrive .disconnect, .run 3 succeeds,
        .run 3 succeeds]
      (by decide +kernel)
  obtain ⟨config, reached, threads, state⟩ := run
  obtain ⟨idle, -, -, superseded, -⟩ := desktop_runs_isolated reached
  have returned : Task.returned .disconnect (some 1) ∈ config.threads := by
    rw [threads]
    decide +kernel
  exact ⟨config, reached, returned, superseded _ _ returned, state, idle.mpr state⟩

/-- Two calls that change what the agent connects with. -/
def reconnects (name : String) : Task := .saveConfig { name := some name }

/-- **Two runs are uncancelled.**  The agent of the first run stops by itself.  All calls have returned
and the second run is connected, and the context of the first one has never been cancelled.  Or no agent
stops at all: of two overlapping restarts the second one cancels the run of the first one and returns,
and the first one has not yet cancelled the run that was there before. -/
theorem two_uncancelled :
    let _ := CaseTable.ascii
    (∃ config, desktop.Reachable ⟨unconfigured, []⟩ config ∧
      config.threads = [.returned .connect none, .stopped 1, .returned .connect none, .runAgent 2] ∧
      config.shared.cancel = some 2 ∧ config.shared.cancelled = []) ∧
    ∃ config, desktop.Reachable ⟨unconfigured, []⟩ config ∧
      config.threads = [.returned .connect none, .runAgent 1,
        .cancelPrevious (.saveConfig { name := some "desk" }) 2 (some 1),
        .returned (.saveConfig { name := some "laptop" }) (some 2), .runAgent 3] ∧
      config.shared.cancel = some 3 ∧ config.shared.cancelled = [2] := by
  intro _
  constructor
  · exact Machine.exists_run_of_replay
      [.arrive (.startConnection .connect false), .run 0 succeeds, .run 0 succeeds, .run 0 succeeds,
        .run 1 panics, .run 1 succeeds, .run 1 succeeds, .arrive (.startConnection .connect false),
        .run 2 succeeds, .run 2 succeeds, .run 2 succeeds]
      (by decide +kernel)
  · exact Machine.exists_run_of_replay
      (.arrive (.startConnection .connect false) :: List.replicate 3 (.run 0 succeeds) ++
        .arrive (reconnects "desk") :: List.replicate 5 (.run 2 succeeds) ++
        .arrive (reconnects "laptop") :: List.replicate 7 (.run 3 succeeds))
      (by decide +kernel)

end NryNet.Desktop

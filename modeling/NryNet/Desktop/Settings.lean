import NryNet.Desktop.Service

/-!
# No setting is lost, as long as the calls do not get in each other's way

`SaveConfig` applies its patch to a copy of the configuration, writes the copy into the file, and assigns
it.  The lock is held while it copies and while it assigns, but not in between.  So a call that assigns
what it has computed from an older configuration undoes what has happened since, in memory, in the file or
in both: `setting_lost`.

`Undisturbed` is the condition under which that does not happen.  It looks at the places where the calls
stand and at no configuration: when a call assigns, no other call stands between reading and assigning.
That memory is then still what the call has read, and that the file holds what it has written, is the
invariant `Kept`.
-/

namespace NryNet.Desktop

open ThreadPool GoText

/-- The patch of a call of the window. -/
def Caller.patch : Caller → Option AppConfigPatch
  | .saveConfig patch => some patch
  | _ => none

/-- A call of `SaveConfig` that has read the configuration and has not assigned one. -/
structure Unfinished where
  patch : AppConfigPatch
  previous : AppConfig
  written : Bool

namespace Task

/-- The patch of a call of `SaveConfig` that has assigned the configuration. -/
def assigned : Task → Option AppConfigPatch
  | .startConnection caller _ | .cancelPrevious caller _ _ | .newAgent caller _ _
  | .cancelFailed caller _ _ _ | .stopFailed caller _ _ _ | .returned caller _ => caller.patch
  | _ => none

/-- The patch of a call of `SaveConfig`. -/
def saves : Task → Option AppConfigPatch
  | .saveConfig patch | .saveFile patch _ | .setAutoStart patch _ | .assign patch _
  | .failed patch => some patch
  | task => task.assigned

/-- The call stands between reading the configuration and assigning one. -/
def unfinished : Task → Option Unfinished
  | .saveFile patch previous => some ⟨patch, previous, false⟩
  | .setAutoStart patch previous | .assign patch previous => some ⟨patch, previous, true⟩
  | _ => none

/-- The weight of a call that stands between reading the configuration and assigning one. -/
def inside (task : Task) : ℕ :=
  if task.unfinished.isSome then 1 else 0

theorem inside_of_unfinished {task : Task} {save : Unfinished} (stands : save ∈ task.unfinished) :
    task.inside = 1 := by
  rw [inside, Option.mem_def.mp stands]
  rfl

/-- When a call assigns the configuration, no other one stands between reading and assigning. -/
def Undisturbed (config : Config Service Task) : Task → Prop
  | .assign _ _ => config.total inside ≤ 1
  | _ => True

instance (config : Config Service Task) (task : Task) : Decidable (task.Undisturbed config) := by
  unfold Undisturbed
  split <;> infer_instance

end Task

/-- The patches, one after the other. -/
def applyAll (order : List AppConfigPatch) (cfg : AppConfig) : AppConfig :=
  order.foldl (fun cfg patch => patch.apply cfg) cfg

/-- A patch as a collection. -/
def patches (patch : Option AppConfigPatch) : Multiset AppConfigPatch :=
  patch.elim 0 fun patch => {patch}

/-! ## What a step does to the settings -/

/-- The steps, as far as the settings go. -/
inductive Saving (s : Service) : Task → Service → Task → List Task → Prop
  | read (patch : AppConfigPatch) : Saving s (.saveConfig patch) s (.saveFile patch s.cfg) []
  | written (patch : AppConfigPatch) (previous : AppConfig) :
      Saving s (.saveFile patch previous) { s with file := (patch.apply previous).toDisk }
        (.setAutoStart patch previous) []
  | assigned (patch : AppConfigPatch) (previous : AppConfig) {task' : Task}
      (counted : task'.assigned = some patch) (finished : task'.unfinished = none) :
      Saving s (.assign patch previous) { s with cfg := patch.apply previous } task' []
  | failed {task : Task} (patch : AppConfigPatch) : Saving s task s (.failed patch) []
  | other {task task' : Task} {s' : Service} {spawned : List Task} (cfg : s'.cfg = s.cfg)
      (file : s'.file = s.file) (counted : task'.assigned = task.assigned)
      (stands : task'.unfinished = task.unfinished)
      (born : ∀ fresh ∈ spawned, fresh.assigned = none ∧ fresh.unfinished = none) :
      Saving s task s' task' spawned

section Steps

variable [CaseTable] {s s' : Service} {task task' : Task} {choice : Choice} {spawned : List Task}

omit [CaseTable] in
theorem setStopped_settings (now : Time) (runID : ℕ) (message : String) :
    (s.setStopped now runID message).cfg = s.cfg ∧ (s.setStopped now runID message).file = s.file := by
  unfold Service.setStopped
  split <;> exact ⟨rfl, rfl⟩

theorem callback_settings (call : Callback) (runID : ℕ) :
    (call.run s runID).cfg = s.cfg ∧ (call.run s runID).file = s.file := by
  cases call with
  | sessionStarted =>
      simp only [Callback.run, Service.onSessionStarted]
      split <;> exact ⟨rfl, rfl⟩
  | sessionEnded err =>
      simp only [Callback.run, Service.onSessionEnded]
      split <;> exact ⟨rfl, rfl⟩
  | tunnelSnapshot tunnels =>
      simp only [Callback.run, Service.onTunnelSnapshot]
      split <;> exact ⟨rfl, rfl⟩
  | tunnelPath tunnelID path =>
      simp only [Callback.run, Service.onTunnelPath]
      split <;> exact ⟨rfl, rfl⟩
  | transfer direction bytes =>
      simp only [Callback.run, Service.onTransfer]
      split
      · exact ⟨rfl, rfl⟩
      · split
        · exact ⟨rfl, rfl⟩
        · split <;> exact ⟨rfl, rfl⟩

theorem saving_of_step (stepped : task.step s choice = some (s', task', spawned)) :
    Saving s task s' task' spawned := by
  cases task with
  | saveConfig patch =>
      cases stepped
      exact .read patch
  | saveFile patch previous =>
      simp only [Task.step] at stepped
      split at stepped <;> cases stepped
      · exact .failed patch
      · exact .written patch previous
  | setAutoStart patch previous =>
      simp only [Task.step] at stepped
      split at stepped <;> cases stepped
      · exact .failed patch
      · exact .other rfl rfl rfl rfl (fun _ none => (nomatch none))
  | assign patch previous =>
      cases stepped
      refine .assigned patch previous ?_ ?_ <;> split <;> rfl
  | startConnection caller restart =>
      simp only [Task.step] at stepped
      split at stepped
      · cases stepped
        exact .other rfl rfl rfl rfl (fun _ none => (nomatch none))
      · split at stepped <;> cases stepped <;>
          exact .other rfl rfl rfl rfl (fun _ none => (nomatch none))
  | newAgent caller run previous =>
      simp only [Task.step] at stepped
      split at stepped <;> cases stepped
      · exact .other rfl rfl rfl rfl (fun _ none => (nomatch none))
      · exact .other rfl rfl rfl rfl (by simp [Task.assigned, Task.unfinished])
  | agentReturned run err =>
      simp only [Task.step] at stepped
      split at stepped <;> cases stepped <;>
        exact .other rfl rfl rfl rfl (fun _ none => (nomatch none))
  | stopFailed caller run previous message =>
      cases stepped
      exact .other (setStopped_settings _ _ _).1 (setStopped_settings _ _ _).2 rfl rfl
        (fun _ none => (nomatch none))
  | setStopped run message =>
      cases stepped
      exact .other (setStopped_settings _ _ _).1 (setStopped_settings _ _ _).2 rfl rfl
        (fun _ none => (nomatch none))
  | callback runID call =>
      cases stepped
      exact .other (callback_settings _ _).1 (callback_settings _ _).2 rfl rfl
        (fun _ none => (nomatch none))
  | disconnect | cancelPrevious _ _ _ | cancelFailed _ _ _ _ | cancelDisconnected _ | runAgent _ =>
      cases stepped
      exact .other rfl rfl rfl rfl (fun _ none => (nomatch none))
  | returned _ _ | failed _ | stopped _ | reported => cases stepped

end Steps

/-! ## Runs -/

/-- What the calls of `SaveConfig` that have assigned the configuration have asked for. -/
def assignedPatches (config : Config Service Task) : Multiset AppConfigPatch :=
  config.gather fun task => patches task.assigned

/-- The configuration in memory is what the calls that have assigned it have made of the first one, one
after the other, and what every unfinished call has read.  If only one call is unfinished and it has
written the file, the file holds what it has written; if none has, the file holds what memory holds. -/
structure Kept (cfg : AppConfig) (config : Config Service Task) (order : List AppConfigPatch) :
    Prop where
  all : (order : Multiset AppConfigPatch) = assignedPatches config
  memory : config.shared.cfg = applyAll order cfg
  latest : ∀ task ∈ config.threads, ∀ save ∈ task.unfinished, save.previous = config.shared.cfg
  alone : ∀ task ∈ config.threads, ∀ save ∈ task.unfinished, save.written = true →
    config.total Task.inside ≤ 1 → config.shared.file = (save.patch.apply save.previous).toDisk
  file : order = [] ∨ config.shared.file = config.shared.cfg.toDisk ∨
    ∃ task ∈ config.threads, ∃ save ∈ task.unfinished, save.written = true

/-- A call has failed, or no setting is lost. -/
def Settled (cfg : AppConfig) (config : Config Service Task) : Prop :=
  (∃ patch, Task.failed patch ∈ config.threads) ∨ ∃ order, Kept cfg config order

section Runs

variable {cfg : AppConfig} {config : Config Service Task}

section Step

variable {index : ℕ} {task task' : Task} {s' : Service} {spawned : List Task}
  {order order' : List AppConfigPatch}

/-- What the calls that have assigned the configuration have asked for, after a step. -/
theorem assignedPatches_of_step (present : config.threads[index]? = some task)
    (all : (order : Multiset AppConfigPatch) = assignedPatches config)
    (counted : task'.assigned = task.assigned) (born : ∀ fresh ∈ spawned, fresh.assigned = none) :
    (order : Multiset AppConfigPatch) =
      assignedPatches { shared := s', threads := config.threads.set index task' ++ spawned } := by
  obtain ⟨others, before, after⟩ :=
    Machine.gather_step (fun task : Task => patches task.assigned) present
  refine (all.trans before).trans (Eq.trans ?_ (after s' task' spawned ?_).symm)
  · rw [counted]
  · intro fresh member
    rw [born fresh member]
    rfl

/-- The call that assigns the configuration has asked for one patch more. -/
theorem assignedPatches_of_assign {patch : AppConfigPatch}
    (present : config.threads[index]? = some task)
    (all : (order : Multiset AppConfigPatch) = assignedPatches config)
    (before : task.assigned = none) (counted : task'.assigned = some patch) :
    ((order ++ [patch] : List AppConfigPatch) : Multiset AppConfigPatch) =
      assignedPatches { shared := s', threads := config.threads.set index task' ++ [] } := by
  have traded := Machine.gather_run (fun task : Task => patches task.assigned) s' task' [] present
  simp only [before, counted, patches, Option.elim_none, Option.elim_some, List.map_nil, List.sum_nil,
    add_zero] at traded
  exact (congrArg (· + {patch}) all).trans traded.symm

/-- Another call than the one that takes a step is not unfinished, if only one is. -/
theorem finished_beside (present : config.threads[index]? = some task) (stands : task.inside = 1)
    (only : config.total Task.inside ≤ 1) {other : Task}
    (member : other ∈ config.threads.set index task' ++ []) (apart : other ≠ task')
    {save : Unfinished} : save ∉ other.unfinished := by
  intro unfinished
  rcases Machine.mem_threads_beside Task.inside present member with same | none | ⟨_, both⟩
  · exact apart same
  · cases none
  · have one := Task.inside_of_unfinished unfinished
    omega

end Step

/-- A call that arrives has neither read nor assigned a configuration. -/
theorem unfinished_of_arrives {task : Task} (arrives : task.arrives = true) :
    task.unfinished = none ∧ task.assigned = none := by
  cases task with
  | startConnection caller restart =>
      cases caller with
      | connect => exact ⟨rfl, rfl⟩
      | disconnect => exact ⟨rfl, rfl⟩
      | saveConfig patch => cases restart <;> cases arrives
  | _ => first | exact ⟨rfl, rfl⟩ | cases arrives

section OneStep

variable {index : ℕ} {task task' : Task} {s' : Service} {spawned : List Task}
  {order : List AppConfigPatch} {patch : AppConfigPatch} {previous : AppConfig}

/-- One more call is unfinished: none that has written the file is alone. -/
theorem Kept.read (kept : Kept cfg config order)
    (present : config.threads[index]? = some (.saveConfig patch)) :
    Kept cfg { shared := config.shared
               threads := config.threads.set index (.saveFile patch config.shared.cfg) ++ [] } order := by
  have traded := Machine.total_run Task.inside config.shared (.saveFile patch config.shared.cfg) [] present
  refine ⟨assignedPatches_of_step present kept.all rfl fun _ none => (nomatch none),
    kept.memory, ?_, ?_, ?_⟩
  · intro other member save stands
    rcases Machine.mem_threads_of_step member with rfl | none | old
    · cases stands
      rfl
    · cases none
    · exact kept.latest other old save stands
  · intro other member save stands written only
    rcases Machine.mem_threads_of_step member with rfl | none | old
    · cases stands
      cases written
    · cases none
    · have counted : other.inside ≤ config.total Task.inside := Config.le_total old
      rw [Task.inside_of_unfinished stands] at counted
      simp only [Task.inside, Task.unfinished, Option.isSome_none, Option.isSome_some,
        Bool.false_eq_true, if_false, if_true, List.map_nil, List.sum_nil] at traded
      omega
  · refine kept.file.imp_right (Or.imp_right ?_)
    rintro ⟨other, member, save, stands, written⟩
    rcases Machine.mem_threads_after_step present member with rfl | remains
    · cases stands
    · exact ⟨other, remains, save, stands, written⟩

theorem Kept.wrote (kept : Kept cfg config order)
    (present : config.threads[index]? = some (.saveFile patch previous)) :
    Kept cfg { shared := { config.shared with file := (patch.apply previous).toDisk }
               threads := config.threads.set index (.setAutoStart patch previous) ++ [] } order := by
  have own := List.mem_of_getElem? present
  have last : Task.setAutoStart patch previous ∈
      config.threads.set index (.setAutoStart patch previous) ++ [] :=
    Machine.stepped_mem_threads present
  have traded := Machine.total_run Task.inside config.shared (.setAutoStart patch previous) [] present
  refine ⟨assignedPatches_of_step present kept.all rfl fun _ none => (nomatch none),
    kept.memory, ?_, ?_, .inr (.inr ⟨_, last, _, rfl, rfl⟩)⟩
  · intro other member save stands
    rcases Machine.mem_threads_of_step member with rfl | none | old
    · cases stands
      exact kept.latest _ own ⟨patch, previous, false⟩ rfl
    · cases none
    · exact kept.latest other old save stands
  · intro other member save stands _ only
    by_cases same : other = .setAutoStart patch previous
    · subst same
      cases stands
      rfl
    · refine absurd stands (finished_beside present rfl ?_ member same)
      simp only [Task.inside, Task.unfinished, Option.isSome_some, if_true, List.map_nil,
        List.sum_nil, add_zero] at traded
      exact (Nat.add_right_cancel traded).symm.trans_le only

/-- The call that assigns the configuration is the only one that is unfinished. -/
theorem Kept.assigned (kept : Kept cfg config order)
    (present : config.threads[index]? = some (.assign patch previous))
    (undisturbed : config.total Task.inside ≤ 1) (counted : task'.assigned = some patch)
    (finished : task'.unfinished = none) :
    Kept cfg { shared := { config.shared with cfg := patch.apply previous }
               threads := config.threads.set index task' ++ [] } (order ++ [patch]) := by
  have own := List.mem_of_getElem? present
  have same : previous = config.shared.cfg := kept.latest _ own _ rfl
  have written := kept.alone _ own _ rfl rfl undisturbed
  have none : ∀ other ∈ config.threads.set index task' ++ [], ∀ save : Unfinished,
      save ∉ other.unfinished := by
    intro other member save stands
    by_cases here : other = task'
    · rw [here, finished] at stands
      cases stands
    · exact finished_beside present rfl undisturbed member here stands
  refine ⟨assignedPatches_of_assign present kept.all rfl counted, ?_, ?_, ?_, .inr (.inl written)⟩
  · change patch.apply previous = _
    rw [applyAll, List.foldl_append, same, kept.memory]
    rfl
  · exact fun other member save stands => absurd stands (none other member save)
  · exact fun other member save stands => absurd stands (none other member save)

/-- A step that leaves memory, the file and the unfinished calls as they are. -/
theorem Kept.other (kept : Kept cfg config order) (present : config.threads[index]? = some task)
    (cfgs : s'.cfg = config.shared.cfg) (files : s'.file = config.shared.file)
    (counted : task'.assigned = task.assigned) (unmoved : task'.unfinished = task.unfinished)
    (born : ∀ fresh ∈ spawned, fresh.assigned = none ∧ fresh.unfinished = none) :
    Kept cfg { shared := s', threads := config.threads.set index task' ++ spawned } order := by
  have traded := Machine.total_run Task.inside s' task' spawned present
  have idle : (spawned.map Task.inside).sum = 0 := by
    refine List.sum_eq_zero fun weight member => ?_
    obtain ⟨fresh, spawns, rfl⟩ := List.mem_map.mp member
    rw [Task.inside, (born fresh spawns).2]
    rfl
  have kept_total : ({ shared := s', threads := config.threads.set index task' ++ spawned } :
      Config Service Task).total Task.inside = config.total Task.inside := by
    have weight : task'.inside = task.inside := by rw [Task.inside, Task.inside, unmoved]
    omega
  -- every unfinished call of the new state is one of the old state
  have known (other : Task) (member : other ∈ config.threads.set index task' ++ spawned)
      (save : Unfinished) (stands : save ∈ other.unfinished) :
      ∃ old ∈ config.threads, save ∈ old.unfinished := by
    rcases Machine.mem_threads_of_step member with rfl | fresh | old
    · exact ⟨task, List.mem_of_getElem? present, unmoved ▸ stands⟩
    · rw [(born other fresh).2] at stands
      cases stands
    · exact ⟨other, old, stands⟩
  refine ⟨assignedPatches_of_step present kept.all counted fun fresh spawns => (born fresh spawns).1,
    cfgs.trans kept.memory, ?_, ?_, ?_⟩
  · intro other member save stands
    obtain ⟨old, before, stood⟩ := known other member save stands
    exact (kept.latest old before save stood).trans cfgs.symm
  · intro other member save stands written only
    obtain ⟨old, before, stood⟩ := known other member save stands
    exact files.trans (kept.alone old before save stood written (kept_total ▸ only))
  · rcases kept.file with none | written | ⟨other, member, save, stands, written⟩
    · exact .inl none
    · refine .inr (.inl ?_)
      change s'.file = s'.cfg.toDisk
      rw [files, cfgs]
      exact written
    · rcases Machine.mem_threads_after_step present member with rfl | remains
      · exact .inr (.inr ⟨_, Machine.stepped_mem_threads present, save, unmoved.symm ▸ stands, written⟩)
      · exact .inr (.inr ⟨other, remains, save, stands, written⟩)

end OneStep

variable [CaseTable]

/-- A step of a call that nobody has got in the way of. -/
theorem settled_of_step {index : ℕ} {choice : Choice} {task task' : Task} {s' : Service}
    {spawned : List Task} (settled : Settled cfg config) (present : config.threads[index]? = some task)
    (undisturbed : task.Undisturbed config)
    (stepped : task.step config.shared choice = some (s', task', spawned)) :
    Settled cfg { shared := s', threads := config.threads.set index task' ++ spawned } := by
  rcases settled with ⟨patch, member⟩ | ⟨order, kept⟩
  · rcases Machine.mem_threads_after_step present member with rfl | remains
    · cases stepped
    · exact .inl ⟨patch, remains⟩
  · cases saving_of_step stepped with
    | read patch => exact .inr ⟨order, kept.read present⟩
    | written patch previous => exact .inr ⟨order, kept.wrote present⟩
    | assigned patch previous counted finished =>
        exact .inr ⟨order ++ [patch], kept.assigned present undisturbed counted finished⟩
    | failed patch => exact .inl ⟨patch, Machine.stepped_mem_threads present⟩
    | other cfgs files counted unmoved born =>
        exact .inr ⟨order, kept.other present cfgs files counted unmoved born⟩

theorem settled_of_run {start : Service} (first : start.cfg = cfg)
    (reached : desktop.Run (Machine.AtStep fun config task => task.Undisturbed config)
      ⟨start, []⟩ config) : Settled cfg config := by
  have nobody : Kept cfg ⟨start, []⟩ [] :=
    ⟨rfl, first, fun _ none => (nomatch none), fun _ none => (nomatch none), .inl rfl⟩
  refine reached.step_invariant (Settled cfg) (.inr ⟨[], nobody⟩) ?_ ?_
  · intro config task settled arrives
    obtain ⟨idle, uncounted⟩ := unfinished_of_arrives arrives
    rcases settled with ⟨patch, member⟩ | ⟨order, kept⟩
    · exact .inl ⟨patch, List.mem_append_left _ member⟩
    · have known (other : Task) (member : other ∈ config.threads ++ [task]) (save : Unfinished)
          (stands : save ∈ other.unfinished) : other ∈ config.threads := by
        rcases List.mem_append.mp member with old | new
        · exact old
        · rw [List.mem_singleton.mp new, idle] at stands
          cases stands
      refine .inr ⟨order, ?_, kept.memory, ?_, ?_, ?_⟩
      · rw [kept.all, assignedPatches, assignedPatches, Config.gather_arrive, uncounted]
        exact (add_zero _).symm
      · exact fun other member save stands =>
          kept.latest other (known other member save stands) save stands
      · intro other member save stands written only
        refine kept.alone other (known other member save stands) save stands written ?_
        rw [Config.total_arrive] at only
        exact (Nat.le_add_right _ _).trans only
      · rcases kept.file with none | written | ⟨other, member, waiting⟩
        · exact .inl none
        · exact .inr (.inl written)
        · exact .inr (.inr ⟨other, List.mem_append_left _ member, waiting⟩)
  · intro config index choice task s' task' spawned settled present undisturbed stepped
    exact settled_of_step settled present undisturbed stepped

end Runs

/-- The call of `SaveConfig`, if it is one, has returned. -/
def Task.Returned (task : Task) : Prop :=
  ∀ patch, task.saves = some patch → ∃ superseded, task = .returned (.saveConfig patch) superseded

/-- What the calls of `SaveConfig` ask for. -/
def requested (config : Config Service Task) : Multiset AppConfigPatch :=
  config.gather fun task => patches task.saves

/-- **No setting is lost.**  In every run in which no call of `SaveConfig` assigns the configuration while
another one stands between reading and assigning: when all of them have returned, the configuration in
memory is the first one with all the patches applied, in some order, and the file holds it. -/
theorem settings_kept [CaseTable] {start : Service} {config : Config Service Task}
    (reached : desktop.Run (Machine.AtStep fun config task => task.Undisturbed config)
      ⟨start, []⟩ config) (returned : ∀ task ∈ config.threads, task.Returned) :
    ∃ order : List AppConfigPatch, (order : Multiset AppConfigPatch) = requested config ∧
      config.shared.cfg = applyAll order start.cfg ∧
      (order ≠ [] → config.shared.file = config.shared.cfg.toDisk) := by
  rcases settled_of_run rfl reached with ⟨patch, member⟩ | ⟨order, kept⟩
  · obtain ⟨superseded, impossible⟩ := returned _ member patch rfl
    cases impossible
  · have same : assignedPatches config = requested config := by
      unfold assignedPatches requested Config.gather
      refine congrArg List.sum (List.map_congr_left fun task member => ?_)
      cases saves : task.saves with
      | none =>
          have none : task.assigned = none := by
            cases task <;> first | exact saves | cases saves
          rw [none]
      | some patch =>
          obtain ⟨superseded, rfl⟩ := returned task member patch saves
          rfl
    refine ⟨order, kept.all.trans same, kept.memory, fun nonempty => ?_⟩
    rcases kept.file with none | written | ⟨task, member, waiting⟩
    · exact absurd none nonempty
    · exact written
    · obtain ⟨save, stands, _⟩ := waiting
      obtain ⟨patch, saves⟩ : ∃ patch, task.saves = some patch := by
        cases task <;> first | exact ⟨_, rfl⟩ | cases stands
      obtain ⟨superseded, rfl⟩ := returned task member patch saves
      cases stands

/-! ## Two calls -/

/-- One call changes the name. -/
def rename : AppConfigPatch := { name := some "desk" }

/-- Another one changes the device. -/
def moveDevice : AppConfigPatch := { deviceID := some "device-2" }

/-- Nothing fails. -/
def quiet : Choice := ⟨0, none⟩

/-- The client, before anything has been set. -/
def freshService : Service := .new (AppConfig.toDisk {}) {}

theorem settings_kept_two :
    let _ := CaseTable.ascii
    ∃ config, desktop.Run (Machine.AtStep fun config task => task.Undisturbed config)
        ⟨freshService, []⟩ config ∧
      (∃ order : List AppConfigPatch, (order : Multiset AppConfigPatch) = {rename, moveDevice} ∧
        config.shared.cfg = applyAll order {}) ∧
      config.shared.cfg = { name := "desk", deviceID := "device-2" } ∧
      config.shared.file = config.shared.cfg.toDisk := by
  intro _
  have run : ∃ config, desktop.Run (Machine.AtStep fun config task => task.Undisturbed config)
      ⟨freshService, []⟩ config ∧
      (config.threads = [.returned (.saveConfig rename) none, .returned (.saveConfig moveDevice) none] ∧
        config.shared.cfg = { name := "desk", deviceID := "device-2" }) :=
    Machine.exists_run_of_replay
      [.arrive (.saveConfig rename), .run 0 quiet, .run 0 quiet, .run 0 quiet, .run 0 quiet,
        .arrive (.saveConfig moveDevice), .run 1 quiet, .run 1 quiet, .run 1 quiet, .run 1 quiet]
      (by decide +kernel)
  obtain ⟨config, reached, threads, cfg⟩ := run
  have returned : ∀ task ∈ config.threads, task.Returned := by
    rw [threads]
    intro task member patch saves
    rcases List.mem_cons.mp member with rfl | member
    · cases saves
      exact ⟨none, rfl⟩
    · cases List.mem_singleton.mp member
      cases saves
      exact ⟨none, rfl⟩
  obtain ⟨order, all, memory, file⟩ := settings_kept reached returned
  have asked : requested config = {rename, moveDevice} := by
    rw [requested, Config.gather, threads]
    rfl
  refine ⟨config, reached, ⟨order, all.trans asked, memory⟩, cfg, file ?_⟩
  rintro rfl
  have empty := congrArg Multiset.card (all.trans asked)
  cases empty

/-- **A setting is lost.**  Both calls read the configuration before either assigns one.  Both succeed, and
the name that the first one has set is gone. -/
theorem setting_lost :
    let _ := CaseTable.ascii
    ∃ config, desktop.Reachable ⟨freshService, []⟩ config ∧
      (∀ task ∈ config.threads, task.Returned) ∧ requested config = {rename, moveDevice} ∧
      ¬ ∃ order : List AppConfigPatch, (order : Multiset AppConfigPatch) = requested config ∧
        config.shared.cfg = applyAll order {} := by
  intro _
  have run : ∃ config, desktop.Reachable ⟨freshService, []⟩ config ∧
      (config.threads = [.returned (.saveConfig rename) none, .returned (.saveConfig moveDevice) none] ∧
        config.shared.cfg = { deviceID := "device-2" }) :=
    Machine.exists_run_of_replay
      [.arrive (.saveConfig rename), .arrive (.saveConfig moveDevice), .run 0 quiet, .run 1 quiet,
        .run 0 quiet, .run 0 quiet, .run 0 quiet, .run 1 quiet, .run 1 quiet, .run 1 quiet]
      (by decide +kernel)
  obtain ⟨config, reached, threads, cfg⟩ := run
  have asked : requested config = {rename, moveDevice} := by
    rw [requested, Config.gather, threads]
    rfl
  refine ⟨config, reached, ?_, asked, ?_⟩
  · rw [threads]
    intro task member patch saves
    rcases List.mem_cons.mp member with rfl | member
    · cases saves
      exact ⟨none, rfl⟩
    · cases List.mem_singleton.mp member
      cases saves
      exact ⟨none, rfl⟩
  · rintro ⟨order, all, memory⟩
    rw [asked] at all
    have perm : order.Perm [rename, moveDevice] := Multiset.coe_eq_coe.mp all
    obtain ⟨first, second, rfl⟩ := List.length_eq_two.mp perm.length_eq
    have named : (applyAll [first, second] {}).name = "desk" := by
      have some : rename ∈ [first, second] := perm.mem_iff.mpr List.mem_cons_self
      have known (patch : AppConfigPatch) (member : patch ∈ [first, second]) :
          patch = rename ∨ patch = moveDevice := by
        have listed := perm.mem_iff.mp member
        rwa [List.mem_cons, List.mem_singleton] at listed
      rcases known first List.mem_cons_self with rfl | rfl <;>
        rcases known second (List.mem_cons_of_mem _ List.mem_cons_self) with rfl | rfl
      · decide +kernel
      · decide +kernel
      · decide +kernel
      · exact absurd some (by decide +kernel)
    have lost := congrArg AppConfig.name memory
    rw [named, cfg] at lost
    exact absurd lost (by decide)

end NryNet.Desktop

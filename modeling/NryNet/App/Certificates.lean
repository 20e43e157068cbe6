import NryNet.App.Reboot
import NryNet.Storage

/-!
# Certificates that arrive (`server/app/transport_certificates.go`, `bind` in `transport_controller.go`)

A helper obtains the certificates and leaves a status behind.  The server polls for it; when a job has
succeeded it loads the certificate and, for a job of the action `issue`, turns TLS on.  That a job has
been applied is known twice: the running server remembers the time at which the job ended, the database
the time at which it was applied, as a text, and that is what a server starts with.

## The model

`Installation` is the server, the status that the helper has left, and the clock.  The clock may advance,
the helper may report at any time, and what it reports happened before.  Whether files can be read and
whether the database takes a row is part of a poll.

## The result

TLS that was turned off after a job was applied is not turned on again by that job (`applied_once`).
-/

namespace NryNet.App

open GoText

/-- `Time.Format` and `time.Parse`, for the layout `RFC3339Nano`. -/
class TimeText where
  format : Time → String
  parse : String → Option Time

/-! ## The controller -/

/-- `Status`. -/
structure Status where
  action : String
  domain : String
  email : String
  state : String
  updated : Time
  certFile : String
  keyFile : String
  deriving DecidableEq, Repr

/-- `TransportController`. -/
structure TransportController where
  server : Server
  lastJob : Time
  certTime : Time

/-- What a poll meets with. -/
structure Poll where
  /-- why the pair of the job cannot be loaded -/
  failure : Option String := none
  /-- the rows that are written before the database fails -/
  written : List String
  /-- the time at which the job is marked -/
  now : Time
  /-- the modification time of the certificate of the job, and of the one in the configuration -/
  jobModified : Option Time := none
  modified : Option Time := none
  /-- why the pair in the configuration cannot be loaded -/
  changedFailure : Option String := none

namespace TransportController

/-- `reloadCertificateJobLocked`. -/
def reloadCertificateJobLocked (job : Server.CertificateJob) (poll : Poll) :
    Fallible TransportController String Unit := fun c =>
  let (server, result) := c.server.reloadCertificateJobLocked job poll.failure poll.written
  -- the time is taken once the pair is loaded, before anything is stored
  let certTime := if poll.failure = none then poll.jobModified.getD c.certTime else c.certTime
  ({ c with server, certTime }, result)

/-- `reloadChangedCertificateLocked`. -/
def reloadChangedCertificateLocked (poll : Poll) (c : TransportController) : TransportController :=
  if c.server.config.tls.certFile = "" ∨ c.server.config.tls.keyFile = "" then c
  else
    match poll.modified with
    | none => c
    | some modified =>
        if modified ≤ c.certTime then c
        else
          match poll.changedFailure with
          | some _ => c
          | none =>
              { c with
                server := { c.server with certificateLoaded := true }
                certTime := modified }

variable [TimeText]

/-- The job that a status reports. -/
def job (c : TransportController) (status : Status) (now : Time) : Server.CertificateJob where
  certFile := status.certFile
  keyFile := status.keyFile
  domain := status.domain
  email := status.email
  activate := status.action = "issue" || c.server.tlsEnabled
  appliedAt := TimeText.format now

/-- A job that succeeded after the last one that was applied. -/
def IsNew (c : TransportController) (status : Status) : Prop :=
  status.state = "success" ∧ c.lastJob < status.updated

instance (c : TransportController) (status : Status) : Decidable (c.IsNew status) :=
  inferInstanceAs (Decidable (_ ∧ _))

/-- The first half of `applyCertificateUpdates`. -/
def applyJob (status : Option Status) (poll : Poll) (c : TransportController) : TransportController :=
  match status with
  | none => c
  | some status =>
      if c.IsNew status then
        match c.reloadCertificateJobLocked (c.job status poll.now) poll with
        | (c, .ok ()) => { c with lastJob := status.updated }
        | (c, .error _) => c
      else c

/-- `applyCertificateUpdates`; `status` is what `ReadStatusWithOptions` returns. -/
def applyCertificateUpdates (status : Option Status) (poll : Poll) (c : TransportController) :
    TransportController :=
  (c.applyJob status poll).reloadChangedCertificateLocked poll

/-- The row that says when a job was applied. -/
def appliedAtKey : String := settingKey "server.tls.certbot_applied_at"

/-- `newTransportController` and `bind`; `modified` is the modification time of the certificate. -/
def bind (server : Server) (modified : Option Time) : TransportController where
  server := server
  certTime := modified.getD 0
  lastJob :=
    match server.settings appliedAtKey with
    | some value => (TimeText.parse value).getD 0
    | none => 0

end TransportController

/-! ## The installation -/

/-- The server, what the helper has left, and the clock. -/
structure Installation where
  controller : TransportController
  status : Option Status
  clock : Time

/-- What can happen. -/
inductive Event where
  | tick (now : Time)
  | report (status : Option Status)
  | poll (poll : Poll)
  | setTLSEnabled (enabled : Bool) (failure : Option String)
  | restart (base : ServerConfig) (loaded : Bool) (plainCtrl plainData : String)
      (modified : Option Time)

namespace Installation

/-- What the helper has reported happened before. -/
def Stamped (i : Installation) : Prop := ∀ status ∈ i.status, status.updated ≤ i.clock

variable [CaseTable] [DurationTable] [TimeText]

/-- A server that was started. -/
def start (settings : Settings) (cfg : ServerConfig) (loaded : Bool) (plainCtrl plainData : String)
    (modified : Option Time) : TransportController :=
  .bind (Server.started settings cfg loaded plainCtrl plainData) modified

/-- One event.  The clock does not go back, and a server that is started has its configuration from the
stored settings. -/
inductive Step (i : Installation) : Event → Installation → Prop
  | tick {now : Time} (later : i.clock ≤ now) : Step i (.tick now) { i with clock := now }
  | report {status : Option Status} (stamped : ∀ report ∈ status, report.updated ≤ i.clock) :
      Step i (.report status) { i with status := status }
  | poll {poll : Poll} (later : i.clock ≤ poll.now) :
      Step i (.poll poll)
        { i with
          controller := i.controller.applyCertificateUpdates i.status poll
          clock := poll.now }
  | setTLSEnabled (enabled : Bool) (failure : Option String) :
      Step i (.setTLSEnabled enabled failure)
        { i with
          controller :=
            { i.controller with
              server := (i.controller.server.setTLSEnabled enabled failure).1 } }
  | restart {base cfg : ServerConfig} (loaded : Bool) (plainCtrl plainData : String)
      (modified : Option Time) (booted : boot i.controller.server.settings base = .ok cfg) :
      Step i (.restart base loaded plainCtrl plainData modified)
        { i with
          controller :=
            start i.controller.server.settings cfg loaded plainCtrl plainData modified }

/-- Runs of events that are allowed where they happen. -/
inductive Run (allowed : Installation → Event → Prop) (first : Installation) : Installation → Prop
  | refl : Run allowed first first
  | step {i j : Installation} {event : Event} (earlier : Run allowed first i)
      (may : allowed i event) (step : Step i event j) : Run allowed first j

/-- Anything may happen. -/
def Anything (_ : Installation) (_ : Event) : Prop := True

/-- Nobody turns TLS on, and no poll finds an `issue` job that ended after the time. -/
def NothingNewer (time : Time) (i : Installation) : Event → Prop
  | .setTLSEnabled enabled _ => enabled = false
  | .poll _ =>
      ∀ status ∈ i.status, status.state = "success" → status.action = "issue" →
        status.updated ≤ time
  | _ => True

/-- A poll applies a job. -/
def Applies (i : Installation) (poll : Poll) (job : Status) : Prop :=
  i.status = some job ∧ i.controller.IsNew job ∧
    (i.controller.reloadCertificateJobLocked (i.controller.job job poll.now) poll).2 = .ok ()

/-- TLS is off: in the running server, in its configuration and in the database. -/
def TLSDisabled (i : Installation) : Prop :=
  i.controller.server.tlsEnabled = false ∧ i.controller.server.config.tls.enabled = false ∧
    i.controller.server.settings (settingKey "server.tls.enabled") = some "false"

/-- A job that ended at the time has been applied, and both the server and the database know. -/
structure Marked (time : Time) (i : Installation) : Prop where
  running : time ≤ i.controller.lastJob
  stored : ∃ applied, time ≤ applied ∧ applied ≤ i.clock ∧
    i.controller.server.settings TransportController.appliedAtKey = some (TimeText.format applied)

end Installation

/-! ## What a job changes -/

/-- What a setting can be after several were stored. -/
theorem Settings.foldl_set (rows : List (String × String)) (settings : Settings) (name : String) :
    rows.foldl (fun settings row => settings.set row.1 row.2) settings (settingKey name) =
        settings (settingKey name) ∨
      ∃ value, (name, value) ∈ rows ∧
        rows.foldl (fun settings row => settings.set row.1 row.2) settings (settingKey name) =
          some value := by
  induction rows generalizing settings with
  | nil => exact Or.inl rfl
  | cons row rows ih =>
      rw [List.foldl_cons]
      rcases ih (settings.set row.1 row.2) with same | ⟨value, member, stored⟩
      · rw [same, Settings.set_apply]
        by_cases named : name = row.1
        · rw [if_pos named]
          refine Or.inr ⟨row.2, ?_, rfl⟩
          rw [named]
          exact List.mem_cons_self
        · rw [if_neg named]
          exact Or.inl rfl
      · exact Or.inr ⟨value, List.mem_cons_of_mem _ member, stored⟩

namespace Server

/-- The row of the switch and the mark, after a job. -/
theorem CertificateJob.rows_values {job : CertificateJob} {cfg : TLSConfig} {value : String} :
    (("server.tls.enabled", value) ∈ job.rows cfg → value = formatBool job.activate) ∧
      (("server.tls.certbot_applied_at", value) ∈ job.rows cfg → value = job.appliedAt) := by
  constructor <;>
    · intro member
      simpa [CertificateJob.rows] using member

theorem reloadCertificateJobLocked_cases (s : Server) (job : CertificateJob)
    (failure : Option String) (written : List String) :
    (∃ err, s.reloadCertificateJobLocked job failure written = (s, .error err)) ∨
      ∃ settings result, s.reloadCertificateJobLocked job failure written =
          ({ s with
              settings := settings
              certificateLoaded := true
              tlsEnabled := job.activate
              config := { s.config with tls := job.tls s.config.tls } }, result) ∧
        (settings (settingKey "server.tls.enabled") = s.settings (settingKey "server.tls.enabled") ∨
          settings (settingKey "server.tls.enabled") = some (formatBool job.activate)) ∧
        (settings TransportController.appliedAtKey = s.settings TransportController.appliedAtKey ∨
          settings TransportController.appliedAtKey = some job.appliedAt) ∧
        (result = .ok () → settings TransportController.appliedAtKey = some job.appliedAt) := by
  cases failure with
  | some err => exact Or.inl ⟨_, rfl⟩
  | none =>
      refine Or.inr ⟨_, _, rfl, ?_, ?_, ?_⟩
      · rcases Settings.foldl_set _ s.settings "server.tls.enabled" with same | ⟨value, member, stored⟩
        · exact Or.inl same
        · rw [CertificateJob.rows_values.1 (List.mem_of_mem_filter member)] at stored
          exact Or.inr stored
      · rcases Settings.foldl_set _ s.settings "server.tls.certbot_applied_at" with
          same | ⟨value, member, stored⟩
        · exact Or.inl same
        · rw [CertificateJob.rows_values.2 (List.mem_of_mem_filter member)] at stored
          exact Or.inr stored
      · intro succeeded
        split at succeeded
        · rename_i all
          rw [all]
          simp only [CertificateJob.rows, List.foldl_cons, List.foldl_nil]
          exact (Settings.set_apply ..).trans (if_pos rfl)
        · cases succeeded

end Server

/-! ## What a poll changes -/

namespace TransportController

variable [TimeText] {c : TransportController} {status : Option Status} {poll : Poll}

/-- As far as TLS and the last job go, nothing has changed. -/
structure Untouched (before after : TransportController) : Prop where
  lastJob : after.lastJob = before.lastJob
  settings : after.server.settings = before.server.settings
  tls : after.server.tlsEnabled = before.server.tlsEnabled
  flag : after.server.config.tls.enabled = before.server.config.tls.enabled

/-- A job was loaded; what was stored of it depends on the database. -/
structure Loaded (before : TransportController) (job : Status) (now : Time)
    (after : TransportController) : Prop where
  tls : after.server.tlsEnabled = (before.job job now).activate
  flag : after.server.config.tls.enabled = (before.job job now).activate
  row :
    after.server.settings (settingKey "server.tls.enabled") =
        before.server.settings (settingKey "server.tls.enabled") ∨
      after.server.settings (settingKey "server.tls.enabled") =
        some (formatBool (before.job job now).activate)
  mark :
    after.lastJob = before.lastJob ∧ after.server.settings appliedAtKey =
        before.server.settings appliedAtKey ∨
      (after.lastJob = before.lastJob ∨ after.lastJob = job.updated) ∧
        after.server.settings appliedAtKey = some (TimeText.format now)

omit [TimeText] in
theorem untouched_reloadChanged (c : TransportController) (poll : Poll) :
    Untouched c (c.reloadChangedCertificateLocked poll) := by
  unfold reloadChangedCertificateLocked
  have same : Untouched c c := ⟨rfl, rfl, rfl, rfl⟩
  split
  · exact same
  · split
    · exact same
    · split
      · exact same
      · split
        · exact same
        · exact ⟨rfl, rfl, rfl, rfl⟩

omit [TimeText] in
theorem Untouched.trans {first second third : TransportController} (left : Untouched first second)
    (right : Untouched second third) : Untouched first third :=
  ⟨right.lastJob.trans left.lastJob, right.settings.trans left.settings, right.tls.trans left.tls,
    right.flag.trans left.flag⟩

theorem Loaded.trans {job : Status} {now : Time} {middle after : TransportController}
    (loaded : Loaded c job now middle) (same : Untouched middle after) : Loaded c job now after := by
  refine ⟨same.tls.trans loaded.tls, same.flag.trans loaded.flag, ?_, ?_⟩
  · rw [same.settings]
    exact loaded.row
  · rw [same.settings, same.lastJob]
    exact loaded.mark

theorem applyJob_cases (c : TransportController) (status : Option Status) (poll : Poll) :
    Untouched c (c.applyJob status poll) ∨
      ∃ job, status = some job ∧ c.IsNew job ∧ Loaded c job poll.now (c.applyJob status poll) := by
  unfold applyJob
  have same : Untouched c c := ⟨rfl, rfl, rfl, rfl⟩
  cases status with
  | none => exact Or.inl same
  | some job =>
      by_cases new : c.IsNew job
      · simp only [if_pos new, reloadCertificateJobLocked]
        rcases c.server.reloadCertificateJobLocked_cases (c.job job poll.now) poll.failure
          poll.written with ⟨err, failed⟩ | ⟨settings, result, loaded, row, mark, marked⟩
        · rw [failed]
          exact Or.inl ⟨rfl, rfl, rfl, rfl⟩
        · rw [loaded]
          refine Or.inr ⟨job, rfl, new, ?_⟩
          cases result with
          | error err =>
              refine ⟨rfl, rfl, row, ?_⟩
              rcases mark with old | new
              · exact Or.inl ⟨rfl, old⟩
              · exact Or.inr ⟨Or.inl rfl, new⟩
          | ok => exact ⟨rfl, rfl, row, Or.inr ⟨Or.inr rfl, marked rfl⟩⟩
      · simp only [if_neg new]
        exact Or.inl same

/-- A poll leaves TLS alone, or loads a job. -/
theorem applyCertificateUpdates_cases (c : TransportController) (status : Option Status) (poll : Poll) :
    Untouched c (c.applyCertificateUpdates status poll) ∨
      ∃ job, status = some job ∧ c.IsNew job ∧
        Loaded c job poll.now (c.applyCertificateUpdates status poll) := by
  have second := untouched_reloadChanged (c.applyJob status poll) poll
  rcases applyJob_cases c status poll with same | ⟨job, found, new, loaded⟩
  · exact Or.inl (same.trans second)
  · exact Or.inr ⟨job, found, new, loaded.trans second⟩

/-- A job that is applied is marked in the server and in the database. -/
theorem marks_applyCertificateUpdates {job : Status} (new : c.IsNew job)
    (applied : (c.reloadCertificateJobLocked (c.job job poll.now) poll).2 = .ok ()) :
    (c.applyCertificateUpdates (some job) poll).lastJob = job.updated ∧
      (c.applyCertificateUpdates (some job) poll).server.settings appliedAtKey =
        some (TimeText.format poll.now) := by
  have second := untouched_reloadChanged (c.applyJob (some job) poll) poll
  unfold applyCertificateUpdates
  rw [second.lastJob, second.settings]
  simp only [applyJob, if_pos new]
  simp only [reloadCertificateJobLocked] at applied ⊢
  rcases c.server.reloadCertificateJobLocked_cases (c.job job poll.now) poll.failure poll.written with
    ⟨err, failed⟩ | ⟨settings, result, loaded, -, -, marked⟩
  · rw [failed] at applied
    cases applied
  · rw [loaded] at applied ⊢
    simp only at applied
    rw [applied]
    exact ⟨rfl, marked applied⟩

end TransportController

/-! ## Runs -/

/-- Automatic subdomains have rows of their own. -/
theorem Settings.setAutoSubdomainConfig_apply (settings : Settings) (cfg : AutoSubdomainConfig)
    {name : String}
    (other : name ≠ "server.auto_subdomain.enabled" ∧ name ≠ "server.auto_subdomain.base_domain") :
    settings.setAutoSubdomainConfig cfg (settingKey name) = settings (settingKey name) := by
  unfold Settings.setAutoSubdomainConfig
  rw [Settings.set_apply, if_neg other.2, Settings.set_apply, if_neg other.1]

/-- Whether it can be stored or not, `SetTLSEnabled` touches one row. -/
theorem Server.setTLSEnabled_settings (s : Server) (enabled : Bool) (failure : Option String) :
    (s.setTLSEnabled enabled failure).1.settings = s.settings ∨
      (s.setTLSEnabled enabled failure).1.settings =
        s.settings.set "server.tls.enabled" (formatBool enabled) := by
  unfold Server.setTLSEnabled
  by_cases refused : enabled = true ∧ s.certificateLoaded = false
  · simp only [Server.setEnabled, if_pos refused]
    exact Or.inl trivial
  · simp only [Server.setEnabled, if_neg refused]
    cases failure with
    | none => exact Or.inr rfl
    | some err =>
        refine Or.inl ?_
        simp only [Server.persistSetting]
        split <;> rfl

/-- A server with TLS off stays so when it is turned off again, whether that can be stored or not. -/
theorem Server.setTLSEnabled_again {s : Server} (off : s.tlsEnabled = false)
    (failure : Option String) :
    (s.setTLSEnabled false failure).1.tlsEnabled = false ∧
      (s.setTLSEnabled false failure).1.config.tls.enabled = false := by
  cases failure with
  | none => exact ⟨rfl, rfl⟩
  | some err =>
      simp only [Server.setTLSEnabled, off, Server.setEnabled, Server.persistSetting]
      exact ⟨rfl, rfl⟩

namespace Installation

variable [CaseTable] [DurationTable] [TimeText] {first i j : Installation} {event : Event} {time : Time}

theorem Step.clock_le (step : Step i event j) : i.clock ≤ j.clock := by
  cases step with
  | tick later => exact later
  | report => exact Nat.le_refl _
  | poll later => exact later
  | setTLSEnabled => exact Nat.le_refl _
  | restart => exact Nat.le_refl _

theorem Step.stamped (step : Step i event j) (stamped : i.Stamped) : j.Stamped := by
  cases step with
  | tick later => exact fun status found => Nat.le_trans (stamped status found) later
  | report now => exact now
  | poll later => exact fun status found => Nat.le_trans (stamped status found) later
  | setTLSEnabled => exact stamped
  | restart => exact stamped

theorem Run.clock_le {allowed : Installation → Event → Prop} (run : Run allowed first i) :
    first.clock ≤ i.clock := by
  induction run with
  | refl => exact Nat.le_refl _
  | step earlier may step ih => exact Nat.le_trans ih step.clock_le

theorem Run.stamped {allowed : Installation → Event → Prop} (run : Run allowed first i)
    (stamped : first.Stamped) : i.Stamped := by
  induction run with
  | refl => exact stamped
  | step earlier may step ih => exact step.stamped ih

/-! ### The mark -/

omit [CaseTable] [DurationTable] in
theorem Marked.later (marked : Marked time i) {now : Time} (later : i.clock ≤ now) :
    Marked time { i with clock := now } := by
  obtain ⟨running, applied, after, before, stored⟩ := marked
  exact ⟨running, applied, after, Nat.le_trans before later, stored⟩

/-- **A mark stays, in memory and in the database.** -/
theorem Marked.step (marked : Marked time i) (stamped : i.Stamped)
    (reads : ∀ now ≤ i.clock, TimeText.parse (TimeText.format now) = some now)
    (step : Step i event j) : Marked time j := by
  cases step with
  | tick later => exact marked.later later
  | report => exact ⟨marked.running, marked.stored⟩
  | @poll poll later =>
      obtain ⟨running, applied, after, before, stored⟩ := marked
      rcases i.controller.applyCertificateUpdates_cases i.status poll with
        same | ⟨job, found, new, loaded⟩
      · refine ⟨?_, applied, after, Nat.le_trans before later, ?_⟩
        · rw [same.lastJob]
          exact running
        · rw [same.settings]
          exact stored
      · -- the job ended after the last one, and before it is marked
        have ended : time ≤ job.updated := Nat.le_trans running (Nat.le_of_lt new.2)
        have past : job.updated ≤ poll.now := Nat.le_trans (stamped job found) later
        rcases loaded.mark with ⟨last, row⟩ | ⟨last, row⟩
        · refine ⟨?_, applied, after, Nat.le_trans before later, row.trans stored⟩
          rw [last]
          exact running
        · refine ⟨?_, poll.now, Nat.le_trans ended past, Nat.le_refl _, row⟩
          rcases last with last | last
          · rw [last]
            exact running
          · rw [last]
            exact ended
  | setTLSEnabled enabled failure =>
      refine ⟨marked.running, ?_⟩
      obtain ⟨applied, after, before, stored⟩ := marked.stored
      refine ⟨applied, after, before, ?_⟩
      rcases i.controller.server.setTLSEnabled_settings enabled failure with same | set
      · rw [same]
        exact stored
      · rw [set]
        exact (Settings.set_apply ..).trans stored
  | @restart base cfg loaded plainCtrl plainData modified booted =>
      obtain ⟨-, applied, after, before, stored⟩ := marked
      have row : i.controller.server.settings.setAutoSubdomainConfig cfg.autoSubdomain
          TransportController.appliedAtKey = some (TimeText.format applied) :=
        (Settings.setAutoSubdomainConfig_apply _ _ (by decide)).trans stored
      refine ⟨?_, applied, after, before, row⟩
      have last : (start i.controller.server.settings cfg loaded plainCtrl plainData modified).lastJob =
          applied := by
        simp only [start, TransportController.bind, Server.started, row, reads applied before,
          Option.getD_some]
      rw [last]
      exact after

theorem Marked.run {allowed : Installation → Event → Prop} (marked : Marked time first)
    (stamped : first.Stamped) (run : Run allowed first i)
    (reads : ∀ now ≤ i.clock, TimeText.parse (TimeText.format now) = some now) :
    Marked time i := by
  induction run with
  | refl => exact marked
  | step earlier may step ih =>
      have earlierReads := fun now before => reads now (Nat.le_trans before step.clock_le)
      exact (ih earlierReads).step (earlier.stamped stamped) earlierReads step

/-- A job that is applied is marked. -/
theorem Applies.marked {poll : Poll} {job : Status} (applies : i.Applies poll job)
    (stamped : i.Stamped) (step : Step i (.poll poll) j) : Marked job.updated j := by
  obtain ⟨found, new, applied⟩ := applies
  cases step with
  | poll later =>
      have marks := TransportController.marks_applyCertificateUpdates new applied
      simp only [found]
      exact ⟨Nat.le_of_eq marks.1.symm, poll.now, Nat.le_trans (stamped job found) later,
        Nat.le_refl _, marks.2⟩

/-! ### TLS stays off -/

theorem TLSDisabled.step (off : i.TLSDisabled) (marked : Marked time i) (quiet : NothingNewer time i event)
    (step : Step i event j) : j.TLSDisabled := by
  obtain ⟨running, flag, row⟩ := off
  cases step with
  | tick => exact ⟨running, flag, row⟩
  | report => exact ⟨running, flag, row⟩
  | @poll poll later =>
      rcases i.controller.applyCertificateUpdates_cases i.status poll with
        same | ⟨job, found, new, loaded⟩
      · refine ⟨same.tls.trans running, same.flag.trans flag, ?_⟩
        simp only [same.settings]
        exact row
      · -- a job of the action `issue` would be newer than the mark
        have renewal : job.action ≠ "issue" := fun issue =>
          absurd (quiet job found new.1 issue) (Nat.not_le_of_lt (Nat.lt_of_le_of_lt marked.running new.2))
        have stays : (i.controller.job job poll.now).activate = false := by
          simp only [TransportController.job, renewal, running, decide_false, Bool.or_false]
        refine ⟨loaded.tls.trans stays, loaded.flag.trans stays, ?_⟩
        rcases loaded.row with same | set
        · exact same.trans row
        · rw [stays] at set
          exact set
  | setTLSEnabled enabled failure =>
      obtain rfl : enabled = false := quiet
      have again := Server.setTLSEnabled_again running failure
      refine ⟨again.1, again.2, ?_⟩
      rcases i.controller.server.setTLSEnabled_settings false failure with same | set
      · rw [same]
        exact row
      · rw [set]
        exact Settings.set_apply ..
  | @restart base cfg loaded plainCtrl plainData modified booted =>
      have flagged := (Applied.of_applyStoredSettings (boot_eq_ok.mp booted).1).tlsEnabled
      rw [Settings.flag, row] at flagged
      have down : cfg.tls.enabled = false := (Except.ok.inj flagged).symm
      exact ⟨down, down,
        (Settings.setAutoSubdomainConfig_apply _ cfg.autoSubdomain (by decide)).trans row⟩

theorem TLSDisabled.run (off : first.TLSDisabled) (marked : Marked time first) (stamped : first.Stamped)
    (run : Run (NothingNewer time) first i)
    (reads : ∀ now ≤ i.clock, TimeText.parse (TimeText.format now) = some now) :
    i.TLSDisabled := by
  induction run with
  | refl => exact off
  | step earlier may step ih =>
      have earlierReads := fun now before => reads now (Nat.le_trans before step.clock_le)
      exact (ih earlierReads).step (marked.run stamped earlier earlierReads) may step

theorem tlsDisabled_of_setTLSEnabled (step : Step i (.setTLSEnabled false none) j) : j.TLSDisabled := by
  cases step with
  | setTLSEnabled =>
      have row := Settings.set_apply i.controller.server.settings "server.tls.enabled" "false"
        "server.tls.enabled"
      exact ⟨rfl, rfl, row.trans (if_pos rfl)⟩

/-- **A certificate job is applied once.**  Turning TLS off afterwards is not undone by it, however often
the server polls and is started again: TLS stays off until it is turned on, or another `issue` job ends
later. -/
theorem applied_once {before applied between off last : Installation} {poll : Poll} {job : Status}
    (stamped : first.Stamped) (earlier : Run Anything first before) (applies : before.Applies poll job)
    (polled : Step before (.poll poll) applied) (meanwhile : Run Anything applied between)
    (switched : Step between (.setTLSEnabled false none) off)
    (quiet : Run (NothingNewer job.updated) off last)
    (reads : ∀ now ≤ last.clock, TimeText.parse (TimeText.format now) = some now) :
    last.TLSDisabled := by
  have stampedBefore := earlier.stamped stamped
  have stampedApplied := polled.stamped stampedBefore
  have stampedBetween := meanwhile.stamped stampedApplied
  have readsOff := fun now before => reads now (Nat.le_trans before quiet.clock_le)
  have readsBetween := fun now before => readsOff now (Nat.le_trans before switched.clock_le)
  have marked : Marked job.updated between :=
    (applies.marked stampedBefore polled).run stampedApplied meanwhile readsBetween
  have markedOff : Marked job.updated off := marked.step stampedBetween readsBetween switched
  exact (tlsDisabled_of_setTLSEnabled switched).run markedOff (switched.stamped stampedBetween) quiet
    reads

end Installation

/-! ## A certificate is issued -/

/-- The beginning of 2026, in nanoseconds since the year 1. -/
def newYear : Time := 739616 * 86400 * 10 ^ 9

/-- The texts of a clock in Greenwich that is read at the beginning of 2026. -/
@[reducible] def TimeText.greenwich : TimeText where
  format now :=
    if now = newYear then "2026-01-01T00:00:00Z" else String.ofList (List.replicate now 'x')
  parse text := if text = "2026-01-01T00:00:00Z" then some newYear else some text.length

theorem TimeText.greenwich_reads (now : Time) :
    let _ := TimeText.greenwich
    TimeText.parse (TimeText.format now) = some now := by
  by_cases there : now = newYear
  · rw [there]
    rfl
  · have other : String.ofList (List.replicate now 'x') ≠ "2026-01-01T00:00:00Z" := by
      intro same
      have letters : ∀ c ∈ "2026-01-01T00:00:00Z".toList, c = 'x' := by
        rw [← same, String.toList_ofList]
        exact fun c member => List.eq_of_mem_replicate member
      exact absurd (letters '2' (by decide)) (by decide)
    simp only [TimeText.format, TimeText.parse, there, if_false, other, String.length_ofList,
      List.length_replicate]

namespace Installation

/-- The default configuration. -/
def plainStart : ServerConfig := { ServerConfig.defaults with heartbeatTimeout := 45000000000 }

/-- The helper has issued a certificate. -/
def issued : Status where
  action := "issue"
  domain := "example.com"
  email := ""
  state := "success"
  updated := newYear
  certFile := "/opt/nrynet/certs/fullchain.pem"
  keyFile := "/opt/nrynet/certs/privkey.pem"

/-- A poll that meets with no failure. -/
def goodPoll : Poll where
  written :=
    ["server.tls.enabled", "server.tls.cert_file", "server.tls.key_file", "server.tls.domain",
      "server.tls.email", "server.tls.certbot_applied_at"]
  now := newYear

/-- A server without TLS. -/
def withoutTLS : Installation :=
  let _ := TimeText.greenwich
  { controller := start (fun _ => none) plainStart false "" "" none
    status := some issued
    clock := newYear }

/-- The certificate has arrived, and TLS is turned off. -/
def switchedOff : Installation :=
  let _ := TimeText.greenwich
  let polled := withoutTLS.controller.applyCertificateUpdates (some issued) goodPoll
  { withoutTLS with
    controller := { polled with server := (polled.server.setTLSEnabled false none).1 } }

/-- The server is started again. -/
def restarted : Installation :=
  let _ := TimeText.greenwich
  let tls : TLSConfig :=
    { enabled := false, certFile := issued.certFile, keyFile := issued.keyFile
      domain := issued.domain, email := "" }
  { switchedOff with
    controller := start switchedOff.controller.server.settings { plainStart with tls } true "" "" none }

/-- It finds the same job again, and TLS stays off. -/
theorem applied_once_restarted :
    let _ := TimeText.greenwich
    TLSDisabled
      { restarted with
        controller := restarted.controller.applyCertificateUpdates restarted.status goodPoll } := by
  let _ := CaseTable.ascii
  let _ := DurationTable.seconds
  intro _
  have stamped : withoutTLS.Stamped := by
    intro status found
    rw [← Option.some.inj found]
    exact Nat.le_refl _
  have applies : withoutTLS.Applies goodPoll issued :=
    ⟨rfl, ⟨rfl, by decide +kernel⟩, by decide +kernel⟩
  have again : Step switchedOff (.restart plainStart true "" "" none) restarted :=
    .restart true "" "" none (by decide +kernel)
  have quiet : NothingNewer newYear restarted (.poll goodPoll) := by
    intro status found _ _
    rw [← Option.some.inj found]
    exact Nat.le_refl _
  have polled : Step restarted (.poll goodPoll) _ := .poll (Nat.le_refl _)
  have calm : NothingNewer newYear switchedOff (.restart plainStart true "" "" none) := trivial
  have started : Run (NothingNewer newYear) switchedOff restarted := .step .refl calm again
  exact applied_once stamped .refl applies (.poll (Nat.le_refl _)) .refl (.setTLSEnabled false none)
    (started.step quiet polled) fun now _ => TimeText.greenwich_reads now

end Installation

end NryNet.App

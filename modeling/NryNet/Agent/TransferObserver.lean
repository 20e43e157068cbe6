import NryNet.Lib.GoMap
import NryNet.Lib.ThreadPool

/-!
# The accounts of transferred bytes (`client/agent/transfer_observer.go`, `relay.go`, `agent.go`)

Bytes that a relay has written are on their way to the observer through three accumulators.  The
`transferWriter` of a copying goroutine keeps them for up to 250 milliseconds, `notifyTransfer` adds them
to the counters of the tunnel in `transferPending`, and a flush takes the counters out of the table and
calls the observer after it has released the lock.

## The model

A thread is a goroutine at one of its program points.  `relay` starts two copying goroutines and waits
for both before its deferred flush; UDP sessions call `notifyTransfer` directly; flushes come from the
ticker, at the end of a session and from relays, and any number of them run at once.  Everything under
`transferMu` is one step, and so is every call of the observer.  The counters of a tunnel are only read
and written under the lock, so the table holds them and not a pointer; a nil table is an empty one.
When a connection fails and how many bytes a `Write` returns is the environment's choice; a connection
whose methods panic, which `runWorker` would report as an error, is not a part of the model.

`written` is a ghost: what the `Write` calls of the relays have returned, and what was notified directly.

## The account

Nothing is lost and nothing is counted twice (`balanced_step`): what was reported, is pending in the
table, is held by a writer and is in the hands of a flush make up what was written.  That a flush which
starts after the relays have ended leaves nothing behind is a fact about the run of that flush
(`flushed_step`); what *another* flush has taken out of the table may still be unreported then.
-/

namespace NryNet.Agent.Transfers

open ThreadPool

def DirectionUpload : String := "upload"

def DirectionDownload : String := "download"

/-- The directions that the observer is told about. -/
inductive Direction where
  | upload
  | download
  deriving DecidableEq, Repr

/-- The text that `notifyTransfer` is called with. -/
def Direction.name : Direction → String
  | .upload => DirectionUpload
  | .download => DirectionDownload

/-- `transferCounters`. -/
structure TransferCounters where
  upload : ℕ
  download : ℕ
  deriving DecidableEq, Repr

def TransferCounters.get (counters : TransferCounters) : Direction → ℕ
  | .upload => counters.upload
  | .download => counters.download

/-- Some bytes of a tunnel in one direction. -/
structure Amount where
  tunnelID : String
  direction : Direction
  bytes : ℕ
  deriving DecidableEq, Repr

/-- `Agent`, as far as transfers are concerned, the channels of its relays, the clock and two logs. -/
structure TransferAgent where
  /-- there is an `options.Observer` -/
  observer : Bool
  transferPending : GoMap String TransferCounters
  /-- how many relays have been started -/
  relays : ℕ
  /-- the results that wait in the `errCh` of each relay -/
  errCh : ℕ → ℕ
  /-- milliseconds -/
  now : ℕ
  /-- the calls of `Observer.Transfer` -/
  reported : List Amount
  written : List Amount

/-- `transferReportInterval`. -/
def transferReportInterval : ℕ := 250

namespace TransferAgent

/-- `notifyTransfer`. -/
def notifyTransfer (agent : TransferAgent) (tunnelID direction : String) (bytes : ℤ) : TransferAgent :=
  if agent.observer = false ∨ bytes ≤ 0 then agent
  else
    let pending := (agent.transferPending.lookup tunnelID).getD ⟨0, 0⟩
    let pending :=
      if direction = DirectionUpload then { pending with upload := pending.upload + bytes.toNat }
      else if direction = DirectionDownload then
        { pending with download := pending.download + bytes.toNat }
      else pending
    { agent with transferPending := agent.transferPending.insert tunnelID pending }

/-- `flushTransfer` up to the release of the lock. -/
def flushTransfer (agent : TransferAgent) (tunnelID : String) : TransferAgent × Option TransferCounters :=
  match agent.transferPending.lookup tunnelID with
  | none => (agent, none)
  | some pending =>
      ({ agent with transferPending := agent.transferPending.erase tunnelID }, some pending)

/-- One half of `reportTransfer`. -/
def report (agent : TransferAgent) (tunnelID : String) (direction : Direction) (bytes : ℕ) : TransferAgent :=
  if bytes > 0 then { agent with reported := agent.reported ++ [⟨tunnelID, direction, bytes⟩] }
  else agent

/-- Bytes reached the other side. -/
def write (agent : TransferAgent) (tunnelID : String) (direction : Direction) (bytes : ℕ) : TransferAgent :=
  { agent with written := agent.written ++ [⟨tunnelID, direction, bytes⟩] }

/-- What a direct call of `notifyTransfer` stands for. -/
def writeNotified (agent : TransferAgent) (tunnelID direction : String) (bytes : ℤ) : TransferAgent :=
  if direction = DirectionUpload then agent.write tunnelID .upload bytes.toNat
  else if direction = DirectionDownload then agent.write tunnelID .download bytes.toNat
  else agent

end TransferAgent

/-- A copying goroutine: its relay and what it observes. -/
structure Copier where
  relay : ℕ
  tunnelID : String
  direction : Direction
  deriving DecidableEq, Repr

/-- `transferWriter`. -/
structure TransferWriter where
  pending : ℕ
  lastReport : ℕ
  deriving DecidableEq, Repr

/-- Where a copying goroutine is; `last` says that `io.CopyBuffer` has returned. -/
inductive WriterPoint where
  /-- in `io.CopyBuffer`, before the next `Write` -/
  | copyBuffer
  /-- the `Write` of the connection has returned -/
  | wrote (bytes : ℕ)
  /-- before the `time.Since` -/
  | since
  | flush (last : Bool)
  /-- `observe` has returned -/
  | observed (last : Bool)
  | returned
  deriving DecidableEq, Repr

/-- A goroutine of the agent. -/
inductive Thread where
  | relay (tunnelID : String)
  /-- before the first `<-errCh` -/
  | firstErr (relay : ℕ) (tunnelID : String)
  | secondErr (relay : ℕ) (tunnelID : String)
  | copyBytes (copier : Copier)
  | copying (copier : Copier) (writer : TransferWriter) (point : WriterPoint)
  | notifyTransfer (tunnelID direction : String) (bytes : ℤ)
  | flushTransfers
  /-- the tunnels that are still to be flushed -/
  | flushTransfer (tunnelIDs : List String)
  /-- between the removal and the report of the upload -/
  | reportTransfer (tunnelID : String) (pending : TransferCounters) (tunnelIDs : List String)
  | reportDownload (tunnelID : String) (download : ℕ) (tunnelIDs : List String)
  | clock
  | finished
  deriving DecidableEq, Repr

/-- What the environment decides. -/
inductive Choice where
  /-- a `Write` that returns so many bytes -/
  | write (bytes : ℕ)
  /-- the copy ends, with an error or without -/
  | close
  /-- the order in which the keys of the table are listed -/
  | order (tunnelIDs : List String)
  | elapse (milliseconds : ℕ)
  | go
  deriving DecidableEq, Repr

/-- Where `flush` returns to. -/
def afterFlush (last : Bool) : WriterPoint :=
  if last then .returned else .copyBuffer

/-- One step of `copyBytes` and its `transferWriter`. -/
def writerStep (agent : TransferAgent) (copier : Copier) (writer : TransferWriter) :
    WriterPoint → Choice → Option (TransferAgent × TransferWriter × WriterPoint)
  | .copyBuffer, .write bytes =>
      some (agent.write copier.tunnelID copier.direction bytes, writer, .wrote bytes)
  | .copyBuffer, .close => some (agent, writer, .flush true)
  | .wrote bytes, .go => some (agent, { writer with pending := writer.pending + bytes }, .since)
  | .since, .go =>
      some (agent, writer,
        if agent.now - writer.lastReport ≥ transferReportInterval then .flush false else .copyBuffer)
  | .flush last, .go =>
      if writer.pending = 0 then some (agent, writer, afterFlush last)
      else
        some (agent.notifyTransfer copier.tunnelID copier.direction.name writer.pending, writer,
          .observed last)
  | .observed last, .go => some (agent, ⟨0, agent.now⟩, afterFlush last)
  | _, _ => none

/-- One step of a goroutine. -/
def step (agent : TransferAgent) : Thread → Choice → Option (TransferAgent × Thread × List Thread)
  | .relay tunnelID, .go =>
      let relay := agent.relays
      some ({ agent with relays := relay + 1 }, .firstErr relay tunnelID,
        [.copyBytes ⟨relay, tunnelID, .upload⟩, .copyBytes ⟨relay, tunnelID, .download⟩])
  | .firstErr relay tunnelID, .go =>
      if 0 < agent.errCh relay then
        some ({ agent with errCh := Function.update agent.errCh relay (agent.errCh relay - 1) },
          .secondErr relay tunnelID, [])
      else none
  | .secondErr relay tunnelID, .go =>
      if 0 < agent.errCh relay then
        some ({ agent with errCh := Function.update agent.errCh relay (agent.errCh relay - 1) },
          .flushTransfer [tunnelID], [])
      else none
  | .copyBytes copier, .go => some (agent, .copying copier ⟨0, agent.now⟩ .copyBuffer, [])
  | .copying copier _ .returned, .go =>
      -- the channel has room for both results
      if agent.errCh copier.relay < 2 then
        some ({ agent with
                errCh := Function.update agent.errCh copier.relay (agent.errCh copier.relay + 1) },
          .finished, [])
      else none
  | .copying copier writer point, choice =>
      (writerStep agent copier writer point choice).map fun (agent', writer', point') =>
        (agent', .copying copier writer' point', [])
  | .notifyTransfer tunnelID direction bytes, .go =>
      some ((agent.writeNotified tunnelID direction bytes).notifyTransfer tunnelID direction bytes,
        .finished, [])
  | .flushTransfers, .order tunnelIDs =>
      if tunnelIDs.Perm agent.transferPending.entries.keys then
        some (agent, .flushTransfer tunnelIDs, [])
      else none
  | .flushTransfer [], .go => some (agent, .finished, [])
  | .flushTransfer (tunnelID :: tunnelIDs), .go =>
      match agent.flushTransfer tunnelID with
      | (agent', none) => some (agent', .flushTransfer tunnelIDs, [])
      | (agent', some pending) => some (agent', .reportTransfer tunnelID pending tunnelIDs, [])
  | .reportTransfer tunnelID pending tunnelIDs, .go =>
      some (agent.report tunnelID .upload pending.upload,
        .reportDownload tunnelID pending.download tunnelIDs, [])
  | .reportDownload tunnelID download tunnelIDs, .go =>
      some (agent.report tunnelID .download download, .flushTransfer tunnelIDs, [])
  | .clock, .elapse milliseconds =>
      some ({ agent with now := agent.now + milliseconds }, .clock, [])
  | _, _ => none

/-- Relays, direct notifications, flushes and time. -/
def entry : Thread → Bool
  | .relay _ => true
  | .notifyTransfer _ _ _ => true
  | .flushTransfers => true
  | .flushTransfer [_] => true
  | .clock => true
  | _ => false

def transferMachine : Machine TransferAgent Thread Choice := ⟨entry, step⟩

/-- A new agent with an observer. -/
def start : Config TransferAgent Thread :=
  ⟨{ observer := true
     transferPending := ∅
     relays := 0
     errCh := fun _ => 0
     now := 0
     reported := []
     written := [] }, []⟩

/-! ## Counting -/

/-- The bytes of a tunnel in one direction. -/
def bytesOf (amounts : List Amount) (tunnelID : String) (direction : Direction) : ℕ :=
  ((amounts.filter fun amount => amount.tunnelID = tunnelID ∧ amount.direction = direction).map
    Amount.bytes).sum

/-- The bytes that wait in the table. -/
def TransferAgent.pending (agent : TransferAgent) (tunnelID : String) (direction : Direction) : ℕ :=
  ((agent.transferPending.lookup tunnelID).getD ⟨0, 0⟩).get direction

/-- The bytes of a writer that are not in the table: what `Write` has returned and is not added yet belongs
to them, and what `observe` has added does not. -/
def TransferWriter.holds (writer : TransferWriter) : WriterPoint → ℕ
  | .wrote bytes => writer.pending + bytes
  | .observed _ => 0
  | .returned => 0
  | _ => writer.pending

/-- The bytes in the writer of a goroutine. -/
def Thread.unreported (tunnelID : String) (direction : Direction) : Thread → ℕ
  | .copying copier writer point =>
      if copier.tunnelID = tunnelID ∧ copier.direction = direction then writer.holds point else 0
  | _ => 0

/-- The bytes that a flush has removed from the table and not reported yet. -/
def Thread.removed (tunnelID : String) (direction : Direction) : Thread → ℕ
  | .reportTransfer other pending _ => if other = tunnelID then pending.get direction else 0
  | .reportDownload other download _ =>
      if other = tunnelID ∧ Direction.download = direction then download else 0
  | _ => 0

/-- The bytes in the hands of a goroutine. -/
def Thread.held (tunnelID : String) (direction : Direction) (thread : Thread) : ℕ :=
  thread.unreported tunnelID direction + thread.removed tunnelID direction

section Held

variable (tunnelID other : String) (direction : Direction)

@[simp] theorem held_copying (copier : Copier) (writer : TransferWriter) (point : WriterPoint) :
    (Thread.copying copier writer point).held tunnelID direction =
      if copier.tunnelID = tunnelID ∧ copier.direction = direction then writer.holds point else 0 := rfl

@[simp] theorem held_reportTransfer (pending : TransferCounters) (tunnelIDs : List String) :
    (Thread.reportTransfer other pending tunnelIDs).held tunnelID direction =
      if other = tunnelID then pending.get direction else 0 := Nat.zero_add _

@[simp] theorem held_reportDownload (download : ℕ) (tunnelIDs : List String) :
    (Thread.reportDownload other download tunnelIDs).held tunnelID direction =
      if other = tunnelID ∧ Direction.download = direction then download else 0 := Nat.zero_add _

/-- The upload of what was removed is reported first. -/
theorem held_reportTransfer_split (pending : TransferCounters) (tunnelIDs : List String) :
    (Thread.reportTransfer other pending tunnelIDs).held tunnelID direction =
      (Thread.reportDownload other pending.download tunnelIDs).held tunnelID direction +
        if other = tunnelID ∧ Direction.upload = direction then pending.upload else 0 := by
  rw [held_reportTransfer, held_reportDownload]
  by_cases own : other = tunnelID
  · cases direction with
    | upload => simp [own, TransferCounters.get]
    | download => simp [own, TransferCounters.get]
  · simp [own]

end Held

section Account

variable {agent : TransferAgent} {tunnelID : String} {direction : Direction}

theorem bytesOf_append (amounts : List Amount) (amount : Amount) (tunnelID : String)
    (direction : Direction) :
    bytesOf (amounts ++ [amount]) tunnelID direction = bytesOf amounts tunnelID direction +
      if amount.tunnelID = tunnelID ∧ amount.direction = direction then amount.bytes else 0 := by
  unfold bytesOf
  rw [List.filter_append, List.map_append, List.sum_append, List.filter_singleton]
  by_cases own : amount.tunnelID = tunnelID ∧ amount.direction = direction
  · simp [own]
  · simp [own]

theorem bytesOf_report (agent : TransferAgent) (other : String) (way : Direction) (bytes : ℕ) :
    bytesOf (agent.report other way bytes).reported tunnelID direction =
      bytesOf agent.reported tunnelID direction +
        if other = tunnelID ∧ way = direction then bytes else 0 := by
  unfold TransferAgent.report
  split
  · exact bytesOf_append _ _ _ _
  · rename_i nothing
    have zero : bytes = 0 := Nat.eq_zero_of_not_pos nothing
    rw [zero, ite_self]
    rfl

theorem get_zero (direction : Direction) : TransferCounters.get ⟨0, 0⟩ direction = 0 := by
  cases direction <;> rfl

/-- Adding to the counter that the text names. -/
theorem get_added (pending : TransferCounters) (way : String) (bytes : ℕ) (direction : Direction) :
    (if way = DirectionUpload then { pending with upload := pending.upload + bytes }
      else if way = DirectionDownload then { pending with download := pending.download + bytes }
      else pending : TransferCounters).get direction =
      pending.get direction + if way = direction.name then bytes else 0 := by
  have apart : DirectionDownload ≠ DirectionUpload := by decide
  by_cases up : way = DirectionUpload
  · subst up
    rw [if_pos rfl]
    cases direction with
    | upload => rfl
    | download =>
        have other : DirectionUpload ≠ Direction.name .download := Ne.symm apart
        rw [if_neg other]
        rfl
  · rw [if_neg up]
    by_cases down : way = DirectionDownload
    · subst down
      rw [if_pos rfl]
      cases direction with
      | upload =>
          have other : DirectionDownload ≠ Direction.name .upload := apart
          rw [if_neg other]
          rfl
      | download => rfl
    · rw [if_neg down]
      cases direction with
      | upload => exact (Nat.add_eq_left.mpr (if_neg up)).symm
      | download => exact (Nat.add_eq_left.mpr (if_neg down)).symm

/-- What `notifyTransfer` does to the table. -/
theorem pending_notifyTransfer (observed : agent.observer = true) (tunnelID : String)
    (direction : Direction) (other way : String) (bytes : ℤ) :
    (agent.notifyTransfer other way bytes).pending tunnelID direction =
      agent.pending tunnelID direction +
        if other = tunnelID ∧ way = direction.name then bytes.toNat else 0 := by
  by_cases nothing : bytes ≤ 0
  · have same : agent.notifyTransfer other way bytes = agent := if_pos (Or.inr nothing)
    rw [same, Int.toNat_of_nonpos nothing, ite_self]
    rfl
  · have stop : ¬ (agent.observer = false ∨ bytes ≤ 0) := by
      rw [observed]
      exact fun either => either.elim (nomatch ·) nothing
    unfold TransferAgent.notifyTransfer TransferAgent.pending
    rw [if_neg stop]
    simp only
    rw [GoMap.lookup_insert_if]
    by_cases own : tunnelID = other
    · subst own
      rw [if_pos rfl, Option.getD_some, get_added]
      simp only [true_and]
    · rw [if_neg own, if_neg fun both => own both.1.symm]
      rfl

/-! `notifyTransfer` and `flushTransfer` write to the table and to nothing else, and `report` to its log. -/

theorem notifyTransfer_frame (agent : TransferAgent) (tunnelID direction : String) (bytes : ℤ) :
    ∃ table, agent.notifyTransfer tunnelID direction bytes = { agent with transferPending := table } := by
  unfold TransferAgent.notifyTransfer
  split
  · exact ⟨agent.transferPending, rfl⟩
  · exact ⟨_, rfl⟩

theorem flushTransfer_frame (agent : TransferAgent) (tunnelID : String) :
    ∃ table, (agent.flushTransfer tunnelID).1 = { agent with transferPending := table } := by
  unfold TransferAgent.flushTransfer
  split
  · exact ⟨agent.transferPending, rfl⟩
  · exact ⟨_, rfl⟩

theorem report_frame (agent : TransferAgent) (tunnelID : String) (direction : Direction) (bytes : ℕ) :
    ∃ reported, agent.report tunnelID direction bytes = { agent with reported := reported } := by
  unfold TransferAgent.report
  split
  · exact ⟨_, rfl⟩
  · exact ⟨agent.reported, rfl⟩

theorem writeNotified_frame (agent : TransferAgent) (tunnelID direction : String) (bytes : ℤ) :
    ∃ written, agent.writeNotified tunnelID direction bytes = { agent with written := written } := by
  unfold TransferAgent.writeNotified
  split
  · exact ⟨_, rfl⟩
  · split
    · exact ⟨_, rfl⟩
    · exact ⟨agent.written, rfl⟩

/-- What a flush removes from the table. -/
theorem pending_flushTransfer (agent : TransferAgent) (other : String) :
    (agent.flushTransfer other).1.pending tunnelID direction +
        (if other = tunnelID then ((agent.flushTransfer other).2.getD ⟨0, 0⟩).get direction else 0) =
      agent.pending tunnelID direction := by
  unfold TransferAgent.flushTransfer
  cases found : agent.transferPending.lookup other with
  | none =>
      simp only
      rw [Option.getD_none, get_zero, ite_self]
      rfl
  | some pending =>
      unfold TransferAgent.pending
      simp only
      rw [GoMap.lookup_erase_if]
      by_cases own : other = tunnelID
      · subst own
        rw [if_pos rfl, if_pos rfl, found]
        cases direction <;> exact Nat.zero_add _
      · rw [if_neg (Ne.symm own), if_neg own]
        rfl

/-- A step moves bytes from one account to another, or writes them; `before` and `after` are in the hands
of the thread that takes it. -/
structure Balanced (tunnelID : String) (direction : Direction) (agent agent' : TransferAgent)
    (before after : ℕ) : Prop where
  observer : agent'.observer = agent.observer
  moved : bytesOf agent'.reported tunnelID direction + agent'.pending tunnelID direction + after +
      bytesOf agent.written tunnelID direction =
    bytesOf agent.reported tunnelID direction + agent.pending tunnelID direction + before +
      bytesOf agent'.written tunnelID direction

theorem balanced_refl (agent : TransferAgent) (held : ℕ) :
    Balanced tunnelID direction agent agent held held := ⟨rfl, rfl⟩

/-- The writer takes what the `Write` returned. -/
theorem balanced_write (agent : TransferAgent) (other : String) (way : Direction) (bytes held : ℕ) :
    Balanced tunnelID direction agent (agent.write other way bytes) held
      (held + if other = tunnelID ∧ way = direction then bytes else 0) := by
  refine ⟨rfl, ?_⟩
  have written := bytesOf_append agent.written ⟨other, way, bytes⟩ tunnelID direction
  show bytesOf agent.reported _ _ + agent.pending _ _ + _ + _ =
    _ + bytesOf (agent.written ++ [_]) tunnelID direction
  simp only at written
  omega

theorem name_inj {way : Direction} : way.name = direction.name ↔ way = direction := by
  cases way <;> cases direction <;> decide

/-- `observe` puts what a writer holds into the table. -/
theorem balanced_observe (observed : agent.observer = true) (other : String) (way : Direction)
    (bytes : ℕ) :
    Balanced tunnelID direction agent (agent.notifyTransfer other way.name bytes)
      (if other = tunnelID ∧ way = direction then bytes else 0) 0 := by
  obtain ⟨table, same⟩ := notifyTransfer_frame agent other way.name bytes
  have grown := pending_notifyTransfer observed tunnelID direction other way.name bytes
  simp only [name_inj, Int.toNat_natCast] at grown
  rw [same] at grown ⊢
  refine ⟨rfl, ?_⟩
  rw [grown]
  show bytesOf agent.reported _ _ + _ + 0 + bytesOf agent.written _ _ = _ + bytesOf agent.written _ _
  omega

theorem balanced_writeNotified (agent : TransferAgent) (other way : String) (bytes : ℤ) :
    Balanced tunnelID direction agent (agent.writeNotified other way bytes) 0
      (if other = tunnelID ∧ way = direction.name then bytes.toNat else 0) := by
  have write (known : Direction) :
      Balanced tunnelID direction agent (agent.write other known bytes.toNat) 0
        (if other = tunnelID ∧ known.name = direction.name then bytes.toNat else 0) := by
    have wrote : Balanced tunnelID direction agent (agent.write other known bytes.toNat) 0 _ :=
      balanced_write agent other known bytes.toNat 0
    rw [Nat.zero_add] at wrote
    simp only [name_inj]
    exact wrote
  unfold TransferAgent.writeNotified
  by_cases up : way = DirectionUpload
  · rw [if_pos up, up]
    exact write .upload
  · rw [if_neg up]
    by_cases down : way = DirectionDownload
    · rw [if_pos down, down]
      exact write .download
    · have unknown : ¬ (other = tunnelID ∧ way = direction.name) := by
        rintro ⟨-, known⟩
        cases direction with
        | upload => exact up known
        | download => exact down known
      rw [if_neg down, if_neg unknown]
      exact balanced_refl agent 0

/-- A direct notification is written and put into the table. -/
theorem balanced_notifyTransfer (observed : agent.observer = true) (other way : String) (bytes : ℤ) :
    Balanced tunnelID direction agent
      ((agent.writeNotified other way bytes).notifyTransfer other way bytes) 0 0 := by
  obtain ⟨table, same⟩ := notifyTransfer_frame (agent.writeNotified other way bytes) other way bytes
  have wrote : Balanced tunnelID direction agent (agent.writeNotified other way bytes) 0 _ :=
    balanced_writeNotified agent other way bytes
  have grown := pending_notifyTransfer (wrote.observer.trans observed) tunnelID direction other way bytes
  have moved := wrote.moved
  rw [same] at grown ⊢
  refine ⟨wrote.observer, ?_⟩
  rw [grown]
  show bytesOf (agent.writeNotified other way bytes).reported _ _ + _ + 0 + _ =
    _ + bytesOf (agent.writeNotified other way bytes).written _ _
  omega

/-- A flush takes what the table has of the tunnel. -/
theorem balanced_flushTransfer (agent : TransferAgent) (other : String) :
    Balanced tunnelID direction agent (agent.flushTransfer other).1 0
      (if other = tunnelID then ((agent.flushTransfer other).2.getD ⟨0, 0⟩).get direction else 0) := by
  obtain ⟨table, same⟩ := flushTransfer_frame agent other
  have removed : _ = agent.pending tunnelID direction := pending_flushTransfer agent other
  rw [same] at removed ⊢
  refine ⟨rfl, ?_⟩
  show bytesOf agent.reported _ _ + _ + _ + bytesOf agent.written _ _ = _ + bytesOf agent.written _ _
  omega

/-- A call of the observer. -/
theorem balanced_report (agent : TransferAgent) (other : String) (way : Direction) (bytes held : ℕ) :
    Balanced tunnelID direction agent (agent.report other way bytes)
      (held + if other = tunnelID ∧ way = direction then bytes else 0) held := by
  obtain ⟨reported, same⟩ := report_frame agent other way bytes
  have told : _ = bytesOf agent.reported tunnelID direction + _ := bytesOf_report agent other way bytes
  rw [same] at told ⊢
  refine ⟨rfl, ?_⟩
  rw [told]
  show _ + agent.pending _ _ + _ + bytesOf agent.written _ _ = _ + bytesOf agent.written _ _
  omega

theorem holds_afterFlush {writer : TransferWriter} (empty : writer.pending = 0) (last : Bool) :
    writer.holds (afterFlush last) = 0 := by
  cases last with
  | true => rfl
  | false => exact empty

/-- One step of a writer. -/
theorem balanced_writerStep {agent' : TransferAgent} {copier : Copier} {writer writer' : TransferWriter}
    {point point' : WriterPoint} {choice : Choice} (observed : agent.observer = true)
    (stepped : writerStep agent copier writer point choice = some (agent', writer', point')) :
    Balanced tunnelID direction agent agent'
      (if copier.tunnelID = tunnelID ∧ copier.direction = direction then writer.holds point else 0)
      (if copier.tunnelID = tunnelID ∧ copier.direction = direction then writer'.holds point' else 0) := by
  unfold writerStep at stepped
  split at stepped
  · rename_i bytes
    cases stepped
    have wrote (held : ℕ) : Balanced tunnelID direction agent
        (agent.write copier.tunnelID copier.direction bytes) held _ :=
      balanced_write agent copier.tunnelID copier.direction bytes held
    by_cases own : copier.tunnelID = tunnelID ∧ copier.direction = direction
    · rw [if_pos own, if_pos own]
      have taken := wrote writer.pending
      rwa [if_pos own] at taken
    · rw [if_neg own, if_neg own]
      have taken := wrote 0
      rwa [if_neg own] at taken
  · cases stepped
    exact balanced_refl agent _
  · cases stepped
    exact balanced_refl agent _
  · cases stepped
    have kept : writer.holds (if agent.now - writer.lastReport ≥ transferReportInterval then
        .flush false else .copyBuffer) = writer.holds .since := by
      split <;> rfl
    rw [kept]
    exact balanced_refl agent _
  · rename_i last
    split at stepped
    · rename_i empty
      cases stepped
      have before : writer.holds (.flush last) = 0 := empty
      rw [holds_afterFlush empty, before]
      exact balanced_refl agent _
    · cases stepped
      have after : writer.holds (.observed last) = 0 := rfl
      rw [after, ite_self]
      exact balanced_observe observed copier.tunnelID copier.direction writer.pending
  · cases stepped
    rw [holds_afterFlush rfl]
    exact balanced_refl agent _
  · cases stepped

/-- **One step of a goroutine.**  Nothing is lost or counted twice, and nobody starts with bytes. -/
theorem balanced_step {agent' : TransferAgent} {thread thread' : Thread} {spawned : List Thread}
    {choice : Choice} (observed : agent.observer = true)
    (stepped : step agent thread choice = some (agent', thread', spawned)) :
    Balanced tunnelID direction agent agent' (thread.held tunnelID direction)
        (thread'.held tunnelID direction) ∧
      ∀ fresh ∈ spawned, fresh.held tunnelID direction = 0 := by
  have idle : ∀ fresh ∈ ([] : List Thread), fresh.held tunnelID direction = 0 := fun _ none' =>
    (List.not_mem_nil none').elim
  unfold step at stepped
  split at stepped
  · cases stepped
    refine ⟨⟨rfl, rfl⟩, fun fresh member => ?_⟩
    rcases List.mem_pair.mp member with rfl | rfl
    · rfl
    · rfl
  · split at stepped
    · cases stepped
      exact ⟨⟨rfl, rfl⟩, idle⟩
    · cases stepped
  · split at stepped
    · cases stepped
      exact ⟨⟨rfl, rfl⟩, idle⟩
    · cases stepped
  · cases stepped
    refine ⟨⟨rfl, ?_⟩, idle⟩
    -- a new writer is empty
    rw [held_copying]
    simp only [TransferWriter.holds, ite_self]
    rfl
  · split at stepped
    · cases stepped
      refine ⟨⟨rfl, ?_⟩, idle⟩
      rw [held_copying]
      simp only [TransferWriter.holds, ite_self]
      rfl
    · cases stepped
  · obtain ⟨⟨agent'', writer', point'⟩, wrote, same⟩ := Option.map_eq_some_iff.mp stepped
    cases same
    exact ⟨balanced_writerStep observed wrote, idle⟩
  · cases stepped
    exact ⟨balanced_notifyTransfer observed _ _ _, idle⟩
  · split at stepped
    · cases stepped
      exact ⟨balanced_refl agent 0, idle⟩
    · cases stepped
  · cases stepped
    exact ⟨balanced_refl agent 0, idle⟩
  · rename_i other tunnelIDs
    have removed : Balanced tunnelID direction agent (agent.flushTransfer other).1 0 _ :=
      balanced_flushTransfer agent other
    split at stepped
    · rename_i none'
      cases stepped
      rw [none'] at removed
      rw [Option.getD_none, get_zero, ite_self] at removed
      exact ⟨removed, idle⟩
    · rename_i some'
      cases stepped
      rw [some'] at removed
      rw [held_reportTransfer]
      exact ⟨removed, idle⟩
  · cases stepped
    rw [held_reportTransfer_split]
    exact ⟨balanced_report agent _ .upload _ _, idle⟩
  · cases stepped
    rename_i other download tunnelIDs
    have reported : Balanced tunnelID direction agent (agent.report other .download download) _ 0 :=
      balanced_report agent other .download download 0
    rw [Nat.zero_add] at reported
    rw [held_reportDownload]
    exact ⟨reported, idle⟩
  · cases stepped
    exact ⟨⟨rfl, rfl⟩, idle⟩
  · cases stepped

end Account

/-! ## The account of a run -/

/-- With an observer, nothing is missing in any tunnel and direction. -/
structure Accounted (config : Config TransferAgent Thread) : Prop where
  observed : config.shared.observer = true
  conserved : ∀ tunnelID direction,
    bytesOf config.shared.reported tunnelID direction + config.shared.pending tunnelID direction +
        config.total (Thread.held tunnelID direction) =
      bytesOf config.shared.written tunnelID direction

theorem accounted_start : Accounted start where
  observed := rfl
  conserved := fun _ direction => by cases direction <;> rfl

/-- A goroutine that arrives holds nothing. -/
theorem held_of_entry {thread : Thread} (admitted : entry thread = true) (tunnelID : String)
    (direction : Direction) : thread.held tunnelID direction = 0 := by
  unfold entry at admitted
  split at admitted
  all_goals first | rfl | cases admitted

theorem Accounted.exec {config next : Config TransferAgent Thread} {move : Move Thread Choice}
    (accounted : Accounted config) (moved : transferMachine.exec config move = some next) :
    Accounted next := by
  cases move with
  | arrive thread =>
      obtain ⟨admitted, rfl⟩ := Machine.exec_arrive moved
      refine ⟨accounted.observed, fun tunnelID direction => ?_⟩
      rw [Config.total_arrive, held_of_entry admitted]
      exact accounted.conserved tunnelID direction
  | run index choice =>
      obtain ⟨thread, agent', thread', spawned, present, stepped, rfl⟩ := Machine.exec_run moved
      have step (tunnelID : String) (direction : Direction) :
          Balanced tunnelID direction config.shared agent' _ _ ∧ _ :=
        balanced_step accounted.observed stepped
      refine ⟨(step "" .upload).1.observer.trans accounted.observed, fun tunnelID direction => ?_⟩
      obtain ⟨balanced, idle⟩ := step tunnelID direction
      have traded := Machine.total_run (Thread.held tunnelID direction) agent' thread' spawned present
      have born : (spawned.map (Thread.held tunnelID direction)).sum = 0 :=
        List.sum_eq_zero fun held member => by
          obtain ⟨fresh, spawned', rfl⟩ := List.mem_map.mp member
          exact idle fresh spawned'
      have before := accounted.conserved tunnelID direction
      have moved := balanced.moved
      rw [born] at traded
      show bytesOf agent'.reported _ _ + agent'.pending _ _ + _ = bytesOf agent'.written _ _
      omega

/-- **The account of every run.** -/
theorem Accounted.run {config later : Config TransferAgent Thread}
    {allowed : Config TransferAgent Thread → Move Thread Choice → Prop} (accounted : Accounted config)
    (reached : transferMachine.Run allowed config later) : Accounted later :=
  reached.invariant Accounted accounted fun _ _ _ holds _ moved => holds.exec moved

/-! ## Relays and their copies -/

/-- One for a copying goroutine of the relay. -/
def Thread.runs (relay : ℕ) : Thread → ℕ
  | .copyBytes copier => if copier.relay = relay then 1 else 0
  | .copying copier _ _ => if copier.relay = relay then 1 else 0
  | _ => 0

/-- How many results the relay still waits for. -/
def Thread.awaits (relay : ℕ) : Thread → ℕ
  | .firstErr other _ => if other = relay then 2 else 0
  | .secondErr other _ => if other = relay then 1 else 0
  | _ => 0

/-- What a step does to the copies of a relay and to its channel. -/
structure Joins (relay : ℕ) (agent agent' : TransferAgent) (thread thread' : Thread)
    (spawned : List Thread) : Prop where
  moved : thread'.runs relay + (spawned.map (Thread.runs relay)).sum + agent'.errCh relay +
      thread.awaits relay = thread.runs relay + agent.errCh relay + thread'.awaits relay
  idle : (spawned.map (Thread.awaits relay)).sum = 0

section Joining

variable {agent agent' : TransferAgent} {thread thread' : Thread} {spawned : List Thread}
variable {choice : Choice}

/-- The relays do not see what happens to the bytes. -/
theorem joins_of_same (relay : ℕ) (errCh : agent'.errCh = agent.errCh)
    (runs : thread'.runs relay = thread.runs relay) (awaits : thread'.awaits relay = thread.awaits relay) :
    Joins relay agent agent' thread thread' [] where
  moved := by
    rw [errCh, runs, awaits]
    rfl
  idle := rfl

/-- A relay receives one of the results that it waits for. -/
theorem joins_received {relay other : ℕ} (ready : 0 < agent.errCh other)
    (received : thread.awaits relay = thread'.awaits relay + if other = relay then 1 else 0)
    (before : thread.runs relay = 0) (after : thread'.runs relay = 0) :
    Joins relay agent
      { agent with errCh := Function.update agent.errCh other (agent.errCh other - 1) }
      thread thread' [] := by
  refine ⟨?_, rfl⟩
  rw [before, after, received]
  show 0 + 0 + Function.update agent.errCh other (agent.errCh other - 1) relay + _ = _
  by_cases own : other = relay
  · subst own
    rw [Function.update_self, if_pos rfl]
    omega
  · rw [Function.update_of_ne (Ne.symm own), if_neg own]
    omega

/-- A copy that has ended leaves its result. -/
theorem joins_sent {relay : ℕ} {copier : Copier} {writer : TransferWriter} :
    Joins relay agent
      { agent with errCh := Function.update agent.errCh copier.relay (agent.errCh copier.relay + 1) }
      (.copying copier writer .returned) .finished [] := by
  refine ⟨?_, rfl⟩
  show 0 + 0 + Function.update agent.errCh copier.relay (agent.errCh copier.relay + 1) relay + 0 =
    (if copier.relay = relay then 1 else 0) + agent.errCh relay + 0
  by_cases own : copier.relay = relay
  · rw [own, Function.update_self, if_pos rfl]
    omega
  · rw [Function.update_of_ne (Ne.symm own), if_neg own]

/-- A writer does not touch the channels. -/
theorem writerStep_frame {copier : Copier} {writer writer' : TransferWriter} {point point' : WriterPoint}
    (stepped : writerStep agent copier writer point choice = some (agent', writer', point')) :
    agent'.errCh = agent.errCh := by
  unfold writerStep at stepped
  split at stepped
  · cases stepped
    rfl
  · cases stepped
    rfl
  · cases stepped
    rfl
  · cases stepped
    rfl
  · split at stepped
    · cases stepped
      rfl
    · cases stepped
      obtain ⟨table, same⟩ := notifyTransfer_frame agent copier.tunnelID copier.direction.name writer.pending
      rw [same]
  · cases stepped
    rfl
  · cases stepped

theorem joins_step (relay : ℕ) (stepped : step agent thread choice = some (agent', thread', spawned)) :
    Joins relay agent agent' thread thread' spawned := by
  unfold step at stepped
  split at stepped
  · rename_i tunnelID
    cases stepped
    refine ⟨?_, rfl⟩
    simp only [List.map_cons, List.map_nil, List.sum_cons, List.sum_nil, Thread.runs, Thread.awaits]
    split <;> omega
  · split at stepped
    · rename_i ready
      cases stepped
      refine joins_received ready ?_ rfl rfl
      simp only [Thread.awaits]
      split <;> rfl
    · cases stepped
  · split at stepped
    · rename_i ready
      cases stepped
      exact joins_received ready (Nat.zero_add _).symm rfl rfl
    · cases stepped
  · cases stepped
    exact joins_of_same relay rfl rfl rfl
  · split at stepped
    · cases stepped
      exact joins_sent
    · cases stepped
  · obtain ⟨⟨agent'', writer', point'⟩, wrote, same⟩ := Option.map_eq_some_iff.mp stepped
    cases same
    exact joins_of_same relay (writerStep_frame wrote) rfl rfl
  · rename_i tunnelID direction bytes
    cases stepped
    obtain ⟨written, wrote⟩ := writeNotified_frame agent tunnelID direction bytes
    rw [wrote]
    obtain ⟨table, notified⟩ :=
      notifyTransfer_frame { agent with written := written } tunnelID direction bytes
    rw [notified]
    exact joins_of_same relay rfl rfl rfl
  · split at stepped
    · cases stepped
      exact joins_of_same relay rfl rfl rfl
    · cases stepped
  · cases stepped
    exact joins_of_same relay rfl rfl rfl
  · rename_i tunnelID tunnelIDs
    obtain ⟨table, flushed⟩ := flushTransfer_frame agent tunnelID
    split at stepped
    · rename_i none'
      cases stepped
      rw [none'] at flushed
      cases flushed
      exact joins_of_same relay rfl rfl rfl
    · rename_i some'
      cases stepped
      rw [some'] at flushed
      cases flushed
      exact joins_of_same relay rfl rfl rfl
  · rename_i tunnelID pending tunnelIDs
    cases stepped
    obtain ⟨reported, told⟩ := report_frame agent tunnelID .upload pending.upload
    rw [told]
    exact joins_of_same relay rfl rfl rfl
  · rename_i tunnelID download tunnelIDs
    cases stepped
    obtain ⟨reported, told⟩ := report_frame agent tunnelID .download download
    rw [told]
    exact joins_of_same relay rfl rfl rfl
  · cases stepped
    exact joins_of_same relay rfl rfl rfl
  · cases stepped

/-- The copies of a relay that run, and those whose results wait, are those that it waits for. -/
def Joined (config : Config TransferAgent Thread) : Prop :=
  ∀ relay, config.total (Thread.runs relay) + config.shared.errCh relay =
    config.total (Thread.awaits relay)

theorem joined_of_reachable {config : Config TransferAgent Thread}
    (reached : transferMachine.Reachable start config) : Joined config := by
  refine reached.reachable_invariant Joined (fun _ => rfl) ?_ ?_
  · intro config thread joined admitted relay
    have idle : thread.runs relay = 0 ∧ thread.awaits relay = 0 := by
      change entry thread = true at admitted
      unfold entry at admitted
      split at admitted
      all_goals first | exact ⟨rfl, rfl⟩ | cases admitted
    rw [Config.total_arrive, Config.total_arrive, idle.1, idle.2]
    exact joined relay
  · intro config index choice thread agent' thread' spawned joined present stepped relay
    obtain ⟨moved, idle⟩ := joins_step relay stepped
    have before := joined relay
    have ran := Machine.total_run (Thread.runs relay) agent' thread' spawned present
    have awaits := Machine.total_run (Thread.awaits relay) agent' thread' spawned present
    rw [idle] at awaits
    show _ + agent'.errCh relay = _
    omega

end Joining

/-! ## A flush after the relays have ended -/

/-- A relay that has not returned, or a direct notification. -/
def Thread.notifies : Thread → Bool
  | .relay _ => true
  | .firstErr _ _ => true
  | .secondErr _ _ => true
  | .notifyTransfer _ _ _ => true
  | _ => false

/-- Flushes and time. -/
def Thread.flushes : Thread → Bool
  | .flushTransfers => true
  | .flushTransfer _ => true
  | .reportTransfer _ _ _ => true
  | .reportDownload _ _ _ => true
  | .clock => true
  | .finished => true
  | _ => false

/-- The flush will still look at the tunnel. -/
def Thread.willFlush (tunnelID : String) : Thread → Prop
  | .flushTransfers => True
  | .flushTransfer tunnelIDs => tunnelID ∈ tunnelIDs
  | .reportTransfer _ _ tunnelIDs => tunnelID ∈ tunnelIDs
  | .reportDownload _ _ tunnelIDs => tunnelID ∈ tunnelIDs
  | _ => False

/-- No relay and no direct notification starts. -/
def Quietly (_ : Config TransferAgent Thread) : Move Thread Choice → Prop
  | .arrive thread => thread.flushes = true
  | .run _ _ => True

instance (config : Config TransferAgent Thread) (move : Move Thread Choice) :
    Decidable (Quietly config move) := by
  unfold Quietly
  split <;> infer_instance

/-- When no relay waits any more, no copy runs any more. -/
theorem flushes_of_ended {config : Config TransferAgent Thread}
    (reached : transferMachine.Reachable start config)
    (ended : ∀ thread ∈ config.threads, thread.notifies = false) :
    ∀ thread ∈ config.threads, thread.flushes = true := by
  intro thread member
  have nobody (relay : ℕ) : config.total (Thread.awaits relay) = 0 := by
    refine List.sum_eq_zero fun awaits member => ?_
    obtain ⟨other, present, rfl⟩ := List.mem_map.mp member
    have stopped := ended other present
    cases other
    all_goals first | rfl | cases stopped
  have idle (relay : ℕ) : thread.runs relay = 0 := by
    have joined := joined_of_reachable reached relay
    have own : thread.runs relay ≤ _ := Config.le_total member
    have none' := nobody relay
    omega
  have stopped := ended thread member
  cases thread with
  | copyBytes copier =>
      have runs : (if copier.relay = copier.relay then 1 else 0) = 0 := idle copier.relay
      rw [if_pos rfl] at runs
      cases runs
  | copying copier writer point =>
      have runs : (if copier.relay = copier.relay then 1 else 0) = 0 := idle copier.relay
      rw [if_pos rfl] at runs
      cases runs
  | relay tunnelID => cases stopped
  | firstErr relay tunnelID => cases stopped
  | secondErr relay tunnelID => cases stopped
  | notifyTransfer tunnelID direction bytes => cases stopped
  | _ => rfl

section Flush

variable {agent agent' : TransferAgent} {thread thread' : Thread} {spawned : List Thread}
variable {choice : Choice} {tunnelID : String}

/-- What a flush, or the clock, does: the table does not grow, and a flush either still comes to the tunnel
or the table has nothing of it. -/
structure Flushed (tunnelID : String) (agent agent' : TransferAgent) (thread thread' : Thread)
    (spawned : List Thread) : Prop where
  quiet : thread'.flushes = true ∧ spawned = []
  emptied : agent.transferPending.lookup tunnelID = none → agent'.transferPending.lookup tunnelID = none
  came : thread.willFlush tunnelID → thread'.willFlush tunnelID ∨ agent'.transferPending.lookup tunnelID = none

/-- The table after a removal. -/
theorem lookup_flushTransfer (agent : TransferAgent) (other tunnelID : String) :
    (agent.flushTransfer other).1.transferPending.lookup tunnelID =
      if tunnelID = other then none else agent.transferPending.lookup tunnelID := by
  unfold TransferAgent.flushTransfer
  cases found : agent.transferPending.lookup other with
  | none =>
      simp only
      split
      · rename_i same
        rw [same, found]
      · rfl
  | some pending => exact GoMap.lookup_erase_if _ _ _

/-- A removal of one tunnel out of several. -/
theorem flushed_flushTransfer {other : String} {tunnelIDs : List String}
    (flushes : thread'.flushes = true)
    (rest : tunnelID ∈ tunnelIDs → thread'.willFlush tunnelID) :
    Flushed tunnelID agent (agent.flushTransfer other).1 (.flushTransfer (other :: tunnelIDs)) thread' [] where
  quiet := ⟨flushes, rfl⟩
  emptied := by
    intro none'
    rw [lookup_flushTransfer, none', ite_self]
  came := by
    intro member
    rcases List.mem_cons.mp member with own | later
    · refine Or.inr ?_
      rw [lookup_flushTransfer, if_pos own]
    · exact Or.inl (rest later)

/-- **One step of a flush.** -/
theorem flushed_step (flushes : thread.flushes = true)
    (stepped : step agent thread choice = some (agent', thread', spawned)) :
    Flushed tunnelID agent agent' thread thread' spawned := by
  unfold step at stepped
  split at stepped
  · cases flushes
  · cases flushes
  · cases flushes
  · cases flushes
  · cases flushes
  · cases flushes
  · cases flushes
  · rename_i tunnelIDs
    split at stepped
    · rename_i listed
      cases stepped
      refine ⟨⟨rfl, rfl⟩, id, fun _ => ?_⟩
      by_cases present : tunnelID ∈ agent.transferPending.entries.keys
      · exact Or.inl (listed.mem_iff.mpr present)
      · exact Or.inr (AList.lookup_eq_none.mpr present)
    · cases stepped
  · cases stepped
    exact ⟨⟨rfl, rfl⟩, id, fun none' => (List.not_mem_nil none').elim⟩
  · rename_i other tunnelIDs
    have removed {thread' : Thread} : thread'.flushes = true → _ → Flushed tunnelID agent
        (agent.flushTransfer other).1 (.flushTransfer (other :: tunnelIDs)) thread' [] :=
      flushed_flushTransfer
    split at stepped
    · rename_i none'
      cases stepped
      rw [none'] at removed
      exact removed rfl id
    · rename_i some'
      cases stepped
      rw [some'] at removed
      exact removed rfl id
  · rename_i other pending tunnelIDs
    cases stepped
    obtain ⟨reported, told⟩ := report_frame agent other .upload pending.upload
    rw [told]
    exact ⟨⟨rfl, rfl⟩, id, Or.inl⟩
  · rename_i other download tunnelIDs
    cases stepped
    obtain ⟨reported, told⟩ := report_frame agent other .download download
    rw [told]
    exact ⟨⟨rfl, rfl⟩, id, Or.inl⟩
  · cases stepped
    exact ⟨⟨rfl, rfl⟩, id, fun none' => (nomatch none')⟩
  · cases stepped

/-- The relays have ended, and the flush either still comes to the tunnel or the table has nothing of
it. -/
structure Flushing (tunnelID : String) (index : ℕ) (config : Config TransferAgent Thread) : Prop where
  quiet : ∀ thread ∈ config.threads, thread.flushes = true
  came : ∃ thread, config.threads[index]? = some thread ∧
    (thread.willFlush tunnelID ∨ config.shared.transferPending.lookup tunnelID = none)

theorem Flushing.exec {index : ℕ} {config next : Config TransferAgent Thread} {move : Move Thread Choice}
    (flushing : Flushing tunnelID index config) (permitted : Quietly config move)
    (moved : transferMachine.exec config move = some next) : Flushing tunnelID index next := by
  obtain ⟨flush, located, came⟩ := flushing.came
  cases move with
  | arrive thread =>
      obtain ⟨-, rfl⟩ := Machine.exec_arrive moved
      refine ⟨fun other member => ?_, flush, ?_, came⟩
      · rcases List.mem_append.mp member with old | new
        · exact flushing.quiet other old
        · rw [List.mem_singleton.mp new]
          exact permitted
      · exact (List.getElem?_append_left (List.getElem?_eq_some_iff.mp located).1).trans located
  | run position choice =>
      obtain ⟨thread, agent', thread', spawned, present, stepped, rfl⟩ := Machine.exec_run moved
      have flushed : Flushed tunnelID config.shared agent' thread thread' spawned :=
        flushed_step (flushing.quiet thread (List.mem_of_getElem? present)) stepped
      obtain ⟨flushes, rfl⟩ := flushed.quiet
      refine ⟨fun other member => ?_, ?_⟩
      · rcases Machine.mem_threads_of_step member with rfl | new | old
        · exact flushes
        · exact (List.not_mem_nil new).elim
        · exact flushing.quiet other old
      · simp only [List.append_nil]
        by_cases own : position = index
        · subst own
          cases located.symm.trans present
          have bound := (List.getElem?_eq_some_iff.mp present).1
          refine ⟨thread', List.getElem?_set_self bound, ?_⟩
          exact came.elim flushed.came fun none' => Or.inr (flushed.emptied none')
        · refine ⟨flush, (List.getElem?_set_ne own).trans located, ?_⟩
          exact came.imp_right flushed.emptied

/-- **A flush that has come to its end leaves nothing of the tunnel in the table.** -/
theorem Flushing.run {index : ℕ} {config later : Config TransferAgent Thread}
    (flushing : Flushing tunnelID index config) (ran : transferMachine.Run Quietly config later) :
    Flushing tunnelID index later :=
  ran.invariant (Flushing tunnelID index) flushing fun _ _ _ holds permitted moved =>
    holds.exec permitted moved

theorem Flushing.lookup {index : ℕ} {config : Config TransferAgent Thread}
    (flushing : Flushing tunnelID index config) (ended : config.threads[index]? = some .finished) :
    config.shared.transferPending.lookup tunnelID = none := by
  obtain ⟨flush, located, came⟩ := flushing.came
  cases located.symm.trans ended
  exact came.resolve_left fun never => never

end Flush

/-- What the goroutines hold is in writers and in flushes. -/
theorem total_held (config : Config TransferAgent Thread) (tunnelID : String) (direction : Direction) :
    config.total (Thread.held tunnelID direction) =
      config.total (Thread.unreported tunnelID direction) +
        config.total (Thread.removed tunnelID direction) :=
  List.sum_map_add

/-- Flushes have no writers. -/
theorem unreported_of_flushes {config : Config TransferAgent Thread}
    (quiet : ∀ thread ∈ config.threads, thread.flushes = true) (tunnelID : String)
    (direction : Direction) : config.total (Thread.unreported tunnelID direction) = 0 := by
  refine List.sum_eq_zero fun unreported member => ?_
  obtain ⟨thread, present, rfl⟩ := List.mem_map.mp member
  have flush := quiet thread present
  cases thread
  all_goals first | rfl | cases flush

/-- A flush between the removal and the last report. -/
def Thread.reports : Thread → Bool
  | .reportTransfer _ _ _ => true
  | .reportDownload _ _ _ => true
  | _ => false

theorem removed_of_reported {config : Config TransferAgent Thread}
    (reported : ∀ thread ∈ config.threads, thread.reports = false) (tunnelID : String)
    (direction : Direction) : config.total (Thread.removed tunnelID direction) = 0 := by
  refine List.sum_eq_zero fun removed member => ?_
  obtain ⟨thread, present, rfl⟩ := List.mem_map.mp member
  have told := reported thread present
  cases thread
  all_goals first | rfl | cases told

/-- A flush that had the tunnel before it in the first configuration has come to its end in the second, and
nothing else was notified meanwhile. -/
def FlushRan (tunnelID : String) (config later : Config TransferAgent Thread) : Prop :=
  ∃ (index : ℕ) (flush : Thread), config.threads[index]? = some flush ∧ flush.willFlush tunnelID ∧
    transferMachine.Run Quietly config later ∧ later.threads[index]? = some .finished

/-- **Every byte is reported once, or is on its way; and when the relays have ended and a flush has run, only
what other flushes have in their hands is still on its way.** -/
theorem transfers_accounted {config : Config TransferAgent Thread}
    (reached : transferMachine.Reachable start config) :
    (∀ tunnelID direction,
      bytesOf config.shared.reported tunnelID direction + config.shared.pending tunnelID direction +
          config.total (Thread.unreported tunnelID direction) +
          config.total (Thread.removed tunnelID direction) =
        bytesOf config.shared.written tunnelID direction) ∧
      ((∀ thread ∈ config.threads, thread.notifies = false) →
        ∀ tunnelID later, FlushRan tunnelID config later → ∀ direction,
          bytesOf later.shared.reported tunnelID direction +
              later.total (Thread.removed tunnelID direction) =
            bytesOf later.shared.written tunnelID direction ∧
          ((∀ thread ∈ later.threads, thread.reports = false) →
            bytesOf later.shared.reported tunnelID direction =
              bytesOf later.shared.written tunnelID direction)) := by
  have accounted : Accounted config := accounted_start.run reached
  refine ⟨fun tunnelID direction => ?_, fun ended tunnelID later flushed direction => ?_⟩
  · rw [← accounted.conserved, total_held, add_assoc]
  · obtain ⟨index, flush, located, will, ran, finished⟩ := flushed
    have quiet := flushes_of_ended reached ended
    have flushing : Flushing tunnelID index later :=
      Flushing.run ⟨quiet, flush, located, Or.inl will⟩ ran
    have conserved := (accounted.run ran).conserved tunnelID direction
    have emptied : later.shared.pending tunnelID direction = 0 := by
      unfold TransferAgent.pending
      rw [flushing.lookup finished]
      exact get_zero direction
    rw [total_held, emptied, unreported_of_flushes flushing.quiet, add_zero, zero_add] at conserved
    refine ⟨conserved, fun reported => ?_⟩
    rw [removed_of_reported reported, add_zero] at conserved
    exact conserved

/-- A relay copies five bytes to the other side, and its own flush reports them. -/
theorem transfers_accounted_relay :
    ∃ config later, transferMachine.Reachable start config ∧ FlushRan "tun-1" config later ∧
      bytesOf later.shared.written "tun-1" .upload = 5 ∧
      bytesOf later.shared.reported "tun-1" .upload = 5 := by
  obtain ⟨config, reached, ended, located, replayed⟩ :
      ∃ config, transferMachine.Reachable start config ∧
        (∀ thread ∈ config.threads, thread.notifies = false) ∧
        config.threads[0]? = some (.flushTransfer ["tun-1"]) ∧
        (transferMachine.replay Quietly config [.run 0 .go, .run 0 .go, .run 0 .go, .run 0 .go]).any
          (fun later => later.threads[0]? = some .finished ∧
            (∀ thread ∈ later.threads, thread.reports = false) ∧
            bytesOf later.shared.written "tun-1" .upload = 5) = true := by
    refine Machine.exists_run_of_replay
      [.arrive (.relay "tun-1"), .run 0 .go, .run 1 .go, .run 2 .go, .run 1 (.write 5), .run 1 .go,
        .run 1 .go, .run 1 .close, .run 1 .go, .run 1 .go, .run 1 .go, .run 2 .close, .run 2 .go,
        .run 2 .go, .run 0 .go, .run 0 .go] ?_
    decide +kernel
  obtain ⟨later, ran, finished, told, written⟩ := Machine.exists_run_of_replay _ replayed
  have flushed : FlushRan "tun-1" config later :=
    ⟨0, _, located, List.mem_singleton_self _, ran, finished⟩
  have reported := ((transfers_accounted reached).2 ended "tun-1" later flushed .upload).2 told
  exact ⟨config, later, reached, flushed, written, reported.trans written⟩

/-- A flush has taken the five bytes of a relay out of the table and not reported them when the relay ends.
Neither the flush of the relay nor a later one sees them. -/
theorem unreported_after_flush :
    ∃ config later, transferMachine.Reachable start config ∧
      (∀ thread ∈ config.threads, thread.notifies = false) ∧ FlushRan "tun-1" config later ∧
      bytesOf later.shared.written "tun-1" .upload = 5 ∧
      bytesOf later.shared.reported "tun-1" .upload = 0 := by
  obtain ⟨config, reached, ended, located, replayed⟩ :
      ∃ config, transferMachine.Reachable start config ∧
        (∀ thread ∈ config.threads, thread.notifies = false) ∧
        config.threads[4]? = some .flushTransfers ∧
        (transferMachine.replay Quietly config [.run 4 (.order []), .run 4 .go]).any
          (fun later => later.threads[4]? = some .finished ∧
            bytesOf later.shared.written "tun-1" .upload = 5 ∧
            bytesOf later.shared.reported "tun-1" .upload = 0) = true := by
    refine Machine.exists_run_of_replay
      [.arrive (.relay "tun-1"), .run 0 .go, .run 1 .go, .run 2 .go, .run 1 (.write 5), .run 1 .go,
        .run 1 .go, .run 1 .close, .run 1 .go, .run 1 .go, .run 1 .go, .arrive .flushTransfers,
        .run 3 (.order ["tun-1"]), .run 3 .go, .run 2 .close, .run 2 .go, .run 2 .go, .run 0 .go,
        .run 0 .go, .run 0 .go, .run 0 .go, .arrive .flushTransfers] ?_
    decide +kernel
  obtain ⟨later, ran, finished, written, reported⟩ := Machine.exists_run_of_replay _ replayed
  exact ⟨config, later, reached, ended, ⟨4, _, located, trivial, ran, finished⟩, written, reported⟩

end NryNet.Agent.Transfers

import Mathlib.Algebra.BigOperators.Group.List.Basic
import Mathlib.Algebra.Group.Prod
import Mathlib.Algebra.Ring.Int.Defs
import NryNet.Lib.GoMap
import NryNet.Storage.Devices

/-!
# The traffic recorder (`server/tunnel/traffic_recorder.go`)

Bytes are added to a map under a lock.  Once a second the goroutine `run` takes the map away, leaves an
empty one behind and writes what it took as one transaction; when the recorder is closed it does so a
last time and returns.  Meanwhile the store is changed by everybody else.

The goroutine stands in front of its `select`, or in front of its call of the store with the map it
took, or it has returned.  Beside the recorder runs a ledger: which calls of `add` are in the map,
which are in the hands of the goroutine, and with which database before and after the others were
written.
-/

namespace NryNet

open GoText

/-- Addition of `int64`. -/
def wrap64 (value : ℤ) : ℤ := value.bmod (2 ^ 64)

/-- Where the goroutine of `run` stands. -/
inductive RecorderPhase where
  | waiting
  | writing (final : Bool) (deltas : List TrafficDelta)
  | returned
  deriving DecidableEq, Repr

/-- `trafficRecorder`, with the database behind its store.  The values of the map are the uploaded and
the downloaded bytes. -/
structure TrafficRecorder where
  items : GoMap String (ℤ × ℤ)
  phase : RecorderPhase
  stop : Bool
  db : Database

/-- What happens to the recorder: a call of `add`, one of the two branches of the `select` of `run`, its
call of the store, `close`, and the operations of everybody else on the store. -/
inductive RecorderEvent where
  | add (tunnelID : String) (upload download : ℤ)
  | tick (order : GoMap.RangeOrder String (ℤ × ℤ))
  | stopped (order : GoMap.RangeOrder String (ℤ × ℤ))
  | write (now : Time)
  | close
  | store (operation : Operation)

namespace TrafficRecorder

/-- `newTrafficRecorder`. -/
def start (db : Database) : TrafficRecorder := ⟨∅, .waiting, false, db⟩

/-- The test with which `add` begins. -/
def ignores (tunnelID : String) (upload download : ℤ) : Bool :=
  tunnelID = "" || (upload ≤ 0 && download ≤ 0)

/-- `add`, below its test. -/
def enter (delta : ℤ × ℤ) (upload download : ℤ) : ℤ × ℤ :=
  (if 0 < upload then wrap64 (delta.1 + upload) else delta.1,
    if 0 < download then wrap64 (delta.2 + download) else delta.2)

/-- `add`. -/
def add (r : TrafficRecorder) (tunnelID : String) (upload download : ℤ) : TrafficRecorder :=
  if ignores tunnelID upload download then r
  else
    let delta := (r.items.lookup tunnelID).getD (0, 0)
    { r with items := r.items.insert tunnelID (enter delta upload download) }

/-- The map as `flush` hands it to the store. -/
def deltas (entries : List (Σ _ : String, ℤ × ℤ)) : List TrafficDelta :=
  entries.map fun entry => ⟨entry.1, entry.2.1, entry.2.2⟩

/-- `flush` up to its call of the store. -/
def flush (r : TrafficRecorder) (final : Bool) (order : GoMap.RangeOrder String (ℤ × ℤ)) :
    TrafficRecorder :=
  if r.items.entries = [] then { r with phase := if final then .returned else .waiting }
  else { r with items := ∅, phase := .writing final (deltas (order.visit r.items)) }

variable [CaseTable]

/-- One step; `none` when nobody stands there. -/
def step (r : TrafficRecorder) : RecorderEvent → Option TrafficRecorder
  | .add tunnelID upload download => some (r.add tunnelID upload download)
  | .tick order => if r.phase = .waiting then some (r.flush false order) else none
  | .stopped order =>
      if r.phase = .waiting ∧ r.stop = true then some (r.flush true order) else none
  | .write now =>
      match r.phase with
      | .writing final deltas =>
          some { r with
            -- the error is dropped
            db := (Database.recordTrafficBatch deltas now r.db).1
            phase := if final then .returned else .waiting }
      | _ => none
  | .close => some { r with stop := true }
  | .store operation => some { r with db := (operation.perform r.db).1 }

end TrafficRecorder

/-! ## The ledger -/

/-- Calls of `add` that were written together, with the database before and after. -/
structure SettledBatch where
  adds : List TrafficDelta
  before : Database
  after : Database

/-- Where the bytes of the calls of `add` are. -/
structure TrafficLedger where
  adds : List TrafficDelta
  settled : List SettledBatch
  held : List TrafficDelta
  pending : List TrafficDelta
  closed : Option ℕ

namespace TrafficLedger

/-- Nothing was added yet. -/
def start : TrafficLedger := ⟨[], [], [], [], none⟩

variable [CaseTable]

/-- The ledger after a step of the recorder. -/
def record (ledger : TrafficLedger) (r : TrafficRecorder) : RecorderEvent → TrafficLedger
  | .add tunnelID upload download =>
      if TrafficRecorder.ignores tunnelID upload download then ledger
      else
        { ledger with
          adds := ledger.adds ++ [⟨tunnelID, max upload 0, max download 0⟩]
          pending := ledger.pending ++ [⟨tunnelID, max upload 0, max download 0⟩] }
  | .tick _ => { ledger with held := ledger.pending, pending := [] }
  | .stopped _ => { ledger with held := ledger.pending, pending := [] }
  | .write now =>
      match r.phase with
      | .writing _ deltas =>
          { ledger with
            settled := ledger.settled ++
              [⟨ledger.held, r.db, (Database.recordTrafficBatch deltas now r.db).1⟩]
            held := [] }
      | _ => ledger
  | .close => { ledger with closed := ledger.closed.or (some ledger.adds.length) }
  | .store _ => ledger

end TrafficLedger

/-- The bytes for one tunnel in a list of amounts, uploaded and downloaded. -/
def bytesOf (items : List TrafficDelta) (tunnelID : String) : ℤ × ℤ :=
  ((items.filter fun item => item.tunnelID = tunnelID).map fun item =>
    (item.upload, item.download)).sum

/-- The amount in a row of `traffic_logs`. -/
def TrafficRow.delta (row : TrafficRow) : TrafficDelta := ⟨row.tunnelID, row.upload, row.download⟩

/-- The bytes of every tunnel that existed were written, once. -/
def SettledBatch.Stored (batch : SettledBatch) : Prop :=
  ∀ tunnel ∈ batch.before.tunnels, ∃ rows,
    batch.after.trafficLogs = batch.before.trafficLogs ++ rows ∧
      bytesOf (rows.map TrafficRow.delta) tunnel.id = bytesOf batch.adds tunnel.id

/-- Traffic is conserved: each call of `add` is in one place, what was written is stored, and when `run`
has returned, everything that was added before `close` was written. -/
structure TrafficLedger.Conserved (ledger : TrafficLedger) (r : TrafficRecorder) : Prop where
  placed : ledger.adds = ledger.settled.flatMap SettledBatch.adds ++ ledger.held ++ ledger.pending
  stored : ∀ batch ∈ ledger.settled, batch.Stored
  closed : r.phase = .returned → ∀ count, ledger.closed = some count →
    ledger.adds.take count <+: ledger.settled.flatMap SettledBatch.adds

namespace TrafficRecorder

variable [CaseTable]

/-- The runs whose steps are all allowed. -/
inductive Run (allowed : TrafficRecorder → RecorderEvent → Prop) :
    TrafficRecorder → TrafficLedger → Prop
  | start (db : Database) (valid : db.Valid) : Run allowed (start db) TrafficLedger.start
  | step {r r' : TrafficRecorder} {ledger : TrafficLedger} {event : RecorderEvent}
      (earlier : Run allowed r ledger) (permitted : allowed r event)
      (moved : r.step event = some r') : Run allowed r' (ledger.record r event)

end TrafficRecorder

/-! ## One batch -/

namespace Database

variable {db : Database} {now : Time}

/-- The row that is written for an amount. -/
def trafficRow (now : Time) (item : TrafficDelta) : TrafficRow :=
  ⟨item.tunnelID, item.upload, item.download, now⟩

/-- A reference to an existing tunnel may be added. -/
theorem Valid.insertTraffic (valid : db.Valid) (row : TrafficRow)
    (known : ∃ tunnel ∈ db.tunnels, tunnel.id = row.tunnelID) :
    ({ db with trafficLogs := db.trafficLogs ++ [row] } : Database).Valid :=
  { valid with
    tunnel := by
      intro other member
      rcases List.mem_append.mp member with old | new
      · exact valid.tunnel other old
      · rw [List.mem_singleton.mp new]
        exact known }

/-- The amounts that `add` collects. -/
def Proper (item : TrafficDelta) : Prop :=
  item.tunnelID ≠ "" ∧ 0 ≤ item.upload ∧ 0 ≤ item.download ∧ ¬(item.upload = 0 ∧ item.download = 0)

theorem insertDelta_ok (now : Time) (valid : db.Valid) {item : TrafficDelta} (proper : Proper item)
    (known : ∃ tunnel ∈ db.tunnels, tunnel.id = item.tunnelID) :
    insertDelta now item db =
      ({ db with trafficLogs := db.trafficLogs ++ [trafficRow now item] }, .ok ()) := by
  have intact := valid.insertTraffic (trafficRow now item) known
  unfold insertDelta Database.insertTraffic
  rw [if_neg proper.2.2.2, Fallible.bind_ok (execute_ok intact)]
  rfl

theorem insertDelta_error (now : Time) {item : TrafficDelta} (proper : Proper item)
    (missing : ∀ tunnel ∈ db.tunnels, tunnel.id ≠ item.tunnelID) :
    ∃ message, insertDelta now item db = (db, .error message) := by
  have invalid :
      ¬({ db with trafficLogs := db.trafficLogs ++ [trafficRow now item] } : Database).Valid := by
    intro intact
    obtain ⟨tunnel, member, same⟩ :=
      intact.tunnel _ (List.mem_append_right _ (List.mem_singleton_self _))
    exact missing tunnel member same
  unfold insertDelta Database.insertTraffic
  rw [if_neg proper.2.2.2]
  obtain ⟨message, failed⟩ := @execute_fails db
    (fun db => ({ db with trafficLogs := db.trafficLogs ++ [trafficRow now item] }, 1)) invalid
  exact ⟨message, Fallible.bind_error failed⟩

/-- The loop over amounts whose tunnels all exist. -/
theorem each_insertDelta_ok {items : List TrafficDelta} (proper : ∀ item ∈ items, Proper item)
    (valid : db.Valid) (known : ∀ item ∈ items, ∃ tunnel ∈ db.tunnels, tunnel.id = item.tunnelID) :
    Fallible.each (insertDelta now) items db =
      ({ db with trafficLogs := db.trafficLogs ++ items.map (trafficRow now) }, .ok ()) := by
  induction items generalizing db with
  | nil =>
      rw [List.map_nil, List.append_nil]
      rfl
  | cons item rest hypothesis =>
      have first := insertDelta_ok now valid (proper item (List.mem_cons_self ..))
        (known item (List.mem_cons_self ..))
      have intact := valid.insertTraffic (trafficRow now item)
        (known item (List.mem_cons_self ..))
      unfold Fallible.each
      rw [Fallible.bind_ok first, hypothesis
        (fun other member => proper other (List.mem_cons_of_mem _ member)) intact
        fun other member => known other (List.mem_cons_of_mem _ member)]
      simp only [List.map_cons, List.append_assoc, List.singleton_append]

/-- The loop over amounts of which one belongs to no tunnel. -/
theorem each_insertDelta_error {items : List TrafficDelta} (proper : ∀ item ∈ items, Proper item)
    (valid : db.Valid) {item : TrafficDelta} (member : item ∈ items)
    (missing : ∀ tunnel ∈ db.tunnels, tunnel.id ≠ item.tunnelID) :
    ∃ db' message, Fallible.each (insertDelta now) items db = (db', .error message) := by
  induction items generalizing db with
  | nil => cases member
  | cons head rest hypothesis =>
      by_cases known : ∃ tunnel ∈ db.tunnels, tunnel.id = head.tunnelID
      · have first := insertDelta_ok now valid (proper head (List.mem_cons_self ..)) known
        have later : item ∈ rest := by
          rcases List.mem_cons.mp member with rfl | later
          · obtain ⟨tunnel, present, same⟩ := known
            exact absurd same (missing tunnel present)
          · exact later
        unfold Fallible.each
        rw [Fallible.bind_ok first]
        exact hypothesis (fun other there => proper other (List.mem_cons_of_mem _ there))
          (valid.insertTraffic _ known) later missing
      · have absent : ∀ tunnel ∈ db.tunnels, tunnel.id ≠ head.tunnelID := fun tunnel present same =>
          known ⟨tunnel, present, same⟩
        obtain ⟨message, failed⟩ := insertDelta_error now
          (proper head (List.mem_cons_self ..)) absent
        unfold Fallible.each
        exact ⟨db, message, Fallible.bind_error failed⟩

/-- `RecordTrafficBatch` over proper amounts is its transaction. -/
theorem recordTrafficBatch_proper {items : List TrafficDelta} (proper : ∀ item ∈ items, Proper item)
    (db : Database) :
    recordTrafficBatch items now db =
      Fallible.transaction (Fallible.each (insertDelta now) items) db := by
  unfold recordTrafficBatch
  split
  · rename_i none
    rw [none]
    rfl
  · rw [if_neg]
    rintro ⟨item, member, unnamed | negative | negative⟩
    · exact (proper item member).1 unnamed
    · exact absurd (proper item member).2.1 (not_le.mpr negative)
    · exact absurd (proper item member).2.2.1 (not_le.mpr negative)

end Database

/-! ## The bytes of a tunnel -/

theorem bytesOf_append (items more : List TrafficDelta) (tunnelID : String) :
    bytesOf (items ++ more) tunnelID = bytesOf items tunnelID + bytesOf more tunnelID := by
  unfold bytesOf
  rw [List.filter_append, List.map_append, List.sum_append]

theorem bytesOf_perm {items more : List TrafficDelta} (same : items.Perm more) (tunnelID : String) :
    bytesOf items tunnelID = bytesOf more tunnelID :=
  ((same.filter _).map _).sum_eq

/-- No amount of the tunnel is in the list. -/
theorem bytesOf_of_forall {items : List TrafficDelta} {tunnelID : String}
    (none : ∀ item ∈ items, item.tunnelID ≠ tunnelID) : bytesOf items tunnelID = 0 := by
  unfold bytesOf
  rw [List.filter_eq_nil_iff.mpr fun item member => by simpa using none item member]
  rfl

theorem bytesOf_singleton (item : TrafficDelta) (tunnelID : String) :
    bytesOf [item] tunnelID =
      if item.tunnelID = tunnelID then (item.upload, item.download) else 0 := by
  unfold bytesOf
  by_cases same : item.tunnelID = tunnelID
  · rw [if_pos same, List.filter_singleton]
    simp [same]
  · rw [if_neg same, List.filter_singleton]
    simp [same]

/-- The bytes of a tunnel in the map are its entry. -/
theorem bytesOf_deltas (items : GoMap String (ℤ × ℤ)) (tunnelID : String) :
    bytesOf (TrafficRecorder.deltas items.entries) tunnelID =
      (items.lookup tunnelID).getD (0, 0) := by
  obtain ⟨entries, distinct⟩ := items
  show _ = (List.dlookup tunnelID entries).getD (0, 0)
  induction entries with
  | nil => rfl
  | cons entry rest hypothesis =>
      obtain ⟨key, value⟩ := entry
      rw [List.nodupKeys_cons] at distinct
      have split : TrafficRecorder.deltas (⟨key, value⟩ :: rest) =
          [⟨key, value.1, value.2⟩] ++ TrafficRecorder.deltas rest := rfl
      rw [split, bytesOf_append, bytesOf_singleton, hypothesis distinct.2]
      by_cases same : key = tunnelID
      · subst same
        rw [if_pos rfl, List.dlookup_cons_eq, List.dlookup_eq_none.mpr distinct.1]
        show value + 0 = value
        exact add_zero _
      · rw [if_neg same, List.dlookup_cons_ne _ _ (Ne.symm same), zero_add]

/-! ## What the ledger says about the recorder -/

/-- What the ledger says at each place of the goroutine. -/
def TrafficLedger.At (ledger : TrafficLedger) (stop : Bool) : RecorderPhase → Prop
  | .waiting => ledger.held = []
  | .writing final deltas =>
      (∀ tunnelID, bytesOf deltas tunnelID = bytesOf ledger.held tunnelID) ∧
        (∀ delta ∈ deltas, Database.Proper delta) ∧
        (final = true → stop = true ∧ ∀ count, ledger.closed = some count →
          count ≤ (ledger.settled.flatMap SettledBatch.adds ++ ledger.held).length)
  | .returned => ledger.held = [] ∧ stop = true ∧ ∀ count, ledger.closed = some count →
      count ≤ (ledger.settled.flatMap SettledBatch.adds).length

/-- The invariant of the recorder and its ledger. -/
structure TrafficLedger.Tracks (ledger : TrafficLedger) (r : TrafficRecorder) : Prop where
  valid : r.db.Valid
  placed : ledger.adds = ledger.settled.flatMap SettledBatch.adds ++ ledger.held ++ ledger.pending
  stored : ∀ batch ∈ ledger.settled, batch.Stored
  items : ∀ tunnelID, (r.items.lookup tunnelID).getD (0, 0) = bytesOf ledger.pending tunnelID
  proper : ∀ entry ∈ r.items.entries, Database.Proper ⟨entry.1, entry.2.1, entry.2.2⟩
  empty : r.items.entries = [] → ledger.pending = []
  closing : r.stop = true → ledger.closed ≠ none
  counted : ∀ count, ledger.closed = some count → count ≤ ledger.adds.length
  place : ledger.At r.stop r.phase

theorem TrafficLedger.Tracks.conserved {ledger : TrafficLedger} {r : TrafficRecorder}
    (tracks : ledger.Tracks r) : ledger.Conserved r := by
  refine ⟨tracks.placed, tracks.stored, fun returned count closed => ?_⟩
  have place := tracks.place
  rw [returned] at place
  rw [tracks.placed, List.append_assoc, List.take_append_of_le_length (place.2.2 count closed)]
  exact List.take_prefix _ _

namespace TrafficRecorder

/-- No sum in the map leaves the range of `int64`, and no batch names both a tunnel that exists and one
that does not. -/
def Unmixed (r : TrafficRecorder) : RecorderEvent → Prop
  | .add tunnelID upload download =>
      let delta := (r.items.lookup tunnelID).getD (0, 0)
      delta.1 + max upload 0 < 2 ^ 63 ∧ delta.2 + max download 0 < 2 ^ 63
  | .write _ => ∀ final deltas, r.phase = .writing final deltas →
      (∀ delta ∈ deltas, ∃ tunnel ∈ r.db.tunnels, tunnel.id = delta.tunnelID) ∨
        ∀ delta ∈ deltas, ∀ tunnel ∈ r.db.tunnels, tunnel.id ≠ delta.tunnelID
  | _ => True

variable {r r' : TrafficRecorder} {ledger : TrafficLedger}

theorem wrap64_of_lt {value : ℤ} (lower : 0 ≤ value) (upper : value < 2 ^ 63) :
    wrap64 value = value := by
  unfold wrap64
  exact Int.bmod_eq_of_le (by omega) (by omega)

/-- Without overflow an entry grows by what is added. -/
theorem enter_eq {delta : ℤ × ℤ} {upload download : ℤ} (lower : 0 ≤ delta.1 ∧ 0 ≤ delta.2)
    (upper : delta.1 + max upload 0 < 2 ^ 63 ∧ delta.2 + max download 0 < 2 ^ 63) :
    enter delta upload download = delta + (max upload 0, max download 0) := by
  have component (sum amount : ℤ) (low : 0 ≤ sum) (high : sum + max amount 0 < 2 ^ 63) :
      (if 0 < amount then wrap64 (sum + amount) else sum) = sum + max amount 0 := by
    split
    · rename_i positive
      rw [max_eq_left positive.le] at high ⊢
      exact wrap64_of_lt (by omega) high
    · rename_i negative
      rw [max_eq_right (not_lt.mp negative), add_zero]
  unfold enter
  rw [component _ _ lower.1 upper.1, component _ _ lower.2 upper.2]
  rfl

/-- The entries of the map are proper amounts or nothing. -/
theorem entry_nonneg (tracks : ledger.Tracks r) (tunnelID : String) :
    0 ≤ ((r.items.lookup tunnelID).getD (0, 0)).1 ∧ 0 ≤ ((r.items.lookup tunnelID).getD (0, 0)).2 := by
  cases found : r.items.lookup tunnelID with
  | none => exact ⟨le_rfl, le_rfl⟩
  | some delta =>
      have proper := tracks.proper _ (GoMap.mem_lookup_iff_mem_entries.mp found)
      exact ⟨proper.2.1, proper.2.2.1⟩

/-- An entry that something was added to. -/
theorem proper_entry {delta : ℤ × ℤ} {tunnelID : String} {upload download : ℤ}
    (lower : 0 ≤ delta.1 ∧ 0 ≤ delta.2) (taken : ignores tunnelID upload download = false) :
    Database.Proper ⟨tunnelID, delta.1 + max upload 0, delta.2 + max download 0⟩ := by
  unfold ignores at taken
  simp only [Bool.or_eq_false_iff, decide_eq_false_iff_not, Bool.and_eq_false_iff, not_le] at taken
  obtain ⟨named, positive⟩ := taken
  refine ⟨named, Int.add_nonneg lower.1 (le_max_right _ _),
    Int.add_nonneg lower.2 (le_max_right _ _), ?_⟩
  rintro ⟨noUpload, noDownload⟩
  have := le_max_left upload 0
  have := le_max_left download 0
  simp only at noUpload noDownload
  rcases positive with more | more <;> omega

theorem tracks_add (tracks : ledger.Tracks r) {tunnelID : String} {upload download : ℤ}
    (fits : Unmixed r (.add tunnelID upload download))
    (taken : ignores tunnelID upload download = false) :
    let item : TrafficDelta := ⟨tunnelID, max upload 0, max download 0⟩
    ({ ledger with adds := ledger.adds ++ [item], pending := ledger.pending ++ [item] } :
      TrafficLedger).Tracks (r.add tunnelID upload download) := by
  intro item
  have lower := entry_nonneg tracks tunnelID
  have entered := enter_eq lower fits
  set delta := (r.items.lookup tunnelID).getD (0, 0) with delta_eq
  have left' : r.add tunnelID upload download =
      { r with items := r.items.insert tunnelID (delta + (max upload 0, max download 0)) } := by
    unfold add
    rw [if_neg (by rw [taken]; exact Bool.false_ne_true)]
    simp only
    rw [← delta_eq, entered]
  rw [left']
  refine
    { valid := tracks.valid
      placed := by simp only [tracks.placed, List.append_assoc]
      stored := tracks.stored
      items := fun other => ?_
      proper := fun entry member => ?_
      empty := fun none => ?_
      closing := tracks.closing
      counted := fun count closed => ?_
      place := ?_ }
  · show ((r.items.insert tunnelID _).lookup other).getD (0, 0) =
      bytesOf (ledger.pending ++ [item]) other
    rw [GoMap.lookup_insert_if, bytesOf_append, bytesOf_singleton, ← tracks.items other]
    by_cases same : other = tunnelID
    · subst same
      rw [if_pos rfl, if_pos rfl, delta_eq]
      rfl
    · rw [if_neg same, if_neg (Ne.symm same), add_zero]
  · obtain ⟨key, value⟩ := entry
    have found := GoMap.mem_lookup_iff_mem_entries.mpr member
    rw [GoMap.lookup_insert_if] at found
    by_cases same : key = tunnelID
    · rw [if_pos same, Option.some.injEq] at found
      rw [same, ← found]
      exact proper_entry lower taken
    · rw [if_neg same] at found
      exact tracks.proper _ (GoMap.mem_lookup_iff_mem_entries.mp found)
  · have absent : (r.items.insert tunnelID (delta + (max upload 0, max download 0))).lookup tunnelID =
        some (delta + (max upload 0, max download 0)) := AList.lookup_insert _
    have member := GoMap.mem_lookup_iff_mem_entries.mp absent
    rw [none] at member
    cases member
  · rw [List.length_append]
    exact (tracks.counted count closed).trans (Nat.le_add_right _ _)
  · exact tracks.place

/-- `flush` hands the map over to the goroutine. -/
theorem tracks_flush (tracks : ledger.Tracks r) (waiting : r.phase = .waiting) {final : Bool}
    (stopped : final = true → r.stop = true) (order : GoMap.RangeOrder String (ℤ × ℤ)) :
    ({ ledger with held := ledger.pending, pending := [] } : TrafficLedger).Tracks
      (r.flush final order) := by
  have idle : ledger.held = [] := by
    have place := tracks.place
    rw [waiting] at place
    exact place
  have placed : ledger.adds =
      ledger.settled.flatMap SettledBatch.adds ++ ledger.pending ++ [] := by
    rw [tracks.placed, idle, List.append_nil, List.append_nil]
  have counted (count : ℕ) (closed : ledger.closed = some count) :
      count ≤ (ledger.settled.flatMap SettledBatch.adds ++ ledger.pending).length := by
    rw [← List.append_nil (_ ++ ledger.pending), ← placed]
    exact tracks.counted count closed
  unfold flush
  by_cases none : r.items.entries = []
  · have nothing := tracks.empty none
    rw [if_pos none]
    refine
      { valid := tracks.valid
        placed := placed
        stored := tracks.stored
        items := fun tunnelID => nothing ▸ tracks.items tunnelID
        proper := tracks.proper
        empty := fun _ => rfl
        closing := tracks.closing
        counted := tracks.counted
        place := ?_ }
    cases final with
    | false => exact nothing
    | true =>
        refine ⟨nothing, stopped rfl, fun count closed => ?_⟩
        have bound := counted count closed
        rw [nothing, List.append_nil] at bound
        exact bound
  · rw [if_neg none]
    exact
      { valid := tracks.valid
        placed := placed
        stored := tracks.stored
        items := fun _ => rfl
        proper := fun _ member => by cases member
        empty := fun _ => rfl
        closing := tracks.closing
        counted := tracks.counted
        place := by
          have same : (deltas (order.visit r.items)).Perm (deltas r.items.entries) :=
            (order.perm r.items).map _
          refine ⟨fun tunnelID => ?_, fun delta member => ?_, fun last => ⟨stopped last, counted⟩⟩
          · rw [bytesOf_perm same, bytesOf_deltas]
            exact tracks.items tunnelID
          · obtain ⟨entry, present, rfl⟩ := List.mem_map.mp (same.mem_iff.mp member)
            exact tracks.proper entry present }

/-- A batch that names only tunnels that exist, or none that exists, is stored. -/
theorem stored_batch {db : Database} (valid : db.Valid) {adds deltas : List TrafficDelta}
    (same : ∀ tunnelID, bytesOf deltas tunnelID = bytesOf adds tunnelID)
    (proper : ∀ delta ∈ deltas, Database.Proper delta)
    (unmixed : (∀ delta ∈ deltas, ∃ tunnel ∈ db.tunnels, tunnel.id = delta.tunnelID) ∨
      ∀ delta ∈ deltas, ∀ tunnel ∈ db.tunnels, tunnel.id ≠ delta.tunnelID) (now : Time) :
    SettledBatch.Stored ⟨adds, db, (Database.recordTrafficBatch deltas now db).1⟩ := by
  intro tunnel member
  show ∃ rows, (Database.recordTrafficBatch deltas now db).1.trafficLogs = db.trafficLogs ++ rows ∧
    bytesOf (rows.map TrafficRow.delta) tunnel.id = bytesOf adds tunnel.id
  rw [Database.recordTrafficBatch_proper proper]
  rcases unmixed with known | missing
  · rw [Fallible.transaction_ok (Database.each_insertDelta_ok proper valid known)]
    refine ⟨_, rfl, ?_⟩
    rw [List.map_map, ← same]
    show bytesOf (deltas.map id) tunnel.id = _
    rw [List.map_id]
  · -- the tunnel is not in the batch, so it does not matter whether the transaction went through
    have absent : bytesOf adds tunnel.id = 0 := by
      rw [← same]
      exact bytesOf_of_forall fun delta there equal => missing delta there tunnel member equal.symm
    cases deltas with
    | nil => exact ⟨[], (List.append_nil _).symm, absent.symm⟩
    | cons delta rest =>
        obtain ⟨db', message, failed⟩ := Database.each_insertDelta_error proper valid
          (List.mem_cons_self ..) (missing delta (List.mem_cons_self ..))
        unfold Fallible.transaction
        rw [failed]
        exact ⟨[], (List.append_nil _).symm, absent.symm⟩

/-- The call of the store. -/
theorem tracks_write (tracks : ledger.Tracks r) {final : Bool} {deltas : List TrafficDelta}
    (phase : r.phase = .writing final deltas) {now : Time} (unmixed : Unmixed r (.write now)) :
    let after := (Database.recordTrafficBatch deltas now r.db).1
    ({ ledger with settled := ledger.settled ++ [⟨ledger.held, r.db, after⟩], held := [] } :
      TrafficLedger).Tracks
      { r with db := after, phase := if final then .returned else .waiting } := by
  intro after
  have place := tracks.place
  rw [phase] at place
  obtain ⟨same, proper, last⟩ := place
  have settled := stored_batch tracks.valid same proper (unmixed final deltas phase) now
  have flat : (ledger.settled ++ [(⟨ledger.held, r.db, after⟩ : SettledBatch)]).flatMap
      SettledBatch.adds = ledger.settled.flatMap SettledBatch.adds ++ ledger.held := by
    rw [List.flatMap_append, List.flatMap_singleton]
  exact
    { valid := ((Database.Keeps.recordTrafficBatch deltas now).kept tracks.valid).valid
      placed := by
        simp only [flat, List.append_nil]
        exact tracks.placed
      stored := by
        intro batch member
        rcases List.mem_append.mp member with old | new
        · exact tracks.stored batch old
        · rw [List.mem_singleton.mp new]
          exact settled
      items := tracks.items
      proper := tracks.proper
      empty := tracks.empty
      closing := tracks.closing
      counted := tracks.counted
      place := by
        cases final with
        | false => exact rfl
        | true =>
            refine ⟨rfl, (last rfl).1, ?_⟩
            simp only [flat]
            exact (last rfl).2 }

/-- `close` for the first time, or once more. -/
theorem tracks_close (tracks : ledger.Tracks r) :
    ({ ledger with closed := ledger.closed.or (some ledger.adds.length) } : TrafficLedger).Tracks
      { r with stop := true } := by
  cases closed : ledger.closed with
  | some count =>
      have same : ({ ledger with
          closed := (some count).or (some ledger.adds.length) } : TrafficLedger) = ledger := by
        rw [Option.some_or, ← closed]
      rw [same]
      refine { tracks with closing := fun _ => by rw [closed]; exact nofun, place := ?_ }
      have place := tracks.place
      show ledger.At true r.phase
      cases phase : r.phase with
      | waiting =>
          rw [phase] at place
          exact place
      | writing final deltas =>
          rw [phase] at place
          exact ⟨place.1, place.2.1, fun last => ⟨rfl, (place.2.2 last).2⟩⟩
      | returned =>
          rw [phase] at place
          exact ⟨place.1, rfl, place.2.2⟩
  | none =>
      -- nobody closed the recorder before, so the goroutine has not seen the signal
      have running : r.stop = false := by
        cases stop : r.stop with
        | false => rfl
        | true => exact absurd closed (tracks.closing stop)
      rw [Option.none_or]
      refine
        { tracks with
          closing := fun _ => nofun
          counted := fun count equal => (Option.some.inj equal).symm.le
          place := ?_ }
      have place := tracks.place
      rw [running] at place
      show TrafficLedger.At _ true r.phase
      cases phase : r.phase with
      | waiting =>
          rw [phase] at place
          exact place
      | writing final deltas =>
          rw [phase] at place
          exact ⟨place.1, place.2.1, fun last => absurd (place.2.2 last).1 Bool.false_ne_true⟩
      | returned =>
          rw [phase] at place
          exact absurd place.2.1 Bool.false_ne_true

variable [CaseTable]

/-- One step keeps the invariant. -/
theorem tracks_step (tracks : ledger.Tracks r) {event : RecorderEvent} (unmixed : Unmixed r event)
    (moved : r.step event = some r') : (ledger.record r event).Tracks r' := by
  cases event with
  | add tunnelID upload download =>
      rw [← Option.some.inj moved]
      cases taken : ignores tunnelID upload download with
      | true =>
          have same : r.add tunnelID upload download = r := if_pos taken
          simp only [TrafficLedger.record, taken, if_true, same]
          exact tracks
      | false =>
          simp only [TrafficLedger.record, taken, Bool.false_eq_true, if_false]
          exact tracks_add tracks unmixed taken
  | tick order =>
      simp only [step] at moved
      split at moved
      · rename_i waiting
        rw [← Option.some.inj moved]
        exact tracks_flush tracks waiting (fun final => absurd final Bool.false_ne_true) order
      · cases moved
  | stopped order =>
      simp only [step] at moved
      split at moved
      · rename_i ready
        rw [← Option.some.inj moved]
        exact tracks_flush tracks ready.1 (fun _ => ready.2) order
      · cases moved
  | write now =>
      cases phase : r.phase with
      | waiting =>
          simp only [step, phase] at moved
          cases moved
      | returned =>
          simp only [step, phase] at moved
          cases moved
      | writing final deltas =>
          simp only [step, phase] at moved
          simp only [TrafficLedger.record, phase]
          rw [← Option.some.inj moved]
          exact tracks_write tracks phase unmixed
  | close =>
      rw [← Option.some.inj moved]
      exact tracks_close tracks
  | store operation =>
      rw [← Option.some.inj moved]
      exact { tracks with valid := Operation.valid_perform tracks.valid operation }

/-- In every run in which no batch names both a tunnel that exists and one that does not, and no sum
overflows, traffic is conserved. -/
theorem traffic_conserved (run : Run Unmixed r ledger) : ledger.Conserved r := by
  suffices tracks : ledger.Tracks r from tracks.conserved
  induction run with
  | start db valid =>
      exact
        { valid := valid
          placed := rfl
          stored := fun _ member => by cases member
          items := fun _ => rfl
          proper := fun _ member => by cases member
          empty := fun _ => rfl
          closing := nofun
          counted := nofun
          place := rfl }
  | step earlier permitted moved hypothesis => exact tracks_step hypothesis permitted moved

end TrafficRecorder

namespace TrafficRecorder

/-- A client with two tunnels. -/
def twoTunnels : Database where
  tokens := [⟨⟨"t", "home", "abcdefgh", false, none, 1⟩, "hash"⟩]
  clients := [⟨"c", "laptop", "device", "t", .online, false, "192.0.2.1", "linux", "1.0", 2, 2⟩]
  revokedDevices := []
  tunnels :=
    [⟨"u", "c", "ssh", "tcp", "", "127.0.0.1", 22, 2222, "", .running, [], 3, 3⟩,
      ⟨"v", "c", "dns", "udp", "", "127.0.0.1", 53, 5353, "", .running, [], 4, 4⟩]
  trafficLogs := []

theorem valid_twoTunnels : twoTunnels.Valid := by
  rw [← Database.violation_eq_none]
  decide +kernel

/-- Both tunnels have traffic, one of them is deleted, and the bytes of the other are lost. -/
theorem mixed_batch_lost :
    ∃ r ledger, @Run CaseTable.ascii (fun _ _ => True) r ledger ∧ ¬ledger.Conserved r := by
  let _ := CaseTable.ascii
  refine ⟨_, _, ((((((Run.start twoTunnels valid_twoTunnels).step trivial
    (show step _ (.add "u" 10 20) = some _ from rfl)).step trivial
    (show step _ (.add "v" 1 2) = some _ from rfl)).step trivial
    (show step _ (.store (.deleteTunnel "v")) = some _ from rfl)).step trivial
    (show step _ (.tick (GoMap.RangeOrder.kept _ _)) = some _ from rfl)).step trivial
    (show step _ (.write 5) = some _ from rfl)), ?_⟩
  intro conserved
  obtain ⟨rows, grown, bytes⟩ := conserved.stored _ (List.mem_singleton_self _)
    ⟨"u", "c", "ssh", "tcp", "", "127.0.0.1", 22, 2222, "", .running, [], 3, 3⟩ (by decide +kernel)
  have none := (List.append_eq_nil_iff.mp (grown.symm.trans (by decide +kernel))).2
  subst none
  revert bytes
  decide +kernel

/-- The same without the deletion. -/
theorem traffic_conserved_twoTunnels :
    ∃ r ledger, @Run CaseTable.ascii Unmixed r ledger ∧ ledger.settled.length = 1 ∧
      ledger.Conserved r := by
  let _ := CaseTable.ascii
  have fits (upload download : ℤ) (bound : upload < 2 ^ 63 ∧ download < 2 ^ 63)
      (positive : 0 < upload ∧ 0 < download) :
      0 + max upload 0 < 2 ^ 63 ∧ 0 + max download 0 < 2 ^ 63 := by omega
  have run := (((Run.start twoTunnels valid_twoTunnels).step
    (show Unmixed _ (.add "u" 10 20) from fits 10 20 (by decide) (by decide)) rfl).step
    (show Unmixed _ (.add "v" 1 2) from fits 1 2 (by decide) (by decide)) rfl).step
    (show Unmixed _ (.tick (GoMap.RangeOrder.kept _ _)) from trivial) rfl
  have unmixed : Unmixed ((((start twoTunnels).add "u" 10 20).add "v" 1 2).flush false
      (GoMap.RangeOrder.kept String (ℤ × ℤ))) (.write 5) := by
    intro final deltas phase
    left
    obtain ⟨-, rfl⟩ := RecorderPhase.writing.inj phase
    decide +kernel
  have written := run.step unmixed rfl
  exact ⟨_, _, written, rfl, traffic_conserved written⟩

end TrafficRecorder

end NryNet

import Mathlib.Data.Fintype.BigOperators
import NryNet.Agent.VisitorStream
import NryNet.Lib.ThreadPool

/-!
# The slots of visitors (`client/agent/visitor_stream.go`, `visitor_limits.go`)

A request of a visitor takes a token from two channels: `slots` of its session, and `globalSlots` of the
agent.  A streamed request has its tokens as long as it is in the map; then a worker has them, and gives
them back when it is done.  They are also given back when a request is dropped and when the session is
closed, in both cases under the lock of the session.

The two channels are not changed at the same time, so their lengths agree only when nobody stands between
the two operations.  `slots_conserved` counts what is on the way.

## The model

A `Task` is a call at a place in the source, for one of the sessions `ι`; any call of `handle` and `close`
may come at any time.  Taking the lock is one step with what is done under it up to the next operation on
a channel, and each such operation is a step of its own.  A channel of empty structures is known by its
length.  The frames that are sent are left out; a sender that finds the buffer full for too long calls
`close`, which is a call like any other.
-/

namespace NryNet.Agent

open ByteStream ThreadPool

/-- A session with its mutex and the length of its channel. -/
structure SessionSlots where
  session : VisitorDataSession := {}
  locked : Bool := false
  slots : ℕ := 0

/-- The sessions of an agent. -/
structure VisitorSlots (ι : Type) where
  sessions : ι → SessionSlots
  globalSlots : ℕ

/-- What a slot is taken for: a worker, or a request in the map. -/
inductive Purpose where
  | request (data : Bytes)
  | start (message : VisitorWebRTCDataMessage)

/-- What a worker does. -/
inductive Job where
  | request (data : Bytes)
  | stream (id : String) (request : VisitorStreamRequest)

/-- The places in the source. -/
inductive Point where
  | handle (data : Bytes)
  | close
  | reserveSlot (data : Bytes)
  | start (message : VisitorWebRTCDataMessage)
  /-- in `reserveSlotLocked`, in front of `s.slots <- struct{}{}` -/
  | takeSlot (purpose : Purpose)
  /-- in front of `s.globalSlots <- struct{}{}` -/
  | takeGlobalSlot (purpose : Purpose)
  /-- in front of `<-s.slots`, when there is no global slot -/
  | putBack (purpose : Purpose)
  | granted (purpose : Purpose)
  | refused (purpose : Purpose)
  | chunk (message : VisitorWebRTCDataMessage)
  | removeAndError (id : String)
  | endRequest (message : VisitorWebRTCDataMessage)
  | launch (job : Job)
  | worker (job : Job)
  /-- in front of `<-s.slots`, with so many slots to give back, under the lock or not -/
  | giveSlot (locked : Bool) (count : ℕ)
  /-- in front of `<-s.globalSlots`, with so many more to give back -/
  | giveGlobalSlot (locked : Bool) (count : ℕ)
  | finished

/-- A call, and the session it is for. -/
structure Task (ι : Type) where
  session : ι
  point : Point

namespace SessionSlots

/-- `mu.Lock`, or `mu.Unlock`. -/
def lock (s : SessionSlots) (locked : Bool) : SessionSlots := { s with locked := locked }

/-- What the mutex guards. -/
def withSession (s : SessionSlots) (session : VisitorDataSession) : SessionSlots :=
  { s with session := session }

/-- `len(s.requests)`. -/
def pending (s : SessionSlots) : ℕ := s.session.requests.size

end SessionSlots

namespace Point

/-- Where `handle` goes with a message. -/
def ofMessage (data : Bytes) (message : VisitorWebRTCDataMessage) : Point :=
  if message.kind = "request" then .reserveSlot data
  else if message.kind = "request_start" then .start message
  else if message.kind = "request_chunk" then .chunk message
  else if message.kind = "request_end" then .endRequest message
  else .finished

/-- One step of a call. -/
def step [MessageJSON] (s : SessionSlots) (globalSlots : ℕ) :
    Point → Option (SessionSlots × ℕ × Point × List Point)
  | handle data =>
      if visitorMaxMessageBytes < data.length then some (s, globalSlots, finished, [])
      else
        match MessageJSON.unmarshal data with
        | none => some (s, globalSlots, finished, [])
        | some message => some (s, globalSlots, ofMessage data message, [])
  | close =>
      if s.locked then none
      else if s.session.closed then some (s, globalSlots, finished, [])
      else some ((s.withSession s.session.close).lock true, globalSlots, giveSlot true s.pending, [])
  | reserveSlot data =>
      if s.locked then none
      else if s.session.closed then some (s, globalSlots, finished, [])
      else some (s.lock true, globalSlots, takeSlot (.request data), [])
  | start message =>
      if message.id = "" ∨ message.method = "" then some (s, globalSlots, finished, [])
      else if s.locked then none
      else if s.session.startError message = none then
        some (s.lock true, globalSlots, takeSlot (.start message), [])
      else some (s, globalSlots, finished, [])
  | takeSlot purpose =>
      if s.slots < visitorMaxVisitorStreams then
        some ({ s with slots := s.slots + 1 }, globalSlots, takeGlobalSlot purpose, [])
      else some (s, globalSlots, refused purpose, [])
  | takeGlobalSlot purpose =>
      if globalSlots < visitorMaxTotalStreams then some (s, globalSlots + 1, granted purpose, [])
      else some (s, globalSlots, putBack purpose, [])
  | putBack purpose =>
      if s.slots = 0 then none
      else some ({ s with slots := s.slots - 1 }, globalSlots, refused purpose, [])
  | granted (.request data) => some (s.lock false, globalSlots, launch (.request data), [])
  | granted (.start message) =>
      some ((s.withSession (s.session.insert message)).lock false, globalSlots, finished, [])
  | refused _ => some (s.lock false, globalSlots, finished, [])
  | chunk message =>
      match Base64.decodeString message.body with
      | none => some (s, globalSlots, removeAndError message.id, [])
      | some bytes =>
          if s.locked then none
          else
            match s.session.requests.lookup message.id with
            | none => some (s, globalSlots, finished, [])
            | some request =>
                if VisitorDataSession.tooLarge request bytes then
                  some (s, globalSlots, removeAndError message.id, [])
                else
                  some (s.withSession (s.session.write message.id request bytes), globalSlots,
                    finished, [])
  | removeAndError id =>
      if s.locked then none
      else if (s.session.requests.lookup id).isSome then
        some ((s.withSession (s.session.remove id)).lock true, globalSlots, giveSlot true 1, [])
      else some (s, globalSlots, finished, [])
  | endRequest message =>
      if s.locked then none
      else
        match s.session.requests.lookup message.id with
        | none =>
            some (s.withSession (s.session.remove message.id), globalSlots, finished, [])
        | some request =>
            some (s.withSession (s.session.remove message.id), globalSlots,
              launch (.stream message.id request), [])
  | launch job => some (s, globalSlots, finished, [worker job])
  | worker _ => some (s, globalSlots, giveSlot false 1, [])
  | giveSlot locked 0 => some (s.lock (s.locked && !locked), globalSlots, finished, [])
  | giveSlot locked (count + 1) =>
      if s.slots = 0 then none
      else some ({ s with slots := s.slots - 1 }, globalSlots, giveGlobalSlot locked count, [])
  | giveGlobalSlot locked count =>
      if globalSlots = 0 then none else some (s, globalSlots - 1, giveSlot locked count, [])
  | finished => none

end Point

variable {ι : Type} [DecidableEq ι]

/-- An agent and the calls of its sessions. -/
def visitorSlots (ι : Type) [DecidableEq ι] [MessageJSON] :
    Machine (VisitorSlots ι) (Task ι) Unit where
  entry task := task.point matches .handle _ | .close
  step s task _ :=
    (task.point.step (s.sessions task.session) s.globalSlots).map fun outcome =>
      ({ sessions := Function.update s.sessions task.session outcome.1
         globalSlots := outcome.2.1 },
        ⟨task.session, outcome.2.2.1⟩, outcome.2.2.2.map fun point => ⟨task.session, point⟩)

/-- An agent before anything has come. -/
def VisitorSlots.new (ι : Type) : VisitorSlots ι := ⟨fun _ => {}, 0⟩

/-! ## What a call has in its hands -/

namespace Point

/-- The tokens of `slots` that belong to a running worker. -/
def working : Point → ℕ
  | worker _ => 1
  | _ => 0

/-- The tokens of `slots` that a call has just taken or is about to give back. -/
def passing : Point → ℕ
  | takeGlobalSlot _ | putBack _ | granted _ | launch _ => 1
  | giveSlot _ count | giveGlobalSlot _ count => count
  | _ => 0

/-- The same for the tokens of `globalSlots`. -/
def passingGlobal : Point → ℕ
  | granted _ | launch _ => 1
  | giveSlot _ count => count
  | giveGlobalSlot _ count => count + 1
  | _ => 0

/-- The call holds the lock. -/
def inside : Point → ℕ
  | takeSlot _ | takeGlobalSlot _ | putBack _ | granted _ | refused _ => 1
  | giveSlot true _ | giveGlobalSlot true _ => 1
  | _ => 0

/-- A request that is about to be put into the map may be put there. -/
def Ready (s : SessionSlots) : Point → Prop
  | takeSlot (.start message) | takeGlobalSlot (.start message) | granted (.start message) =>
      s.session.startError message = none
  | _ => True

/-- The call is in front of a receive from one of the channels. -/
def receives : Point → Bool
  | putBack _ | giveSlot _ (_ + 1) | giveGlobalSlot _ _ => true
  | _ => false

variable [MessageJSON] {s s' : SessionSlots} {globalSlots globalSlots' : ℕ} {point point' : Point}
variable {spawned : List Point}

/-- The call has nothing in its hands. -/
structure Idle (point : Point) : Prop where
  working : point.working = 0
  passing : point.passing = 0
  passingGlobal : point.passingGlobal = 0
  inside : point.inside = 0
  ready : ∀ s, point.Ready s

/-- The steps, by what they do with the lock, the map and the channels. -/
inductive Turn (s : SessionSlots) (globalSlots : ℕ) :
    Point → SessionSlots → ℕ → Point → List Point → Prop
  | moved {point point' : Point} (idle : point.Idle) (idle' : point'.Idle) :
      Turn s globalSlots point s globalSlots point' []
  | entered {point : Point} {purpose : Purpose} (idle : point.Idle) (free : s.locked = false)
      (ready : (takeSlot purpose).Ready (s.lock true)) :
      Turn s globalSlots point (s.lock true) globalSlots (takeSlot purpose) []
  | took (purpose : Purpose) (room : s.slots < visitorMaxVisitorStreams) :
      Turn s globalSlots (takeSlot purpose) { s with slots := s.slots + 1 } globalSlots
        (takeGlobalSlot purpose) []
  | full (purpose : Purpose) :
      Turn s globalSlots (takeSlot purpose) s globalSlots (refused purpose) []
  | tookGlobal (purpose : Purpose) (room : globalSlots < visitorMaxTotalStreams) :
      Turn s globalSlots (takeGlobalSlot purpose) s (globalSlots + 1) (granted purpose) []
  | fullGlobal (purpose : Purpose) :
      Turn s globalSlots (takeGlobalSlot purpose) s globalSlots (putBack purpose) []
  | putBack (purpose : Purpose) (filled : s.slots ≠ 0) :
      Turn s globalSlots (putBack purpose) { s with slots := s.slots - 1 } globalSlots
        (refused purpose) []
  | grantedRequest (data : Bytes) :
      Turn s globalSlots (granted (.request data)) (s.lock false) globalSlots
        (launch (.request data)) []
  | grantedStart (message : VisitorWebRTCDataMessage) :
      Turn s globalSlots (granted (.start message))
        ((s.withSession (s.session.insert message)).lock false) globalSlots finished []
  | refused (purpose : Purpose) :
      Turn s globalSlots (refused purpose) (s.lock false) globalSlots finished []
  | wrote {point : Point} {id : String} {request : VisitorStreamRequest} (bytes : Bytes)
      (idle : point.Idle) (free : s.locked = false)
      (present : s.session.requests.lookup id = some request) :
      Turn s globalSlots point (s.withSession (s.session.write id request bytes)) globalSlots
        finished []
  | removed {point : Point} {id : String} {request : VisitorStreamRequest} (idle : point.Idle)
      (free : s.locked = false) (present : s.session.requests.lookup id = some request) :
      Turn s globalSlots point ((s.withSession (s.session.remove id)).lock true) globalSlots
        (giveSlot true 1) []
  | absent {point : Point} {id : String} (idle : point.Idle) (free : s.locked = false)
      (missing : s.session.requests.lookup id = none) :
      Turn s globalSlots point (s.withSession (s.session.remove id)) globalSlots finished []
  | ended {point : Point} {id : String} {request : VisitorStreamRequest} (idle : point.Idle)
      (free : s.locked = false) (present : s.session.requests.lookup id = some request) :
      Turn s globalSlots point (s.withSession (s.session.remove id)) globalSlots
        (launch (.stream id request)) []
  | closed {point : Point} (idle : point.Idle) (free : s.locked = false)
      (alive : s.session.closed = false) :
      Turn s globalSlots point ((s.withSession s.session.close).lock true) globalSlots
        (giveSlot true s.pending) []
  | launched (job : Job) : Turn s globalSlots (launch job) s globalSlots finished [worker job]
  | worked (job : Job) : Turn s globalSlots (worker job) s globalSlots (giveSlot false 1) []
  | gave (locked : Bool) (count : ℕ) (filled : s.slots ≠ 0) :
      Turn s globalSlots (giveSlot locked (count + 1)) { s with slots := s.slots - 1 } globalSlots
        (giveGlobalSlot locked count) []
  | gaveGlobal (locked : Bool) (count : ℕ) (filled : globalSlots ≠ 0) :
      Turn s globalSlots (giveGlobalSlot locked count) s (globalSlots - 1) (giveSlot locked count) []
  | released (locked : Bool) :
      Turn s globalSlots (giveSlot locked 0) (s.lock (s.locked && !locked)) globalSlots finished []

omit [MessageJSON] in
theorem idle_ofMessage (data : Bytes) (message : VisitorWebRTCDataMessage) :
    (ofMessage data message).Idle := by
  unfold ofMessage
  split_ifs <;> exact ⟨rfl, rfl, rfl, rfl, fun _ => trivial⟩

theorem turn_of_step (stepped : point.step s globalSlots = some (s', globalSlots', point', spawned)) :
    Turn s globalSlots point s' globalSlots' point' spawned := by
  have idle : finished.Idle := ⟨rfl, rfl, rfl, rfl, fun _ => trivial⟩
  have free (unlocked : ¬ s.locked = true) : s.locked = false := Bool.eq_false_of_not_eq_true unlocked
  cases point with
  | handle data =>
      have here : (handle data).Idle := ⟨rfl, rfl, rfl, rfl, fun _ => trivial⟩
      simp only [step] at stepped
      split at stepped
      · cases stepped
        exact .moved here idle
      · split at stepped <;> cases stepped
        · exact .moved here idle
        · exact .moved here (idle_ofMessage _ _)
  | close =>
      have here : close.Idle := ⟨rfl, rfl, rfl, rfl, fun _ => trivial⟩
      simp only [step] at stepped
      split at stepped
      · cases stepped
      · rename_i unlocked
        split at stepped <;> cases stepped
        · exact .moved here idle
        · rename_i alive
          exact .closed here (free unlocked) (Bool.eq_false_of_not_eq_true alive)
  | reserveSlot data =>
      have here : (reserveSlot data).Idle := ⟨rfl, rfl, rfl, rfl, fun _ => trivial⟩
      simp only [step] at stepped
      split at stepped
      · cases stepped
      · rename_i unlocked
        split at stepped <;> cases stepped
        · exact .moved here idle
        · exact .entered here (free unlocked) trivial
  | start message =>
      have here : (start message).Idle := ⟨rfl, rfl, rfl, rfl, fun _ => trivial⟩
      simp only [step] at stepped
      split at stepped
      · cases stepped
        exact .moved here idle
      · split at stepped
        · cases stepped
        · rename_i unlocked
          split at stepped <;> cases stepped
          · rename_i admitted
            exact .entered here (free unlocked) admitted
          · exact .moved here idle
  | takeSlot purpose =>
      simp only [step] at stepped
      split at stepped <;> cases stepped
      · rename_i room
        exact .took purpose room
      · exact .full purpose
  | takeGlobalSlot purpose =>
      simp only [step] at stepped
      split at stepped <;> cases stepped
      · rename_i room
        exact .tookGlobal purpose room
      · exact .fullGlobal purpose
  | putBack purpose =>
      simp only [step] at stepped
      split at stepped <;> cases stepped
      rename_i filled
      exact .putBack purpose filled
  | granted purpose =>
      cases purpose with
      | request data => cases stepped; exact .grantedRequest data
      | start message => cases stepped; exact .grantedStart message
  | refused purpose => cases stepped; exact .refused purpose
  | chunk message =>
      have here : (chunk message).Idle := ⟨rfl, rfl, rfl, rfl, fun _ => trivial⟩
      have there : (removeAndError message.id).Idle := ⟨rfl, rfl, rfl, rfl, fun _ => trivial⟩
      simp only [step] at stepped
      split at stepped
      · cases stepped
        exact .moved here there
      · split at stepped
        · cases stepped
        · rename_i unlocked
          split at stepped
          · cases stepped
            exact .moved here idle
          · rename_i request present
            split at stepped <;> cases stepped
            · exact .moved here there
            · exact .wrote _ here (free unlocked) present
  | removeAndError id =>
      have here : (removeAndError id).Idle := ⟨rfl, rfl, rfl, rfl, fun _ => trivial⟩
      simp only [step] at stepped
      split at stepped
      · cases stepped
      · rename_i unlocked
        split at stepped <;> cases stepped
        · rename_i present
          obtain ⟨request, present⟩ := Option.isSome_iff_exists.mp present
          exact .removed here (free unlocked) present
        · exact .moved here idle
  | endRequest message =>
      have here : (endRequest message).Idle := ⟨rfl, rfl, rfl, rfl, fun _ => trivial⟩
      simp only [step] at stepped
      split at stepped
      · cases stepped
      · rename_i unlocked
        split at stepped <;> cases stepped
        · rename_i missing
          exact .absent here (free unlocked) missing
        · rename_i request present
          exact .ended here (free unlocked) present
  | launch job => cases stepped; exact .launched job
  | worker job => cases stepped; exact .worked job
  | giveSlot locked count =>
      cases count with
      | zero => cases stepped; exact .released locked
      | succ count =>
          simp only [step] at stepped
          split at stepped <;> cases stepped
          rename_i filled
          exact .gave locked count filled
  | giveGlobalSlot locked count =>
      simp only [step] at stepped
      split at stepped <;> cases stepped
      rename_i filled
      exact .gaveGlobal locked count filled
  | finished => cases stepped

/-! ## What a step keeps -/

/-- How a step moves the tokens: what is in the channels changes with the requests in the map and with what
the calls have in their hands. -/
structure Balanced (s : SessionSlots) (globalSlots : ℕ) (point : Point) (s' : SessionSlots)
    (globalSlots' : ℕ) (point' : Point) (spawned : List Point) : Prop where
  slots : s'.slots + (s.pending + point.working + point.passing) =
    s.slots + (s'.pending + point'.working + point'.passing +
      (spawned.map Point.working).sum + (spawned.map Point.passing).sum)
  globalSlots : globalSlots' + (s.pending + point.working + point.passingGlobal) =
    globalSlots + (s'.pending + point'.working + point'.passingGlobal +
      (spawned.map Point.working).sum + (spawned.map Point.passingGlobal).sum)

omit [MessageJSON]

/-- A step from nothing that leaves the channels alone: what it takes out of the map it has in its hands. -/
theorem Idle.balanced (idle : point.Idle) (slots : s'.slots = s.slots)
    (taken : s'.pending + point'.working + point'.passing = s.pending)
    (taken' : s'.pending + point'.working + point'.passingGlobal = s.pending) :
    Balanced s globalSlots point s' globalSlots point' [] := by
  constructor
  · rw [idle.working, idle.passing, slots, taken]
    rfl
  · rw [idle.working, idle.passingGlobal, taken']
    rfl

theorem pending_insert {message : VisitorWebRTCDataMessage} (missing :
    s.session.requests.lookup message.id = none) :
    (s.withSession (s.session.insert message)).pending = s.pending + 1 :=
  GoMap.size_insert_of_absent missing _

theorem pending_write {id : String} {request : VisitorStreamRequest} (bytes : Bytes)
    (present : s.session.requests.lookup id = some request) :
    (s.withSession (s.session.write id request bytes)).pending = s.pending :=
  GoMap.size_insert_of_present present _

theorem pending_remove {id : String} {request : VisitorStreamRequest}
    (present : s.session.requests.lookup id = some request) :
    (s.withSession (s.session.remove id)).pending + 1 = s.pending :=
  GoMap.size_erase_of_present present

theorem pending_remove_of_absent {id : String} (missing : s.session.requests.lookup id = none) :
    (s.withSession (s.session.remove id)).pending = s.pending :=
  GoMap.size_erase_of_absent missing

theorem pending_close (alive : s.session.closed = false) :
    (s.withSession s.session.close).pending = 0 := by
  unfold SessionSlots.pending SessionSlots.withSession VisitorDataSession.close
  rw [alive]
  rfl

theorem balanced_of_turn (ready : point.Ready s)
    (turn : Turn s globalSlots point s' globalSlots' point' spawned) :
    Balanced s globalSlots point s' globalSlots' point' spawned := by
  cases turn with
  | moved idle idle' =>
      refine idle.balanced rfl ?_ ?_
      · rw [idle'.working, idle'.passing]
        rfl
      · rw [idle'.working, idle'.passingGlobal]
        rfl
  | entered idle => exact idle.balanced rfl rfl rfl
  | wrote bytes idle free present =>
      exact idle.balanced rfl (pending_write bytes present) (pending_write bytes present)
  | absent idle free missing =>
      exact idle.balanced rfl (pending_remove_of_absent missing) (pending_remove_of_absent missing)
  | removed idle free present | ended idle free present =>
      exact idle.balanced rfl (pending_remove present) (pending_remove present)
  | closed idle free alive =>
      have all : (s.withSession s.session.close).pending + 0 + s.pending = s.pending := by
        rw [pending_close alive, Nat.zero_add]
      exact idle.balanced rfl all all
  | grantedStart message =>
      have inserted := pending_insert (VisitorDataSession.startError_eq_none.mp ready).2.2.2
      constructor <;> exact congrArg (_ + ·) inserted.symm
  | full | fullGlobal | refused | grantedRequest | released | launched | worked =>
      constructor <;> rfl
  | took | tookGlobal | putBack | gave | gaveGlobal =>
      constructor <;> simp only [working, passing, passingGlobal, SessionSlots.pending, List.map_nil,
        List.sum_nil] <;> omega

theorem lock_of_turn (turn : Turn s globalSlots point s' globalSlots' point' spawned) :
    (∀ fresh ∈ spawned, fresh.inside = 0) ∧
      ((point'.inside = point.inside ∧ s'.locked = s.locked) ∨
        (point.inside = 0 ∧ point'.inside = 1 ∧ s.locked = false ∧ s'.locked = true) ∨
        (point.inside = 1 ∧ point'.inside = 0 ∧ s'.locked = false)) := by
  cases turn with
  | moved idle idle' => exact ⟨List.forall_mem_nil _, .inl ⟨idle'.inside.trans idle.inside.symm, rfl⟩⟩
  | entered idle free | removed idle free | closed idle free =>
      exact ⟨List.forall_mem_nil _, .inr (.inl ⟨idle.inside, rfl, free, rfl⟩)⟩
  | took | full | tookGlobal | fullGlobal | putBack => exact ⟨List.forall_mem_nil _, .inl ⟨rfl, rfl⟩⟩
  | grantedRequest | grantedStart | refused => exact ⟨List.forall_mem_nil _, .inr (.inr ⟨rfl, rfl, rfl⟩)⟩
  | wrote bytes idle | absent idle | ended idle =>
      exact ⟨List.forall_mem_nil _, .inl ⟨idle.inside.symm, rfl⟩⟩
  | launched job =>
      refine ⟨fun fresh member => ?_, .inl ⟨rfl, rfl⟩⟩
      cases List.mem_singleton.mp member
      rfl
  | worked => exact ⟨List.forall_mem_nil _, .inl ⟨rfl, rfl⟩⟩
  | gave locked | gaveGlobal locked => cases locked <;> exact ⟨List.forall_mem_nil _, .inl ⟨rfl, rfl⟩⟩
  | released locked =>
      cases locked with
      | false => exact ⟨List.forall_mem_nil _, .inl ⟨rfl, Bool.and_true _⟩⟩
      | true => exact ⟨List.forall_mem_nil _, .inr (.inr ⟨rfl, rfl, Bool.and_false _⟩)⟩

/-- Nobody changes what the mutex guards while another call holds it. -/
theorem session_of_turn (turn : Turn s globalSlots point s' globalSlots' point' spawned)
    (outside : point.inside = 0) (locked : s.locked = true) : s'.session = s.session := by
  cases turn with
  | entered idle free | wrote _ idle free | removed idle free | absent idle free | ended idle free
  | closed idle free =>
      rw [free] at locked
      cases locked
  | grantedStart => cases outside
  | _ => rfl

theorem ready_of_outside (outside : point.inside = 0) : point.Ready s := by
  cases point with
  | takeSlot | takeGlobalSlot | granted => cases outside
  | _ => trivial

theorem ready_congr (same : s'.session = s.session) (ready : point.Ready s) : point.Ready s' := by
  cases point with
  | takeSlot purpose | takeGlobalSlot purpose | granted purpose =>
      cases purpose with
      | request => trivial
      | start message =>
          change s'.session.startError message = none
          rw [same]
          exact ready
  | _ => trivial

theorem ready_of_turn (ready : point.Ready s)
    (turn : Turn s globalSlots point s' globalSlots' point' spawned) :
    point'.Ready s' ∧ ∀ fresh ∈ spawned, fresh.Ready s' := by
  cases turn with
  | moved idle idle' => exact ⟨idle'.ready _, List.forall_mem_nil _⟩
  | entered idle free entry => exact ⟨entry, List.forall_mem_nil _⟩
  | took purpose | tookGlobal purpose =>
      refine ⟨?_, List.forall_mem_nil _⟩
      cases purpose <;> exact ready
  | launched job =>
      refine ⟨trivial, fun fresh member => ?_⟩
      cases List.mem_singleton.mp member
      trivial
  | _ => exact ⟨trivial, List.forall_mem_nil _⟩

theorem shut_of_turn (ready : point.Ready s) (shut : s.session.Shut)
    (turn : Turn s globalSlots point s' globalSlots' point' spawned) : s'.session.Shut := by
  cases turn with
  | grantedStart message =>
      intro closed
      have alive := (VisitorDataSession.startError_eq_none.mp ready).2.2.1
      exact absurd (alive.symm.trans closed) Bool.false_ne_true
  | wrote bytes idle free present =>
      intro closed
      rw [shut closed] at present
      cases present
  | removed idle free present | absent idle free missing | ended idle free present =>
      intro closed
      change s.session.requests.erase _ = ∅
      rw [shut closed]
      rfl
  | closed idle free alive =>
      intro _
      change s.session.close.requests = ∅
      unfold VisitorDataSession.close
      rw [alive]
      rfl
  | _ => exact shut

theorem limits_of_turn (turn : Turn s globalSlots point s' globalSlots' point' spawned)
    (bound : s.slots ≤ visitorMaxVisitorStreams) (bound' : globalSlots ≤ visitorMaxTotalStreams) :
    s'.slots ≤ visitorMaxVisitorStreams ∧ globalSlots' ≤ visitorMaxTotalStreams := by
  cases turn with
  | took purpose room => exact ⟨room, bound'⟩
  | tookGlobal purpose room => exact ⟨bound, room⟩
  | putBack | gave => exact ⟨(Nat.sub_le _ _).trans bound, bound'⟩
  | gaveGlobal => exact ⟨bound, (Nat.sub_le _ _).trans bound'⟩
  | _ => exact ⟨bound, bound'⟩

end Point

/-! ## Runs -/

namespace Task

/-- What a call has of a session. -/
def of (i : ι) (weight : Point → ℕ) (task : Task ι) : ℕ :=
  if task.session = i then weight task.point else 0

end Task

section Runs

variable {config : Config (VisitorSlots ι) (Task ι)}

/-- The tokens in the channels belong to the requests in the maps, to the workers, and to the calls that have
just taken them or are about to give them back. -/
structure Conserved [Fintype ι] (config : Config (VisitorSlots ι) (Task ι)) : Prop where
  exclusive : ∀ i, config.total (Task.of i Point.inside) =
    if (config.shared.sessions i).locked then 1 else 0
  ready : ∀ task ∈ config.threads, task.point.Ready (config.shared.sessions task.session)
  shut : ∀ i, (config.shared.sessions i).session.Shut
  slots : ∀ i, (config.shared.sessions i).slots = (config.shared.sessions i).pending +
    config.total (Task.of i Point.working) + config.total (Task.of i Point.passing)
  globalSlots : config.shared.globalSlots = ∑ i, (config.shared.sessions i).pending +
    config.total (fun task => task.point.working) + config.total fun task => task.point.passingGlobal
  limit : ∀ i, (config.shared.sessions i).slots ≤ visitorMaxVisitorStreams
  globalLimit : config.shared.globalSlots ≤ visitorMaxTotalStreams

theorem conserved_new [Fintype ι] : Conserved ⟨VisitorSlots.new ι, []⟩ where
  exclusive _ := rfl
  ready _ member := nomatch member
  shut _ := fun closed => nomatch closed
  slots _ := rfl
  globalSlots := by
    show 0 = ∑ _ : ι, 0 + 0 + 0
    rw [Finset.sum_const_zero]
    rfl
  limit _ := Nat.zero_le _
  globalLimit := Nat.zero_le _

theorem conserved_arrive [Fintype ι] [MessageJSON] {task : Task ι} (conserved : Conserved config)
    (arrives : (visitorSlots ι).entry task = true) :
    Conserved { config with threads := config.threads ++ [task] } := by
  have idle : task.point.Idle := by
    obtain ⟨session, point⟩ := task
    cases point with
    | handle | close => exact ⟨rfl, rfl, rfl, rfl, fun _ => trivial⟩
    | _ => cases arrives
  have none (weight : Point → ℕ) (nothing : weight task.point = 0) (i : ι) :
      ({ config with threads := config.threads ++ [task] } : Config (VisitorSlots ι) (Task ι)).total
        (Task.of i weight) = config.total (Task.of i weight) := by
    rw [Config.total_arrive, Task.of, nothing, ite_self, Nat.add_zero]
  refine ⟨fun i => ?_, fun other member => ?_, conserved.shut, fun i => ?_, ?_, conserved.limit,
    conserved.globalLimit⟩
  · rw [none Point.inside idle.inside]
    exact conserved.exclusive i
  · rcases List.mem_append.mp member with old | new
    · exact conserved.ready other old
    · rw [List.mem_singleton.mp new]
      exact idle.ready _
  · rw [none Point.working idle.working, none Point.passing idle.passing]
    exact conserved.slots i
  · rw [Config.total_arrive, Config.total_arrive, idle.working, idle.passingGlobal]
    exact conserved.globalSlots

theorem sum_of_map (session i : ι) (weight : Point → ℕ) (spawned : List Point) :
    ((spawned.map fun point => (⟨session, point⟩ : Task ι)).map (Task.of i weight)).sum =
      if session = i then (spawned.map weight).sum else 0 := by
  rw [List.map_map]
  by_cases same : session = i
  · rw [if_pos same]
    refine congrArg List.sum (List.map_congr_left fun point _ => ?_)
    exact if_pos same
  · rw [if_neg same, List.sum_eq_zero_iff]
    intro weighed member
    obtain ⟨point, -, rfl⟩ := List.mem_map.mp member
    exact if_neg same

theorem sum_pending_update [Fintype ι] (sessions : ι → SessionSlots) (i : ι) (s' : SessionSlots) :
    ∑ j, (Function.update sessions i s' j).pending + (sessions i).pending =
      ∑ j, (sessions j).pending + s'.pending := by
  rw [Fintype.sum_eq_add_sum_compl i, Fintype.sum_eq_add_sum_compl i fun j => (sessions j).pending,
    Function.update_self]
  have rest : ∑ j ∈ {i}ᶜ, (Function.update sessions i s' j).pending =
      ∑ j ∈ {i}ᶜ, (sessions j).pending := by
    refine Finset.sum_congr rfl fun j member => ?_
    rw [Function.update_of_ne (by simpa using member)]
  rw [rest]
  omega

@[simp] theorem of_self (i : ι) (weight : Point → ℕ) (point : Point) :
    Task.of i weight ⟨i, point⟩ = weight point :=
  if_pos rfl

theorem of_ne {session i : ι} (other : session ≠ i) (weight : Point → ℕ) (point : Point) :
    Task.of i weight ⟨session, point⟩ = 0 :=
  if_neg other

/-- What a step of a call of one session does to the counts of a session. -/
theorem total_of_step {index : ℕ} {session : ι} {point : Point}
    (present : config.threads[index]? = some ⟨session, point⟩) (s' : VisitorSlots ι)
    (point' : Point) (spawned : List Point) (i : ι) (weight : Point → ℕ) :
    ({ shared := s'
       threads := config.threads.set index ⟨session, point'⟩ ++
         spawned.map fun point => ⟨session, point⟩ } : Config (VisitorSlots ι) (Task ι)).total
        (Task.of i weight) + (if session = i then weight point else 0) =
      config.total (Task.of i weight) +
        if session = i then weight point' + (spawned.map weight).sum else 0 := by
  have traded := Machine.total_run (Task.of i weight) s' ⟨session, point'⟩
    (spawned.map fun point => (⟨session, point⟩ : Task ι)) present
  rw [sum_of_map] at traded
  by_cases same : session = i
  · subst same
    rw [if_pos rfl, of_self, of_self] at traded
    rw [if_pos rfl, if_pos rfl, ← Nat.add_assoc]
    exact traded
  · rw [if_neg same, of_ne same, of_ne same] at traded
    rw [if_neg same, if_neg same]
    exact traded

omit [DecidableEq ι] in
/-- The same for all the sessions together. -/
theorem total_of_step_all {index : ℕ} {session : ι} {point : Point}
    (present : config.threads[index]? = some ⟨session, point⟩) (s' : VisitorSlots ι)
    (point' : Point) (spawned : List Point) (weight : Point → ℕ) :
    ({ shared := s'
       threads := config.threads.set index ⟨session, point'⟩ ++
         spawned.map fun point => ⟨session, point⟩ } : Config (VisitorSlots ι) (Task ι)).total
        (fun task => weight task.point) + weight point =
      config.total (fun task => weight task.point) + (weight point' + (spawned.map weight).sum) := by
  have traded := Machine.total_run (fun task : Task ι => weight task.point) s' ⟨session, point'⟩
    (spawned.map fun point => (⟨session, point⟩ : Task ι)) present
  rw [List.map_map, Nat.add_assoc] at traded
  exact traded

theorem conserved_step [Fintype ι] [MessageJSON] {index : ℕ} {task task' : Task ι}
    {s' : VisitorSlots ι} {spawned : List (Task ι)} (conserved : Conserved config)
    (present : config.threads[index]? = some task)
    (stepped : (visitorSlots ι).step config.shared task () = some (s', task', spawned)) :
    Conserved { shared := s', threads := config.threads.set index task' ++ spawned } := by
  obtain ⟨⟨session', globalSlots', point', points⟩, taken, built⟩ := Option.map_eq_some_iff.mp stepped
  cases built
  have turn := Point.turn_of_step taken
  have ready := conserved.ready task (List.mem_of_getElem? present)
  obtain ⟨session, point⟩ := task
  simp only at turn ready ⊢
  have balanced := Point.balanced_of_turn ready turn
  have limits := Point.limits_of_turn turn (conserved.limit session) conserved.globalLimit
  obtain ⟨born, lock⟩ := Point.lock_of_turn turn
  have here : Function.update config.shared.sessions session session' session = session' :=
    Function.update_self ..
  have there {i : ι} (other : session ≠ i) :
      Function.update config.shared.sessions session session' i = config.shared.sessions i :=
    Function.update_of_ne (Ne.symm other) ..
  have totals := total_of_step present
    ⟨Function.update config.shared.sessions session session', globalSlots'⟩ point' points
  have all := total_of_step_all present
    ⟨Function.update config.shared.sessions session session', globalSlots'⟩ point' points
  refine ⟨fun i => ?_, fun other member => ?_, fun i => ?_, fun i => ?_, ?_, fun i => ?_, limits.2⟩
  · refine Machine.mutex_run (Task.of i Point.inside) (fun s => (s.sessions i).locked) _ _ _ present
      (conserved.exclusive i) ?_ ?_
    · intro fresh member
      obtain ⟨spawn, among, rfl⟩ := List.mem_map.mp member
      by_cases same : session = i
      · subst same
        rw [of_self]
        exact born spawn among
      · exact of_ne same _ _
    · by_cases same : session = i
      · subst same
        simp only [of_self, here]
        exact lock
      · simp only [of_ne same, there same]
        exact .inl ⟨trivial, trivial⟩
  · obtain ⟨next, fresh⟩ := Point.ready_of_turn ready turn
    rcases Machine.mem_threads_beside (Task.of session Point.inside) present member with
      rfl | new | ⟨old, beside⟩
    · simp only [here]
      exact next
    · obtain ⟨spawn, among, rfl⟩ := List.mem_map.mp new
      simp only [here]
      exact fresh spawn among
    · have was := conserved.ready other old
      obtain ⟨session'', other⟩ := other
      by_cases same : session = session''
      · subst same
        simp only [here]
        by_cases outside : other.inside = 0
        · exact Point.ready_of_outside outside
        · -- it holds the lock, so the call that took the step does not
          rw [of_self, of_self, conserved.exclusive session] at beside
          have locked : (config.shared.sessions session).locked = true := by
            by_contra unlocked
            rw [if_neg unlocked] at beside
            omega
          rw [if_pos locked] at beside
          exact Point.ready_congr (Point.session_of_turn turn (by omega) locked) was
      · simp only [there same]
        exact was
  · by_cases same : session = i
    · subst same
      simp only [here]
      exact Point.shut_of_turn ready (conserved.shut session) turn
    · simp only [there same]
      exact conserved.shut i
  · have working := totals i Point.working
    have passing := totals i Point.passing
    have before := conserved.slots i
    by_cases same : session = i
    · subst same
      rw [if_pos rfl, if_pos rfl] at working passing
      have moved := balanced.slots
      simp only [here] at *
      omega
    · rw [if_neg same, if_neg same] at working passing
      simp only [there same] at *
      omega
  · have working := all Point.working
    have passing := all Point.passingGlobal
    have before := conserved.globalSlots
    have moved := balanced.globalSlots
    have pending := sum_pending_update config.shared.sessions session session'
    simp only at *
    omega
  · by_cases same : session = i
    · subst same
      simp only [here]
      exact limits.1
    · simp only [there same]
      exact conserved.limit i

theorem conserved_of_run [Fintype ι] [MessageJSON]
    (reached : (visitorSlots ι).Reachable ⟨.new ι, []⟩ config) : Conserved config := by
  refine reached.reachable_invariant Conserved conserved_new ?_ ?_
  · exact fun config task conserved arrives => conserved_arrive conserved arrives
  · exact fun config index choice task s' task' spawned conserved present stepped =>
      conserved_step conserved present stepped

/-- What the calls have of each session adds up to what they have. -/
theorem sum_total_of [Fintype ι] (config : Config (VisitorSlots ι) (Task ι)) (weight : Point → ℕ) :
    ∑ i, config.total (Task.of i weight) = config.total fun task => weight task.point := by
  unfold Config.total
  induction config.threads with
  | nil => exact Finset.sum_const_zero
  | cons task rest ih =>
      simp only [List.map_cons, List.sum_cons]
      rw [Finset.sum_add_distrib, ih]
      congr 1
      exact Fintype.sum_ite_eq task.session fun _ => weight task.point

omit [DecidableEq ι] in
theorem total_eq_zero {weight : Task ι → ℕ} (none : ∀ task ∈ config.threads, weight task = 0) :
    config.total weight = 0 := by
  unfold Config.total
  rw [List.sum_eq_zero_iff]
  intro weighed member
  obtain ⟨task, among, rfl⟩ := List.mem_map.mp member
  exact none task among

end Runs

/-- The workers of a session that are running. -/
def runningWorkers (config : Config (VisitorSlots ι) (Task ι)) (i : ι) : ℕ :=
  config.total (Task.of i Point.working)

/-- No call has just taken a token or is about to give one back. -/
def Settled (config : Config (VisitorSlots ι) (Task ι)) : Prop :=
  ∀ task ∈ config.threads, task.point.passing = 0 ∧ task.point.passingGlobal = 0

theorem Conserved.of_settled [Fintype ι] {config : Config (VisitorSlots ι) (Task ι)}
    (conserved : Conserved config) (settled : Settled config) :
    (∀ i, (config.shared.sessions i).slots =
      (config.shared.sessions i).pending + runningWorkers config i) ∧
    config.shared.globalSlots = ∑ i, (config.shared.sessions i).slots := by
  have own (i : ι) : (config.shared.sessions i).slots =
      (config.shared.sessions i).pending + runningWorkers config i := by
    have none : config.total (Task.of i Point.passing) = 0 := by
      refine total_eq_zero fun task member => ?_
      rw [Task.of, (settled task member).1, ite_self]
    rw [conserved.slots, none, Nat.add_zero]
    rfl
  have none : (config.total fun task => task.point.passingGlobal) = 0 :=
    total_eq_zero fun task member => (settled task member).2
  refine ⟨own, ?_⟩
  rw [conserved.globalSlots, none, Nat.add_zero, ← sum_total_of, ← Finset.sum_add_distrib]
  exact Finset.sum_congr rfl fun i _ => (own i).symm

/-- **A receive never waits.**  Who is about to give a token back has one. -/
theorem Conserved.receives [Fintype ι] [MessageJSON] {config : Config (VisitorSlots ι) (Task ι)}
    (conserved : Conserved config) {task : Task ι} (member : task ∈ config.threads)
    (waits : task.point.receives = true) :
    ∃ next, (visitorSlots ι).step config.shared task () = some next := by
  have slots := conserved.slots task.session
  have globalSlots := conserved.globalSlots
  have own : task.point.passing ≤ config.total (Task.of task.session Point.passing) := by
    have weighed : Task.of task.session Point.passing task ≤
        config.total (Task.of task.session Point.passing) := Config.le_total member
    rwa [Task.of, if_pos rfl] at weighed
  have own' : task.point.passingGlobal ≤ config.total fun task => task.point.passingGlobal := by
    have bound (weight : Task ι → ℕ) : weight task ≤ config.total weight := Config.le_total member
    exact bound fun task => task.point.passingGlobal
  obtain ⟨session, point⟩ := task
  cases point with
  | putBack purpose =>
      have filled : (config.shared.sessions session).slots ≠ 0 := by
        change 1 ≤ config.total (Task.of session Point.passing) at own
        change (config.shared.sessions session).slots = _ + _ + config.total (Task.of session _) at slots
        omega
      exact ⟨_, congrArg (Option.map _) (if_neg filled)⟩
  | giveSlot locked count =>
      cases count with
      | zero => cases waits
      | succ count =>
          have filled : (config.shared.sessions session).slots ≠ 0 := by
            change count + 1 ≤ config.total (Task.of session Point.passing) at own
            change (config.shared.sessions session).slots = _ + _ + config.total (Task.of session _)
              at slots
            omega
          exact ⟨_, congrArg (Option.map _) (if_neg filled)⟩
  | giveGlobalSlot locked count =>
      have filled : config.shared.globalSlots ≠ 0 := by
        change count + 1 ≤ _ at own'
        omega
      exact ⟨_, congrArg (Option.map _) (if_neg filled)⟩
  | _ => cases waits

/-- **Slots are conserved.**  In every interleaving, the tokens in the channel of a session are its open
requests, its running workers and what calls have just taken or are about to give back; the same goes for
the channel of the agent and all the sessions together.  When no call has a token in its hands, the counts
agree with each other.  A receive never waits, the limits are kept, and when all the sessions are closed and
the workers have finished nothing is left. -/
theorem slots_conserved [Fintype ι] [MessageJSON] {config : Config (VisitorSlots ι) (Task ι)}
    (reached : (visitorSlots ι).Reachable ⟨.new ι, []⟩ config) :
    (∀ i, (config.shared.sessions i).slots = (config.shared.sessions i).pending +
      runningWorkers config i + config.total (Task.of i Point.passing)) ∧
    (config.shared.globalSlots = ∑ i, (config.shared.sessions i).pending +
      ∑ i, runningWorkers config i + config.total fun task => task.point.passingGlobal) ∧
    (Settled config → (∀ i, (config.shared.sessions i).slots =
        (config.shared.sessions i).pending + runningWorkers config i) ∧
      config.shared.globalSlots = ∑ i, (config.shared.sessions i).slots) ∧
    (∀ task ∈ config.threads, task.point.receives = true →
      ∃ next, (visitorSlots ι).step config.shared task () = some next) ∧
    (∀ i, (config.shared.sessions i).slots ≤ visitorMaxVisitorStreams) ∧
    config.shared.globalSlots ≤ visitorMaxTotalStreams ∧
    (Settled config → (∀ i, (config.shared.sessions i).session.closed = true) →
      (∀ i, runningWorkers config i = 0) →
      (∀ i, (config.shared.sessions i).slots = 0) ∧ config.shared.globalSlots = 0) := by
  have conserved := conserved_of_run reached
  refine ⟨conserved.slots, ?_, conserved.of_settled, fun task member waits =>
    conserved.receives member waits, conserved.limit, conserved.globalLimit, ?_⟩
  · unfold runningWorkers
    rw [sum_total_of]
    exact conserved.globalSlots
  · intro settled closed finished
    obtain ⟨slots, globalSlots⟩ := conserved.of_settled settled
    have empty (i : ι) : (config.shared.sessions i).slots = 0 := by
      rw [slots, finished, SessionSlots.pending, conserved.shut i (closed i)]
      rfl
    refine ⟨empty, ?_⟩
    rw [globalSlots]
    exact Finset.sum_eq_zero fun i _ => empty i

/-! ## One request -/

/-- The text of a request. -/
def requestText : String := "\x7b\"kind\":\"request\",\"id\":\"1\",\"method\":\"GET\",\"path\":\"/\"\x7d"

/-- The table for this text. -/
@[reducible] def requestJSON : MessageJSON :=
  .listed [(requestText, { kind := "request", id := "1", method := "GET", path := "/" })]

/-- A request that comes, gets its slots and is given to a worker, up to the first half of the end of it. -/
def requestMoves : List (Move (Task Unit) Unit) :=
  .arrive ⟨(), .handle (utf8 requestText)⟩ :: List.replicate 6 (.run 0 ()) ++ List.replicate 2 (.run 1 ())

theorem slots_conserved_request :
    let _ := requestJSON
    ∃ config, (visitorSlots Unit).Reachable ⟨.new Unit, []⟩ config ∧ config.threads.length = 3 ∧
      (config.shared.sessions ()).slots = 0 ∧ config.shared.globalSlots = 0 := by
  intro _
  have run : ∃ config, (visitorSlots Unit).Reachable ⟨.new Unit, []⟩ config ∧
      (config.threads.length = 3 ∧ (∀ task ∈ config.threads, task.point.passing = 0 ∧
        task.point.passingGlobal = 0) ∧ (config.shared.sessions ()).session.closed = true ∧
        runningWorkers config () = 0) :=
    Machine.exists_run_of_replay
      (requestMoves ++ [.run 1 (), .run 1 (), .arrive ⟨(), .close⟩, .run 2 (), .run 2 ()])
      (by decide +kernel)
  obtain ⟨config, reached, length, settled, closed, finished⟩ := run
  obtain ⟨-, -, -, -, -, -, last⟩ := slots_conserved reached
  obtain ⟨slots, globalSlots⟩ := last settled (fun _ => closed) fun _ => finished
  exact ⟨config, reached, length, slots (), globalSlots⟩

/-- **The counts do not agree at any time.**  A worker has given back its token of the session, but not the
one of the agent. -/
theorem slots_between :
    let _ := requestJSON
    ∃ config, (visitorSlots Unit).Reachable ⟨.new Unit, []⟩ config ∧
      config.shared.globalSlots ≠ ∑ i, (config.shared.sessions i).slots := by
  intro _
  exact Machine.exists_run_of_replay requestMoves (by decide +kernel)

end NryNet.Agent

import NryNet.Visitor.Requests
import NryNet.Visitor.Responses

/-!
# A visit: the browser, the page, the agent and the local service

The page sends the frames of all fetches over one data channel, and the agent sends the frames of all its
workers back over the same channel.  Each direction keeps the order.  Everything else may come in any
order: fetches, the tasks of the page, what the session of the agent reads and when it is closed, and which
worker sends its next frame, as long as its own channel sends anything.

A `Visit` remembers what the session has read and which worker sent which frame.  Tasks of the page that
handle a frame of the agent are started by `deliver` alone, and run at once.
-/

namespace NryNet.Visitor

open ThreadPool ByteStream GoText Agent VisitorDataSession

/-- The page, the session of the agent and the frames between them. -/
structure Visit where
  page : Config Page Task
  events : List Event
  /-- what the workers have sent, with the number of the worker -/
  frames : List (ℕ × VisitorWebRTCDataMessage)

/-- What may happen. -/
inductive Happening where
  | arrive (task : Task)
  | run (index : ℕ) (choice : Choice)
  | read (free : Bool)
  | close
  | send (worker : ℕ)
  | deliver

/-- A task that handles a frame of the agent. -/
def Task.handles : Task → Bool
  | .handleFrame _ => true
  | _ => false

/-- The visit before anything has happened. -/
def newVisit : Visit := ⟨newPage, [], []⟩

namespace Visit

section Steps

variable {ρ : Type} [Reader ρ] [CaseTable] [HTTPTable] [MessageJSON]
variable (service : LocalService ρ) (channels : ℕ → DataChannel)
variable (stringify : VisitorWebRTCDataMessage → String)

/-- What the session does, each part of it by a worker of its own. -/
def actions (visit : Visit) : List Action := VisitorDataSession.run {} visit.events

/-- What a worker has sent. -/
def sentBy (visit : Visit) (worker : ℕ) : List VisitorWebRTCDataMessage :=
  visit.frames.filterMap fun entry => if entry.1 = worker then some entry.2 else none

/-- The frame that a worker sends next. -/
def nextOf (visit : Visit) (worker : ℕ) : Option VisitorWebRTCDataMessage :=
  visit.actions[worker]?.bind fun action =>
    (action.perform service (channels worker) {}).sent[(visit.sentBy worker).length]?

/-- One thing happens. -/
def exec (visit : Visit) : Happening → Option Visit
  | .arrive task =>
      if task.handles then none
      else (pageMachine.exec visit.page (.arrive task)).map fun page => { visit with page := page }
  | .run index choice =>
      (pageMachine.exec visit.page (.run index choice)).map fun page => { visit with page := page }
  | .read free =>
      visit.page.shared.sent[(visit.events.filterMap eventData).length]?.map fun frame =>
        { visit with events := visit.events ++ [.frame (wire stringify frame) free] }
  | .close => some { visit with events := visit.events ++ [.close] }
  | .send worker =>
      (visit.nextOf service channels worker).map fun frame =>
        { visit with frames := visit.frames ++ [(worker, frame)] }
  | .deliver =>
      visit.frames[visit.page.shared.received.length]?.map fun entry =>
        { visit with
          page := ⟨visit.page.shared.handleFrame entry.2, visit.page.threads ++ [.finished]⟩ }

/-- One thing after the other. -/
def replay : Visit → List Happening → Option Visit
  | visit, [] => some visit
  | visit, happening :: rest =>
      (visit.exec service channels stringify happening).bind fun next => next.replay rest

/-- The visits that come about. -/
inductive Reached : Visit → Prop
  | new : Reached newVisit
  | step {visit next : Visit} {happening : Happening} : Reached visit →
      visit.exec service channels stringify happening = some next → Reached next

variable {service channels stringify}

theorem Reached.of_replay {visit next : Visit} {happenings : List Happening}
    (reached : Reached service channels stringify visit)
    (replayed : visit.replay service channels stringify happenings = some next) :
    Reached service channels stringify next := by
  induction happenings generalizing visit with
  | nil =>
      cases replayed
      exact reached
  | cons happening rest ih =>
      obtain ⟨middle, moved, more⟩ := Option.bind_eq_some_iff.mp replayed
      exact ih (.step reached moved) more

/-- A list of happenings brings about a visit with a property that can be decided. -/
theorem exists_reached_of_replay (happenings : List Happening) {property : Visit → Prop}
    [DecidablePred property] (replayed : (newVisit.replay service channels stringify happenings).any
      (fun visit => property visit) = true) :
    ∃ visit, Reached service channels stringify visit ∧ property visit := by
  obtain ⟨visit, replayed, holds⟩ := (Option.any_eq_true _ _).mp replayed
  exact ⟨visit, .of_replay .new replayed, of_decide_eq_true holds⟩

end Steps

end Visit

/-! ## What the session does about the frames of a page -/

section Actions

variable [MessageJSON] {stringify : VisitorWebRTCDataMessage → String}
variable {sent : List VisitorWebRTCDataMessage} {events : List Event}

/-- The session sends an error, or hands the request with the ID of a frame to a worker. -/
inductive Answers (sent : List VisitorWebRTCDataMessage) : Action → Prop
  | error (id message : String) (given : message ≠ "")
      (origin : id = "" ∨ ∃ frame ∈ sent, frame.id = id) : Answers sent (.sendErrorForID id message)
  | request (frame : VisitorWebRTCDataMessage) (request : VisitorStreamRequest) (member : frame ∈ sent) :
      Answers sent (.visitorStreamRequest frame.id request)

omit [MessageJSON] in
theorem startError_ne_empty {s : VisitorDataSession} {message : VisitorWebRTCDataMessage} {err : String}
    (failed : s.startError message = some err) : err ≠ "" := by
  unfold startError at failed
  split at failed
  · cases failed
    decide
  · split at failed
    · cases failed
      decide
    · split at failed
      · cases failed
        decide
      · cases failed

omit [MessageJSON] in
theorem answers_of_dispatch {s : VisitorDataSession} {data : Bytes} {frame : VisitorWebRTCDataMessage}
    {free : Bool} (member : frame ∈ sent) (kind : frame.kind ≠ "request") :
    ∀ action ∈ (s.dispatch data frame free).2, Answers sent action := by
  have own : frame.id = "" ∨ ∃ other ∈ sent, other.id = frame.id := .inr ⟨frame, member, rfl⟩
  have single {error : String} (given : error ≠ "") :
      ∀ action ∈ [Action.sendErrorForID frame.id error], Answers sent action := by
    intro action listed
    rw [List.mem_singleton.mp listed]
    exact .error _ _ given own
  unfold dispatch
  rw [if_neg kind]
  split
  · intro action listed
    rw [Option.mem_toList] at listed
    obtain ⟨error, failed, rfl⟩ := Option.map_eq_some_iff.mp listed
    refine .error _ _ ?_ own
    unfold start at failed
    split at failed
    · rename_i refused
      cases failed
      exact startError_ne_empty refused
    · split at failed
      · cases failed
      · cases failed
        decide
  · split
    · unfold chunk removeAndError
      split
      · exact single (by decide)
      · split
        · exact single (by decide)
        · split
          · exact single (by decide)
          · exact nofun
    · split
      · unfold endRequest
        split
        · exact single (by decide)
        · rename_i request _
          intro action listed
          rw [List.mem_singleton.mp listed]
          exact .request frame request member
      · intro action listed
        rw [List.mem_singleton.mp listed]
        exact .error _ _ (by decide) (.inl rfl)

theorem answers_of_event {s : VisitorDataSession} {frame : VisitorWebRTCDataMessage} {free : Bool}
    (reads : MessageJSON.unmarshal (wire stringify frame) = some frame) (member : frame ∈ sent)
    (kind : frame.kind ≠ "request") :
    ∀ action ∈ (s.step (.frame (wire stringify frame) free)).2, Answers sent action := by
  show ∀ action ∈ (s.handle (wire stringify frame) free).2, Answers sent action
  unfold handle
  split
  · intro action listed
    rw [List.mem_singleton.mp listed]
    exact .error _ _ (by decide) (.inl rfl)
  · rw [reads]
    exact answers_of_dispatch member kind

theorem answers_of_run (serializes : Serializes stringify sent)
    (kinds : ∀ frame ∈ sent, frame.kind ≠ "request") :
    ∀ {events : List Event} {sent' : List VisitorWebRTCDataMessage} {s : VisitorDataSession}, sent' ⊆ sent →
      Carries stringify sent' events → ∀ action ∈ s.run events, Answers sent action := by
  intro events
  induction events with
  | nil => exact fun _ _ => nofun
  | cons event rest ih =>
      intro sent' s within carries action listed
      rw [VisitorDataSession.run, List.mem_append] at listed
      rcases carries.cases with ⟨rfl, further⟩ | ⟨frame, sent'', free, rfl, rfl, further⟩
      · rcases listed with none | later
        · cases none
        · exact ih within further action later
      · have member := within List.mem_cons_self
        rcases listed with now | later
        · exact answers_of_event (serializes.reads frame member) member (kinds frame member) action now
        · exact ih (fun _ other => within (List.mem_cons_of_mem _ other)) further action later

omit [MessageJSON] in
/-- What a page sends are no requests in one frame. -/
theorem kind_of_sent {config : Config Page Task} (framed : Framed config) :
    ∀ frame ∈ config.shared.sent, frame.kind ≠ "request" := by
  intro frame member
  obtain ⟨n, bound, named⟩ := framed.named frame member
  have own : frame ∈ config.shared.sentFor n := List.mem_filter.mpr ⟨member, decide_eq_true named⟩
  have listed := (framed.begun n _ (List.getElem?_eq_getElem bound)).subset own
  unfold Fetch.frames at listed
  rw [List.mem_cons, List.mem_append, List.mem_map, List.mem_singleton] at listed
  rcases listed with rfl | ⟨piece, -, rfl⟩ | rfl
  · exact (by decide : ("request_start" : String) ≠ "request")
  · exact (by decide : ("request_chunk" : String) ≠ "request")
  · exact (by decide : ("request_end" : String) ≠ "request")

end Actions

/-! ## What the workers send -/

section Workers

variable {ρ : Type} [Reader ρ] [CaseTable] [HTTPTable] [MessageJSON] {service : LocalService ρ}
variable {channel : DataChannel} {frames : List VisitorWebRTCDataMessage} {out : Outbox}

omit [CaseTable] [HTTPTable] [MessageJSON] [Reader ρ] in
theorem sendAll_begins (channel : DataChannel) (frames : List VisitorWebRTCDataMessage) (out : Outbox) :
    ∃ some, some <+: frames ∧ (sendAll channel frames out).sent = out.sent ++ some := by
  induction frames generalizing out with
  | nil => exact ⟨[], List.prefix_refl _, (List.append_nil _).symm⟩
  | cons frame rest ih =>
      rw [sendAll]
      unfold Agent.sendFrame
      split
      · exact ⟨[], List.nil_prefix, (List.append_nil _).symm⟩
      · split
        · exact ⟨[], List.nil_prefix, (List.append_nil _).symm⟩
        · obtain ⟨some, begun, sent⟩ := ih ⟨out.sent ++ [frame], out.attempts + 1⟩
          refine ⟨frame :: some, List.cons_prefix_cons.mpr ⟨rfl, begun⟩, ?_⟩
          show (sendAll channel rest ⟨out.sent ++ [frame], out.attempts + 1⟩).sent = _
          rw [sent, List.append_assoc]
          rfl

/-- A worker sends what is due, as far as it gets. -/
theorem sent_perform (service : LocalService ρ) (channel : DataChannel) (action : Agent.Action) :
    (action.perform service channel {}).sent <+: action.due service := by
  obtain ⟨some, begun, sent⟩ := sendAll_begins channel (action.due service) {}
  rw [perform_eq_sendAll, sent]
  exact begun

/-- The frames that are due have the ID of the request, and those with an error are the last ones. -/
theorem frames_of_due {id : String} {request : VisitorStreamRequest} {frame : VisitorWebRTCDataMessage}
    (member : frame ∈ (Agent.Action.visitorStreamRequest id request).due service) :
    frame.id = id ∧ (quiet frame = false → Last frame) := by
  unfold Agent.Action.due at member
  dsimp only at member
  split at member
  · rw [List.mem_singleton.mp member]
    exact ⟨rfl, fun _ => rfl⟩
  · split at member
    · rw [List.mem_singleton.mp member]
      exact ⟨rfl, fun _ => rfl⟩
    · rename_i response _
      obtain ⟨pieces, last, same, -, -, ends⟩ :=
        @bodyFrames_eq ρ _ id _ _ 0 (Nat.lt_succ_self (Reader.budget response.body)) (Nat.zero_le _)
      rw [same, ← List.cons_append, List.mem_append, List.mem_singleton] at member
      rcases member with going | rfl
      · refine ⟨?_, fun loud => absurd ((going_frames frame going).2.symm.trans loud) Bool.noConfusion⟩
        rcases List.mem_cons.mp going with rfl | chunk
        · rfl
        · obtain ⟨piece, -, rfl⟩ := List.mem_map.mp chunk
          rfl
      · refine ⟨?_, fun _ => ends.final⟩
        rcases ends with ⟨rfl, -⟩ | ⟨error, -, rfl⟩ <;> rfl

/-- The frames of a worker, by what it does. -/
theorem frame_of_worker {sent : List VisitorWebRTCDataMessage} {action : Agent.Action}
    {frame : VisitorWebRTCDataMessage} (answers : Answers sent action)
    (member : frame ∈ (action.perform service channel {}).sent) :
    (quiet frame = false → Last frame) ∧ (frame.id = "" ∨ ∃ other ∈ sent, other.id = frame.id) ∧
      (quiet frame = true → ∃ request, action = .visitorStreamRequest frame.id request) := by
  have due := (sent_perform service channel action).subset member
  cases answers with
  | error id message given origin =>
      rw [List.mem_singleton.mp due]
      exact ⟨fun _ => rfl, origin, fun silent => absurd (of_decide_eq_true silent) given⟩
  | request asked request listed =>
      obtain ⟨named, final⟩ := frames_of_due due
      exact ⟨final, .inr ⟨asked, listed, named.symm⟩, fun _ => ⟨request, by rw [named]⟩⟩

end Workers

theorem Serializes.mono [MessageJSON] {stringify : VisitorWebRTCDataMessage → String}
    {sent sent' : List VisitorWebRTCDataMessage} (serializes : Serializes stringify sent')
    (fewer : sent ⊆ sent') : Serializes stringify sent where
  reads frame member := serializes.reads frame (fewer member)
  short frame member := serializes.short frame (fewer member)

/-! ## What arrives -/

theorem getElem?_of_begins {α : Type*} {short long : List α} (begun : short <+: long) {i : ℕ} {a : α}
    (found : short[i]? = some a) : long[i]? = some a := by
  obtain ⟨rest, rfl⟩ := begun
  rw [List.getElem?_append_left (List.getElem?_eq_some_iff.mp found).1, found]

theorem concat_begins {α : Type*} {short long : List α} (begun : short <+: long) {a : α}
    (next : long[short.length]? = some a) : short ++ [a] <+: long := by
  obtain ⟨rest, rfl⟩ := begun
  rw [List.getElem?_append_right (Nat.le_refl _), Nat.sub_self] at next
  cases rest with
  | nil => cases next
  | cons first rest =>
      cases next
      exact (List.prefix_append_right_inj _).mpr ⟨rest, rfl⟩

/-- The page by itself sends something more, and no frame arrives. -/
theorem own_step {page page' : Page} {task task' : Task} {spawned : List Task} {choice : Choice}
    (stepped : page.step task choice = some (page', task', spawned)) (own : task.handles = false) :
    page.sent <+: page'.sent ∧ page'.received = page.received ∧ task'.handles = false := by
  cases task with
  | forwardFetch fetch =>
      cases choice with
      | go =>
          cases stepped
          unfold Page.forwardFetch
          split
          · exact ⟨List.prefix_refl _, rfl, rfl⟩
          · split <;> exact ⟨List.prefix_refl _, rfl, rfl⟩
      | fail error => cases stepped
  | sendFrame n frames =>
      cases choice with
      | go => cases frames <;> cases stepped <;> exact ⟨List.prefix_refl _, rfl, rfl⟩
      | fail error => cases frames <;> cases stepped
  | awaiting n frame frames =>
      cases choice with
      | go =>
          obtain ⟨-, result⟩ := Option.ite_none_right_eq_some.mp stepped
          cases result
          exact ⟨List.prefix_append _ _, rfl, rfl⟩
      | fail error =>
          obtain ⟨-, result⟩ := Option.ite_none_right_eq_some.mp stepped
          cases result
          exact ⟨List.prefix_refl _, rfl, rfl⟩
  | caught n error =>
      cases choice <;> cases stepped
      exact ⟨List.prefix_refl _, rfl, rfl⟩
  | handleFrame message => cases own
  | onclose =>
      cases choice <;> cases stepped
      exact ⟨List.prefix_refl _, rfl, rfl⟩
  | onerror =>
      cases choice <;> cases stepped
      exact ⟨List.prefix_refl _, rfl, rfl⟩
  | finished => cases choice <;> cases stepped

theorem received_handleFrame (page : Page) (message : VisitorWebRTCDataMessage) :
    (page.handleFrame message).received = page.received ++ [(page.fetches.length, message)] ∧
      (page.handleFrame message).sent = page.sent := by
  unfold Page.handleFrame
  split
  · exact ⟨rfl, rfl⟩
  · split <;> exact ⟨rfl, rfl⟩

theorem sent_of_step {page page' : Page} {task task' : Task} {spawned : List Task} {choice : Choice}
    (stepped : page.step task choice = some (page', task', spawned)) : page.sent <+: page'.sent := by
  cases handles : task.handles with
  | false => exact (own_step stepped handles).1
  | true =>
      cases task <;> cases handles
      cases choice <;> cases stepped
      exact (received_handleFrame page _).2 ▸ List.prefix_refl _

namespace Visit

section Runs

variable {ρ : Type} [Reader ρ] [CaseTable] [HTTPTable] [MessageJSON] {service : LocalService ρ}
variable {channels : ℕ → DataChannel} {stringify : VisitorWebRTCDataMessage → String}
variable {visit next : Visit} {happening : Happening}

/-- The invariant of a visit. -/
structure Linked (service : LocalService ρ) (channels : ℕ → DataChannel)
    (stringify : VisitorWebRTCDataMessage → String) (visit : Visit) : Prop where
  page : pageMachine.Reachable newPage visit.page
  idle : ∀ task ∈ visit.page.threads, task.handles = false
  carries : Carries stringify visit.page.shared.sent visit.events
  sent : ∀ entry ∈ visit.frames, ∃ action, visit.actions[entry.1]? = some action
  begun : ∀ worker action, visit.actions[worker]? = some action →
    visit.sentBy worker <+: (action.perform service (channels worker) {}).sent
  received : visit.page.shared.received.map Prod.snd <+: visit.frames.map Prod.snd
  arrived : ∀ entry ∈ visit.page.shared.received, ∀ n, entry.2.id = fetchID n → n < entry.1

theorem linked_new : Linked service channels stringify newVisit where
  page := .refl
  idle := nofun
  carries := List.nil_prefix
  sent := nofun
  begun _ _ _ := List.nil_prefix
  received := List.nil_prefix
  arrived := nofun

omit [CaseTable] [HTTPTable] in
/-- More has been read. -/
theorem actions_append (s : VisitorDataSession) (events : List Event) (event : Event) :
    s.run events <+: s.run (events ++ [event]) := by
  induction events generalizing s with
  | nil => exact List.nil_prefix
  | cons first rest ih => exact (List.prefix_append_right_inj _).mpr (ih _)

/-- The page takes a step of its own. -/
theorem Linked.withPage (linked : Linked service channels stringify visit) {page : Config Page Task}
    (reached : pageMachine.Reachable newPage page) (idle : ∀ task ∈ page.threads, task.handles = false)
    (sent : visit.page.shared.sent <+: page.shared.sent)
    (received : page.shared.received = visit.page.shared.received) :
    Linked service channels stringify { visit with page := page } where
  page := reached
  idle := idle
  carries := linked.carries.trans (sent.map _)
  sent := linked.sent
  begun := linked.begun
  received := by
    show page.shared.received.map _ <+: _
    rw [received]
    exact linked.received
  arrived := received ▸ linked.arrived

theorem Linked.arrive (linked : Linked service channels stringify visit) {task : Task}
    (moved : visit.exec service channels stringify (.arrive task) = some next) :
    Linked service channels stringify next := by
  obtain ⟨own, moved⟩ := Option.ite_none_left_eq_some.mp moved
  obtain ⟨page, arrived, rfl⟩ := Option.map_eq_some_iff.mp moved
  have reached := linked.page.step trivial arrived
  obtain ⟨-, rfl⟩ := Machine.exec_arrive arrived
  refine linked.withPage reached (fun other member => ?_) (List.prefix_refl _) rfl
  rcases List.mem_append.mp member with old | new
  · exact linked.idle other old
  · rw [List.mem_singleton.mp new]
    exact Bool.eq_false_of_not_eq_true own

theorem Linked.run (linked : Linked service channels stringify visit) {index : ℕ} {choice : Choice}
    (moved : visit.exec service channels stringify (.run index choice) = some next) :
    Linked service channels stringify next := by
  obtain ⟨page, ran, rfl⟩ := Option.map_eq_some_iff.mp moved
  have reached := linked.page.step trivial ran
  obtain ⟨task, page', task', spawned, present, stepped, rfl⟩ := Machine.exec_run ran
  obtain ⟨sent, received, idle⟩ :=
    own_step stepped (linked.idle task (List.mem_of_getElem? present))
  obtain ⟨-, rfl⟩ := turn_of_step stepped
  refine linked.withPage reached (fun other member => ?_) sent received
  rcases Machine.mem_threads_of_step member with rfl | none | old
  · exact idle
  · cases none
  · exact linked.idle other old

/-- The session reads something, or is closed. -/
theorem Linked.reads (linked : Linked service channels stringify visit) (event : Event)
    (carries : Carries stringify visit.page.shared.sent (visit.events ++ [event])) :
    Linked service channels stringify { visit with events := visit.events ++ [event] } where
  page := linked.page
  idle := linked.idle
  carries := carries
  sent entry member := by
    obtain ⟨action, found⟩ := linked.sent entry member
    exact ⟨action, getElem?_of_begins (actions_append {} visit.events event) found⟩
  begun worker action found := by
    show visit.sentBy worker <+: _
    cases known : visit.actions[worker]? with
    | some earlier =>
        have same := getElem?_of_begins (actions_append {} visit.events event) known
        cases same.symm.trans found
        exact linked.begun worker action known
    | none =>
        have unsent : visit.sentBy worker = [] := by
          unfold sentBy
          rw [List.filterMap_eq_nil_iff]
          intro entry member
          refine if_neg ?_
          rintro rfl
          obtain ⟨action, found⟩ := linked.sent entry member
          exact absurd (known.symm.trans found) (Option.some_ne_none _).symm
        rw [unsent]
        exact List.nil_prefix
  received := linked.received
  arrived := linked.arrived

theorem Linked.read (linked : Linked service channels stringify visit) {free : Bool}
    (moved : visit.exec service channels stringify (.read free) = some next) :
    Linked service channels stringify next := by
  obtain ⟨frame, found, rfl⟩ := Option.map_eq_some_iff.mp moved
  refine linked.reads _ ?_
  unfold Carries
  rw [List.filterMap_append]
  refine concat_begins linked.carries ?_
  rw [List.getElem?_map, found, Option.map_some]

theorem Linked.close (linked : Linked service channels stringify visit) :
    Linked service channels stringify { visit with events := visit.events ++ [.close] } := by
  refine linked.reads _ ?_
  unfold Carries
  rw [List.filterMap_append]
  show _ ++ [] <+: _
  rw [List.append_nil]
  exact linked.carries

omit [CaseTable] [HTTPTable] [MessageJSON] in
theorem sentBy_append (worker other : ℕ) (frame : VisitorWebRTCDataMessage) :
    Visit.sentBy { visit with frames := visit.frames ++ [(worker, frame)] } other =
      visit.sentBy other ++ if worker = other then [frame] else [] := by
  unfold sentBy
  rw [List.filterMap_append]
  by_cases same : worker = other <;> simp [same]

theorem Linked.send (linked : Linked service channels stringify visit) {worker : ℕ}
    (moved : visit.exec service channels stringify (.send worker) = some next) :
    Linked service channels stringify next := by
  obtain ⟨frame, found, rfl⟩ := Option.map_eq_some_iff.mp moved
  obtain ⟨action, known, place⟩ := Option.bind_eq_some_iff.mp found
  refine
    { linked with
      sent := ?_
      begun := ?_
      received := ?_ }
  · intro entry member
    rcases List.mem_append.mp member with old | new
    · exact linked.sent entry old
    · rw [List.mem_singleton.mp new]
      exact ⟨action, known⟩
  · intro other action' known'
    rw [sentBy_append]
    by_cases same : worker = other
    · subst same
      cases known.symm.trans known'
      rw [if_pos rfl]
      exact concat_begins (linked.begun worker action known) place
    · rw [if_neg same, List.append_nil]
      exact linked.begun other action' known'
  · show _ <+: (visit.frames ++ _).map Prod.snd
    rw [List.map_append]
    exact linked.received.trans (List.prefix_append _ _)

/-- What a worker sends is an answer to a fetch that was admitted. -/
theorem Linked.named (linked : Linked service channels stringify visit)
    (serializes : Serializes stringify visit.page.shared.sent) {entry : ℕ × VisitorWebRTCDataMessage}
    (member : entry ∈ visit.frames) :
    ∃ action, visit.actions[entry.1]? = some action ∧
      entry.2 ∈ (action.perform service (channels entry.1) {}).sent ∧
      Answers visit.page.shared.sent action := by
  obtain ⟨action, known⟩ := linked.sent entry member
  refine ⟨action, known, (linked.begun entry.1 action known).subset ?_, ?_⟩
  · exact List.mem_filterMap.mpr ⟨entry, member, if_pos rfl⟩
  · exact answers_of_run serializes (kind_of_sent (framed_of_reachable linked.page))
      (fun _ other => other) linked.carries action (List.mem_of_getElem? known)

theorem Linked.admitted (linked : Linked service channels stringify visit)
    (serializes : Serializes stringify visit.page.shared.sent) {entry : ℕ × VisitorWebRTCDataMessage}
    (member : entry ∈ visit.frames) {n : ℕ} (own : entry.2.id = fetchID n) :
    n < visit.page.shared.fetches.length := by
  obtain ⟨action, -, sent, answers⟩ := linked.named serializes member
  obtain ⟨-, origin, -⟩ := frame_of_worker answers sent
  rcases origin with none | ⟨frame, listed, same⟩
  · exact absurd (own.symm.trans none) (fetchID_ne_empty n)
  · obtain ⟨m, bound, named⟩ := (framed_of_reachable linked.page).named frame listed
    rw [fetchID_injective (own.symm.trans (same.symm.trans named))]
    exact bound

omit [CaseTable] [HTTPTable] [MessageJSON] in
/-- A frame arrives, and its task runs. -/
theorem reachable_handleFrame {config : Config Page Task} (reached : pageMachine.Reachable newPage config)
    (message : VisitorWebRTCDataMessage) : pageMachine.Reachable newPage
      ⟨config.shared.handleFrame message, config.threads ++ [.finished]⟩ := by
  have arrived : pageMachine.exec config (.arrive (.handleFrame message)) =
      some ⟨config.shared, config.threads ++ [.handleFrame message]⟩ := rfl
  have ran : pageMachine.exec ⟨config.shared, config.threads ++ [.handleFrame message]⟩
      (.run config.threads.length .go) =
        some ⟨config.shared.handleFrame message, config.threads ++ [.finished]⟩ := by
    simp [Machine.exec, pageMachine, Page.step]
  exact (reached.step trivial arrived).step trivial ran

theorem Linked.deliver (linked : Linked service channels stringify visit)
    (serializes : Serializes stringify visit.page.shared.sent)
    (moved : visit.exec service channels stringify .deliver = some next) :
    Linked service channels stringify next := by
  obtain ⟨entry, found, rfl⟩ := Option.map_eq_some_iff.mp moved
  have member : entry ∈ visit.frames := List.mem_of_getElem? found
  obtain ⟨received, sent⟩ := received_handleFrame visit.page.shared entry.2
  refine ⟨?_, ?_, ?_, linked.sent, linked.begun, ?_, ?_⟩
  · exact reachable_handleFrame linked.page entry.2
  · intro task listed
    rcases List.mem_append.mp listed with old | new
    · exact linked.idle task old
    · rw [List.mem_singleton.mp new]
      rfl
  · show Carries stringify (visit.page.shared.handleFrame entry.2).sent _
    rw [sent]
    exact linked.carries
  · show (visit.page.shared.handleFrame entry.2).received.map _ <+: _
    rw [received, List.map_append]
    refine concat_begins linked.received ?_
    rw [List.length_map, List.getElem?_map, found, Option.map_some]
  · show ∀ other ∈ (visit.page.shared.handleFrame entry.2).received, _
    rw [received]
    intro other listed n own
    rcases List.mem_append.mp listed with old | new
    · exact linked.arrived other old n own
    · rw [List.mem_singleton.mp new] at own ⊢
      exact linked.admitted serializes member own

/-- What was sent stays sent. -/
theorem sent_of_exec (moved : visit.exec service channels stringify happening = some next) :
    visit.page.shared.sent <+: next.page.shared.sent := by
  cases happening with
  | arrive task =>
      obtain ⟨-, moved⟩ := Option.ite_none_left_eq_some.mp moved
      obtain ⟨page, arrived, rfl⟩ := Option.map_eq_some_iff.mp moved
      obtain ⟨-, rfl⟩ := Machine.exec_arrive arrived
      exact List.prefix_refl _
  | run index choice =>
      obtain ⟨page, ran, rfl⟩ := Option.map_eq_some_iff.mp moved
      obtain ⟨task, page', task', spawned, present, stepped, rfl⟩ := Machine.exec_run ran
      exact sent_of_step stepped
  | read free =>
      obtain ⟨frame, -, rfl⟩ := Option.map_eq_some_iff.mp moved
      exact List.prefix_refl _
  | close =>
      cases moved
      exact List.prefix_refl _
  | send worker =>
      obtain ⟨frame, -, rfl⟩ := Option.map_eq_some_iff.mp moved
      exact List.prefix_refl _
  | deliver =>
      obtain ⟨entry, -, rfl⟩ := Option.map_eq_some_iff.mp moved
      exact (received_handleFrame visit.page.shared entry.2).2 ▸ List.prefix_refl _

theorem Linked.exec (linked : Linked service channels stringify visit)
    (serializes : Serializes stringify visit.page.shared.sent)
    (moved : visit.exec service channels stringify happening = some next) :
    Linked service channels stringify next := by
  cases happening with
  | arrive task => exact linked.arrive moved
  | run index choice => exact linked.run moved
  | read free => exact linked.read moved
  | close =>
      cases moved
      exact linked.close
  | send worker => exact linked.send moved
  | deliver => exact linked.deliver serializes moved

theorem linked_of_reached (reached : Reached service channels stringify visit)
    (serializes : Serializes stringify visit.page.shared.sent) :
    Linked service channels stringify visit := by
  induction reached with
  | new => exact linked_new
  | step before moved ih =>
      have earlier := serializes.mono (sent_of_exec moved).subset
      exact (ih earlier).exec earlier moved

end Runs

end Visit

/-! ## What the browser gets -/

theorem filterMap_of_later {entries : List (ℕ × VisitorWebRTCDataMessage)} {n : ℕ}
    (later : ∀ entry ∈ entries, entry.2.id = fetchID n → n < entry.1) :
    entries.filterMap (fun entry =>
        if n < entry.1 ∧ entry.2.id = fetchID n then some entry.2 else none) =
      (entries.map Prod.snd).filter fun frame => frame.id = fetchID n := by
  induction entries with
  | nil => rfl
  | cons entry rest ih =>
      have first := later entry List.mem_cons_self
      have others := ih fun other member => later other (List.mem_cons_of_mem _ member)
      by_cases own : entry.2.id = fetchID n
      · simp [own, first own, others]
      · simp [own, others]

theorem Sound.mono {due short long : List VisitorWebRTCDataMessage} (sound : Sound due long)
    (begun : short <+: long) : Sound due short where
  begun := (begun.filter quiet).trans sound.begun
  final frame member := sound.final frame (begun.subset member)

theorem filter_labelled {entries : List (ℕ × VisitorWebRTCDataMessage)} {own : VisitorWebRTCDataMessage → Bool}
    {worker : ℕ} (same : ∀ entry ∈ entries, quiet entry.2 = true → (own entry.2 = true ↔ entry.1 = worker)) :
    ((entries.map Prod.snd).filter own).filter quiet =
      (entries.filterMap fun entry => if entry.1 = worker then some entry.2 else none).filter quiet := by
  induction entries with
  | nil => rfl
  | cons entry rest ih =>
      have others := ih fun other member => same other (List.mem_cons_of_mem _ member)
      have first := same entry List.mem_cons_self
      cases loud : quiet entry.2 with
      | false => by_cases labelled : entry.1 = worker <;> cases kept : own entry.2 <;> simp_all
      | true => by_cases labelled : entry.1 = worker <;> simp_all

theorem mem_executed {id : String} {request : VisitorStreamRequest} {actions : List Agent.Action}
    (member : .visitorStreamRequest id request ∈ actions) : request ∈ executed id actions :=
  List.mem_filterMap.mpr ⟨_, member, if_pos rfl⟩

/-- If a request is executed once, one worker executes it. -/
theorem worker_of_executed {id : String} {request : VisitorStreamRequest} {actions : List Agent.Action}
    (once : executed id actions = [request]) :
    ∃ worker, actions[worker]? = some (.visitorStreamRequest id request) ∧
      ∀ (other : ℕ) (request' : VisitorStreamRequest),
        actions[other]? = some (.visitorStreamRequest id request') → other = worker := by
  obtain ⟨before, action, after, rfl, none_before, here, none_after⟩ :=
    List.filterMap_eq_cons_iff.mp once
  have action_eq : action = .visitorStreamRequest id request := by
    cases action with
    | sendErrorForID other message => cases here
    | visitorRequest data => cases here
    | visitorStreamRequest other request' =>
        obtain ⟨rfl, result⟩ := Option.ite_none_right_eq_some.mp here
        cases result
        rfl
  refine ⟨before.length, by rw [List.getElem?_append_right (Nat.le_refl _), Nat.sub_self, action_eq]; rfl, ?_⟩
  intro other request' found
  rcases Nat.lt_trichotomy other before.length with earlier | same | later
  · rw [List.getElem?_append_left earlier] at found
    have absent := none_before _ (List.mem_of_getElem? found)
    simp at absent
  · exact same
  · rw [List.getElem?_append_right (Nat.le_of_lt later)] at found
    obtain ⟨k, same⟩ : ∃ k, other - before.length = k + 1 := ⟨other - before.length - 1, by omega⟩
    rw [same, List.getElem?_cons_succ] at found
    have absent := List.filterMap_eq_nil_iff.mp none_after _ (List.mem_of_getElem? found)
    simp at absent

section Browsers

variable {ρ : Type} [Reader ρ] [CaseTable] [HTTPTable] [MessageJSON] {service : LocalService ρ}
variable {channels : ℕ → DataChannel} {stringify : VisitorWebRTCDataMessage → String}
variable {visit : Visit}

/-- The frames of an ID arrive in the order in which they were sent, and all of them after the fetch. -/
theorem receivedFor_begins (linked : visit.Linked service channels stringify) (n : ℕ) :
    visit.page.shared.receivedFor n <+:
      (visit.frames.map Prod.snd).filter fun frame => frame.id = fetchID n := by
  unfold Page.receivedFor
  rw [filterMap_of_later fun entry member => linked.arrived entry member n]
  exact linked.received.filter _

theorem sound_receivedFor (linked : visit.Linked service channels stringify)
    (serializes : Serializes stringify visit.page.shared.sent) {n : ℕ} {fetch : Fetch}
    (found : visit.page.shared.fetches[n]? = some fetch) :
    Sound ((Agent.Action.visitorStreamRequest (fetchID n) fetch.request).due service)
      (visit.page.shared.receivedFor n) := by
  refine Sound.mono ⟨?_, ?_⟩ (receivedFor_begins linked n)
  · -- the frames without errors come from the worker that executes the request
    have asks {entry : ℕ × VisitorWebRTCDataMessage} (member : entry ∈ visit.frames)
        (silent : quiet entry.2 = true) : ∃ request,
          visit.actions[entry.1]? = some (.visitorStreamRequest entry.2.id request) := by
      obtain ⟨action, known, sent, answers⟩ := linked.named serializes member
      obtain ⟨request, rfl⟩ := (frame_of_worker answers sent).2.2 silent
      exact ⟨request, known⟩
    rcases executed_of_fetch linked.page serializes linked.carries found with none | once
    · have nothing : ((visit.frames.map Prod.snd).filter fun frame => frame.id = fetchID n).filter quiet =
          [] := by
        rw [List.filter_eq_nil_iff]
        intro frame member silent
        obtain ⟨listed, own⟩ := List.mem_filter.mp member
        obtain ⟨entry, present, rfl⟩ := List.mem_map.mp listed
        obtain ⟨request, known⟩ := asks present silent
        rw [of_decide_eq_true own] at known
        have executes := mem_executed (List.mem_of_getElem? known)
        rw [Visit.actions, none] at executes
        cases executes
      rw [nothing]
      exact List.nil_prefix
    · obtain ⟨worker, known, alone⟩ := worker_of_executed once
      rw [@filter_labelled _ _ worker ?_]
      · exact (linked.begun worker _ known |>.trans (sent_perform service _ _)).filter quiet
      · intro entry member silent
        rw [decide_eq_true_iff]
        constructor
        · intro own
          obtain ⟨request, asked⟩ := asks member silent
          rw [own] at asked
          exact alone entry.1 request asked
        · rintro rfl
          obtain ⟨request, asked⟩ := asks member silent
          exact (Agent.Action.visitorStreamRequest.inj (Option.some.inj (asked.symm.trans known))).1
  · intro frame member
    obtain ⟨entry, present, rfl⟩ := List.mem_map.mp (List.mem_of_mem_filter member)
    obtain ⟨action, -, sent, answers⟩ := linked.named serializes present
    exact (frame_of_worker answers sent).1

/-- **The browser gets what the local service answers.**  Fetches, tasks of the page, reads of the session
and frames of the workers may come in any order, and frames may be refused on either side.  For each fetch
that was admitted, and after any part of what its port was given: as long as no response has started, the
browser has nothing or an error, and then it has what it makes of the status, the headers and a beginning
of the body with which the local service answers this very request; the stream is closed only when the
whole body is there.  A fetch that is not pending any more has ended in the browser, with a response whose
stream has ended or with an error. -/
theorem response_of_page (browser : Browser) (reached : visit.Reached service channels stringify)
    (serializes : Serializes stringify visit.page.shared.sent) :
    ∀ n fetch, visit.page.shared.fetches[n]? = some fetch →
      ∀ messages, messages <+: visit.page.shared.postedTo n →
        Shows service browser fetch.request (.consume browser messages) ∧
        (visit.page.shared.pending.lookup (fetchID n) = none → messages = visit.page.shared.postedTo n →
          ∃ fetched, (ResponseStream.consume browser messages).fetched browser = some fetched ∧
            fetched.Ended) := by
  intro n fetch found messages read
  have linked := Visit.linked_of_reached reached serializes
  have accounts := (framed_of_reachable linked.page).accounts
  have sound := sound_receivedFor linked serializes found
  have bound := (List.getElem?_eq_some_iff.mp found).1
  by_cases missing : visit.page.shared.pending.lookup (fetchID n) = none
  · have answered := accounts.answered n bound missing
    obtain ⟨honest, settled⟩ := honest_of_posted due_execute sound (.inr answered) read
    exact ⟨honest.shows, fun _ whole => (settled answered whole).ended⟩
  · have going := accounts.going n bound missing
    exact ⟨(honest_of_posted due_execute sound (.inl going) read).1.shows, fun none => absurd none missing⟩

end Browsers

/-! ## A greeting -/

/-- The texts of the frames of a fetch. -/
def greetingTexts : List (String × VisitorWebRTCDataMessage) :=
  [("\x7b\"kind\":\"request_start\",\"id\":\"1\",\"method\":\"GET\",\"path\":\"/\",\"headers\":\x7b\x7d\x7d",
      pageFetch.startFrame "1"),
    ("\x7b\"kind\":\"request_end\",\"id\":\"1\"\x7d", Fetch.endFrame "1")]

/-- `JSON.stringify` of these frames. -/
def stringifyGreeting (frame : VisitorWebRTCDataMessage) : String :=
  ((greetingTexts.find? fun entry => entry.2 = frame).map Prod.fst).getD ""

/-- A service that greets in two pieces. -/
def greetingService : LocalService Chunks where
  host := "127.0.0.1"
  port := 8080
  respond _ := .ok ⟨200, AList.insert "Content-Type" ["text/plain"] ∅, ⟨[utf8 "hel", utf8 "lo"], .eof, false⟩⟩
  order := .kept _ _
  corruptInput _ := "illegal base64 data at input byte 0"

/-- A browser that rewrites nothing. -/
def plainBrowser : Browser where
  rewriteBody body _ := body
  refusedHeaders _ := none
  nullBody := "Response with null body status cannot have body"

/-- A fetch, its frames, what the agent reads, and the frames of the answer. -/
def greetingHappenings : List Happening :=
  .arrive (.forwardFetch pageFetch) :: List.replicate 5 (.run 0 .go) ++
    [.read true, .read true, .send 0, .send 0, .send 0, .send 0, .deliver, .deliver, .deliver, .deliver]

theorem response_of_page_greeting :
    let _ := CaseTable.ascii
    let _ := HTTPTable.plain
    let _ := MessageJSON.listed greetingTexts
    ∃ visit, Visit.Reached greetingService (fun _ _ => none) stringifyGreeting visit ∧
      visit.page.shared.fetches = [pageFetch] ∧
      Shows greetingService plainBrowser pageFetch.request
        (.consume plainBrowser (visit.page.shared.postedTo 0)) ∧
      (∃ fetched, (ResponseStream.consume plainBrowser (visit.page.shared.postedTo 0)).fetched
        plainBrowser = some fetched ∧ fetched.Ended) ∧
      (ResponseStream.consume plainBrowser (visit.page.shared.postedTo 0)).fetched plainBrowser =
        some (.response 200 (AList.insert "Content-Type" ["text/plain"] ∅) [utf8 "hel", utf8 "lo"]
          .closed) := by
  intro _ _ _
  obtain ⟨visit, reached, fetches, sent, missing, fetched⟩ :
      ∃ visit, Visit.Reached greetingService (fun _ _ => none) stringifyGreeting visit ∧
        visit.page.shared.fetches = [pageFetch] ∧
        visit.page.shared.sent = greetingTexts.map Prod.snd ∧
        visit.page.shared.pending.lookup (fetchID 0) = none ∧
        (ResponseStream.consume plainBrowser (visit.page.shared.postedTo 0)).fetched plainBrowser =
          some (.response 200 (AList.insert "Content-Type" ["text/plain"] ∅) [utf8 "hel", utf8 "lo"]
            .closed) := by
    refine Visit.exists_reached_of_replay greetingHappenings ?_
    decide +kernel
  have serializes : Serializes stringifyGreeting visit.page.shared.sent := by
    rw [sent]
    exact ⟨by decide +kernel, by decide +kernel⟩
  obtain ⟨shows_response, ended⟩ := response_of_page plainBrowser reached serializes 0 pageFetch
    (by rw [fetches]; rfl) _ (List.prefix_refl _)
  exact ⟨visit, reached, fetches, shows_response, ended missing rfl, fetched⟩

end NryNet.Visitor

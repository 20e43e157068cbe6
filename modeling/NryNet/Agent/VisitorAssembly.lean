import NryNet.Agent.VisitorStream

/-!
# Streamed requests are put together again

The frames of many requests arrive on one data channel, in any order: starts, chunks, ends, duplicates,
chunks of requests that nobody has started, and chunks that are too large.  `Assembled` is what a request
is by its own frames alone, and `lookup_after_iff` says that this is what the session holds under its ID.

`step_congr` carries the independence of the other traffic: one event does the same to an ID in any two
sessions that agree on its entry.
-/

namespace NryNet.Agent

open ByteStream GoText

/-! ## What an event says about an ID -/

namespace Event

variable [MessageJSON]

/-- The message of a frame, if it can be read. -/
def message : Event → Option VisitorWebRTCDataMessage
  | .frame data _ =>
      if visitorMaxMessageBytes < data.length then none else MessageJSON.unmarshal data
  | .close => none

/-- The event is a frame of some kind with the ID. -/
def Is (kind id : String) (event : Event) : Prop :=
  ∃ message, event.message = some message ∧ message.kind = kind ∧ message.id = id

/-- The event ends a request: it is the `request_end`, or the session is closed. -/
def Ends (id : String) (event : Event) : Prop :=
  event = .close ∨ event.Is "request_end" id

/-- What a `request_chunk` with the ID adds, or that it cannot be decoded. -/
def chunkOf (id : String) (event : Event) : Option (Option Bytes) :=
  event.message.bind fun message =>
    if message.kind = "request_chunk" ∧ message.id = id then some (Base64.decodeString message.body)
    else none

/-- The event is a frame with the ID or goes for the whole session. -/
def concerns (id : String) (event : Event) : Bool :=
  match event with
  | .close => true
  | event => event.message.any fun message => message.id = id

end Event

/-- A frame is a `request_start` that opens a request. -/
structure Accepted [MessageJSON] (s : VisitorDataSession) (data : Bytes)
    (message : VisitorWebRTCDataMessage) : Prop where
  received : (Event.frame data true).message = some message
  kind : message.kind = "request_start"
  admitted : s.startError message = none

/-- There has been an accepted `request_start` with the ID; the request has not ended since then, and all
the chunks with the ID that have come since then can be decoded and do not exceed the limit. -/
def Assembled [MessageJSON] (id : String) (events : List Event) (message : VisitorWebRTCDataMessage)
    (parts : List Bytes) : Prop :=
  ∃ before data middle, events = before ++ .frame data true :: middle ∧
    Accepted (VisitorDataSession.after {} before) data message ∧ message.id = id ∧
    (∀ event ∈ middle, ¬ event.Ends id) ∧
    middle.filterMap (Event.chunkOf id) = parts.map some ∧
    parts.flatten.length ≤ visitorMaxRequestBytes

/-! ## One event -/

theorem executed_singleton (id other : String) (request : VisitorStreamRequest) :
    executed id [.visitorStreamRequest other request] = if other = id then [request] else [] := by
  by_cases same : other = id <;> simp [executed, same]

theorem executed_append (id : String) (first second : List Action) :
    executed id (first ++ second) = executed id first ++ executed id second :=
  List.filterMap_append

namespace VisitorDataSession

variable {s : VisitorDataSession} {message : VisitorWebRTCDataMessage} {id : String}

/-- What one event does, as far as the requests go. -/
inductive Turn [MessageJSON] (s : VisitorDataSession) :
    Event → VisitorDataSession → List Action → Prop
  | closed : Turn s .close s.close []
  | opened {data : Bytes} {message : VisitorWebRTCDataMessage} (accepted : Accepted s data message) :
      Turn s (.frame data true) (s.insert message) []
  | wrote {event : Event} {message : VisitorWebRTCDataMessage} {request : VisitorStreamRequest}
      {chunk : Bytes} (received : event.message = some message) (kind : message.kind = "request_chunk")
      (decoded : Base64.decodeString message.body = some chunk)
      (present : s.requests.lookup message.id = some request) (room : tooLarge request chunk = false) :
      Turn s event (s.write message.id request chunk) []
  | spoilt {event : Event} {message : VisitorWebRTCDataMessage} {err : String}
      (received : event.message = some message) (kind : message.kind = "request_chunk")
      (bad : ∀ chunk ∈ Base64.decodeString message.body,
        ∀ request ∈ s.requests.lookup message.id, tooLarge request chunk = true) :
      Turn s event (s.remove message.id) [.sendErrorForID message.id err]
  | ended {event : Event} {message : VisitorWebRTCDataMessage} {actions : List Action}
      (received : event.message = some message) (kind : message.kind = "request_end")
      (starts : ∀ other, executed other actions =
        if other = message.id then (s.requests.lookup other).toList else []) :
      Turn s event (s.remove message.id) actions
  | kept {data : Bytes} {free : Bool} {actions : List Action}
      (starts : ∀ other, executed other actions = [])
      (rejected : ∀ message, free = true → ¬ Accepted s data message)
      (unended : ∀ other, ¬ (Event.frame data free).Is "request_end" other)
      (unknown : ∀ other, (Event.frame data free).chunkOf other = none ∨
        s.requests.lookup other = none) :
      Turn s (.frame data free) s actions

section Frames

variable [MessageJSON] {data : Bytes} {free : Bool}

/-- A frame that cannot be read changes nothing. -/
theorem turn_of_unread {err : String} (unread : (Event.frame data free).message = none) :
    Turn s (.frame data free) s [.sendErrorForID "" err] := by
  refine .kept (fun _ => rfl) (fun message some accepted => ?_) ?_ fun other => .inl ?_
  · subst some
    rw [accepted.received] at unread
    cases unread
  · rintro other ⟨message, received, -⟩
    rw [received] at unread
    cases unread
  · rw [Event.chunkOf, unread, Option.bind_none]

/-- A frame that starts no request, adds nothing to one and ends none changes nothing. -/
theorem turn_of_other {actions : List Action}
    (received : (Event.frame data free).message = some message)
    (starts : ∀ other, executed other actions = [])
    (start : free = true → message.kind = "request_start" → s.startError message ≠ none)
    (chunk : message.kind = "request_chunk" → s.requests.lookup message.id = none)
    (last : message.kind ≠ "request_end") : Turn s (.frame data free) s actions := by
  refine .kept starts (fun other some accepted => ?_) ?_ fun other => ?_
  · subst some
    cases received.symm.trans accepted.received
    exact start rfl accepted.kind accepted.admitted
  · rintro other ⟨message', received', kind, -⟩
    cases received.symm.trans received'
    exact last kind
  · rw [Event.chunkOf, received, Option.bind_some]
    split
    · rename_i same
      exact .inr (same.2 ▸ chunk same.1)
    · exact .inl rfl

theorem turn_of_chunk (received : (Event.frame data free).message = some message)
    (kind : message.kind = "request_chunk") :
    Turn s (.frame data free) (s.chunk message).1 (s.chunk message).2 := by
  unfold chunk
  split
  · rename_i undecoded
    exact .spoilt received kind fun chunk decoded => by rw [undecoded] at decoded; cases decoded
  · rename_i chunk decoded
    split
    · rename_i missing
      exact turn_of_other received (fun _ => rfl) (fun _ start => by simp [kind] at start)
        (fun _ => missing) (by simp [kind])
    · rename_i request present
      split
      · rename_i large
        refine .spoilt received kind fun chunk' decoded' request' present' => ?_
        cases decoded.symm.trans decoded'
        cases present.symm.trans present'
        exact large
      · rename_i room
        exact .wrote received kind decoded present (Bool.eq_false_of_not_eq_true room)

theorem turn_of_end (received : (Event.frame data free).message = some message)
    (kind : message.kind = "request_end") :
    Turn s (.frame data free) (s.endRequest message).1 (s.endRequest message).2 := by
  unfold endRequest
  split
  · rename_i missing
    refine .ended received kind fun other => ?_
    split
    · rename_i same
      rw [same, missing]
      rfl
    · rfl
  · rename_i request present
    refine .ended received kind fun other => ?_
    rw [executed_singleton]
    by_cases same : other = message.id
    · rw [if_pos same, if_pos same.symm, same, present]
      rfl
    · rw [if_neg same, if_neg (Ne.symm same)]

theorem turn_of_start (received : (Event.frame data free).message = some message)
    (kind : message.kind = "request_start") :
    Turn s (.frame data free) (s.start message free).1
      ((s.start message free).2.map (.sendErrorForID message.id)).toList := by
  have refused {actions : List Action}
      (starts : ∀ other, executed other actions = [])
      (unadmitted : free = true → s.startError message ≠ none) :
      Turn s (.frame data free) s actions :=
    turn_of_other received starts (fun full _ => unadmitted full) (fun chunk => by simp [kind] at chunk)
      (by simp [kind])
  unfold start
  cases admitted : s.startError message with
  | some err => exact refused (fun _ => rfl) fun _ => by simp [admitted]
  | none =>
      cases free with
      | true => exact .opened ⟨received, kind, admitted⟩
      | false => exact refused (fun _ => rfl) nofun

theorem turn_of_step (s : VisitorDataSession) (event : Event) :
    Turn s event (s.step event).1 (s.step event).2 := by
  cases event with
  | close => exact .closed
  | frame data free =>
      show Turn s _ (s.handle data free).1 (s.handle data free).2
      unfold handle
      split
      · rename_i long
        exact turn_of_unread (if_pos long)
      · rename_i short
        have read : (Event.frame data free).message = MessageJSON.unmarshal data := if_neg short
        split
        · rename_i unread
          exact turn_of_unread (read.trans unread)
        · rename_i message received
          replace received := read.trans received
          unfold dispatch
          split
          · rename_i kind
            split <;> exact turn_of_other received (fun _ => rfl)
              (fun _ start => by simp [kind] at start) (fun chunk => by simp [kind] at chunk)
              (by simp [kind])
          · split
            · rename_i kind
              exact turn_of_start received kind
            · rename_i start
              split
              · rename_i kind
                exact turn_of_chunk received kind
              · rename_i chunk
                split
                · rename_i kind
                  exact turn_of_end received kind
                · rename_i last
                  exact turn_of_other received (fun _ => rfl) (fun _ kind => absurd kind start)
                    (fun kind => absurd kind chunk) last

end Frames

section Steps

variable [MessageJSON] {event : Event} {request : VisitorStreamRequest}

theorem shut_step (shut : s.Shut) (event : Event) : (s.step event).1.Shut := by
  have turn := turn_of_step s event
  generalize (s.step event).1 = s' at turn ⊢
  generalize (s.step event).2 = actions at turn
  cases turn with
  | closed =>
      intro closed
      unfold close
      split
      · rename_i already
        exact shut already
      · rfl
  | opened accepted =>
      intro closed
      have alive := (startError_eq_none.mp accepted.admitted).2.2.1
      rw [show (s.insert _).closed = s.closed from rfl, alive] at closed
      cases closed
  | wrote received kind decoded present room =>
      intro closed
      rw [shut closed] at present
      cases present
  | spoilt received kind bad | ended received kind starts =>
      intro closed
      show s.requests.erase _ = ∅
      rw [shut closed]
      rfl
  | kept => exact shut

/-- What a frame is not, once it is known what it is. -/
theorem not_is {kind kind' : String} (received : event.message = some message)
    (same : message.kind = kind) (other : kind ≠ kind' ∨ message.id ≠ id) : ¬ event.Is kind' id := by
  rintro ⟨message', received', kind', id'⟩
  cases received.symm.trans received'
  rcases other with other | other
  · exact other (same.symm.trans kind')
  · exact other id'

/-- A worker gets the request at the `request_end` with its ID, and at nothing else. -/
theorem executed_step :
    (event.Is "request_end" id → executed id (s.step event).2 = (s.requests.lookup id).toList) ∧
      (¬ event.Is "request_end" id → executed id (s.step event).2 = []) := by
  have turn := turn_of_step s event
  generalize (s.step event).1 = s' at turn
  generalize (s.step event).2 = actions at turn ⊢
  cases turn with
  | closed => exact ⟨fun last => (nomatch last.choose_spec.1), fun _ => rfl⟩
  | opened accepted =>
      exact ⟨fun last => absurd last (not_is accepted.received accepted.kind (.inl (by decide))),
        fun _ => rfl⟩
  | wrote received kind decoded present room =>
      exact ⟨fun last => absurd last (not_is received kind (.inl (by decide))), fun _ => rfl⟩
  | spoilt received kind bad =>
      exact ⟨fun last => absurd last (not_is received kind (.inl (by decide))), fun _ => rfl⟩
  | ended received kind starts =>
      rw [starts]
      constructor
      · rintro ⟨message', received', -, rfl⟩
        cases received.symm.trans received'
        exact if_pos rfl
      · intro other
        refine if_neg fun same => other ?_
        exact ⟨_, received, kind, same.symm⟩
  | kept starts rejected unended unknown =>
      exact ⟨fun last => absurd last (unended id), fun _ => starts id⟩

/-- An event without the ID does not touch its entry. -/
theorem lookup_step_of_other (other : event.concerns id = false) :
    (s.step event).1.requests.lookup id = s.requests.lookup id ∧ (s.step event).1.closed = s.closed := by
  have turn := turn_of_step s event
  have apart {message : VisitorWebRTCDataMessage} (received : event.message = some message) :
      id ≠ message.id := by
    rintro rfl
    cases event with
    | close => cases received
    | frame data free => simp [Event.concerns, received] at other
  generalize (s.step event).1 = s' at turn ⊢
  generalize (s.step event).2 = actions at turn
  cases turn with
  | closed => cases other
  | opened accepted => exact ⟨by rw [lookup_insert, if_neg (apart accepted.received)], rfl⟩
  | wrote received kind decoded present room => exact ⟨by rw [lookup_write, if_neg (apart received)], rfl⟩
  | spoilt received kind bad | ended received kind starts =>
      exact ⟨by rw [lookup_remove, if_neg (apart received)], rfl⟩
  | kept => exact ⟨rfl, rfl⟩

/-- An event starts a request under an ID. -/
def Opens (s : VisitorDataSession) (event : Event) (id : String) (request : VisitorStreamRequest) :
    Prop :=
  ∃ data message, event = .frame data true ∧ Accepted s data message ∧ message.id = id ∧
    request = message.opened []

/-- An event leaves the request under an ID alone or adds something to its body. -/
def Extends (s : VisitorDataSession) (event : Event) (id : String) (request : VisitorStreamRequest) :
    Prop :=
  ∃ old, s.requests.lookup id = some old ∧ ¬ event.Ends id ∧ ∃ parts : List Bytes,
    [event].filterMap (Event.chunkOf id) = parts.map some ∧
    request = { old with body := old.body ++ parts.flatten } ∧
    ∀ part ∈ parts, tooLarge old part = false

theorem opens_kind (opens : s.Opens event id request) : event.Is "request_start" id := by
  obtain ⟨data, message, rfl, accepted, same, -⟩ := opens
  exact ⟨message, accepted.received, accepted.kind, same⟩

/-- The entry of an ID for which the event has no chunk stays, unless it ends. -/
theorem extends_of_no_chunk (idle : event.chunkOf id = none) :
    s.Extends event id request ↔ s.requests.lookup id = some request ∧ ¬ event.Ends id := by
  have none : [event].filterMap (Event.chunkOf id) = [] := by
    rw [List.filterMap_cons_none idle, List.filterMap_nil]
  constructor
  · rintro ⟨old, present, unended, parts, added, rfl, -⟩
    rw [none, eq_comm, List.map_eq_nil_iff] at added
    subst added
    rw [List.flatten_nil, List.append_nil]
    exact ⟨present, unended⟩
  · rintro ⟨present, unended⟩
    refine ⟨request, present, unended, [], none, ?_, fun _ member => (nomatch member)⟩
    rw [List.flatten_nil, List.append_nil]

theorem not_ends {kind : String} (received : event.message = some message)
    (same : message.kind = kind) (other : kind ≠ "request_end" ∨ message.id ≠ id) : ¬ event.Ends id := by
  rintro (rfl | last)
  · cases received
  · exact not_is received same other last

theorem chunkOf_eq_none {kind : String} (received : event.message = some message)
    (same : message.kind = kind) (other : kind ≠ "request_chunk" ∨ message.id ≠ id) :
    event.chunkOf id = none := by
  rw [Event.chunkOf, received, Option.bind_some, if_neg]
  rintro ⟨chunk, id'⟩
  rcases other with other | other
  · exact other (same.symm.trans chunk)
  · exact other id'

theorem chunkOf_of_chunk (received : event.message = some message)
    (kind : message.kind = "request_chunk") :
    event.chunkOf message.id = some (Base64.decodeString message.body) := by
  rw [Event.chunkOf, received, Option.bind_some, if_pos ⟨kind, rfl⟩]

/-- The request under an ID has been opened by the event, or it was there before and has not ended. -/
theorem lookup_step (shut : s.Shut) : (s.step event).1.requests.lookup id = some request ↔
    s.Opens event id request ∨ s.Extends event id request := by
  have turn := turn_of_step s event
  generalize (s.step event).1 = s' at turn ⊢
  generalize (s.step event).2 = actions at turn
  cases turn with
  | closed =>
      have empty : s.close.requests = ∅ := by
        unfold close
        split
        · rename_i closed
          exact shut closed
        · rfl
      rw [empty]
      refine ⟨nofun, ?_⟩
      rintro (opens | ⟨old, present, unended, -⟩)
      · obtain ⟨_, received, -⟩ := opens_kind opens
        cases received
      · exact absurd (Or.inl rfl) unended
  | @opened data message accepted =>
      rw [lookup_insert, extends_of_no_chunk (chunkOf_eq_none accepted.received accepted.kind
        (.inl (by decide)))]
      by_cases same : id = message.id
      · subst same
        have missing := (startError_eq_none.mp accepted.admitted).2.2.2
        rw [if_pos rfl, missing, Option.some.injEq]
        constructor
        · rintro rfl
          exact .inl ⟨data, message, rfl, accepted, rfl, rfl⟩
        · rintro (⟨data', message', same, accepted', -, rfl⟩ | ⟨impossible, -⟩)
          · cases same
            cases accepted.received.symm.trans accepted'.received
            rfl
          · cases impossible
      · rw [if_neg same]
        constructor
        · intro present
          exact .inr ⟨present, not_ends accepted.received accepted.kind (.inl (by decide))⟩
        · rintro (opens | ⟨present, -⟩)
          · exact absurd (opens_kind opens)
              (not_is accepted.received accepted.kind (.inr (Ne.symm same)))
          · exact present
  | @wrote _ message old chunk received kind decoded present room =>
      have unopened : ¬ s.Opens event id request := fun opens =>
        not_is received kind (.inl (by decide)) (opens_kind opens)
      rw [or_iff_right unopened, lookup_write]
      by_cases same : id = message.id
      · subst same
        have added : [event].filterMap (Event.chunkOf message.id) = [some chunk] := by
          rw [List.filterMap_cons_some ((chunkOf_of_chunk received kind).trans (congrArg some decoded)),
            List.filterMap_nil]
        rw [if_pos rfl, Option.some.injEq]
        constructor
        · rintro rfl
          refine ⟨old, present, not_ends received kind (.inl (by decide)), [chunk], added, ?_, ?_⟩
          · rw [List.flatten_singleton]
          · rintro part member
            cases List.mem_singleton.mp member
            exact room
        · rintro ⟨old', present', -, parts, added', rfl, -⟩
          cases present.symm.trans present'
          rw [added] at added'
          cases parts with
          | nil => cases added'
          | cons part parts =>
              obtain ⟨first, rest⟩ := List.cons.inj added'
              cases first
              cases List.map_eq_nil_iff.mp rest.symm
              rw [List.flatten_singleton]
      · rw [if_neg same, extends_of_no_chunk (chunkOf_eq_none received kind (.inr (Ne.symm same)))]
        exact (and_iff_left (not_ends received kind (.inl (by decide)))).symm
  | @spoilt _ message err received kind bad =>
      have unopened : ¬ s.Opens event id request := fun opens =>
        not_is received kind (.inl (by decide)) (opens_kind opens)
      rw [or_iff_right unopened, lookup_remove]
      by_cases same : id = message.id
      · subst same
        rw [if_pos rfl]
        refine ⟨nofun, ?_⟩
        rintro ⟨old, present, -, parts, added, -, room⟩
        rw [List.filterMap_cons_some (chunkOf_of_chunk received kind)] at added
        cases parts with
        | nil => cases added
        | cons part parts =>
            have large := bad part (List.cons.inj added).1 old present
            rw [room part List.mem_cons_self] at large
            cases large
      · rw [if_neg same, extends_of_no_chunk (chunkOf_eq_none received kind (.inr (Ne.symm same)))]
        exact (and_iff_left (not_ends received kind (.inl (by decide)))).symm
  | @ended _ message _ received kind starts =>
      have unopened : ¬ s.Opens event id request := fun opens =>
        not_is received kind (.inl (by decide)) (opens_kind opens)
      rw [or_iff_right unopened, lookup_remove,
        extends_of_no_chunk (chunkOf_eq_none received kind (.inl (by decide)))]
      by_cases same : id = message.id
      · subst same
        rw [if_pos rfl]
        exact ⟨nofun, fun given => absurd (.inr ⟨message, received, kind, rfl⟩) given.2⟩
      · rw [if_neg same]
        exact (and_iff_left (not_ends received kind (.inr (Ne.symm same)))).symm
  | @kept data free _ starts rejected unended unknown =>
      have unopened : ¬ s.Opens (.frame data free) id request := by
        rintro ⟨data', message, same, accepted, -⟩
        cases same
        exact rejected message rfl accepted
      have lasts : ¬ (Event.frame data free).Ends id := by
        rintro (same | last)
        · cases same
        · exact unended id last
      rw [or_iff_right unopened]
      rcases unknown id with idle | missing
      · rw [extends_of_no_chunk idle]
        exact (and_iff_left lasts).symm
      · rw [missing]
        refine ⟨nofun, ?_⟩
        rintro ⟨old, present, -⟩
        rw [missing] at present
        cases present

theorem closed_step (event : Event) :
    (s.step event).1.closed = (s.closed || event matches .close) := by
  have turn := turn_of_step s event
  generalize (s.step event).1 = s' at turn ⊢
  generalize (s.step event).2 = actions at turn
  cases turn with
  | closed =>
      unfold close
      split
      · rename_i closed
        rw [closed]
        rfl
      · rw [Bool.or_true]
  | opened | kept => exact (Bool.or_false _).symm
  | wrote received | spoilt received | ended received =>
      cases event with
      | close => cases received
      | frame data free => exact (Bool.or_false _).symm

/-- What an event does to an ID depends on nothing but the ID and on whether the session is closed. -/
theorem step_congr {s' : VisitorDataSession} (event : Event) (shut : s.Shut) (shut' : s'.Shut)
    (closed : s.closed = s'.closed) (entry : s.requests.lookup id = s'.requests.lookup id) :
    (s.step event).1.requests.lookup id = (s'.step event).1.requests.lookup id ∧
      executed id (s.step event).2 = executed id (s'.step event).2 := by
  constructor
  · ext request
    have opens : s.Opens event id request ↔ s'.Opens event id request := by
      unfold Opens
      refine exists_congr fun data => exists_congr fun message => and_congr_right fun _ => ?_
      constructor
      · rintro ⟨accepted, rfl, rfl⟩
        refine ⟨⟨accepted.received, accepted.kind, ?_⟩, rfl, rfl⟩
        rw [startError_eq_none, ← closed, ← entry]
        exact startError_eq_none.mp accepted.admitted
      · rintro ⟨accepted, rfl, rfl⟩
        refine ⟨⟨accepted.received, accepted.kind, ?_⟩, rfl, rfl⟩
        rw [startError_eq_none, closed, entry]
        exact startError_eq_none.mp accepted.admitted
    have extends' : s.Extends event id request ↔ s'.Extends event id request := by
      unfold Extends
      rw [entry]
    rw [lookup_step shut, lookup_step shut', opens, extends']
  · by_cases last : event.Is "request_end" id
    · rw [executed_step.1 last, executed_step.1 last, entry]
    · rw [executed_step.2 last, executed_step.2 last]

end Steps

/-! ## Runs -/

section Runs

variable [MessageJSON]

theorem after_append (s : VisitorDataSession) (events : List Event) (event : Event) :
    s.after (events ++ [event]) = ((s.after events).step event).1 := by
  rw [after, List.foldl_append]
  rfl

theorem shut_after (events : List Event) : (after {} events).Shut := by
  induction events using List.reverseRecOn with
  | nil => exact nofun
  | append_singleton events event ih =>
      rw [after_append]
      exact shut_step ih event

/-- Frames of other IDs have no effect. -/
theorem executed_run_filter (id : String) (events : List Event) :
    ∀ {s s' : VisitorDataSession}, s.Shut → s'.Shut → s.closed = s'.closed →
      s.requests.lookup id = s'.requests.lookup id →
      executed id (s.run events) = executed id (s'.run (events.filter (Event.concerns id))) := by
  induction events with
  | nil => exact fun _ _ _ _ => rfl
  | cons event rest ih =>
      intro s s' shut shut' closed entry
      rw [run, executed_append]
      by_cases concerned : event.concerns id = true
      · obtain ⟨entries, starts⟩ := step_congr event shut shut' closed entry
        have closes : (s.step event).1.closed = (s'.step event).1.closed := by
          rw [closed_step, closed_step, closed]
        rw [List.filter_cons_of_pos concerned, run, executed_append, starts,
          ih (shut_step shut event) (shut_step shut' event) closes entries]
      · obtain ⟨entries, closes⟩ := lookup_step_of_other (s := s) (Bool.eq_false_of_not_eq_true concerned)
        have none : executed id (s.step event).2 = [] := by
          refine executed_step.2 ?_
          rintro ⟨message, received, -, rfl⟩
          cases event with
          | close => cases received
          | frame data free => simp [Event.concerns, received] at concerned
        rw [List.filter_cons_of_neg concerned, none, List.nil_append,
          ih (shut_step shut event) shut' (closes.trans closed) (entries.trans entry)]

/-- An ID without an entry stays without one, and nothing is executed for it, until it is started. -/
theorem executed_run_of_absent {id : String} {events : List Event}
    (unstarted : ∀ event ∈ events, ¬ event.Is "request_start" id) :
    ∀ {s : VisitorDataSession}, s.Shut → s.requests.lookup id = none →
      executed id (s.run events) = [] := by
  induction events with
  | nil => exact fun _ _ => rfl
  | cons event rest ih =>
      intro s shut missing
      have absent : (s.step event).1.requests.lookup id = none := by
        rw [Option.eq_none_iff_forall_ne_some]
        intro request present
        rcases (lookup_step shut).mp present with opens | ⟨old, present', -⟩
        · exact unstarted event List.mem_cons_self (opens_kind opens)
        · rw [missing] at present'
          cases present'
      have none : executed id (s.step event).2 = [] := by
        by_cases last : event.Is "request_end" id
        · rw [executed_step.1 last, missing]
          rfl
        · exact executed_step.2 last
      rw [run, executed_append, none, List.nil_append]
      exact ih (fun event member => unstarted event (List.mem_cons_of_mem _ member))
        (shut_step shut event) absent

end Runs

end VisitorDataSession

/-! ## Assembling a request -/

section Assembling

variable [MessageJSON] {id : String} {events : List Event} {event : Event}
variable {message : VisitorWebRTCDataMessage} {parts : List Bytes}

open VisitorDataSession

/-- With one more event, the request is opened by it, or it was assembled before and goes on. -/
theorem assembled_append : Assembled id (events ++ [event]) message parts ↔
    ((∃ data, event = .frame data true ∧ Accepted (after {} events) data message ∧ message.id = id) ∧
      parts = []) ∨
    ∃ earlier added : List Bytes, Assembled id events message earlier ∧ ¬ event.Ends id ∧
      [event].filterMap (Event.chunkOf id) = added.map some ∧ parts = earlier ++ added ∧
      parts.flatten.length ≤ visitorMaxRequestBytes := by
  constructor
  · rintro ⟨before, data, middle, split, accepted, same, unended, chunks, bound⟩
    rcases List.eq_nil_or_concat middle with rfl | ⟨middle, last, rfl⟩
    · obtain ⟨rfl, same'⟩ := List.append_inj' split rfl
      cases same'
      rw [List.filterMap_nil, eq_comm, List.map_eq_nil_iff] at chunks
      exact .inl ⟨⟨data, rfl, accepted, same⟩, chunks⟩
    · rw [List.concat_eq_append, ← List.cons_append, ← List.append_assoc] at split
      obtain ⟨rfl, lasts⟩ := List.append_inj' split rfl
      cases lasts
      rw [List.concat_eq_append] at unended chunks
      rw [List.filterMap_append] at chunks
      obtain ⟨earlier, added, rfl, first, second⟩ := List.append_eq_map_iff.mp chunks
      refine .inr ⟨earlier, added, ⟨before, data, middle, rfl, accepted, same, ?_, first.symm, ?_⟩, ?_,
        second.symm, rfl, bound⟩
      · exact fun event member => unended event (List.mem_append_left _ member)
      · rw [List.flatten_append, List.length_append] at bound
        omega
      · exact unended event (List.mem_append_right _ List.mem_cons_self)
  · rintro (⟨⟨data, rfl, accepted, same⟩, rfl⟩ | ⟨earlier, added, assembled, unended, chunks, rfl, bound⟩)
    · exact ⟨events, data, [], rfl, accepted, same, fun _ member => (nomatch member), rfl,
        Nat.zero_le _⟩
    · obtain ⟨before, data, middle, rfl, accepted, same, unended', chunks', -⟩ := assembled
      refine ⟨before, data, middle ++ [event], ?_, accepted, same, ?_, ?_, bound⟩
      · rw [List.append_assoc, List.cons_append]
      · intro other member
        rcases List.mem_append.mp member with old | new
        · exact unended' other old
        · rw [List.mem_singleton.mp new]
          exact unended
      · rw [List.filterMap_append, chunks', chunks, List.map_append]

theorem Assembled.bound (assembled : Assembled id events message parts) :
    parts.flatten.length ≤ visitorMaxRequestBytes := by
  obtain ⟨before, data, middle, -, -, -, -, -, bound⟩ := assembled
  exact bound

/-- A frame adds one chunk at most, so the limit is kept if that chunk fits. -/
theorem room_iff {request : VisitorStreamRequest} {added : List Bytes}
    (chunks : [event].filterMap (Event.chunkOf id) = added.map some)
    (bound : request.body.length ≤ visitorMaxRequestBytes) :
    (∀ part ∈ added, tooLarge request part = false) ↔
      request.body.length + added.flatten.length ≤ visitorMaxRequestBytes := by
  have single : added.length ≤ 1 := by
    have counted := List.length_filterMap_le (Event.chunkOf id) [event]
    rwa [chunks, List.length_map] at counted
  match added, single with
  | [], _ => simpa using bound
  | [part], _ => simp [tooLarge]

/-- **The request under an ID is the one that its frames make up.** -/
theorem lookup_after_iff {request : VisitorStreamRequest} :
    (after {} events).requests.lookup id = some request ↔
      ∃ message parts, Assembled id events message parts ∧ request = message.opened parts.flatten := by
  induction events using List.reverseRecOn generalizing request with
  | nil =>
      refine ⟨nofun, ?_⟩
      rintro ⟨message, parts, ⟨before, data, middle, split, -⟩, -⟩
      exact absurd split (by simp)
  | append_singleton events event ih =>
      rw [after_append, lookup_step (shut_after events)]
      constructor
      · rintro (⟨data, message, rfl, accepted, same, rfl⟩ |
          ⟨old, present, unended, added, chunks, rfl, room⟩)
        · exact ⟨message, [], assembled_append.mpr (.inl ⟨⟨data, rfl, accepted, same⟩, rfl⟩), rfl⟩
        · obtain ⟨message, earlier, assembled, rfl⟩ := ih.mp present
          refine ⟨message, earlier ++ added, assembled_append.mpr (.inr ⟨earlier, added, assembled,
            unended, chunks, rfl, ?_⟩), ?_⟩
          · rw [List.flatten_append, List.length_append]
            exact (room_iff chunks assembled.bound).mp room
          · rw [List.flatten_append]
            rfl
      · rintro ⟨message, parts, assembled, rfl⟩
        rcases assembled_append.mp assembled with ⟨⟨data, rfl, accepted, same⟩, rfl⟩ |
          ⟨earlier, added, before, unended, chunks, rfl, bound⟩
        · exact .inl ⟨data, message, rfl, accepted, same, rfl⟩
        · refine .inr ⟨_, ih.mpr ⟨message, earlier, before, rfl⟩, unended, added, chunks, ?_, ?_⟩
          · rw [List.flatten_append]
            rfl
          · rw [List.flatten_append, List.length_append] at bound
            exact (room_iff chunks before.bound).mpr bound

end Assembling

/-! ## What is executed -/

/-- A chunk with the ID that cannot be decoded, or for which its request has no room. -/
def Spoils [MessageJSON] (id : String) (events : List Event) (event : Event) : Prop :=
  event.chunkOf id = some none ∨ ∃ chunk message parts, event.chunkOf id = some (some chunk) ∧
    Assembled id events message parts ∧ visitorMaxRequestBytes < parts.flatten.length + chunk.length

section Execution

variable [MessageJSON] {id : String} {events : List Event} {event : Event}

open VisitorDataSession

theorem lookup_after_spoilt (spoils : Spoils id events event) :
    (after {} (events ++ [event])).requests.lookup id = none := by
  rw [Option.eq_none_iff_forall_ne_some, after_append]
  intro request present
  rcases (lookup_step (shut_after events)).mp present with opens | ⟨old, present', -, added, chunks, -, room⟩
  · obtain ⟨message, received, kind, same⟩ := opens_kind opens
    have idle : event.chunkOf id = none := chunkOf_eq_none received kind (.inl (by decide))
    rcases spoils with bad | ⟨_, _, _, bad, -⟩
    · rw [idle] at bad
      cases bad
    · rw [idle] at bad
      cases bad
  · rcases spoils with bad | ⟨chunk, message, parts, large, assembled, exceeds⟩
    · rw [List.filterMap_cons_some bad] at chunks
      cases added with
      | nil => cases chunks
      | cons part rest => cases (List.cons.inj chunks).1
    · rw [List.filterMap_cons_some large] at chunks
      cases added with
      | nil => cases chunks
      | cons part rest =>
          cases (List.cons.inj chunks).1
          have held := lookup_after_iff.mpr ⟨message, parts, assembled, rfl⟩
          cases present'.symm.trans held
          have fits := room chunk List.mem_cons_self
          exact absurd (of_decide_eq_false fits) (not_not_intro exceeds)

omit [MessageJSON] in
theorem streamHTTPRequest_eq_ok [CaseTable] [HTTPTable]
    {order : GoMap.RangeOrder String (List String)} {host : String} {port : ℤ}
    {request : VisitorStreamRequest} {httpRequest : HTTPRequest} (method : request.method ≠ "")
    (made : streamHTTPRequest order host port request = .ok httpRequest) :
    httpRequest.body = request.body ∧ httpRequest.method = request.method ∧
      httpRequest.url = "http://" ++ joinHostPort host port.toNat ++ requestPath request.path ∧
      ∀ key, httpRequest.header.values key =
        ((order.visit request.headers).filter fun entry =>
          !omittedFromRequest entry.1 && Header.canonicalKey entry.1 = key).flatMap
            fun entry => entry.2 := by
  unfold streamHTTPRequest at made
  split at made
  · cases made
  · rename_i target accepted
    split at made
    · cases made
    · rename_i plain new
      cases made
      cases newRequest_eq_ok new
      refine ⟨rfl, if_neg method, url_of_visitorTargetURL accepted, fun key => ?_⟩
      exact Header.values_addAll _ _ _ _ _

end Execution

open VisitorDataSession in
/-- **Requests are reassembled.**  A worker gets a request for an ID exactly when the `request_end` comes and
the frames since its accepted `request_start` make one up.  The HTTP request has their chunks as its body,
the method of the start, its path without white space around it, and its headers without those that concern
the connection.  After a chunk that cannot be decoded or does not fit, nothing is executed for the ID until
it is started again.  The frames of other IDs have no effect. -/
theorem requests_reassembled [CaseTable] [HTTPTable] [MessageJSON]
    (order : GoMap.RangeOrder String (List String)) (host : String) (port : ℤ) (id : String) :
    (∀ events event request, request ∈ executed id ((after {} events).step event).2 ↔
      event.Is "request_end" id ∧ ∃ message parts, Assembled id events message parts ∧
        request = message.opened parts.flatten) ∧
    (∀ events message parts httpRequest, Assembled id events message parts →
      streamHTTPRequest order host port (message.opened parts.flatten) = .ok httpRequest →
      httpRequest.body = parts.flatten ∧ httpRequest.body.length ≤ visitorMaxRequestBytes ∧
        httpRequest.method = message.method ∧
        httpRequest.url = "http://" ++ joinHostPort host port.toNat ++ requestPath message.path ∧
        ∀ key, httpRequest.header.values key =
          ((order.visit message.headers).filter fun entry =>
            !omittedFromRequest entry.1 && Header.canonicalKey entry.1 = key).flatMap
              fun entry => entry.2) ∧
    (∀ events event rest, Spoils id events event →
      (∀ other ∈ rest, ¬ other.Is "request_start" id) →
      executed id ((after {} (events ++ [event])).run rest) = []) ∧
    ∀ events, executed id (run {} (events.filter (Event.concerns id))) = executed id (run {} events) := by
  refine ⟨fun events event request => ?_, ?_, ?_, ?_⟩
  · by_cases last : event.Is "request_end" id
    · rw [executed_step.1 last, Option.mem_toList, lookup_after_iff, and_iff_right last]
    · rw [executed_step.2 last]
      exact ⟨nofun, fun given => absurd given.1 last⟩
  · intro events message parts httpRequest assembled made
    have method : message.method ≠ "" := by
      obtain ⟨before, data, middle, -, accepted, -⟩ := assembled
      exact (startError_eq_none.mp accepted.admitted).2.1
    obtain ⟨body, same, url, header⟩ := streamHTTPRequest_eq_ok method made
    exact ⟨body, body ▸ assembled.bound, same, url, header⟩
  · intro events event rest spoils unstarted
    exact executed_run_of_absent unstarted (shut_after _) (lookup_after_spoilt spoils)
  · intro events
    exact (executed_run_filter id events (shut_after []) (shut_after []) rfl rfl).symm

/-! ## An upload -/

/-- The start of an upload, as the browser sends it. -/
def uploadStart : VisitorWebRTCDataMessage where
  kind := "request_start"
  id := "1"
  method := "POST"
  path := " /upload"
  headers := AList.insert "x-name" ["a"] (AList.insert "Connection" ["close"] ∅)

/-- The texts of its frames. -/
def uploadTexts : List (String × VisitorWebRTCDataMessage) :=
  [("\x7b\"kind\":\"request_start\",\"id\":\"1\",\"method\":\"POST\",\"path\":\" /upload\"," ++
        "\"headers\":\x7b\"Connection\":[\"close\"],\"x-name\":[\"a\"]\x7d\x7d",
      uploadStart),
    ("\x7b\"kind\":\"request_chunk\",\"id\":\"1\",\"body\":\"aGk=\"\x7d",
      { kind := "request_chunk", id := "1", body := "aGk=" }),
    ("\x7b\"kind\":\"request_chunk\",\"id\":\"1\",\"body\":\"IQ==\"\x7d",
      { kind := "request_chunk", id := "1", body := "IQ==" }),
    ("\x7b\"kind\":\"request_end\",\"id\":\"2\"\x7d", { kind := "request_end", id := "2" }),
    ("\x7b\"kind\":\"request_end\",\"id\":\"1\"\x7d", { kind := "request_end", id := "1" })]

/-- The frames, in this order, with a free slot for each of them. -/
def uploadFrames : List Event :=
  uploadTexts.map fun entry => .frame (utf8 entry.1) true

/-- What is asked of the local service. -/
def uploadRequest : HTTPRequest where
  method := "POST"
  url := "http://127.0.0.1:8080/upload"
  header := AList.insert "X-Name" ["a"] ∅
  body := [0x68, 0x69, 0x21]

theorem requests_reassembled_upload :
    let _ := CaseTable.ascii
    let _ := HTTPTable.plain
    let _ := MessageJSON.listed uploadTexts
    ∃ message parts, streamHTTPRequest (.kept _ _) "127.0.0.1" 8080 (message.opened parts.flatten) =
        .ok uploadRequest ∧
      Assembled "1" uploadFrames.dropLast message parts ∧ parts.flatten = [0x68, 0x69, 0x21] ∧
      message.method = "POST" := by
  intro _ _ _
  have taken : uploadStart.opened [0x68, 0x69, 0x21] ∈ executed "1"
      ((VisitorDataSession.after {} uploadFrames.dropLast).step
        (uploadFrames.getLast (by decide))).2 := by
    decide +kernel
  have made : streamHTTPRequest (.kept _ _) "127.0.0.1" 8080 (uploadStart.opened [0x68, 0x69, 0x21]) =
      .ok uploadRequest := by
    decide +kernel
  obtain ⟨starts, sends, -⟩ := requests_reassembled (.kept _ _) "127.0.0.1" 8080 "1"
  obtain ⟨-, message, parts, assembled, same⟩ := (starts _ _ _).mp taken
  rw [same] at made
  obtain ⟨body, -, method, -⟩ := sends _ message parts _ assembled made
  exact ⟨message, parts, made, assembled, body.symm, method.symm⟩

/-- **Not everything is as in the start.**  The header `Connection` and the white space around the path are
left out. -/
theorem start_not_kept :
    let _ := CaseTable.ascii
    let _ := HTTPTable.plain
    let _ := MessageJSON.listed uploadTexts
    executed "1" (VisitorDataSession.run {} uploadFrames) = [uploadStart.opened [0x68, 0x69, 0x21]] ∧
      streamHTTPRequest (.kept _ _) "127.0.0.1" 8080 (uploadStart.opened [0x68, 0x69, 0x21]) =
        .ok uploadRequest ∧
      uploadStart.path = " /upload" ∧ uploadRequest.url = "http://127.0.0.1:8080/upload" ∧
      uploadStart.headers.values "Connection" = ["close"] ∧
      uploadRequest.header.values "Connection" = [] := by
  decide +kernel

end NryNet.Agent

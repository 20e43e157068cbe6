import NryNet.Agent.VisitorAssembly
import NryNet.Visitor.Page

/-!
# From a fetch of the browser to the request of the agent

The page cuts the fetches of a browser into frames and sends the frames of all fetches over one data
channel; the session of the agent puts them together again.  The channel keeps the order, and the agent
has read some of what was sent.

`JSON.stringify` and `json.Unmarshal` are parameters.  What is assumed of them is that a text stands for
the frame it was made from, and that the frame of one piece of a body is not longer than the agent allows.
-/

namespace NryNet.Visitor

open ThreadPool ByteStream Agent VisitorDataSession

/-- What the event carries. -/
def eventData : Event → Option Bytes
  | .frame data _ => some data
  | .close => none

section Frames

variable [MessageJSON] (stringify : VisitorWebRTCDataMessage → String)

/-- The text of a frame on the channel. -/
def wire (frame : VisitorWebRTCDataMessage) : Bytes := utf8 (stringify frame)

/-- What is assumed of the texts of some frames.  Only the headers of a `request_start` have no limit. -/
structure Serializes (sent : List VisitorWebRTCDataMessage) : Prop where
  reads : ∀ frame ∈ sent, MessageJSON.unmarshal (wire stringify frame) = some frame
  short : ∀ frame ∈ sent, frame.kind ≠ "request_start" →
    (wire stringify frame).length ≤ visitorMaxMessageBytes

/-- The agent has read a beginning of what was sent. -/
def Carries (sent : List VisitorWebRTCDataMessage) (events : List Event) : Prop :=
  events.filterMap eventData <+: sent.map (wire stringify)

/-- The frames of some kind of request, as far as they have an ID. -/
def framesFor (id : String) (sent : List VisitorWebRTCDataMessage) : List VisitorWebRTCDataMessage :=
  sent.filter fun frame => frame.id = id

variable {stringify} {sent : List VisitorWebRTCDataMessage} {frame : VisitorWebRTCDataMessage}
variable {events : List Event} {event : Event} {id : String} {free : Bool}

theorem Serializes.tail (serializes : Serializes stringify (frame :: sent)) :
    Serializes stringify sent where
  reads other member := serializes.reads other (List.mem_cons_of_mem _ member)
  short other member := serializes.short other (List.mem_cons_of_mem _ member)

/-- A frame is read, unless it is too long. -/
theorem message_of_reads (reads : MessageJSON.unmarshal (wire stringify frame) = some frame) (free : Bool) :
    (Event.frame (wire stringify frame) free).message =
      if visitorMaxMessageBytes < (wire stringify frame).length then none else some frame := by
  show (if _ then none else MessageJSON.unmarshal (wire stringify frame)) = _
  rw [reads]

theorem frame_of_message (reads : MessageJSON.unmarshal (wire stringify frame) = some frame)
    {message : VisitorWebRTCDataMessage}
    (received : (Event.frame (wire stringify frame) free).message = some message) : message = frame := by
  rw [message_of_reads reads] at received
  split at received
  · cases received
  · exact (Option.some.inj received).symm

omit [MessageJSON] in
/-- The first event of a session is its end, or brings the first frame. -/
theorem Carries.cases (carries : Carries stringify sent (event :: events)) :
    (event = .close ∧ Carries stringify sent events) ∨
      ∃ frame rest free, sent = frame :: rest ∧ event = .frame (wire stringify frame) free ∧
        Carries stringify rest events := by
  unfold Carries at carries
  cases event with
  | close => exact .inl ⟨rfl, carries⟩
  | frame data free =>
      rw [List.filterMap_cons_some (by rfl)] at carries
      cases sent with
      | nil => exact absurd carries (by simp)
      | cons frame rest =>
          rw [List.map_cons, List.cons_prefix_cons] at carries
          obtain ⟨rfl, carries⟩ := carries
          exact .inr ⟨frame, rest, free, rfl, rfl, carries⟩

/-- A frame with another ID goes by. -/
theorem quiet_step (s : VisitorDataSession) (free : Bool)
    (reads : MessageJSON.unmarshal (wire stringify frame) = some frame) (other : frame.id ≠ id) :
    (s.step (.frame (wire stringify frame) free)).1.requests.lookup id = s.requests.lookup id ∧
      (s.step (.frame (wire stringify frame) free)).1.closed = s.closed ∧
      executed id (s.step (.frame (wire stringify frame) free)).2 = [] := by
  have apart : Event.concerns id (.frame (wire stringify frame) free) = false := by
    show (Event.frame (wire stringify frame) free).message.any (fun message => message.id = id) = false
    rw [message_of_reads reads]
    split
    · rfl
    · simpa using other
  refine ⟨(lookup_step_of_other apart).1, (lookup_step_of_other apart).2, executed_step.2 ?_⟩
  rintro ⟨message, received, -, named⟩
  exact other (frame_of_message reads received ▸ named)

/-- Without a `request_start` nothing is executed. -/
theorem executed_of_unstarted (serializes : Serializes stringify sent) :
    ∀ {sent' : List VisitorWebRTCDataMessage} {events : List Event}, sent' ⊆ sent →
      Carries stringify sent' events → (∀ frame ∈ framesFor id sent', frame.kind ≠ "request_start") →
      ∀ {s : VisitorDataSession}, s.Shut → s.requests.lookup id = none →
        executed id (s.run events) = [] := by
  intro sent' events within carries unstarted
  refine fun shut missing => executed_run_of_absent ?_ shut missing
  induction events generalizing sent' with
  | nil => exact nofun
  | cons event rest ih =>
      intro other member
      rcases carries.cases with ⟨rfl, further⟩ | ⟨frame, sent'', free, rfl, rfl, further⟩
      · rcases List.mem_cons.mp member with rfl | later
        · rintro ⟨message, received, -⟩
          cases received
        · exact ih within further unstarted other later
      · rcases List.mem_cons.mp member with rfl | later
        · rintro ⟨message, received, start, named⟩
          have same := frame_of_message (serializes.reads frame (within List.mem_cons_self)) received
          subst same
          exact unstarted message (List.mem_filter.mpr ⟨List.mem_cons_self, decide_eq_true named⟩) start
        · refine ih (fun _ listed => within (List.mem_cons_of_mem _ listed)) further ?_ other later
          intro frame listed
          obtain ⟨listed, named⟩ := List.mem_filter.mp listed
          exact unstarted frame (List.mem_filter.mpr ⟨List.mem_cons_of_mem _ listed, named⟩)

/-- The agent has read all that was sent, and the session goes on. -/
structure ReadAll (sent : List VisitorWebRTCDataMessage) (events : List Event) : Prop where
  all : (events.filterMap eventData).length = sent.length
  alive : Event.close ∉ events

omit [MessageJSON] in
theorem ReadAll.tail {data : Bytes} (read : ReadAll (frame :: sent) (.frame data free :: events)) :
    ReadAll sent events where
  all := Nat.succ.inj read.all
  alive closed := read.alive (List.mem_cons_of_mem _ closed)

/-- A request that has been opened is executed as it was sent, or not at all. -/
theorem executed_assembling (serializes : Serializes stringify sent) {request : VisitorStreamRequest}
    (small : request.body.length ≤ visitorMaxRequestBytes) :
    ∀ {events : List Event} {sent' : List VisitorWebRTCDataMessage} {pieces : List Bytes} {done : Bytes}
      {s : VisitorDataSession}, sent' ⊆ sent → Carries stringify sent' events →
      framesFor id sent' <+: pieces.map (Fetch.chunkFrame id) ++ [Fetch.endFrame id] → s.Shut →
      s.requests.lookup id = some { request with body := done } → done ++ pieces.flatten = request.body →
      (executed id (s.run events) = [] ∨ executed id (s.run events) = [request]) ∧
        (ReadAll sent' events →
          framesFor id sent' = pieces.map (Fetch.chunkFrame id) ++ [Fetch.endFrame id] →
          executed id (s.run events) = [request]) := by
  intro events
  induction events with
  | nil =>
      intro sent' pieces done s _ _ _ _ _ _
      refine ⟨.inl rfl, fun read complete => ?_⟩
      rw [List.eq_nil_of_length_eq_zero read.all.symm] at complete
      exact absurd complete.symm (by simp [framesFor])
  | cons event rest ih =>
      intro sent' pieces done s within carries begun shut present whole
      rcases carries.cases with ⟨rfl, further⟩ | ⟨frame, sent'', free, rfl, rfl, further⟩
      · have missing : s.close.requests.lookup id = none := by
          unfold VisitorDataSession.close
          split
          · rename_i closed
            rw [shut closed]
            rfl
          · rfl
        refine ⟨.inl ?_, fun read => absurd List.mem_cons_self read.alive⟩
        refine executed_of_unstarted serializes within further (fun frame listed => ?_)
          (shut_step shut .close) missing
        rcases List.mem_append.mp (begun.subset listed) with chunk | last
        · obtain ⟨piece, -, rfl⟩ := List.mem_map.mp chunk
          exact (by decide : ("request_chunk" : String) ≠ "request_start")
        · rw [List.mem_singleton.mp last]
          exact (by decide : ("request_end" : String) ≠ "request_start")
      · have reads := serializes.reads frame (within List.mem_cons_self)
        have within' : sent'' ⊆ sent := fun _ listed => within (List.mem_cons_of_mem _ listed)
        have shut' := shut_step shut (.frame (wire stringify frame) free)
        by_cases own : frame.id = id
        · have split : framesFor id (frame :: sent'') = frame :: framesFor id sent'' :=
            List.filter_cons_of_pos (decide_eq_true own)
          rw [split] at begun ⊢
          cases pieces with
          | nil =>
              -- the end: the request is executed, and nothing comes after it
              obtain ⟨same, ended⟩ := List.cons_prefix_cons.mp begun
              have kind : frame.kind = "request_end" := by rw [same]; rfl
              have received : (Event.frame (wire stringify frame) free).message = some frame := by
                rw [message_of_reads reads, if_neg (Nat.not_lt.mpr (serializes.short frame
                  (within List.mem_cons_self) (by rw [kind]; decide)))]
              have last : (Event.frame (wire stringify frame) free).Is "request_end" id :=
                ⟨frame, received, kind, own⟩
              have missing : (s.step (.frame (wire stringify frame) free)).1.requests.lookup id = none := by
                rw [Option.eq_none_iff_forall_ne_some]
                intro other found
                rcases (lookup_step shut).mp found with opens | ⟨-, -, unended, -⟩
                · obtain ⟨message, received', start, -⟩ := opens_kind opens
                  rw [frame_of_message reads received', kind] at start
                  exact absurd start (by decide)
                · exact unended (.inr last)
              have result : executed id (s.run (.frame (wire stringify frame) free :: rest)) = [request] := by
                rw [VisitorDataSession.run, executed_append, executed_step.1 last, present,
                  executed_of_unstarted serializes within' further ?_ shut' missing, List.append_nil]
                · rw [List.flatten_nil, List.append_nil] at whole
                  rw [whole]
                  rfl
                · intro other listed
                  rw [List.prefix_nil.mp ended] at listed
                  cases listed
              exact ⟨.inr result, fun _ _ => result⟩
          | cons piece pieces =>
              obtain ⟨same, begun⟩ := List.cons_prefix_cons.mp begun
              have kind : frame.kind = "request_chunk" := by rw [same]; rfl
              have received : (Event.frame (wire stringify frame) free).message = some frame := by
                rw [message_of_reads reads, if_neg (Nat.not_lt.mpr (serializes.short frame
                  (within List.mem_cons_self) (by rw [kind]; decide)))]
              have chunk : (Event.frame (wire stringify frame) free).chunkOf id = some (some piece) := by
                rw [← own, chunkOf_of_chunk received kind, same]
                exact congrArg some (Base64.decodeString_encodeToString piece)
              have more : done ++ piece ++ pieces.flatten = request.body := by
                rw [List.append_assoc]
                exact whole
              have fits : done.length + piece.length ≤ visitorMaxRequestBytes := by
                have length := congrArg List.length more
                rw [List.length_append, List.length_append] at length
                omega
              have added : (s.step (.frame (wire stringify frame) free)).1.requests.lookup id =
                  some { request with body := done ++ piece } := by
                refine (lookup_step shut).mpr (.inr ⟨_, present, ?_, [piece], ?_, ?_, ?_⟩)
                · exact not_ends received kind (.inl (by decide))
                · rw [List.filterMap_cons_some chunk]
                  rfl
                · rw [List.flatten_singleton]
                · intro part listed
                  rw [List.mem_singleton.mp listed]
                  exact decide_eq_false (Nat.not_lt.mpr fits)
              have idle : executed id (s.step (.frame (wire stringify frame) free)).2 = [] :=
                executed_step.2 (not_is received kind (.inl (by decide)))
              rw [VisitorDataSession.run, executed_append, idle, List.nil_append]
              obtain ⟨safe, all⟩ := ih within' further begun shut' added more
              exact ⟨safe, fun read complete => all read.tail (List.tail_eq_of_cons_eq complete)⟩
        · have split : framesFor id (frame :: sent'') = framesFor id sent'' :=
            List.filter_cons_of_neg (by simpa using own)
          obtain ⟨kept, -, idle⟩ := quiet_step s free reads own
          rw [split] at begun ⊢
          rw [VisitorDataSession.run, executed_append, idle, List.nil_append]
          obtain ⟨safe, all⟩ := ih within' further begun shut' (kept.trans present) whole
          exact ⟨safe, fun read complete => all read.tail complete⟩

/-- A request that is still to be opened is executed as it was sent, or not at all. -/
theorem executed_starting (serializes : Serializes stringify sent) {fetch : Fetch}
    (small : fetch.body.length ≤ visitorMaxRequestBytes) :
    ∀ {events : List Event} {sent' : List VisitorWebRTCDataMessage} {s : VisitorDataSession},
      sent' ⊆ sent → Carries stringify sent' events → framesFor id sent' <+: fetch.frames id → s.Shut →
      s.requests.lookup id = none →
      (executed id (s.run events) = [] ∨ executed id (s.run events) = [fetch.request]) ∧
        (ReadAll sent' events → framesFor id sent' = fetch.frames id → s.closed = false → id ≠ "" →
          fetch.method ≠ "" → (wire stringify (fetch.startFrame id)).length ≤ visitorMaxMessageBytes →
          Event.frame (wire stringify (fetch.startFrame id)) false ∉ events →
          executed id (s.run events) = [fetch.request]) := by
  intro events
  induction events with
  | nil =>
      intro sent' s _ _ _ _ _
      refine ⟨.inl rfl, fun read complete => ?_⟩
      rw [List.eq_nil_of_length_eq_zero read.all.symm] at complete
      cases complete
  | cons event rest ih =>
      intro sent' s within carries begun shut missing
      rcases carries.cases with ⟨rfl, further⟩ | ⟨frame, sent'', free, rfl, rfl, further⟩
      · have none : s.close.requests.lookup id = none := by
          unfold VisitorDataSession.close
          split
          · exact missing
          · rfl
        exact ⟨(ih within further begun (shut_step shut .close) none).1,
          fun read => absurd List.mem_cons_self read.alive⟩
      · have reads := serializes.reads frame (within List.mem_cons_self)
        have within' : sent'' ⊆ sent := fun _ listed => within (List.mem_cons_of_mem _ listed)
        have shut' := shut_step shut (.frame (wire stringify frame) free)
        by_cases own : frame.id = id
        · have split : framesFor id (frame :: sent'') = frame :: framesFor id sent'' :=
            List.filter_cons_of_pos (decide_eq_true own)
          rw [split] at begun ⊢
          obtain ⟨rfl, rest_begun⟩ := List.cons_prefix_cons.mp begun
          have kind : (fetch.startFrame id).kind = "request_start" := rfl
          have idle : executed id (s.step (.frame (wire stringify (fetch.startFrame id)) free)).2 = [] := by
            refine executed_step.2 ?_
            rintro ⟨message, received, last, -⟩
            rw [frame_of_message reads received, kind] at last
            exact absurd last (by decide)
          rw [VisitorDataSession.run, executed_append, idle, List.nil_append]
          cases after : (s.step (.frame (wire stringify (fetch.startFrame id)) free)).1.requests.lookup
            id with
          | none =>
              refine ⟨.inl (executed_of_unstarted serializes within' further (fun other listed => ?_)
                shut' after), fun read _ alive named method fits slot => ?_⟩
              · rcases List.mem_append.mp (rest_begun.subset listed) with chunk | last
                · obtain ⟨piece, -, rfl⟩ := List.mem_map.mp chunk
                  exact (by decide : ("request_chunk" : String) ≠ "request_start")
                · rw [List.mem_singleton.mp last]
                  exact (by decide : ("request_end" : String) ≠ "request_start")
              · -- with a free slot the request would have been opened
                cases free with
                | false => exact absurd List.mem_cons_self slot
                | true =>
                    have received : (Event.frame (wire stringify (fetch.startFrame id)) true).message =
                        some (fetch.startFrame id) := by
                      rw [message_of_reads reads, if_neg (Nat.not_lt.mpr fits)]
                    have accepted : Accepted s (wire stringify (fetch.startFrame id))
                        (fetch.startFrame id) :=
                      ⟨received, rfl, startError_eq_none.mpr ⟨named, method, alive, missing⟩⟩
                    have opened : (s.step (.frame (wire stringify (fetch.startFrame id)) true)).1.requests.lookup
                        id = some ((fetch.startFrame id).opened []) :=
                      (lookup_step shut).mpr (.inl ⟨_, fetch.startFrame id, rfl, accepted, rfl, rfl⟩)
                    exact absurd (after.symm.trans opened) (Option.some_ne_none _).symm
          | some request =>
              have opened : request = { fetch.request with body := [] } := by
                rcases (lookup_step shut).mp after with ⟨data, message, same, accepted, -, rfl⟩ |
                  ⟨old, present, -⟩
                · cases same
                  rw [frame_of_message reads accepted.received]
                  rfl
                · rw [missing] at present
                  cases present
              obtain ⟨safe, all⟩ := executed_assembling serializes
                (show fetch.request.body.length ≤ visitorMaxRequestBytes from small) within'
                further rest_begun shut' (after.trans (congrArg some opened)) (flatten_pieces fetch.body)
              exact ⟨safe, fun read complete _ _ _ _ _ => all read.tail (List.tail_eq_of_cons_eq complete)⟩
        · have split : framesFor id (frame :: sent'') = framesFor id sent'' :=
            List.filter_cons_of_neg (by simpa using own)
          obtain ⟨kept, closed, idle⟩ := quiet_step s free reads own
          rw [split] at begun ⊢
          rw [VisitorDataSession.run, executed_append, idle, List.nil_append]
          obtain ⟨safe, all⟩ := ih within' further begun shut' (kept.trans missing)
          exact ⟨safe, fun read complete alive named method fits slot => all read.tail complete
            (closed.trans alive) named method fits fun later => slot (List.mem_cons_of_mem _ later)⟩

end Frames

/-! ## The page and the agent -/

section Sessions

variable [MessageJSON] {stringify : VisitorWebRTCDataMessage → String} {config : Config Page Task}
variable {events : List Event}

omit [MessageJSON] in
theorem fetchID_ne_empty (n : ℕ) : fetchID n ≠ "" := by
  intro empty
  have digits := congrArg String.toList empty
  unfold fetchID at digits
  rw [Nat.toString_eq_ofList_toDigits, String.toList_ofList] at digits
  exact Nat.toDigits_ne_nil digits

omit [MessageJSON] in
/-- Frames with an ID are there for fetches only. -/
theorem framesFor_eq_nil {id : String} (framed : Framed config)
    (other : ∀ n < config.shared.fetches.length, id ≠ fetchID n) :
    framesFor id config.shared.sent = [] := by
  unfold framesFor
  rw [List.filter_eq_nil_iff]
  intro frame member own
  obtain ⟨n, bound, named⟩ := framed.named frame member
  exact other n bound ((of_decide_eq_true own).symm.trans named)

/-- A fetch that was admitted is executed as it is, or not at all. -/
theorem executed_of_fetch (reached : pageMachine.Reachable newPage config)
    (serializes : Serializes stringify config.shared.sent)
    (carries : Carries stringify config.shared.sent events) {n : ℕ} {fetch : Fetch}
    (found : config.shared.fetches[n]? = some fetch) :
    executed (fetchID n) (VisitorDataSession.run {} events) = [] ∨
      executed (fetchID n) (VisitorDataSession.run {} events) = [fetch.request] := by
  have framed := framed_of_reachable reached
  exact (executed_starting serializes (framed.accounts.small fetch (List.mem_of_getElem? found))
    (fun _ member => member) carries (framed.begun n fetch found) (shut_after []) rfl).1

/-- **The agent asks for what the browser fetched.**  Whatever fetches the page forwards at the same time,
however much of what it sent the agent has read, whatever slots are free and whenever the session is
closed: an ID is executed once at most, and then for the fetch that has this ID, with its method, path and
headers and its whole body.  A fetch that was sent to its end is executed, if the session has read
everything and goes on, the start was not too long and found a free slot. -/
theorem requests_of_page (reached : pageMachine.Reachable newPage config)
    (serializes : Serializes stringify config.shared.sent)
    (carries : Carries stringify config.shared.sent events) :
    (∀ id, executed id (VisitorDataSession.run {} events) = [] ∨
      ∃ n fetch, id = fetchID n ∧ config.shared.fetches[n]? = some fetch ∧
        executed id (VisitorDataSession.run {} events) = [fetch.request]) ∧
    ∀ n fetch, config.shared.fetches[n]? = some fetch →
      config.shared.sentFor n = fetch.frames (fetchID n) → ReadAll config.shared.sent events →
      fetch.method ≠ "" →
      (wire stringify (fetch.startFrame (fetchID n))).length ≤ visitorMaxMessageBytes →
      Event.frame (wire stringify (fetch.startFrame (fetchID n))) false ∉ events →
      executed (fetchID n) (VisitorDataSession.run {} events) = [fetch.request] := by
  have framed := framed_of_reachable reached
  have within : config.shared.sent ⊆ config.shared.sent := fun _ member => member
  have shut : VisitorDataSession.Shut {} := shut_after []
  have sessions {n : ℕ} {fetch : Fetch} (found : config.shared.fetches[n]? = some fetch) :=
    executed_starting serializes
      (framed.accounts.small fetch (List.mem_of_getElem? found)) within carries
      (framed.begun n fetch found) shut rfl
  refine ⟨fun id => ?_, fun n fetch found complete read method fits slot => ?_⟩
  · by_cases known : ∃ n < config.shared.fetches.length, id = fetchID n
    · obtain ⟨n, bound, rfl⟩ := known
      have found := List.getElem?_eq_getElem bound
      exact (executed_of_fetch reached serializes carries found).imp id fun result =>
        ⟨n, _, rfl, found, result⟩
    · have other : ∀ n < config.shared.fetches.length, id ≠ fetchID n :=
        fun n bound same => known ⟨n, bound, same⟩
      refine .inl (executed_of_unstarted serializes within carries (fun frame member => ?_) shut rfl)
      rw [framesFor_eq_nil framed other] at member
      cases member
  · exact (sessions found).2 read complete rfl (fetchID_ne_empty n) method fits slot

end Sessions

/-! ## An upload beside another fetch -/

/-- The texts of the frames of two fetches. -/
def fetchTexts : List (String × VisitorWebRTCDataMessage) :=
  [("\x7b\"kind\":\"request_start\",\"id\":\"1\",\"method\":\"POST\",\"path\":\"/upload\"," ++
        "\"headers\":\x7b\x7d\x7d", uploadFetch.startFrame "1"),
    ("\x7b\"kind\":\"request_start\",\"id\":\"2\",\"method\":\"GET\",\"path\":\"/\",\"headers\":\x7b\x7d\x7d",
      pageFetch.startFrame "2"),
    ("\x7b\"kind\":\"request_end\",\"id\":\"2\"\x7d", Fetch.endFrame "2"),
    ("\x7b\"kind\":\"request_chunk\",\"id\":\"1\",\"body\":\"aGkh\"\x7d",
      Fetch.chunkFrame "1" [0x68, 0x69, 0x21]),
    ("\x7b\"kind\":\"request_end\",\"id\":\"1\"\x7d", Fetch.endFrame "1")]

/-- `JSON.stringify` of these frames. -/
def stringifyFetch (frame : VisitorWebRTCDataMessage) : String :=
  ((fetchTexts.find? fun entry => entry.2 = frame).map Prod.fst).getD ""

/-- The frames as the agent reads them, with a free slot for each. -/
def fetchEvents : List Event :=
  fetchTexts.map fun entry => .frame (utf8 entry.1) true

theorem requests_of_page_two :
    let _ := MessageJSON.listed fetchTexts
    ∃ config, pageMachine.Reachable newPage config ∧
      Carries stringifyFetch config.shared.sent fetchEvents ∧
      executed "1" (VisitorDataSession.run {} fetchEvents) = [uploadFetch.request] ∧
      executed "2" (VisitorDataSession.run {} fetchEvents) = [pageFetch.request] := by
  intro _
  obtain ⟨config, reached, fetches, sent⟩ :
      ∃ config, pageMachine.Reachable newPage config ∧
        config.shared.fetches = [uploadFetch, pageFetch] ∧
        config.shared.sent = fetchTexts.map Prod.snd := by
    refine Machine.exists_run_of_replay fetchMoves ?_
    decide +kernel
  have serializes : Serializes stringifyFetch config.shared.sent := by
    rw [sent]
    exact ⟨by decide +kernel, by decide +kernel⟩
  have carries : Carries stringifyFetch config.shared.sent fetchEvents := by
    rw [sent]
    exact ⟨[], by decide +kernel⟩
  have read : ReadAll config.shared.sent fetchEvents := by
    rw [sent]
    exact ⟨rfl, by simp [fetchEvents]⟩
  obtain ⟨-, complete⟩ := requests_of_page reached serializes carries
  refine ⟨config, reached, carries, ?_, ?_⟩
  · refine complete 0 uploadFetch (by rw [fetches]; rfl) ?_ read (by decide) (by decide +kernel) ?_
    · unfold Page.sentFor
      rw [sent]
      decide +kernel
    · simp [fetchEvents]
  · refine complete 1 pageFetch (by rw [fetches]; rfl) ?_ read (by decide) (by decide +kernel) ?_
    · unfold Page.sentFor
      rw [sent]
      decide +kernel
    · simp [fetchEvents]

end NryNet.Visitor

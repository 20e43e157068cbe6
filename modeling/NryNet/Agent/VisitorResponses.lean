import NryNet.Agent.VisitorStream
import NryNet.Lib.Fallible
import NryNet.Lib.GoJSON

/-!
# Responses to visitors (`client/agent/visitor_response_stream.go`, `visitor_channel.go`, `visitor_http.go`)

A worker asks the local service and sends back what it answers: in one `response` frame for a `request`, and
as a `response_start`, some `response_chunk`s and a `response_end` for a streamed request.  An error is sent
as a frame of its own.

`sendFrame` refuses a frame whose JSON text is too long, and nobody who calls it sends anything else
instead.  `terminated_iff` says when a request gets its last frame after all.

## The model

The local service answers with a status, a header and a body, which is read in pieces of any size, or it
fails.  The outside of the data channel is a list without an end: what happens to the first frame that is
given to it, to the second one, and so on.  Header values and errors are UTF-8, and no name has an empty
list of values.  The text of a `CorruptInputError` is a parameter.
-/

namespace NryNet.Agent

open ByteStream GoText

/-! ## Sending -/

/-- The text of the headers. -/
def Header.marshal (headers : Header) : String :=
  GoJSON.map (fun values => GoJSON.array (values.map GoJSON.quote)) headers.entries

/-- The fields of a message in JSON. -/
def VisitorWebRTCDataMessage.fields (message : VisitorWebRTCDataMessage) : List (String × String) :=
  [("kind", GoJSON.quote message.kind), ("id", GoJSON.quote message.id)] ++
    GoJSON.omitEmpty (message.method = "") "method" (GoJSON.quote message.method) ++
    GoJSON.omitEmpty (message.path = "") "path" (GoJSON.quote message.path) ++
    GoJSON.omitEmpty (message.headers.entries.isEmpty) "headers" message.headers.marshal ++
    GoJSON.omitEmpty (message.body = "") "body" (GoJSON.quote message.body) ++
    GoJSON.omitEmpty (message.status = 0) "status" (toString message.status) ++
    GoJSON.omitEmpty (message.error = "") "error" (GoJSON.quote message.error)

/-- `json.Marshal` of a message. -/
def VisitorWebRTCDataMessage.marshal (message : VisitorWebRTCDataMessage) : String :=
  GoJSON.object message.fields

/-- A message fits into a frame. -/
def VisitorWebRTCDataMessage.Fits (message : VisitorWebRTCDataMessage) : Prop :=
  GoJSON.size message.marshal ≤ visitorMaxMessageBytes

instance (message : VisitorWebRTCDataMessage) : Decidable message.Fits :=
  inferInstanceAs (Decidable (_ ≤ _))

/-- What a worker has sent, and how many frames it has given to the channel. -/
structure Outbox where
  sent : List VisitorWebRTCDataMessage := []
  attempts : ℕ := 0
  deriving DecidableEq

/-- What becomes of the frames that are given to the data channel: the errors of `waitForSendCapacity` and
`SendText`. -/
abbrev DataChannel := ℕ → Option String

/-- `sendFrame`. -/
def sendFrame (channel : DataChannel) (message : VisitorWebRTCDataMessage) (out : Outbox) :
    Outbox × Option String :=
  if visitorMaxMessageBytes < GoJSON.size message.marshal then
    (out, some "visitor response frame is too large")
  else
    match channel out.attempts with
    | some err => ({ out with attempts := out.attempts + 1 }, some err)
    | none => (⟨out.sent ++ [message], out.attempts + 1⟩, none)

/-- The frame of `sendErrorForID`. -/
def errorFrame (id message : String) : VisitorWebRTCDataMessage where
  kind := "response_end"
  id := id
  error := message

/-- `sendErrorForID`. -/
def sendErrorForID (channel : DataChannel) (id message : String) (out : Outbox) :
    Outbox × Option String :=
  sendFrame channel (errorFrame id message) out

/-! ## The local service -/

/-- `http.Response`. -/
structure HTTPResponse (ρ : Type) where
  statusCode : ℤ
  header : Header
  body : ρ

/-- The local service of a tunnel, with the answer of `Do`; the order in which headers are visited; and the
text of a `CorruptInputError`. -/
structure LocalService (ρ : Type) where
  host : String
  port : ℤ
  respond : HTTPRequest → Except String (HTTPResponse ρ)
  order : GoMap.RangeOrder String (List String)
  corruptInput : String → String

section Workers

variable {ρ : Type} [Reader ρ] [CaseTable] [HTTPTable] [MessageJSON]

/-! ## Requests in one frame -/

/-- `decodeVisitorBody`. -/
def decodeVisitorBody (service : LocalService ρ) (value : String) : Except String Bytes :=
  if value = "" then .ok []
  else
    match Base64.decodeString value with
    | none => .error ("invalid request body: " ++ service.corruptInput value)
    | some body =>
        if visitorMaxBodyBytes < body.length then
          .error s!"request body exceeds {visitorMaxBodyBytes} bytes"
        else .ok body

/-- `io.ReadAll` of a reader with a limit, for some rounds. -/
def readAll : ℕ → ρ → Bytes → ℕ → Bytes × Option Failure
  | 0, _, got, _ => (got, none)
  | rounds + 1, body, got, limit =>
      if limit ≤ got.length then (got, none)
      else
        let read := Reader.read body (limit - got.length)
        match read.failure with
        | none => readAll rounds read.next (got ++ read.bytes) limit
        | some .eof => (got ++ read.bytes, none)
        | some err => (got ++ read.bytes, some err)

/-- `readVisitorBody`. -/
def readVisitorBody (body : ρ) : Except String Bytes :=
  match readAll (Reader.budget body + 1) body [] (visitorMaxBodyBytes + 1) with
  | (_, some err) => .error ("read local service response: " ++ err.text)
  | (body, none) =>
      if visitorMaxBodyBytes < body.length then
        .error s!"response body exceeds {visitorMaxBodyBytes} bytes"
      else .ok body

/-- `executeVisitorRequest`, with the response as the frame that will hold it. -/
def executeVisitorRequest (service : LocalService ρ) (message : VisitorWebRTCDataMessage) :
    Except String VisitorWebRTCDataMessage := do
  let body ← decodeVisitorBody service message.body
  let target ← visitorTargetURL service.host service.port message.path
  let request ← newRequest message.method target body
  match service.respond { request with
      header := copyVisitorHeaders service.order request.header message.headers } with
  | .error err => .error ("local service request failed: " ++ err)
  | .ok response =>
      let responseBody ← readVisitorBody response.body
      .ok { kind := "response", id := message.id, status := response.statusCode,
            headers := response.header, body := Base64.encodeToString responseBody }

/-- The frame that `handleVisitorDataMessageWithSender` sends. -/
def visitorResponse (service : LocalService ρ) (data : Bytes) : VisitorWebRTCDataMessage :=
  if visitorMaxMessageBytes < data.length then
    { kind := "response", id := "", error := "request is too large" }
  else
    match MessageJSON.unmarshal data with
    | none => { kind := "response", id := "", error := "invalid request message" }
    | some request =>
        if request.kind ≠ "request" ∨ request.id = "" then
          { kind := "response", id := request.id, error := "request kind and id are required" }
        else
          match executeVisitorRequest service request with
          | .error err => { kind := "response", id := request.id, error := err }
          | .ok response => response

/-- `handleVisitorDataMessageWithSender`. -/
def handleVisitorDataMessageWithSender (service : LocalService ρ) (channel : DataChannel) (data : Bytes)
    (out : Outbox) : Outbox :=
  (sendFrame channel (visitorResponse service data) out).1

/-! ## Streamed requests -/

/-- A `response_chunk`. -/
def chunkFrame (id : String) (bytes : Bytes) : VisitorWebRTCDataMessage where
  kind := "response_chunk"
  id := id
  body := Base64.encodeToString bytes

/-- The error for a body that is too long. -/
def tooLong : String := s!"response body exceeds {visitorMaxResponseBytes} bytes"

/-- What `streamResponseBody` does with the error of `Read`; `next` is the rest of the loop. -/
def afterRead (channel : DataChannel) (id : String) (failure : Option Failure) (out : Outbox)
    (next : Outbox × Bool) : Outbox × Bool :=
  match failure with
  | none => next
  | some .eof => (out, true)
  | some err =>
      ((sendErrorForID channel id ("read local service response: " ++ err.text) out).1, false)

/-- The loop of `streamResponseBody`, for some rounds. -/
def streamLoop (channel : DataChannel) (id : String) : ℕ → ρ → ℕ → Outbox → Outbox × Bool
  | 0, _, _, out => (out, false)
  | rounds + 1, body, responseBytes, out =>
      let read := Reader.read body visitorStreamChunkBytes
      if read.bytes = [] then
        afterRead channel id read.failure out
          (streamLoop channel id rounds read.next responseBytes out)
      else
        let responseBytes := responseBytes + read.bytes.length
        if visitorMaxResponseBytes < responseBytes then
          ((sendErrorForID channel id tooLong out).1, false)
        else
          let chunk := sendFrame channel (chunkFrame id read.bytes) out
          if chunk.2.isSome then (chunk.1, false)
          else
            afterRead channel id read.failure chunk.1
              (streamLoop channel id rounds read.next responseBytes chunk.1)

/-- `streamResponseBody`. -/
def streamResponseBody (channel : DataChannel) (body : ρ) (id : String) (out : Outbox) :
    Outbox × Bool :=
  streamLoop channel id (Reader.budget body + 1) body 0 out

/-- The `response_start` of a response. -/
def startFrame (id : String) (response : HTTPResponse ρ) : VisitorWebRTCDataMessage where
  kind := "response_start"
  id := id
  status := response.statusCode
  headers := visitorResponseHeaders response.header

/-- The `response_end` without an error. -/
def endFrame (id : String) : VisitorWebRTCDataMessage where
  kind := "response_end"
  id := id

/-- The end of `execute`. -/
def finishResponse (channel : DataChannel) (id : String) (streamed : Outbox × Bool) : Outbox :=
  if streamed.2 then (sendFrame channel (endFrame id) streamed.1).1 else streamed.1

/-- `execute`. -/
def execute (service : LocalService ρ) (channel : DataChannel) (id : String)
    (request : VisitorStreamRequest) (out : Outbox) : Outbox :=
  match streamHTTPRequest service.order service.host service.port request with
  | .error err => (sendErrorForID channel id err out).1
  | .ok httpRequest =>
      match service.respond httpRequest with
      | .error err => (sendErrorForID channel id ("local service request failed: " ++ err) out).1
      | .ok response =>
          let start := sendFrame channel (startFrame id response) out
          if start.2.isSome then start.1
          else finishResponse channel id (streamResponseBody channel response.body id start.1)

/-- What the session does, as far as frames are sent for it. -/
def Action.perform (service : LocalService ρ) (channel : DataChannel) : Action → Outbox → Outbox
  | .sendErrorForID id message, out => (NryNet.Agent.sendErrorForID channel id message out).1
  | .visitorRequest data, out => handleVisitorDataMessageWithSender service channel data out
  | .visitorStreamRequest id request, out => execute service channel id request out

/-! ## The frames that are due -/

/-- The pieces of a body as they are read, up to the limit, and how it ends. -/
def bodyFrames (id : String) : ℕ → ρ → ℕ → List VisitorWebRTCDataMessage
  | 0, _, _ => []
  | rounds + 1, body, responseBytes =>
      let read := Reader.read body visitorStreamChunkBytes
      let rest := match read.failure with
        | none => bodyFrames id rounds read.next (responseBytes + read.bytes.length)
        | some .eof => [endFrame id]
        | some err => [errorFrame id ("read local service response: " ++ err.text)]
      if read.bytes = [] then rest
      else if visitorMaxResponseBytes < responseBytes + read.bytes.length then [errorFrame id tooLong]
      else chunkFrame id read.bytes :: rest

/-- All the frames that an answer consists of. -/
def Action.due (service : LocalService ρ) : Action → List VisitorWebRTCDataMessage
  | .sendErrorForID id message => [errorFrame id message]
  | .visitorRequest data => [visitorResponse service data]
  | .visitorStreamRequest id request =>
      match streamHTTPRequest service.order service.host service.port request with
      | .error err => [errorFrame id err]
      | .ok httpRequest =>
          match service.respond httpRequest with
          | .error err => [errorFrame id ("local service request failed: " ++ err)]
          | .ok response =>
              startFrame id response :: bodyFrames id (Reader.budget response.body + 1) response.body 0

omit [Reader ρ] [CaseTable] [HTTPTable] in
/-- The ID that an answer is for. -/
def Action.id : Action → String
  | .sendErrorForID id _ => id
  | .visitorRequest data => ((MessageJSON.unmarshal data).map fun message => message.id).getD ""
  | .visitorStreamRequest id _ => id

/-- One frame after the other, until one cannot be sent. -/
def sendAll (channel : DataChannel) : List VisitorWebRTCDataMessage → Outbox → Outbox
  | [], out => out
  | frame :: rest, out =>
      let sent := sendFrame channel frame out
      if sent.2.isSome then sent.1 else sendAll channel rest sent.1

omit [CaseTable] [HTTPTable] [MessageJSON] [Reader ρ] in
theorem sendAll_singleton (channel : DataChannel) (frame : VisitorWebRTCDataMessage) (out : Outbox) :
    sendAll channel [frame] out = (sendFrame channel frame out).1 := by
  unfold sendAll
  exact ite_self _

omit [CaseTable] [HTTPTable] [MessageJSON] [Reader ρ] in
theorem finishResponse_stopped (channel : DataChannel) (id : String) (out : Outbox) :
    finishResponse channel id (out, false) = out := by
  unfold finishResponse
  rw [if_neg Bool.false_ne_true]

omit [CaseTable] [HTTPTable] [MessageJSON] [Reader ρ] in
theorem finishResponse_error (channel : DataChannel) (id message : String) (out : Outbox) :
    finishResponse channel id ((sendErrorForID channel id message out).1, false) =
      sendAll channel [errorFrame id message] out := by
  rw [finishResponse_stopped, sendAll_singleton, sendErrorForID]

omit [CaseTable] [HTTPTable] [MessageJSON] [Reader ρ] in
theorem finishResponse_afterRead (channel : DataChannel) (id : String) (failure : Option Failure)
    (out : Outbox) {next : Outbox × Bool} {frames : List VisitorWebRTCDataMessage}
    (rest : finishResponse channel id next = sendAll channel frames out) :
    finishResponse channel id (afterRead channel id failure out next) =
      sendAll channel (match failure with
        | none => frames
        | some .eof => [endFrame id]
        | some err => [errorFrame id ("read local service response: " ++ err.text)]) out := by
  unfold afterRead
  split
  · exact rest
  · rw [sendAll_singleton]
    rfl
  · rw [finishResponse_error]

omit [CaseTable] [HTTPTable] [MessageJSON] in
/-- The loop sends the frames of the body; the last one is left to `execute` if the body has been read to its
end. -/
theorem finishResponse_streamLoop (channel : DataChannel) (id : String) (rounds : ℕ) (body : ρ)
    (responseBytes : ℕ) (out : Outbox) :
    finishResponse channel id (streamLoop channel id rounds body responseBytes out) =
      sendAll channel (bodyFrames id rounds body responseBytes) out := by
  induction rounds generalizing body responseBytes out with
  | zero => rfl
  | succ rounds ih =>
      rw [streamLoop, bodyFrames]
      by_cases empty : (Reader.read body visitorStreamChunkBytes).bytes = []
      · rw [if_pos empty, if_pos empty]
        refine finishResponse_afterRead channel id _ out ?_
        rw [ih, empty, List.length_nil, Nat.add_zero]
      · rw [if_neg empty, if_neg empty]
        by_cases long : visitorMaxResponseBytes <
            responseBytes + (Reader.read body visitorStreamChunkBytes).bytes.length
        · rw [if_pos long, if_pos long]
          exact finishResponse_error channel id tooLong out
        · rw [if_neg long, if_neg long, sendAll]
          by_cases refused : (sendFrame channel
              (chunkFrame id (Reader.read body visitorStreamChunkBytes).bytes) out).2.isSome = true
          · rw [if_pos refused, if_pos refused]
            exact finishResponse_stopped channel id _
          · rw [if_neg refused, if_neg refused]
            exact finishResponse_afterRead channel id _ _ (ih _ _ _)

/-- A worker sends the frames that are due, until one cannot be sent. -/
theorem perform_eq_sendAll (service : LocalService ρ) (channel : DataChannel) (action : Action)
    (out : Outbox) : action.perform service channel out = sendAll channel (action.due service) out := by
  cases action with
  | sendErrorForID id message => exact (sendAll_singleton _ _ _).symm
  | visitorRequest data => exact (sendAll_singleton _ _ _).symm
  | visitorStreamRequest id request =>
      simp only [Action.perform, Action.due, execute]
      split
      · exact (sendAll_singleton _ _ _).symm
      · split
        · exact (sendAll_singleton _ _ _).symm
        · rename_i response _
          rw [sendAll, streamResponseBody, finishResponse_streamLoop]

end Workers

/-! ## The last frame -/

/-- A frame that ends a response. -/
def VisitorWebRTCDataMessage.isTerminal (message : VisitorWebRTCDataMessage) : Bool :=
  message.kind = "response" || message.kind = "response_end"

/-- Some frames for an ID, of which the last one, and no other one, ends the response. -/
def Terminated (id : String) (frames : List VisitorWebRTCDataMessage) : Prop :=
  ∃ before last, frames = before ++ [last] ∧ last.isTerminal = true ∧
    (∀ frame ∈ before, frame.isTerminal = false) ∧ ∀ frame ∈ frames, frame.id = id

section Terminal

variable {id : String} {frames rest : List VisitorWebRTCDataMessage} {frame : VisitorWebRTCDataMessage}

theorem Terminated.singleton (terminal : frame.isTerminal = true) (own : frame.id = id) :
    Terminated id [frame] := by
  refine ⟨[], frame, rfl, terminal, nofun, fun other member => ?_⟩
  rw [List.mem_singleton.mp member]
  exact own

theorem Terminated.cons (terminated : Terminated id rest) (more : frame.isTerminal = false)
    (own : frame.id = id) : Terminated id (frame :: rest) := by
  obtain ⟨before, last, rfl, terminal, open', all⟩ := terminated
  refine ⟨frame :: before, last, rfl, terminal, fun other member => ?_, fun other member => ?_⟩
  · rcases List.mem_cons.mp member with rfl | later
    · exact more
    · exact open' other later
  · rcases List.mem_cons.mp member with rfl | later
    · exact own
    · exact all other later

/-- Cut short, the frames do not end a response. -/
theorem terminated_takeWhile_iff (fits : VisitorWebRTCDataMessage → Bool)
    (terminated : Terminated id frames) :
    Terminated id (frames.takeWhile fits) ↔ ∀ frame ∈ frames, fits frame = true := by
  constructor
  · rintro ⟨before', last', cut, terminal', -, -⟩
    obtain ⟨before, last, rfl, terminal, open', -⟩ := terminated
    rw [← List.takeWhile_eq_self_iff]
    by_contra shorter
    -- what is cut off ends with the last frame
    have split := List.takeWhile_append_dropWhile (p := fits) (l := before ++ [last])
    rcases List.eq_nil_or_concat ((before ++ [last]).dropWhile fits) with none | ⟨dropped, final, rest⟩
    · rw [none, List.append_nil] at split
      exact shorter split
    · rw [rest, List.concat_eq_append, cut, ← List.append_assoc] at split
      obtain ⟨kept, -⟩ := List.append_inj' split rfl
      have among : last' ∈ before := by
        rw [← kept]
        simp
      rw [open' last' among] at terminal'
      cases terminal'
  · intro all
    rw [List.takeWhile_eq_self_iff.mpr all]
    exact terminated

/-- On a channel that does not fail, frames are sent until one of them is too long. -/
theorem sent_sendAll {channel : DataChannel} (healthy : ∀ n, channel n = none)
    (frames : List VisitorWebRTCDataMessage) (out : Outbox) :
    (sendAll channel frames out).sent = out.sent ++ frames.takeWhile fun frame => frame.Fits := by
  induction frames generalizing out with
  | nil => exact (List.append_nil _).symm
  | cons frame rest ih =>
      by_cases fits : frame.Fits
      · have sent : sendFrame channel frame out = (⟨out.sent ++ [frame], out.attempts + 1⟩, none) := by
          unfold sendFrame
          rw [if_neg (Nat.not_lt.mpr fits), healthy]
        rw [sendAll, sent, List.takeWhile_cons_of_pos (by simpa using fits)]
        simp only [Option.isSome_none, Bool.false_eq_true, if_false]
        rw [ih, List.append_assoc, List.singleton_append]
      · have refused : sendFrame channel frame out =
            (out, some "visitor response frame is too large") := if_pos (Nat.lt_of_not_le fits)
        rw [sendAll, refused, List.takeWhile_cons_of_neg (by simpa using fits)]
        exact (List.append_nil _).symm

end Terminal

section Due

variable {ρ : Type} [Reader ρ] [CaseTable] [HTTPTable] [MessageJSON]

omit [CaseTable] [HTTPTable] [MessageJSON] in
theorem terminated_bodyFrames (id : String) {rounds : ℕ} {body : ρ} (responseBytes : ℕ)
    (enough : Reader.budget body < rounds) : Terminated id (bodyFrames id rounds body responseBytes) := by
  induction rounds generalizing body responseBytes with
  | zero => omega
  | succ rounds ih =>
      have ends : Terminated id (match (Reader.read body visitorStreamChunkBytes).failure with
          | none => bodyFrames id rounds (Reader.read body visitorStreamChunkBytes).next
              (responseBytes + (Reader.read body visitorStreamChunkBytes).bytes.length)
          | some .eof => [endFrame id]
          | some err => [errorFrame id ("read local service response: " ++ err.text)]) := by
        split
        · rename_i succeeded
          have less := Reader.budget_read (by decide) succeeded
          exact ih _ (by omega)
        · exact .singleton rfl rfl
        · exact .singleton rfl rfl
      rw [bodyFrames]
      split_ifs
      · exact ends
      · exact .singleton rfl rfl
      · exact ends.cons rfl rfl

omit [MessageJSON] [CaseTable] in
theorem response_of_executeVisitorRequest {service : LocalService ρ}
    {message response : VisitorWebRTCDataMessage}
    (executed : executeVisitorRequest service message = .ok response) :
    response.kind = "response" ∧ response.id = message.id := by
  unfold executeVisitorRequest at executed
  obtain ⟨body, -, executed⟩ := Checks.bind_eq_ok.mp executed
  obtain ⟨target, -, executed⟩ := Checks.bind_eq_ok.mp executed
  obtain ⟨request, -, executed⟩ := Checks.bind_eq_ok.mp executed
  split at executed
  · cases executed
  · obtain ⟨responseBody, -, executed⟩ := Checks.bind_eq_ok.mp executed
    cases executed
    exact ⟨rfl, rfl⟩

omit [CaseTable] in
/-- A response is for the request that it answers. -/
theorem visitorResponse_terminal (service : LocalService ρ) {data : Bytes}
    {message : VisitorWebRTCDataMessage} (short : data.length ≤ visitorMaxMessageBytes)
    (received : MessageJSON.unmarshal data = some message) :
    (visitorResponse service data).isTerminal = true ∧ (visitorResponse service data).id = message.id := by
  unfold visitorResponse
  rw [if_neg (Nat.not_lt.mpr short), received]
  simp only
  split
  · exact ⟨rfl, rfl⟩
  · split
    · exact ⟨rfl, rfl⟩
    · rename_i response executed
      obtain ⟨kind, id⟩ := response_of_executeVisitorRequest executed
      refine ⟨?_, id⟩
      rw [VisitorWebRTCDataMessage.isTerminal, kind]
      rfl

/-- What is due for a request ends it. -/
theorem terminated_due (service : LocalService ρ) {s : VisitorDataSession} {data : Bytes} {free : Bool}
    {action : Action} (member : action ∈ (s.handle data free).2) :
    Terminated action.id (action.due service) := by
  cases action with
  | sendErrorForID id message => exact .singleton rfl rfl
  | visitorRequest other =>
      obtain ⟨rfl, short, message, received⟩ := VisitorDataSession.visitorRequest_of_handle member
      obtain ⟨terminal, own⟩ := visitorResponse_terminal service short received
      refine .singleton terminal ?_
      rw [own, Action.id, received]
      rfl
  | visitorStreamRequest id request =>
      simp only [Action.due]
      split
      · exact .singleton rfl rfl
      · split
        · exact .singleton rfl rfl
        · exact (terminated_bodyFrames id 0 (Nat.lt_succ_self _)).cons rfl rfl

end Due

/-- **A request gets its last frame when all of its frames fit.**  On a channel that does not fail, what is
sent for a request is ended by one frame, the last one, exactly when no frame that is due is longer in JSON
than `visitorMaxMessageBytes`. -/
theorem terminated_iff {ρ : Type} [Reader ρ] [CaseTable] [HTTPTable] [MessageJSON]
    (service : LocalService ρ) {channel : DataChannel} (healthy : ∀ n, channel n = none)
    {s : VisitorDataSession} {data : Bytes} {free : Bool} {action : Action}
    (member : action ∈ (s.handle data free).2) :
    Terminated action.id (action.perform service channel {}).sent ↔
      ∀ frame ∈ action.due service, frame.Fits := by
  rw [perform_eq_sendAll, sent_sendAll healthy]
  change Terminated action.id ([] ++ _) ↔ _
  rw [List.nil_append, terminated_takeWhile_iff _ (terminated_due service member)]
  simp only [decide_eq_true_eq]

/-! ## A long header -/

/-- A message is longer than each value of its headers. -/
theorem size_header {message : VisitorWebRTCDataMessage} {entry : Σ _ : String, List String}
    {value : String} (member : entry ∈ message.headers.entries) (among : value ∈ entry.2) :
    value.toList.length + 2 ≤ GoJSON.size message.marshal := by
  have field : ("headers", message.headers.marshal) ∈ message.fields := by
    have filled : message.headers.entries.isEmpty = false := by
      rw [List.isEmpty_eq_false_iff]
      exact List.ne_nil_of_mem member
    unfold VisitorWebRTCDataMessage.fields
    rw [filled, GoJSON.omitEmpty_false]
    simp only [List.mem_append, List.mem_singleton, true_or, or_true]
  have quoted := GoJSON.size_quote value
  have listed : GoJSON.size (GoJSON.quote value) ≤
      GoJSON.size (GoJSON.array (entry.2.map GoJSON.quote)) :=
    GoJSON.size_array (List.mem_map_of_mem among)
  have mapped : GoJSON.size (GoJSON.array (entry.2.map GoJSON.quote)) ≤
      GoJSON.size message.headers.marshal := by
    have inside := GoJSON.size_map (fun values => GoJSON.array (values.map GoJSON.quote)) member
    unfold Header.marshal
    exact inside
  have whole : GoJSON.size message.headers.marshal ≤ GoJSON.size message.marshal := by
    have inside := GoJSON.size_object field
    unfold VisitorWebRTCDataMessage.marshal
    exact inside
  omega

/-- The text of a request for a page. -/
def pageText : String := "\x7b\"kind\":\"request\",\"id\":\"1\",\"method\":\"GET\",\"path\":\"/\"\x7d"

/-- The table for it. -/
@[reducible] def pageJSON : MessageJSON :=
  .listed [(pageText, { kind := "request", id := "1", method := "GET", path := "/" })]

/-- A service that answers with a header and no body. -/
def headerService (value : String) : LocalService Chunks where
  host := "127.0.0.1"
  port := 8080
  respond _ := .ok ⟨200, AList.insert "X-Data" [value] ∅, ⟨[], .eof, false⟩⟩
  order := .kept _ _
  corruptInput _ := "illegal base64 data at input byte 0"

/-- What is due for the page. -/
def headerFrame (value : String) : VisitorWebRTCDataMessage where
  kind := "response"
  id := "1"
  status := 200
  headers := AList.insert "X-Data" [value] ∅

theorem due_page (value : String) :
    let _ := CaseTable.ascii
    let _ := HTTPTable.plain
    let _ := pageJSON
    (Action.visitorRequest (utf8 pageText)).due (headerService value) = [headerFrame value] := by
  intro _ _ _
  rfl

theorem handle_page :
    let _ := pageJSON
    Action.visitorRequest (utf8 pageText) ∈ (VisitorDataSession.handle {} (utf8 pageText) true).2 :=
  List.mem_singleton_self _

theorem terminated_iff_page :
    let _ := CaseTable.ascii
    let _ := HTTPTable.plain
    let _ := pageJSON
    Terminated "1" ((Action.visitorRequest (utf8 pageText)).perform (headerService "ok")
      (fun _ => none) {}).sent := by
  intro _ _ _
  refine (terminated_iff (headerService "ok") (fun _ => rfl) handle_page).mpr ?_
  rw [due_page]
  decide +kernel

/-- With a long header, nothing is sent. -/
theorem sent_page {value : String} (long : visitorMaxMessageBytes ≤ value.toList.length) :
    let _ := CaseTable.ascii
    let _ := HTTPTable.plain
    let _ := pageJSON
    ((Action.visitorRequest (utf8 pageText)).perform (headerService value) (fun _ => none) {}).sent =
      [] := by
  intro _ _ _
  have entry : ⟨"X-Data", [value]⟩ ∈ (headerFrame value).headers.entries := List.mem_cons_self
  have size := size_header entry List.mem_cons_self
  have unfit : ¬ (headerFrame value).Fits := fun fits => by
    have bound := size.trans fits
    omega
  rw [perform_eq_sendAll, due_page, sent_sendAll fun _ => rfl,
    List.takeWhile_cons_of_neg (by rw [decide_eq_true_eq]; exact unfit)]
  rfl

/-- **A response is lost.**  The local service answers with a header of 60 KiB, and nothing at all is sent for
the request. -/
theorem response_lost :
    let _ := CaseTable.ascii
    let _ := HTTPTable.plain
    let _ := pageJSON
    Action.visitorRequest (utf8 pageText) ∈ (VisitorDataSession.handle {} (utf8 pageText) true).2 ∧
      ∃ value : String, value.toList.length = visitorMaxMessageBytes ∧
        ((Action.visitorRequest (utf8 pageText)).perform (headerService value)
          (fun _ => none) {}).sent = [] := by
  intro _ _ _
  obtain ⟨value, length⟩ : ∃ value : String, value.toList.length = visitorMaxMessageBytes :=
    ⟨String.ofList (List.replicate visitorMaxMessageBytes 'a'), by
      rw [String.toList_ofList, List.length_replicate]⟩
  exact ⟨handle_page, value, length, sent_page length.ge⟩

end NryNet.Agent

import Mathlib.Data.List.Infix
import NryNet.Agent.VisitorResponses
import NryNet.Visitor.Page

/-!
# From the response of the local service to the browser (`server/visitor/worker.go`)

The service worker answers a fetch with a `Response` whose body is a stream.  It builds both from the
messages that the page posts on the port of the fetch.  HTML and CSS are collected and rewritten when the
response ends; everything else is put into the stream as it comes.

How the browser rewrites a body, which headers it refuses and what it says about them are parameters.
A message whose body is no Base64 text throws and changes nothing.
-/

namespace NryNet.Visitor

open ThreadPool ByteStream GoText Agent

/-- What belongs to the browser: `rewriteBody`, the error of `toHeaders`, and the error of `new Response`
for a status that has no body. -/
structure Browser where
  rewriteBody : Bytes → Header → Bytes
  refusedHeaders : Header → Option String
  nullBody : String

/-- `maxProxyResponseBytes`. -/
def maxProxyResponseBytes : ℕ := 16 * 1024 * 1024

/-- `validStatus`. -/
def validStatus (value : ℤ) : ℤ := if 200 ≤ value ∧ value ≤ 599 then value else 502

/-- The statuses with which `new Response` refuses a body. -/
def isNullBodyStatus (status : ℤ) : Bool := [101, 103, 204, 205, 304].contains status

/-- The text contains another one, without regard to case. -/
def containsFold (text part : String) : Bool :=
  (part.toList.map Char.toLower) <:+: (text.toList.map Char.toLower)

/-- `isRewriteable` of some headers. -/
def isRewriteable (headers : Header) : Bool :=
  let content := (headers.entries.filter fun entry => entry.1.toLower = "content-type").getLast?.elim ""
    fun entry => ";".intercalate entry.2
  containsFold content "text/html" || containsFold content "text/css"

/-- The controller of the stream. -/
inductive Controller where
  | readable
  | closed
  | errored (message : String)
  deriving DecidableEq

/-- The variables of `responseStream`. -/
structure ResponseStream where
  /-- `channel.port1` is open -/
  listening : Bool := true
  info : Option VisitorWebRTCDataMessage := none
  total : ℕ := 0
  parts : List Bytes := []
  enqueued : List Bytes := []
  controller : Controller := .readable
  /-- `startedPromise` -/
  started : Option (Except String VisitorWebRTCDataMessage) := none

namespace ResponseStream

/-- The headers of `info`. -/
def headers (stream : ResponseStream) : Header :=
  stream.info.elim ∅ VisitorWebRTCDataMessage.headers

/-- A promise is settled once. -/
def settle (stream : ResponseStream) (outcome : Except String VisitorWebRTCDataMessage) :
    ResponseStream :=
  { stream with started := some (stream.started.getD outcome) }

/-- `response_chunk`. -/
def chunk (stream : ResponseStream) (bytes : Bytes) : ResponseStream :=
  let stream := { stream with total := stream.total + bytes.length }
  if maxProxyResponseBytes < stream.total then
    { stream with controller := .errored "visitor response is too large", listening := false }
  else if isRewriteable stream.headers then { stream with parts := stream.parts ++ [bytes] }
  else { stream with enqueued := stream.enqueued ++ [bytes] }

/-- `response_end`. -/
def finish (browser : Browser) (stream : ResponseStream) (error : String) : ResponseStream :=
  let stream := { stream with listening := false }
  if error ≠ "" then
    if stream.info.isNone then stream.settle (.error error)
    else { stream with controller := .errored error }
  else if stream.info.isNone then stream.settle (.error "visitor response did not start")
  else if isRewriteable stream.headers then
    { stream with
      enqueued := stream.enqueued ++ [browser.rewriteBody stream.parts.flatten stream.headers]
      controller := .closed }
  else { stream with controller := .closed }

/-- `channel.port1.onmessage`. -/
def onmessage (browser : Browser) (stream : ResponseStream) (data : VisitorWebRTCDataMessage) :
    ResponseStream :=
  if stream.listening = false then stream
  else if data.kind = "response_start" then { stream with info := some data }.settle (.ok data)
  else if data.kind = "response_chunk" then (Base64.atob data.body).elim stream stream.chunk
  else if data.kind = "response_end" then stream.finish browser data.error
  else stream

/-- The stream after some messages. -/
def consume (browser : Browser) (messages : List VisitorWebRTCDataMessage) : ResponseStream :=
  messages.foldl (onmessage browser) {}

end ResponseStream

/-- What the fetch of the browser comes to. -/
inductive Fetched where
  /-- a response with the stream as its body -/
  | response (status : ℤ) (headers : Header) (body : List Bytes) (controller : Controller)
  /-- a response with status 502 and a text -/
  | badGateway (message : String)
  deriving DecidableEq

/-- `toHeaders` and `new Response`, with what becomes of their errors. -/
def Browser.newResponse (browser : Browser) (start : VisitorWebRTCDataMessage) (body : List Bytes)
    (controller : Controller) : Fetched :=
  match browser.refusedHeaders start.headers with
  | some message => .badGateway message
  | none =>
      if isNullBodyStatus (validStatus start.status) then .badGateway browser.nullBody
      else .response (validStatus start.status) start.headers body controller

/-- The end of `responseStream`: nothing comes of a fetch before its promise is settled. -/
def ResponseStream.fetched (browser : Browser) (stream : ResponseStream) : Option Fetched :=
  stream.started.map fun
    | .error message => .badGateway message
    | .ok start => browser.newResponse start stream.enqueued stream.controller

/-! ## The frames of a body -/

section Frames

variable {ρ : Type} [Reader ρ] {id : String}

/-- How the answer to a request ends: with its body complete, or with an error. -/
def EndsBody (id : String) (body : Bytes) (pieces : List Bytes) (last : VisitorWebRTCDataMessage) :
    Prop :=
  (last = endFrame id ∧ pieces.flatten = body) ∨ ∃ error, error ≠ "" ∧ last = errorFrame id error

/-- The frames that follow those of one read. -/
def framesAfter (id : String) (failure : Option Failure) (rest : List VisitorWebRTCDataMessage) :
    List VisitorWebRTCDataMessage :=
  match failure with
  | none => rest
  | some .eof => [endFrame id]
  | some err => [errorFrame id ("read local service response: " ++ err.text)]

theorem bodyFrames_succ (rounds : ℕ) (body : ρ) (responseBytes : ℕ) :
    bodyFrames id (rounds + 1) body responseBytes =
      let read := Reader.read body visitorStreamChunkBytes
      let rest := framesAfter id read.failure
        (bodyFrames id rounds read.next (responseBytes + read.bytes.length))
      if read.bytes = [] then rest
      else if visitorMaxResponseBytes < responseBytes + read.bytes.length then [errorFrame id tooLong]
      else Agent.chunkFrame id read.bytes :: rest := rfl

/-- The frames of a body are pieces of it, one after the other, and one frame that ends the answer. -/
theorem bodyFrames_eq {rounds : ℕ} {body : ρ} (responseBytes : ℕ) (enough : Reader.budget body < rounds)
    (few : responseBytes ≤ visitorMaxResponseBytes) :
    ∃ pieces last, bodyFrames id rounds body responseBytes =
        pieces.map (Agent.chunkFrame id) ++ [last] ∧
      pieces.flatten <+: Reader.remaining body ∧
      responseBytes + pieces.flatten.length ≤ visitorMaxResponseBytes ∧
      EndsBody id (Reader.remaining body) pieces last := by
  induction rounds generalizing body responseBytes with
  | zero => exact absurd enough (Nat.not_lt_zero _)
  | succ rounds ih =>
      have kept := Reader.remaining_read body visitorStreamChunkBytes
      have nothing_left := @Reader.remaining_of_failure ρ _ body visitorStreamChunkBytes
      have cheaper := @Reader.budget_read ρ _ body visitorStreamChunkBytes (by decide)
      rw [bodyFrames_succ]
      generalize Reader.read body visitorStreamChunkBytes = read at kept nothing_left cheaper
      have stops (body : Bytes) (error : String) (given : error ≠ "") :
          EndsBody id body [] (errorFrame id error) := .inr ⟨error, given, rfl⟩
      by_cases long : read.bytes ≠ [] ∧ visitorMaxResponseBytes < responseBytes + read.bytes.length
      · refine ⟨[], errorFrame id tooLong, ?_, List.nil_prefix, few, stops _ _ (by decide)⟩
        simp only [if_neg long.1, if_pos long.2]
        rfl
      · have fits : responseBytes + read.bytes.length ≤ visitorMaxResponseBytes := by
          by_cases empty : read.bytes = []
          · rw [empty]
            exact few
          · exact Nat.not_lt.mp fun more => long ⟨empty, more⟩
        -- the frames after those of this read
        obtain ⟨pieces, last, rest, begun, bound, ends⟩ : ∃ pieces last,
            framesAfter id read.failure
              (bodyFrames id rounds read.next (responseBytes + read.bytes.length)) =
              pieces.map (Agent.chunkFrame id) ++ [last] ∧
            pieces.flatten <+: Reader.remaining read.next ∧
            responseBytes + read.bytes.length + pieces.flatten.length ≤ visitorMaxResponseBytes ∧
            EndsBody id (Reader.remaining read.next) pieces last := by
          cases failed : read.failure with
          | none => exact ih _ (Nat.lt_of_lt_of_le (cheaper failed) (Nat.le_of_lt_succ enough)) fits
          | some err =>
              have exhausted := nothing_left (by rw [failed]; exact Option.some_ne_none _)
              by_cases eof : err = .eof
              · subst eof
                exact ⟨[], endFrame id, rfl, List.nil_prefix, fits, .inl ⟨rfl, exhausted.symm⟩⟩
              · refine ⟨[], errorFrame id ("read local service response: " ++ err.text), ?_,
                  List.nil_prefix, fits, stops _ _ ?_⟩
                · cases err <;> first | rfl | exact absurd rfl eof
                · intro none
                  have length := congrArg String.length none
                  rw [String.length_append] at length
                  exact absurd length (by simp)
        by_cases empty : read.bytes = []
        · rw [empty, List.nil_append] at kept
          rw [empty, List.length_nil, Nat.add_zero] at bound
          refine ⟨pieces, last, ?_, kept ▸ begun, bound, kept ▸ ends⟩
          simp only [if_pos empty]
          exact rest
        · refine ⟨read.bytes :: pieces, last, ?_, ?_, ?_, ?_⟩
          · simp only [if_neg empty, if_neg (Nat.not_lt.mpr fits)]
            exact congrArg _ rest
          · rw [kept, List.flatten_cons]
            exact (List.prefix_append_right_inj _).mpr begun
          · rw [List.flatten_cons, List.length_append]
            omega
          · rw [kept]
            exact ends.imp (fun both => ⟨both.1, by rw [List.flatten_cons, both.2]⟩) fun error => error

end Frames

/-! ## What the stream makes of an answer -/

namespace ResponseStream

variable {browser : Browser} {stream : ResponseStream} {messages : List VisitorWebRTCDataMessage}
variable {start last : VisitorWebRTCDataMessage} {id : String} {pieces : List Bytes}

/-- Nothing is read from a closed port. -/
theorem foldl_of_deaf (deaf : stream.listening = false) :
    messages.foldl (onmessage browser) stream = stream := by
  induction messages with
  | nil => rfl
  | cons message rest ih =>
      rw [List.foldl_cons, onmessage, if_pos deaf]
      exact ih

/-- The stream after a start and some pieces. -/
def opened (start : VisitorWebRTCDataMessage) (pieces : List Bytes) : ResponseStream where
  info := some start
  total := pieces.flatten.length
  parts := if isRewriteable start.headers then pieces else []
  enqueued := if isRewriteable start.headers then [] else pieces
  started := some (.ok start)

theorem onmessage_chunk (bytes : Bytes)
    (few : (pieces ++ [bytes]).flatten.length ≤ maxProxyResponseBytes) :
    (opened start pieces).onmessage browser (Agent.chunkFrame id bytes) =
      opened start (pieces ++ [bytes]) := by
  have total : (pieces ++ [bytes]).flatten.length = pieces.flatten.length + bytes.length := by simp
  have read : (opened start pieces).onmessage browser (Agent.chunkFrame id bytes) =
      (Base64.atob (Base64.encodeToString bytes)).elim (opened start pieces)
        (opened start pieces).chunk := by
    unfold onmessage
    have kind : (Agent.chunkFrame id bytes).kind = "response_chunk" := rfl
    rw [if_neg Bool.noConfusion, kind, if_neg (by decide), if_pos rfl]
    rfl
  rw [read, Base64.atob_encodeToString, Option.elim_some]
  unfold chunk
  have fits : ¬ maxProxyResponseBytes < (opened start pieces).total + bytes.length :=
    Nat.not_lt.mpr (total ▸ few)
  have headers : (opened start pieces).headers = start.headers := rfl
  cases kind : isRewriteable start.headers <;>
    simp [opened, ResponseStream.headers, kind] at fits ⊢ <;> simp [fits]

/-- A start and some pieces, which fit into a response. -/
theorem consume_pieces (kind : start.kind = "response_start")
    (few : pieces.flatten.length ≤ maxProxyResponseBytes) :
    consume browser (start :: pieces.map (Agent.chunkFrame id)) = opened start pieces := by
  induction pieces using List.reverseRecOn with
  | nil =>
      show onmessage browser {} start = _
      unfold onmessage
      rw [if_neg (by decide), if_pos kind]
      simp [settle, opened]
  | append_singleton pieces bytes ih =>
      have fewer : pieces.flatten.length ≤ maxProxyResponseBytes := by
        rw [List.flatten_append, List.length_append] at few
        omega
      have split : start :: (pieces ++ [bytes]).map (Agent.chunkFrame id) =
          (start :: pieces.map (Agent.chunkFrame id)) ++ [Agent.chunkFrame id bytes] := by simp
      rw [split, consume, List.foldl_append]
      show onmessage browser (consume browser _) _ = _
      rw [ih fewer]
      exact onmessage_chunk bytes few

/-- The frame that ends an answer; nothing is read after it. -/
theorem consume_last {before : List VisitorWebRTCDataMessage} (after : List VisitorWebRTCDataMessage)
    (final : Last last)
    (listening : (consume browser before).listening = true) :
    consume browser (before ++ last :: after) = (consume browser before).finish browser last.error := by
  have kind : last.kind = "response_end" := final
  have ends : onmessage browser (consume browser before) last =
      (consume browser before).finish browser last.error := by
    unfold onmessage
    rw [listening, if_neg Bool.noConfusion, kind, if_neg (by decide), if_neg (by decide), if_pos rfl]
  have deaf : ((consume browser before).finish browser last.error).listening = false := by
    unfold finish
    dsimp only
    split
    · split <;> rfl
    · split
      · rfl
      · split <;> rfl
  rw [consume, List.foldl_append, List.foldl_cons]
  show after.foldl (onmessage browser) (onmessage browser (consume browser before) last) = _
  rw [ends]
  exact foldl_of_deaf deaf

theorem finish_opened : (opened start pieces).finish browser "" =
    { opened start pieces with
      listening := false
      enqueued := if isRewriteable start.headers then [browser.rewriteBody pieces.flatten start.headers]
        else pieces
      controller := .closed } := by
  unfold finish
  cases kind : isRewriteable start.headers <;> simp [opened, headers, kind]

theorem finish_failed {error : String} (failed : error ≠ "") :
    (opened start pieces).finish browser error =
      { opened start pieces with
        listening := false
        controller := .errored error } := by
  unfold finish
  rw [if_pos failed]
  rfl

end ResponseStream

section Answers

variable {ρ : Type} [Reader ρ] [CaseTable] {browser : Browser} {id : String} {stream : ResponseStream}
variable {response : HTTPResponse ρ} {pieces : List Bytes}

/-- A stream with a beginning of the body of a response, which is the whole body if the stream has been
closed.  A body that is rewritten comes as a whole. -/
structure Delivers (browser : Browser) (response : HTTPResponse ρ) (body : List Bytes)
    (controller : Controller) : Prop where
  begun : isRewriteable (visitorResponseHeaders response.header) = false →
    body.flatten <+: Reader.remaining response.body ∧
      (controller = .closed → body.flatten = Reader.remaining response.body)
  rewritten : isRewriteable (visitorResponseHeaders response.header) = true →
    body = if controller = .closed then
      [browser.rewriteBody (Reader.remaining response.body) (visitorResponseHeaders response.header)]
      else []

/-- The stream is started with the status and the headers of the local service, and has its body. -/
structure Relays (browser : Browser) (id : String) (response : HTTPResponse ρ) (stream : ResponseStream) :
    Prop extends Delivers browser response stream.enqueued stream.controller where
  started : stream.started = some (.ok (Agent.startFrame id response))

/-- Nothing but an error comes of the fetch. -/
structure Unanswered (stream : ResponseStream) : Prop where
  info : stream.info = none
  started : ∀ outcome, stream.started = some outcome → ∃ message, message ≠ "" ∧ outcome = .error message

/-- The fetch has come to an end, and so has its stream if there is one. -/
structure Settled (stream : ResponseStream) : Prop where
  started : stream.started ≠ none
  controller : ∀ start, stream.started = some (.ok start) → stream.controller ≠ .readable

omit [Reader ρ] in
theorem headers_startFrame (id : String) (response : HTTPResponse ρ) :
    (Agent.startFrame id response).headers = visitorResponseHeaders response.header := rfl

theorem relays_opened (begun : pieces.flatten <+: Reader.remaining response.body) :
    Relays browser id response (.opened (Agent.startFrame id response) pieces) where
  started := rfl
  begun plain := by
    simp only [ResponseStream.opened, headers_startFrame, plain, Bool.false_eq_true, if_false]
    exact ⟨begun, nofun⟩
  rewritten kind := by
    simp only [ResponseStream.opened, headers_startFrame, kind, if_true, reduceCtorEq, if_false]

theorem relays_failed (begun : pieces.flatten <+: Reader.remaining response.body) {error : String}
    (failed : error ≠ "") :
    Relays browser id response
      ((ResponseStream.opened (Agent.startFrame id response) pieces).finish browser error) := by
  rw [ResponseStream.finish_failed failed]
  have opened : Relays browser id response _ := relays_opened begun
  exact ⟨⟨fun plain => ⟨(opened.begun plain).1, nofun⟩, fun kind => opened.rewritten kind⟩, opened.started⟩

theorem relays_closed (whole : pieces.flatten = Reader.remaining response.body) :
    Relays browser id response
      ((ResponseStream.opened (Agent.startFrame id response) pieces).finish browser "") := by
  rw [ResponseStream.finish_opened, headers_startFrame]
  refine ⟨⟨fun plain => ?_, fun kind => ?_⟩, rfl⟩
  · rw [plain, if_neg Bool.noConfusion]
    exact ⟨whole ▸ List.prefix_refl _, fun _ => whole⟩
  · rw [kind, if_pos rfl, if_pos rfl, whole]

variable [HTTPTable] {service : LocalService ρ} {request : VisitorStreamRequest}
variable {before frames received posted messages : List VisitorWebRTCDataMessage}
variable {last last' : VisitorWebRTCDataMessage}

/-- What comes of a fetch is the response to it, or nothing. -/
def Honest (service : LocalService ρ) (browser : Browser) (id : String) (request : VisitorStreamRequest)
    (stream : ResponseStream) : Prop :=
  Unanswered stream ∨ ∃ httpRequest response,
    streamHTTPRequest service.order service.host service.port request = .ok httpRequest ∧
    service.respond httpRequest = .ok response ∧ Relays browser id response stream

omit [Reader ρ] [CaseTable] [HTTPTable] in
theorem prefix_of_unfinished (short : before <+: frames ++ [last]) (going : ∀ message ∈ before, ¬ Last message)
    (final : Last last) : before <+: frames := by
  rcases List.prefix_concat_iff.mp short with whole | within
  · exact absurd final (going last (whole ▸ by simp))
  · exact within

omit [Reader ρ] [CaseTable] [HTTPTable] in
theorem eq_of_finished (short : before ++ [last'] <+: frames ++ [last]) (final : Last last')
    (going : ∀ message ∈ frames, ¬ Last message) : before = frames ∧ last' = last := by
  rcases List.prefix_concat_iff.mp short with whole | within
  · obtain ⟨same, single⟩ := List.append_inj' whole rfl
    exact ⟨same, List.singleton_inj.mp single⟩
  · exact absurd final (going last' (within.subset (by simp)))

/-- The frame reports no error. -/
def quiet (frame : VisitorWebRTCDataMessage) : Bool := frame.error = ""

/-- The frames that are due for a request: one that says why there is no response, or the response. -/
inductive Due (service : LocalService ρ) (id : String) (request : VisitorStreamRequest) :
    List VisitorWebRTCDataMessage → Prop
  | refused (last : VisitorWebRTCDataMessage) (final : Last last) : Due service id request [last]
  | response (httpRequest : HTTPRequest) (response : HTTPResponse ρ) (pieces : List Bytes)
      (last : VisitorWebRTCDataMessage)
      (asked : streamHTTPRequest service.order service.host service.port request = .ok httpRequest)
      (answer : service.respond httpRequest = .ok response)
      (begun : pieces.flatten <+: Reader.remaining response.body)
      (few : pieces.flatten.length ≤ visitorMaxResponseBytes)
      (ends : EndsBody id (Reader.remaining response.body) pieces last) :
      Due service id request
        (Agent.startFrame id response :: pieces.map (Agent.chunkFrame id) ++ [last])

theorem due_execute [MessageJSON] :
    Due service id request ((Agent.Action.visitorStreamRequest id request).due service) := by
  unfold Agent.Action.due
  dsimp only
  split
  · exact .refused _ rfl
  · rename_i httpRequest asked
    split
    · exact .refused _ rfl
    · rename_i response answer
      obtain ⟨pieces, last, frames, begun, few, ends⟩ :=
        @bodyFrames_eq ρ _ id _ _ 0 (Nat.lt_succ_self (Reader.budget response.body)) (Nat.zero_le _)
      rw [frames, ← List.cons_append]
      exact .response httpRequest response pieces last asked answer begun (by omega) ends

omit [Reader ρ] [HTTPTable] in
theorem going_frames (message : VisitorWebRTCDataMessage)
    (member : message ∈ Agent.startFrame id response :: pieces.map (Agent.chunkFrame id)) :
    ¬ Last message ∧ quiet message = true := by
  rcases List.mem_cons.mp member with rfl | chunk
  · exact ⟨(by decide : ("response_start" : String) ≠ "response_end"), rfl⟩
  · obtain ⟨piece, -, rfl⟩ := List.mem_map.mp chunk
    exact ⟨(by decide : ("response_chunk" : String) ≠ "response_end"), rfl⟩

/-- What an agent has sent with an ID: apart from frames that report errors, a beginning of what is due. -/
structure Sound (due received : List VisitorWebRTCDataMessage) : Prop where
  begun : received.filter quiet <+: due.filter quiet
  final : ∀ frame ∈ received, quiet frame = false → Last frame

omit [Reader ρ] [CaseTable] [HTTPTable] in
/-- Before the answer ends there are no errors. -/
theorem Sound.unfinished {due : List VisitorWebRTCDataMessage} (sound : Sound due received)
    (short : before <+: received) (going : ∀ message ∈ before, ¬ Last message) :
    before <+: due.filter quiet := by
  have same : before.filter quiet = before := by
    refine List.filter_eq_self.mpr fun message member => ?_
    by_contra loud
    exact going message member
      (sound.final message (short.subset member) (Bool.eq_false_of_not_eq_true loud))
  exact same ▸ (short.filter quiet).trans sound.begun

omit [Reader ρ] [HTTPTable] in
theorem filter_due : (Agent.startFrame id response :: pieces.map (Agent.chunkFrame id) ++ [last]).filter
    quiet = Agent.startFrame id response :: pieces.map (Agent.chunkFrame id) ++ [last].filter quiet := by
  rw [List.filter_append]
  exact congrArg (· ++ _) (List.filter_eq_self.mpr fun message member => (going_frames message member).2)

omit [Reader ρ] [CaseTable] [HTTPTable] in
theorem filter_singleton_begins (frame : VisitorWebRTCDataMessage) : [frame].filter quiet <+: [frame] := by
  cases loud : quiet frame with
  | true => rw [List.filter_cons_of_pos loud]; rfl
  | false => rw [List.filter_cons_of_neg (by rw [loud]; simp)]; exact List.nil_prefix

omit [Reader ρ] [HTTPTable] in
/-- A beginning of a response is empty, or has its start and some of the pieces. -/
theorem begun_cases (short : before <+: Agent.startFrame id response :: pieces.map (Agent.chunkFrame id)) :
    before = [] ∨ ∃ some, some <+: pieces ∧
      before = Agent.startFrame id response :: some.map (Agent.chunkFrame id) := by
  cases before with
  | nil => exact .inl rfl
  | cons frame rest =>
      obtain ⟨rfl, rest_short⟩ := List.cons_prefix_cons.mp short
      obtain ⟨some, within, rfl⟩ := List.prefix_map_iff.mp rest_short
      exact .inr ⟨some, within, rfl⟩

omit [Reader ρ] [CaseTable] [HTTPTable] in
theorem unanswered_new : Unanswered {} := ⟨rfl, nofun⟩

omit [Reader ρ] [CaseTable] [HTTPTable] in
/-- An answer that ends before it starts. -/
theorem unanswered_finish (error : String) :
    Unanswered (ResponseStream.finish browser {} error) ∧
      Settled (ResponseStream.finish browser {} error) := by
  unfold ResponseStream.finish
  have settles (message : String) (given : message ≠ "") (listening : Bool) :
      Unanswered (ResponseStream.settle { listening := listening } (.error message)) ∧
        Settled (ResponseStream.settle { listening := listening } (.error message)) := by
    refine ⟨⟨rfl, ?_⟩, nofun, nofun⟩
    rintro outcome ⟨⟩
    exact ⟨message, given, rfl⟩
  by_cases failed : error ≠ ""
  · rw [if_pos failed]
    exact settles error failed false
  · rw [if_neg failed]
    exact settles _ (by decide) false

/-- The stream before the answer ends: it reads on, and an error ends it. -/
structure Unfinished (service : LocalService ρ) (browser : Browser) (id : String)
    (request : VisitorStreamRequest) (stream : ResponseStream) : Prop where
  honest : Honest service browser id request stream
  listening : stream.listening = true
  fails : ∀ error, error ≠ "" → Honest service browser id request (stream.finish browser error) ∧
    Settled (stream.finish browser error)

theorem unfinished_new : Unfinished service browser id request {} where
  honest := .inl unanswered_new
  listening := rfl
  fails error _ := ⟨.inl (unanswered_finish error).1, (unanswered_finish error).2⟩

theorem unfinished_opened {httpRequest : HTTPRequest}
    (asked : streamHTTPRequest service.order service.host service.port request = .ok httpRequest)
    (answer : service.respond httpRequest = .ok response)
    (begun : pieces.flatten <+: Reader.remaining response.body) :
    Unfinished service browser id request (.opened (Agent.startFrame id response) pieces) where
  honest := .inr ⟨httpRequest, response, asked, answer, relays_opened begun⟩
  listening := rfl
  fails error failed := by
    refine ⟨.inr ⟨httpRequest, response, asked, answer, relays_failed begun failed⟩, ?_⟩
    rw [ResponseStream.finish_failed failed]
    exact ⟨nofun, fun _ _ => nofun⟩

omit [CaseTable] [HTTPTable] in
theorem EndsBody.final {body : Bytes} (ends : EndsBody id body pieces last) : Last last := by
  rcases ends with ⟨rfl, -⟩ | ⟨error, -, rfl⟩ <;> rfl

theorem unfinished_of_begun {due : List VisitorWebRTCDataMessage} (is_due : Due service id request due)
    (short : before <+: due.filter quiet) (going : ∀ message ∈ before, ¬ Last message) :
    Unfinished service browser id request (.consume browser before) := by
  cases is_due with
  | refused last final =>
      have none : before = [] := by
        refine List.eq_nil_iff_forall_not_mem.mpr fun message member => ?_
        have only := List.mem_of_mem_filter (short.subset member)
        rw [List.mem_singleton] at only
        exact going message member (only ▸ final)
      exact none ▸ unfinished_new
  | response httpRequest response pieces last asked answer begun few ends =>
      rw [filter_due] at short
      have short := short.trans ((List.prefix_append_right_inj _).mpr (filter_singleton_begins last))
      rcases begun_cases (prefix_of_unfinished short going ends.final) with rfl | ⟨some, within, rfl⟩
      · exact unfinished_new
      · have bytes : some.flatten <+: Reader.remaining response.body := within.flatten.trans begun
        rw [ResponseStream.consume_pieces rfl (within.flatten.length_le.trans few)]
        exact unfinished_opened asked answer bytes

/-- The end of the answer, without an error. -/
theorem finished_of_begun {due : List VisitorWebRTCDataMessage} (is_due : Due service id request due)
    (short : before ++ [last] <+: due.filter quiet) (final : Last last)
    (going : ∀ message ∈ before, ¬ Last message) (none : last.error = "") :
    Honest service browser id request ((ResponseStream.consume browser before).finish browser "") ∧
      Settled ((ResponseStream.consume browser before).finish browser "") := by
  cases is_due with
  | refused other _ =>
      have short : before ++ [last] <+: [] ++ [other] := short.trans (filter_singleton_begins other)
      obtain ⟨rfl, -⟩ := eq_of_finished short final nofun
      exact ⟨.inl (unanswered_finish "").1, (unanswered_finish "").2⟩
  | response httpRequest response pieces other asked answer begun few ends =>
      rw [filter_due] at short
      have short := short.trans ((List.prefix_append_right_inj _).mpr (filter_singleton_begins other))
      obtain ⟨rfl, rfl⟩ := eq_of_finished short final fun message member => (going_frames message member).1
      rcases ends with ⟨-, whole⟩ | ⟨error, failed, rfl⟩
      · rw [ResponseStream.consume_pieces rfl few]
        refine ⟨.inr ⟨httpRequest, response, asked, answer, relays_closed whole⟩, ?_⟩
        rw [ResponseStream.finish_opened]
        exact ⟨nofun, fun _ _ => nofun⟩
      · exact absurd none failed

/-- What the page posts for a fetch tells the browser about the response to it, and nothing else. -/
theorem honest_of_posted {due : List VisitorWebRTCDataMessage} (is_due : Due service id request due)
    (sound : Sound due received) (answered : Going received posted ∨ Answered received posted)
    (read : messages <+: posted) :
    Honest service browser id request (.consume browser messages) ∧
      (Answered received posted → messages = posted → Settled (.consume browser messages)) := by
  have unfinished {before : List VisitorWebRTCDataMessage} (short : before <+: received)
      (going : ∀ message ∈ before, ¬ Last message) :
      Unfinished service browser id request (.consume browser before) :=
    unfinished_of_begun is_due (sound.unfinished short going) going
  rcases answered with going | answered
  · have short : messages <+: received := going.1 ▸ read
    refine ⟨(unfinished short fun message member => going.2 message (read.subset member)).honest, ?_⟩
    rintro ⟨before, last, after, rfl, -, final, -⟩
    exact absurd final (going.2 last (by simp))
  · obtain ⟨before, last, after, rfl, going, final, origin⟩ := answered
    have begun : before <+: received := origin.elim (List.prefix_append _ _).trans And.left
    have ended : Honest service browser id request
          ((ResponseStream.consume browser before).finish browser last.error) ∧
        Settled ((ResponseStream.consume browser before).finish browser last.error) := by
      by_cases failed : last.error = ""
      · have whole : before ++ [last] <+: received := origin.resolve_right fun own => own.2 failed
        have both : (before ++ [last]).filter quiet = before ++ [last] := by
          have loud : quiet last = true := decide_eq_true failed
          rw [List.filter_append, List.filter_cons_of_pos loud, List.filter_nil]
          refine congrArg (· ++ _) (List.filter_eq_self.mpr fun message member => ?_)
          by_contra loud
          exact going message member
            (sound.final message (begun.subset member) (Bool.eq_false_of_not_eq_true loud))
        rw [failed]
        exact finished_of_begun is_due (both ▸ (whole.filter quiet).trans sound.begun) final going failed
      · exact (unfinished begun going).fails _ failed
    have consumed (rest : List VisitorWebRTCDataMessage) :=
      ResponseStream.consume_last rest final (unfinished begun going).listening
    constructor
    · -- the worker has not read the last frame yet, or it has
      rcases List.prefix_or_prefix_of_prefix read (List.prefix_append before _) with short | ⟨rest, rfl⟩
      · exact (unfinished (short.trans begun) fun message member => going message (short.subset member)).honest
      · have more := (List.prefix_append_right_inj _).mp read
        cases rest with
        | nil =>
            rw [List.append_nil]
            exact (unfinished begun going).honest
        | cons frame rest =>
            obtain ⟨rfl, -⟩ := List.cons_prefix_cons.mp more
            exact consumed rest ▸ ended.1
    · rintro - rfl
      exact consumed after ▸ ended.2

end Answers

/-! ## What the browser makes of it -/

section Fetches

variable {ρ : Type} [Reader ρ] [CaseTable] {browser : Browser} {stream : ResponseStream}
variable {response : HTTPResponse ρ}

/-- What the browser gets of a response of the local service.  Headers that it refuses and a status that
goes with no body leave a text, since the stream is given to every response: a 204 comes as a 502.  A
status out of range is replaced. -/
inductive Gets (browser : Browser) (response : HTTPResponse ρ) : Fetched → Prop
  | refused (message : String)
      (refuses : browser.refusedHeaders (visitorResponseHeaders response.header) = some message) :
      Gets browser response (.badGateway message)
  | bodiless (accepts : browser.refusedHeaders (visitorResponseHeaders response.header) = none)
      (status : response.statusCode = 204 ∨ response.statusCode = 205 ∨ response.statusCode = 304) :
      Gets browser response (.badGateway browser.nullBody)
  | response (body : List Bytes) (controller : Controller)
      (accepts : browser.refusedHeaders (visitorResponseHeaders response.header) = none)
      (valid : 200 ≤ response.statusCode ∧ response.statusCode ≤ 599)
      (status : response.statusCode ≠ 204 ∧ response.statusCode ≠ 205 ∧ response.statusCode ≠ 304)
      (delivers : Delivers browser response body controller) :
      Gets browser response
        (.response response.statusCode (visitorResponseHeaders response.header) body controller)
  | replaced (body : List Bytes) (controller : Controller)
      (accepts : browser.refusedHeaders (visitorResponseHeaders response.header) = none)
      (invalid : ¬ (200 ≤ response.statusCode ∧ response.statusCode ≤ 599))
      (delivers : Delivers browser response body controller) :
      Gets browser response (.response 502 (visitorResponseHeaders response.header) body controller)

theorem gets_newResponse (id : String) {body : List Bytes} {controller : Controller}
    (delivers : Delivers browser response body controller) :
    Gets browser response (browser.newResponse (Agent.startFrame id response) body controller) := by
  unfold Browser.newResponse
  split
  · rename_i message refuses
    exact .refused message refuses
  · rename_i accepts
    have status : (Agent.startFrame id response).status = response.statusCode := rfl
    by_cases valid : 200 ≤ response.statusCode ∧ response.statusCode ≤ 599
    · rw [status, validStatus, if_pos valid]
      by_cases bodiless : response.statusCode = 204 ∨ response.statusCode = 205 ∨ response.statusCode = 304
      · have null : isNullBodyStatus response.statusCode = true := by
          rcases bodiless with same | same | same <;> rw [same] <;> rfl
        rw [if_pos null]
        exact .bodiless accepts bodiless
      · have body : isNullBodyStatus response.statusCode = false := by
          unfold isNullBodyStatus
          simp only [List.contains_eq_mem, List.mem_cons, List.not_mem_nil, or_false, decide_eq_false_iff_not]
          omega
        rw [body, if_neg Bool.false_ne_true]
        exact .response _ _ accepts valid (by simpa only [not_or] using bodiless) delivers
    · rw [status, validStatus, if_neg valid, if_neg (by decide)]
      exact .replaced _ _ accepts valid delivers

variable [HTTPTable] {service : LocalService ρ} {id : String} {request : VisitorStreamRequest}

/-- What the browser has of a fetch: as long as no response has started, nothing or an error; then what it
gets of the response with which the local service answers this request. -/
inductive Shows (service : LocalService ρ) (browser : Browser) (request : VisitorStreamRequest)
    (stream : ResponseStream) : Prop
  | unanswered (unstarted : stream.info = none)
      (error : ∀ fetched, stream.fetched browser = some fetched →
        ∃ message, message ≠ "" ∧ fetched = .badGateway message)
  | answered (httpRequest : HTTPRequest) (response : HTTPResponse ρ) (fetched : Fetched)
      (asked : streamHTTPRequest service.order service.host service.port request = .ok httpRequest)
      (answer : service.respond httpRequest = .ok response)
      (outcome : stream.fetched browser = some fetched) (gets : Gets browser response fetched)

/-- Nothing more comes of the fetch. -/
def Fetched.Ended : Fetched → Prop
  | .response _ _ _ controller => controller ≠ .readable
  | .badGateway _ => True

theorem Honest.shows (honest : Honest service browser id request stream) :
    Shows service browser request stream := by
  rcases honest with nothing | ⟨httpRequest, response, asked, answer, relays⟩
  · refine .unanswered nothing.info fun fetched outcome => ?_
    obtain ⟨started, settled, rfl⟩ := Option.map_eq_some_iff.mp outcome
    obtain ⟨message, given, rfl⟩ := nothing.started started settled
    exact ⟨message, given, rfl⟩
  · refine .answered httpRequest response _ asked answer ?_ (gets_newResponse id relays.toDelivers)
    rw [ResponseStream.fetched, relays.started]
    rfl

omit [CaseTable] [HTTPTable] [Reader ρ] in
theorem Settled.ended (settled : Settled stream) :
    ∃ fetched, stream.fetched browser = some fetched ∧ fetched.Ended := by
  obtain ⟨outcome, started⟩ := Option.ne_none_iff_exists'.mp settled.started
  unfold ResponseStream.fetched
  rw [started]
  refine ⟨_, rfl, ?_⟩
  cases outcome with
  | error message => trivial
  | ok start =>
      have closed := settled.controller start started
      dsimp only
      unfold Browser.newResponse
      split
      · trivial
      · split
        · trivial
        · exact closed

end Fetches

end NryNet.Visitor

import NryNet.Agent.VisitorMessage
import NryNet.Lib.Base64

/-!
# Streamed requests of visitors (`client/agent/visitor_stream.go`)

A `visitorDataSession` reads the frames of one data channel, one after the other.  A request that does not
fit into one frame is streamed: a `request_start` opens it under its ID, each `request_chunk` adds some
bytes to its body, and its `request_end` takes it out of the map and hands it to a worker.  The frames of
different requests may be interleaved in any way.

## The model

An `Event` is a frame, or the call of `close`, which may come between any two of them.  Whether a slot is
free when a frame asks for one depends on the workers and on the other sessions of the agent, so it comes
with the frame; the slots themselves are counted in another module.  What `handle` does apart from changing
the session is a list of `Action`s.
-/

namespace NryNet.Agent

open ByteStream GoText

/-- `visitorStreamRequest`. -/
structure VisitorStreamRequest where
  method : String
  path : String
  headers : Header
  body : Bytes
  deriving DecidableEq

/-- `visitorDataSession`, the part that its mutex guards. -/
structure VisitorDataSession where
  closed : Bool := false
  requests : GoMap String VisitorStreamRequest := ∅

/-- What the session sends, and the workers it starts. -/
inductive Action where
  | sendErrorForID (id message : String)
  | visitorRequest (data : Bytes)
  | visitorStreamRequest (id : String) (request : VisitorStreamRequest)

/-- The streamed requests with an ID that are handed to workers. -/
def executed (id : String) (actions : List Action) : List VisitorStreamRequest :=
  actions.filterMap fun
    | .visitorStreamRequest other request => if other = id then some request else none
    | _ => none

/-- The request that a `request_start` opens, when some of its body has arrived. -/
def VisitorWebRTCDataMessage.opened (message : VisitorWebRTCDataMessage) (body : Bytes) :
    VisitorStreamRequest :=
  ⟨message.method, message.path, message.headers, body⟩

namespace VisitorDataSession

/-- `close`. -/
def close (s : VisitorDataSession) : VisitorDataSession :=
  if s.closed then s else { closed := true, requests := ∅ }

/-- The checks of `start` in front of the one for a slot. -/
def startError (s : VisitorDataSession) (message : VisitorWebRTCDataMessage) : Option String :=
  if message.id = "" ∨ message.method = "" then some "request id and method are required"
  else if s.closed then some "context canceled"
  else if (s.requests.lookup message.id).isSome then some "duplicate visitor request id"
  else none

/-- `s.requests[message.ID] = …`. -/
def insert (s : VisitorDataSession) (message : VisitorWebRTCDataMessage) : VisitorDataSession :=
  { s with requests := s.requests.insert message.id (message.opened []) }

/-- `start`. -/
def start (s : VisitorDataSession) (message : VisitorWebRTCDataMessage) (free : Bool) :
    VisitorDataSession × Option String :=
  match s.startError message with
  | some err => (s, some err)
  | none => if free then (s.insert message, none) else (s, some "too many visitor requests")

/-- `delete(s.requests, id)`. -/
def remove (s : VisitorDataSession) (id : String) : VisitorDataSession :=
  { s with requests := s.requests.erase id }

/-- `removeAndError`. -/
def removeAndError (s : VisitorDataSession) (id message : String) :
    VisitorDataSession × List Action :=
  (s.remove id, [.sendErrorForID id message])

/-- The request has no room for some more bytes. -/
def tooLarge (request : VisitorStreamRequest) (chunk : Bytes) : Bool :=
  visitorMaxRequestBytes < request.body.length + chunk.length

/-- `request.body.Write(chunk)`. -/
def write (s : VisitorDataSession) (id : String) (request : VisitorStreamRequest) (chunk : Bytes) :
    VisitorDataSession :=
  { s with requests := s.requests.insert id { request with body := request.body ++ chunk } }

/-- `chunk`. -/
def chunk (s : VisitorDataSession) (message : VisitorWebRTCDataMessage) :
    VisitorDataSession × List Action :=
  match Base64.decodeString message.body with
  | none => s.removeAndError message.id "invalid request chunk"
  | some chunk =>
      match s.requests.lookup message.id with
      | none => (s, [.sendErrorForID message.id "visitor request was not started"])
      | some request =>
          if tooLarge request chunk then
            s.removeAndError message.id s!"request body exceeds {visitorMaxRequestBytes} bytes"
          else (s.write message.id request chunk, [])

/-- `end`. -/
def endRequest (s : VisitorDataSession) (message : VisitorWebRTCDataMessage) :
    VisitorDataSession × List Action :=
  match s.requests.lookup message.id with
  | none => (s.remove message.id, [.sendErrorForID message.id "visitor request was not started"])
  | some request => (s.remove message.id, [.visitorStreamRequest message.id request])

/-- The switch of `handle`. -/
def dispatch (s : VisitorDataSession) (data : Bytes) (message : VisitorWebRTCDataMessage)
    (free : Bool) : VisitorDataSession × List Action :=
  if message.kind = "request" then
    if s.closed ∨ free = false then (s, [.sendErrorForID message.id "too many visitor requests"])
    else (s, [.visitorRequest data])
  else if message.kind = "request_start" then
    ((s.start message free).1, ((s.start message free).2.map (.sendErrorForID message.id)).toList)
  else if message.kind = "request_chunk" then s.chunk message
  else if message.kind = "request_end" then s.endRequest message
  else (s, [.sendErrorForID "" "unknown visitor request frame"])

/-- `handle`. -/
def handle [MessageJSON] (s : VisitorDataSession) (data : Bytes) (free : Bool) :
    VisitorDataSession × List Action :=
  if visitorMaxMessageBytes < data.length then
    (s, [.sendErrorForID "" "request frame is too large"])
  else
    match MessageJSON.unmarshal data with
    | none => (s, [.sendErrorForID "" "invalid visitor request frame"])
    | some message => s.dispatch data message free

end VisitorDataSession

/-- A frame, with whether there is a free slot for it, or the end of the session. -/
inductive Event where
  | frame (data : Bytes) (free : Bool)
  | close

namespace VisitorDataSession

variable [MessageJSON]

/-- One event. -/
def step (s : VisitorDataSession) : Event → VisitorDataSession × List Action
  | .frame data free => s.handle data free
  | .close => (s.close, [])

/-- The session after some events. -/
def after (s : VisitorDataSession) (events : List Event) : VisitorDataSession :=
  events.foldl (fun s event => (s.step event).1) s

/-- What the session does in the course of some events. -/
def run : VisitorDataSession → List Event → List Action
  | _, [] => []
  | s, event :: rest => (s.step event).2 ++ (s.step event).1.run rest

end VisitorDataSession

/-- What a worker of `end` asks the local service for: `execute` up to the call of `Do`. -/
def streamHTTPRequest [CaseTable] [HTTPTable] (order : GoMap.RangeOrder String (List String))
    (host : String) (port : ℤ) (request : VisitorStreamRequest) : Except String HTTPRequest :=
  match visitorTargetURL host port request.path with
  | .error err => .error err
  | .ok target =>
      match newRequest request.method target request.body with
      | .error err => .error err
      | .ok httpRequest =>
          .ok { httpRequest with
            header := copyVisitorStreamHeaders order httpRequest.header request.headers }

/-! ## The map of a session -/

namespace VisitorDataSession

variable {s : VisitorDataSession} {message : VisitorWebRTCDataMessage} {id : String}

/-- A closed session has no requests. -/
def Shut (s : VisitorDataSession) : Prop :=
  s.closed = true → s.requests = ∅

theorem startError_eq_none : s.startError message = none ↔
    message.id ≠ "" ∧ message.method ≠ "" ∧ s.closed = false ∧ s.requests.lookup message.id = none := by
  unfold startError
  split
  · rename_i missing
    refine ⟨nofun, fun given => ?_⟩
    rcases missing with none | none
    · exact absurd none given.1
    · exact absurd none given.2.1
  · rename_i complete
    rw [not_or] at complete
    split
    · rename_i closed
      refine ⟨nofun, fun given => ?_⟩
      rw [given.2.2.1] at closed
      cases closed
    · rename_i alive
      split
      · rename_i duplicate
        refine ⟨nofun, fun given => ?_⟩
        rw [given.2.2.2] at duplicate
        cases duplicate
      · rename_i fresh
        exact ⟨fun _ => ⟨complete.1, complete.2, Bool.eq_false_of_not_eq_true alive,
          Option.not_isSome_iff_eq_none.mp fresh⟩, fun _ => rfl⟩

theorem lookup_remove (other : String) : (s.remove other).requests.lookup id =
    if id = other then none else s.requests.lookup id :=
  GoMap.lookup_erase_if _ _ _

theorem lookup_insert : (s.insert message).requests.lookup id =
    if id = message.id then some (message.opened []) else s.requests.lookup id :=
  GoMap.lookup_insert_if _ _ _ _

theorem lookup_write (other : String) (request : VisitorStreamRequest) (chunk : Bytes) :
    (s.write other request chunk).requests.lookup id =
      if id = other then some { request with body := request.body ++ chunk }
      else s.requests.lookup id :=
  GoMap.lookup_insert_if _ _ _ _

/-- A worker for a request in one frame is given that frame. -/
theorem visitorRequest_of_handle [MessageJSON] {data other : Bytes} {free : Bool}
    (member : .visitorRequest other ∈ (s.handle data free).2) :
    other = data ∧ data.length ≤ visitorMaxMessageBytes ∧
      ∃ message, MessageJSON.unmarshal data = some message := by
  unfold handle at member
  split at member
  · simp at member
  · rename_i short
    split at member
    · simp at member
    · rename_i message received
      refine ⟨?_, Nat.not_lt.mp short, message, received⟩
      unfold dispatch at member
      split at member
      · split at member
        · simp at member
        · simpa using member
      · split at member
        · simp at member
        · split at member
          · unfold chunk removeAndError at member
            split at member
            · simp at member
            · split at member
              · simp at member
              · split at member <;> simp at member
          · split at member
            · unfold endRequest at member
              split at member <;> simp at member
            · simp at member

end VisitorDataSession

end NryNet.Agent

import NryNet.Lib.Bufio

/-!
# The handshake on a data connection (`server/relay/handshake.go`, `client/agent/relay.go`)

The agent opens a data connection and begins with one line of JSON, `DataHandshake`.  The broker reads
the line through a buffered reader, which may take more from the connection than the line, and then
relays what the buffered reader returns.

`encoding/json` is a parameter, `HandshakeJSON`.  What is assumed of it is the round trip of a handshake
with proper strings through its text and the newline that `Encode` puts behind it, and that the text is
one line.  The deadlines are left out.
-/

namespace NryNet.Relay.Wire

open ByteStream Bufio

/-- `protocol.DataHandshake`.  A string of the source is any sequence of bytes. -/
structure DataHandshake where
  token : Bytes
  deviceID : Bytes
  requestID : Bytes
  role : Bytes
  deriving DecidableEq, Repr

/-- `initialHandshake`. -/
structure InitialHandshake where
  role : Bytes
  token : Bytes
  deviceID : Bytes
  requestID : Bytes
  nodeID : Bytes
  tunnelID : Bytes
  visitorAddr : Bytes
  deriving DecidableEq, Repr

/-- `protocol.DataRoleWorkConnection`. -/
def dataRoleWorkConnection : Bytes := utf8 "work_connection"

def newline : UInt8 := 10

/-- The size of the buffer, and the limit of a line. -/
def handshakeLimit : ℕ := 4096

namespace DataHandshake

/-- The strings of the handshake are UTF-8. -/
def ValidUTF8 (handshake : DataHandshake) : Prop :=
  IsUTF8 handshake.token ∧ IsUTF8 handshake.deviceID ∧ IsUTF8 handshake.requestID ∧
    IsUTF8 handshake.role

/-- The fields that a handshake needs: only a work connection has no request yet. -/
structure Complete (handshake : DataHandshake) : Prop where
  token : handshake.token ≠ []
  deviceID : handshake.deviceID ≠ []
  requestID : handshake.role = dataRoleWorkConnection ∨ handshake.requestID ≠ []

/-- The handshake as the other side knows it. -/
def initial (handshake : DataHandshake) : InitialHandshake where
  role := handshake.role
  token := handshake.token
  deviceID := handshake.deviceID
  requestID := handshake.requestID
  nodeID := []
  tunnelID := []
  visitorAddr := []

end DataHandshake

/-- `json.Marshal` of what the agent sends and `json.Unmarshal` into what the broker expects. -/
structure HandshakeJSON where
  marshal : DataHandshake → Except String Bytes
  unmarshal : Bytes → Except String InitialHandshake

/-- The text of the handshake is one line, and is read back with its newline. -/
def HandshakeJSON.RoundTrips (json : HandshakeJSON) (handshake : DataHandshake) : Prop :=
  ∀ data, json.marshal handshake = .ok data →
    newline ∉ data ∧ json.unmarshal (data ++ [newline]) = .ok handshake.initial

section Handshake

variable {ρ σ : Type*} [Reader ρ] [Writer σ]

/-- `writeDataHandshakeContext`. -/
def writeDataHandshake (json : HandshakeJSON) (writer : σ) (handshake : DataHandshake) :
    σ × Except String Unit :=
  let buffered : BufWriter σ 4096 := .newWriter writer
  match json.marshal handshake with
  | .error reason => (writer, .error s!"write data handshake: {reason}")
  | .ok data =>
      let buffered := buffered.write (data ++ [newline])
      match buffered.failure with
      | some failure => (buffered.writer, .error s!"write data handshake: {failure.text}")
      | none =>
          let buffered := buffered.flush
          match buffered.failure with
          | some failure => (buffered.writer, .error failure.text)
          | none => (buffered.writer, .ok ())

/-- `readInitialHandshake`: the connection that is used from now on is the buffered reader. -/
def readInitialHandshake (json : HandshakeJSON) (conn : ρ) :
    Except String (BufReader ρ handshakeLimit × InitialHandshake) :=
  let line := BufReader.readSlice newline (.newReader conn : BufReader ρ handshakeLimit)
  match line.failure with
  | some failure => .error failure.text
  | none =>
      match json.unmarshal line.bytes with
      | .error reason => .error reason
      | .ok handshake =>
          if handshake.role = utf8 "relay_visitor" then .ok (line.next, handshake)
          else if handshake.token = [] ∨ handshake.deviceID = [] ∨
              (handshake.role ≠ dataRoleWorkConnection ∧ handshake.requestID = []) then
            .error "invalid data handshake"
          else .ok (line.next, handshake)

variable {json : HandshakeJSON} {handshake : DataHandshake} {data : Bytes}

/-- The agent writes the text and a newline. -/
theorem writeDataHandshake_buffer (marshaled : json.marshal handshake = .ok data)
    (written : Bytes) :
    writeDataHandshake json (Buffer.mk written) handshake =
      (⟨written ++ (data ++ [newline])⟩, .ok ()) := by
  obtain ⟨accepted, flushed⟩ := @BufWriter.flush_write_newWriter 4096 written (data ++ [newline])
  simp only [writeDataHandshake, marshaled, accepted, flushed]
  rfl

/-- A line that is the text of a handshake is read as that handshake, and the rest is left. -/
theorem readInitialHandshake_of_remaining [Prompt ρ] {conn : ρ} {payload : Bytes}
    (complete : handshake.Complete) (plain : newline ∉ data) (short : data.length < handshakeLimit)
    (decoded : json.unmarshal (data ++ [newline]) = .ok handshake.initial)
    (stream : Reader.remaining conn = (data ++ [newline]) ++ payload) :
    ∃ reader, readInitialHandshake json conn = .ok (reader, handshake.initial) ∧
      Reader.remaining reader = payload := by
  rw [List.append_assoc, List.singleton_append] at stream
  obtain ⟨succeeded, line, left⟩ := BufReader.readSlice_of_remaining
    (b := (.newReader conn : BufReader ρ handshakeLimit)) stream plain short
  refine ⟨_, ?_, left⟩
  simp only [readInitialHandshake, succeeded, line, decoded]
  split
  · rfl
  · rw [if_neg]
    rintro (token | deviceID | ⟨role, requestID⟩)
    · exact complete.token token
    · exact complete.deviceID deviceID
    · exact complete.requestID.elim role fun present => present requestID

/-- What is accepted begins with a line within the limit. -/
theorem newline_mem_of_readInitialHandshake {conn : ρ}
    {accepted : BufReader ρ handshakeLimit × InitialHandshake}
    (read : readInitialHandshake json conn = .ok accepted) :
    newline ∈ (Reader.remaining conn).take handshakeLimit := by
  cases failure :
      (BufReader.readSlice newline (.newReader conn : BufReader ρ handshakeLimit)).failure with
  | some failure => simp only [readInitialHandshake, failure] at read; cases read
  | none =>
      obtain ⟨kept, length_le, body, line, -⟩ := BufReader.slices_readSlice failure
      rw [BufReader.remaining_newReader] at kept
      rw [kept, List.take_append, List.take_of_length_le length_le, line]
      simp

/-- **The handshake on a data connection.**  A complete handshake with proper strings, whose line is
within the limit, is written without an error.  Whatever payload follows it and however the stream is
cut, the broker reads the same fields, and its connection then returns the payload: some of it in any
calls of `Read`, and all of it in enough calls.  A stream with no newline within the limit is
refused. -/
theorem data_handshake [Prompt ρ] (json : HandshakeJSON)
    (roundTrips : ∀ handshake, handshake.ValidUTF8 → json.RoundTrips handshake) :
    (∀ handshake : DataHandshake, handshake.ValidUTF8 → handshake.Complete →
      ∀ data, json.marshal handshake = .ok data → data.length + 1 ≤ handshakeLimit →
        writeDataHandshake json (Buffer.mk []) handshake = (⟨data ++ [newline]⟩, .ok ()) ∧
        ∀ (conn : ρ) (payload : Bytes), Reader.remaining conn = (data ++ [newline]) ++ payload →
          ∃ reader, readInitialHandshake json conn = .ok (reader, handshake.initial) ∧
            (∀ sizes, (readMany sizes reader).1 <+: payload) ∧
            ∃ enough, ∀ sizes : List ℕ, (∀ size ∈ sizes, 0 < size) → enough < sizes.length →
              (readMany sizes reader).1 = payload) ∧
    ∀ conn : ρ, newline ∉ (Reader.remaining conn).take handshakeLimit →
      ∃ reason, readInitialHandshake json conn = .error reason := by
  refine ⟨fun handshake valid complete data marshaled fits => ⟨?_, fun conn payload stream => ?_⟩,
    fun conn absent => ?_⟩
  · exact writeDataHandshake_buffer marshaled []
  · obtain ⟨plain, decoded⟩ := roundTrips handshake valid data marshaled
    obtain ⟨reader, read, rfl⟩ :=
      readInitialHandshake_of_remaining complete plain fits decoded stream
    refine ⟨reader, read, fun sizes => ?_, Reader.budget reader, fun sizes positive enough => ?_⟩
    · exact ⟨_, (remaining_readMany sizes reader).symm⟩
    · exact readMany_all positive enough
  · cases read : readInitialHandshake json conn with
    | error reason => exact ⟨reason, rfl⟩
    | ok accepted => exact absurd (newline_mem_of_readInitialHandshake read) absent

end Handshake

/-- The handshake of a connection for one request. -/
def requestHandshake : DataHandshake where
  token := utf8 "token"
  deviceID := utf8 "device"
  requestID := utf8 "request"
  role := []

/-- Its text. -/
def requestText : Bytes :=
  utf8 "\x7b\"token\":\"token\",\"device_id\":\"device\",\"request_id\":\"request\"\x7d"

/-- `encoding/json`, as far as this handshake goes. -/
def requestJSON : HandshakeJSON where
  marshal handshake :=
    if handshake = requestHandshake then .ok requestText else .error "json: unsupported value"
  unmarshal data :=
    if data = requestText ++ [newline] then .ok requestHandshake.initial
    else .error "unexpected end of JSON input"

/-- A payload arrives in the same read as the end of the handshake. -/
theorem data_handshake_coalesced :
    ∃ (conn : Segments) (reader : BufReader Segments handshakeLimit),
      conn.chunks = [requestText.take 3, requestText.drop 3 ++ newline :: utf8 "pay", utf8 "load"] ∧
      readInitialHandshake requestJSON conn = .ok (reader, requestHandshake.initial) ∧
      ∀ sizes, (readMany sizes reader).1 <+: utf8 "payload" := by
  let conn : Segments :=
    { chunks := [requestText.take 3, requestText.drop 3 ++ newline :: utf8 "pay", utf8 "load"]
      failure := .eof
      eager := false
      nonempty := by decide +kernel }
  have valid : requestHandshake.ValidUTF8 :=
    ⟨⟨"token", rfl⟩, ⟨"device", rfl⟩, ⟨"request", rfl⟩, "", by decide +kernel⟩
  have complete : requestHandshake.Complete :=
    ⟨by decide +kernel, by decide +kernel, .inr (by decide +kernel)⟩
  have roundTrips (handshake : DataHandshake) (_ : handshake.ValidUTF8) :
      requestJSON.RoundTrips handshake := by
    intro data marshaled
    simp only [requestJSON] at marshaled ⊢
    split at marshaled <;> cases marshaled
    rename_i same
    rw [if_pos rfl, same]
    exact ⟨by decide +kernel, rfl⟩
  obtain ⟨-, read⟩ := (@data_handshake Segments _ _ requestJSON roundTrips).1 requestHandshake valid
    complete requestText rfl (by decide +kernel)
  obtain ⟨reader, accepted, returned, -⟩ := read conn (utf8 "payload") (by decide +kernel)
  exact ⟨conn, reader, rfl, accepted, returned⟩

end NryNet.Relay.Wire

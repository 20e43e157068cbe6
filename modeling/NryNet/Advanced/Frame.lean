import NryNet.Lib.ByteStream

/-!
# Frames on a stream (`internal/advanced/frame.go`)

A frame is sent as its length in four bytes and its JSON text.  `WriteFrame` and `ReadFrame` check the
limit on the length separately, and only the reader asks for a kind.

`encoding/json` is a parameter, `FrameJSON`.  What is assumed of it is said where it is used: the text
of a frame with proper strings is read back as that frame, with an empty payload left out, and no frame
is read from nothing.
-/

namespace NryNet.Advanced

open ByteStream

/-- `maxFrameSize`. -/
def maxFrameSize : ℕ := 4 <<< 20

/-- `Frame`.  A string of the source is any sequence of bytes, and a nil slice is `none`. -/
structure Frame where
  kind : Bytes
  requestID : Bytes
  tunnelID : Bytes
  payload : Option Bytes
  deriving DecidableEq, Repr

namespace Frame

/-- The strings of the frame are UTF-8. -/
def ValidUTF8 (frame : Frame) : Prop :=
  IsUTF8 frame.kind ∧ IsUTF8 frame.requestID ∧ IsUTF8 frame.tunnelID

/-- The frame as it comes back: the payload is marked `omitempty`, so an empty one is absent. -/
def omitEmpty (frame : Frame) : Frame :=
  { frame with payload := if frame.payload.getD [] = [] then none else frame.payload }

/-- Two frames that differ at most in whether an empty payload is nil. -/
structure Same (frame other : Frame) : Prop where
  kind : frame.kind = other.kind
  requestID : frame.requestID = other.requestID
  tunnelID : frame.tunnelID = other.tunnelID
  payload : frame.payload.getD [] = other.payload.getD []

theorem same_omitEmpty (frame : Frame) : frame.omitEmpty.Same frame := by
  refine ⟨rfl, rfl, rfl, ?_⟩
  unfold omitEmpty
  split
  · rename_i empty
    exact empty.symm
  · rfl

end Frame

/-- `json.Marshal` and `json.Unmarshal` of a frame. -/
structure FrameJSON where
  marshal : Frame → Except String Bytes
  unmarshal : Bytes → Except String Frame

/-- The text of the frame is read back. -/
def FrameJSON.RoundTrips (json : FrameJSON) (frame : Frame) : Prop :=
  ∀ data, json.marshal frame = .ok data → json.unmarshal data = .ok frame.omitEmpty

section Codec

variable {ρ σ : Type*} [Reader ρ] [Writer σ]

/-- `WriteFrame`. -/
def writeFrame (json : FrameJSON) (writer : σ) (frame : Frame) : σ × Except String Unit :=
  match json.marshal frame with
  | .error reason => (writer, .error s!"marshal frame: {reason}")
  | .ok data =>
      if maxFrameSize < data.length then
        (writer, .error s!"frame too large: {data.length}")
      else
        match Writer.write writer (bigEndian 4 data.length) with
        | (writer, some failure) => (writer, .error s!"write frame header: {failure.text}")
        | (writer, none) =>
            match Writer.write writer data with
            | (writer, some failure) => (writer, .error s!"write frame body: {failure.text}")
            | (writer, none) => (writer, .ok ())

/-- `ReadFrame`. -/
def readFrame (json : FrameJSON) (reader : ρ) : Except String Frame × ρ :=
  let header := readFull reader 4
  match header.failure with
  | some failure => (.error s!"read frame header: {failure.text}", header.next)
  | none =>
      let size := ofBigEndian header.bytes
      if size = 0 ∨ maxFrameSize < size then (.error s!"invalid frame size: {size}", header.next)
      else
        let body := readFull header.next size
        match body.failure with
        | some failure => (.error s!"read frame body: {failure.text}", body.next)
        | none =>
            match json.unmarshal body.bytes with
            | .error reason => (.error s!"decode frame: {reason}", body.next)
            | .ok frame =>
                if frame.kind = [] then (.error "frame kind is required", body.next)
                else (.ok frame, body.next)

/-- One call of `ReadFrame`. -/
structure ReadCall (ρ : Type*) where
  before : ρ
  result : Except String Frame
  after : ρ

/-- Some calls of `ReadFrame`, one after the other. -/
def readFrames (json : FrameJSON) : ℕ → ρ → List (ReadCall ρ)
  | 0, _ => []
  | calls + 1, reader =>
      let answer := readFrame json reader
      ⟨reader, answer.1, answer.2⟩ :: readFrames json calls answer.2

/-- What `WriteFrame` puts into an empty buffer. -/
def frameOutput (json : FrameJSON) (frame : Frame) : Bytes :=
  (writeFrame json (Buffer.mk []) frame).1.bytes

/-! ## One frame -/

variable {json : FrameJSON} {frame : Frame} {data : Bytes}

/-- A frame that fits is written as its length and its text. -/
theorem writeFrame_buffer (marshaled : json.marshal frame = .ok data)
    (fits : data.length ≤ maxFrameSize) (written : Bytes) :
    writeFrame json (Buffer.mk written) frame =
      (⟨written ++ bigEndian 4 data.length ++ data⟩, .ok ()) := by
  simp only [writeFrame, marshaled, if_neg (Nat.not_lt.mpr fits), write_buffer]

/-- A frame that does not fit is not written. -/
theorem writeFrame_too_large (marshaled : json.marshal frame = .ok data)
    (large : maxFrameSize < data.length) (writer : σ) :
    writeFrame json writer frame = (writer, .error s!"frame too large: {data.length}") := by
  simp only [writeFrame, marshaled, if_pos large]

/-- What is at the front of the stream is read, if it announces a proper size and is the text of a
frame with a kind. -/
theorem readFrame_of_remaining {reader : ρ} {rest : Bytes} (positive : data ≠ [])
    (fits : data.length ≤ maxFrameSize) (decoded : json.unmarshal data = .ok frame)
    (kind : frame.kind ≠ [])
    (stream : Reader.remaining reader = (bigEndian 4 data.length ++ data) ++ rest) :
    (readFrame json reader).1 = .ok frame ∧ Reader.remaining (readFrame json reader).2 = rest := by
  have size : ofBigEndian (bigEndian 4 data.length) = data.length := by
    rw [ofBigEndian_bigEndian]
    refine Nat.mod_eq_of_lt (lt_of_le_of_lt fits ?_)
    decide
  have proper : ¬ (data.length = 0 ∨ maxFrameSize < data.length) := by
    rintro (empty | large)
    · exact positive (List.length_eq_zero_iff.mp empty)
    · exact absurd fits (Nat.not_le.mpr large)
  -- the two calls of `io.ReadFull` take the header and the body
  rw [List.append_assoc] at stream
  obtain ⟨header, headerRead, body⟩ := readFull_of_remaining stream
  rw [length_bigEndian] at header headerRead body
  obtain ⟨text, textRead, left⟩ := readFull_of_remaining body
  simp only [readFrame, headerRead, header, size, if_neg proper, textRead, text, decoded,
    if_neg kind, left, and_self]

/-- The size that the front of a stream announces. -/
def announced (stream : Bytes) : ℕ :=
  ofBigEndian (stream.take 4)

/-- **One call on any stream.**  It takes no more than it was told to, and accepts only what announces
a proper size. -/
theorem readFrame_consumes (json : FrameJSON) (reader : ρ) :
    ∃ consumed, Reader.remaining reader = consumed ++ Reader.remaining (readFrame json reader).2 ∧
      consumed.length ≤ 4 + announced (Reader.remaining reader) ∧
      ∀ frame, (readFrame json reader).1 = .ok frame →
        0 < announced (Reader.remaining reader) ∧
        announced (Reader.remaining reader) ≤ maxFrameSize ∧
        consumed.length = 4 + announced (Reader.remaining reader) := by
  have kept := remaining_readFull reader 4
  have length := length_readFull_le reader 4
  cases headerRead : (readFull reader 4).failure with
  | some failure =>
      simp only [readFrame, headerRead]
      exact ⟨_, kept, by omega, fun _ impossible => nomatch impossible⟩
  | none =>
      have four := length_readFull headerRead
      have told : ofBigEndian (readFull reader 4).bytes = announced (Reader.remaining reader) := by
        rw [announced, kept, List.take_left' four]
      simp only [readFrame, headerRead, told]
      split
      · exact ⟨_, kept, by omega, fun _ impossible => nomatch impossible⟩
      · rename_i proper
        generalize (readFull reader 4).next = next at kept ⊢
        generalize announced (Reader.remaining reader) = size at proper ⊢
        have kept' := remaining_readFull next size
        have length' := length_readFull_le next size
        have joined : Reader.remaining reader =
            ((readFull reader 4).bytes ++ (readFull next size).bytes) ++
              Reader.remaining (readFull next size).next := by
          rw [kept, kept', List.append_assoc]
        have bound :
            ((readFull reader 4).bytes ++ (readFull next size).bytes).length ≤ 4 + size := by
          rw [List.length_append]
          omega
        cases bodyRead : (readFull next size).failure with
        | some failure =>
            exact ⟨_, joined, bound, fun _ impossible => nomatch impossible⟩
        | none =>
            have full : ((readFull reader 4).bytes ++ (readFull next size).bytes).length =
                4 + size := by
              rw [List.length_append, four, length_readFull bodyRead]
            simp only
            split
            · exact ⟨_, joined, bound, fun _ impossible => nomatch impossible⟩
            · split
              · exact ⟨_, joined, bound, fun _ impossible => nomatch impossible⟩
              · exact ⟨_, joined, bound, fun _ _ => ⟨by omega, by omega, full⟩⟩

/-! ## A list of frames -/

/-- A frame that both sides accept. -/
structure Frame.Fits (json : FrameJSON) (frame : Frame) : Prop where
  kind : frame.kind ≠ []
  valid : frame.ValidUTF8
  size : ∃ data, json.marshal frame = .ok data ∧ data.length ≤ maxFrameSize

/-- A frame is read back from what was written of it. -/
theorem readFrame_frameOutput (fits : frame.Fits json) (roundTrips : json.RoundTrips frame)
    (nonempty : ∀ frame, json.unmarshal [] ≠ .ok frame) {reader : ρ} {rest : Bytes}
    (stream : Reader.remaining reader = frameOutput json frame ++ rest) :
    (readFrame json reader).1 = .ok frame.omitEmpty ∧
      Reader.remaining (readFrame json reader).2 = rest := by
  obtain ⟨data, marshaled, size⟩ := fits.size
  have decoded := roundTrips data marshaled
  have positive : data ≠ [] := by
    rintro rfl
    exact nonempty _ decoded
  rw [frameOutput, writeFrame_buffer marshaled size, List.nil_append] at stream
  exact readFrame_of_remaining positive size decoded fits.kind stream

/-- The calls of `ReadFrame` on a stream that begins with some frames. -/
theorem readFrames_frameOutput {frames : List Frame} (fits : ∀ frame ∈ frames, frame.Fits json)
    (roundTrips : ∀ frame ∈ frames, json.RoundTrips frame)
    (nonempty : ∀ frame, json.unmarshal [] ≠ .ok frame) {reader : ρ} {rest : Bytes}
    (stream : Reader.remaining reader = frames.flatMap (frameOutput json) ++ rest) :
    List.Forall₂
      (fun frame (call : ReadCall ρ) => (∃ read, call.result = .ok read ∧ read.Same frame) ∧
        Reader.remaining call.before = frameOutput json frame ++ Reader.remaining call.after)
      frames (readFrames json frames.length reader) := by
  induction frames generalizing reader with
  | nil => exact .nil
  | cons frame frames ih =>
      rw [List.flatMap_cons, List.append_assoc] at stream
      obtain ⟨read, left⟩ := readFrame_frameOutput (fits frame List.mem_cons_self)
        (roundTrips frame List.mem_cons_self) nonempty stream
      refine .cons ⟨⟨_, read, frame.same_omitEmpty⟩, ?_⟩ (ih ?_ ?_ left)
      · simp only
        rw [stream, left]
      · exact fun frame member => fits frame (List.mem_cons_of_mem _ member)
      · exact fun frame member => roundTrips frame (List.mem_cons_of_mem _ member)

/-- **The codec of frames.**  Frames with a kind, proper strings and a text within the limit are written
without an error, and from any reader that returns what was written, cut in any way and followed by
anything, as many calls of `ReadFrame` return them again, each of them taking what was written of its
frame.  A frame over the limit is refused and no byte of it is written.  And on any stream a call takes
at most the header and the announced size, and accepts nothing that announces no bytes or too many. -/
theorem frame_codec (json : FrameJSON)
    (roundTrips : ∀ frame, frame.Fits json → json.RoundTrips frame)
    (nonempty : ∀ frame, json.unmarshal [] ≠ .ok frame) :
    (∀ frames : List Frame, (∀ frame ∈ frames, frame.Fits json) →
      (∀ frame ∈ frames, (writeFrame json (Buffer.mk []) frame).2 = .ok ()) ∧
      ∀ (reader : ρ) (rest : Bytes),
        Reader.remaining reader = frames.flatMap (frameOutput json) ++ rest →
        List.Forall₂
          (fun frame (call : ReadCall ρ) => (∃ read, call.result = .ok read ∧ read.Same frame) ∧
            Reader.remaining call.before = frameOutput json frame ++ Reader.remaining call.after)
          frames (readFrames json frames.length reader)) ∧
    (∀ (writer : σ) (frame : Frame) (data : Bytes), json.marshal frame = .ok data →
      maxFrameSize < data.length → ∃ reason, writeFrame json writer frame = (writer, .error reason)) ∧
    ∀ reader : ρ, ∃ consumed,
      Reader.remaining reader = consumed ++ Reader.remaining (readFrame json reader).2 ∧
      consumed.length ≤ 4 + announced (Reader.remaining reader) ∧
      ∀ frame, (readFrame json reader).1 = .ok frame →
        0 < announced (Reader.remaining reader) ∧
        announced (Reader.remaining reader) ≤ maxFrameSize ∧
        consumed.length = 4 + announced (Reader.remaining reader) := by
  refine ⟨fun frames fits => ⟨fun frame member => ?_, fun reader rest stream => ?_⟩,
    fun writer frame data marshaled large => ⟨_, writeFrame_too_large marshaled large writer⟩,
    readFrame_consumes json⟩
  · obtain ⟨data, marshaled, size⟩ := (fits frame member).size
    rw [writeFrame_buffer marshaled size]
  · exact readFrames_frameOutput fits (fun frame member => roundTrips frame (fits frame member))
      nonempty stream

end Codec

/-- A frame with a payload of two bytes. -/
def dataFrame : Frame where
  kind := utf8 "data"
  requestID := []
  tunnelID := utf8 "tunnel-1"
  payload := some [1, 2]

/-- Its text. -/
def dataText : Bytes :=
  utf8 "\x7b\"kind\":\"data\",\"tunnel_id\":\"tunnel-1\",\"payload\":\"AQI=\"\x7d"

/-- `encoding/json`, as far as this frame goes. -/
def dataJSON : FrameJSON where
  marshal frame := if frame = dataFrame then .ok dataText else .error "json: unsupported value"
  unmarshal data :=
    if data = dataText then .ok dataFrame else .error "unexpected end of JSON input"

/-- Two frames in a row, cut inside a header, with an empty read and with the error at the end coming
together with the last bytes. -/
theorem frame_codec_twice :
    ∃ reader : Chunks,
      Reader.remaining reader = [dataFrame, dataFrame].flatMap (frameOutput dataJSON) ∧
      List.Forall₂
        (fun frame (call : ReadCall Chunks) => (∃ read, call.result = .ok read ∧ read.Same frame) ∧
          Reader.remaining call.before =
            frameOutput dataJSON frame ++ Reader.remaining call.after)
        [dataFrame, dataFrame] (readFrames dataJSON 2 reader) := by
  let stream := [dataFrame, dataFrame].flatMap (frameOutput dataJSON)
  have cut : Reader.remaining (Chunks.mk [stream.take 2, [], stream.drop 2] .eof true) =
      stream ++ [] := by
    decide +kernel
  have fits : dataFrame.Fits dataJSON := by
    refine ⟨by decide +kernel, ⟨⟨"data", rfl⟩, ⟨"", by decide +kernel⟩, ⟨"tunnel-1", rfl⟩⟩, dataText, ?_, ?_⟩
    · rfl
    · decide +kernel
  refine ⟨⟨[stream.take 2, [], stream.drop 2], .eof, true⟩, cut.trans (List.append_nil _), ?_⟩
  refine ((@frame_codec Chunks Buffer _ _ dataJSON ?_ ?_).1 [dataFrame, dataFrame] ?_).2 _ [] cut
  · intro frame fits' data marshaled
    simp only [dataJSON] at marshaled ⊢
    split at marshaled <;> cases marshaled
    rename_i same
    rw [if_pos rfl, same]
    rfl
  · intro frame impossible
    cases impossible
  · intro frame member
    simp only [List.mem_cons, List.not_mem_nil, or_false, or_self] at member
    rw [member]
    exact fits

end NryNet.Advanced

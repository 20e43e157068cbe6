import NryNet.Advanced.P2PAuth
import NryNet.Lib.Slices

/-!
# The codec of the datagrams (`internal/advanced/p2p_auth.go`)

`encodeP2PFrame` and `decodeP2PFrame` of the model of a session are functions on lists of bytes.  The
source works on slices: the encoder fills in one array and lets `Seal` append to its header in place,
the decoder cuts the frame into pieces.  Here are both as they stand there, in the monad of functions
that may panic, with the proof that they never do and that they compute those two functions; and then
what the two make of each other.
-/

namespace NryNet.Advanced.P2P

open ByteStream Sliced

/-- `Overhead()`: a sealed text is longer by the tag. -/
def AEAD.Overhead (aead : AEAD) : Prop :=
  ∀ key nonce plaintext additionalData,
    (aead.sealText key nonce plaintext additionalData).length = plaintext.length + p2pFrameTagSize

/-! ## On slices -/

/-- `EncodeP2PFrame`, in the array that it makes. -/
def encodeP2PFrameInPlace (aead : AEAD) (key : Bytes) (direction : UInt8) (sequence : UInt64)
    (payload : Bytes) : Sliced String Bytes :=
  if key.length ≠ 32 then fail "p2p session key must be 32 bytes"
  else if maxUDPDatagramSize - p2pFrameHeaderSize - p2pFrameTagSize < payload.length then
    fail "p2p datagram exceeds UDP payload limit"
  else do
    let frame := List.replicate (p2pFrameHeaderSize + payload.length + p2pFrameTagSize) 0
    let frame ← put frame 0 p2pFrameMagic
    let frame ← put frame 4 [direction]
    let frame ← put frame 5 (bigEndian 8 sequence.toNat)
    let header ← slice frame 0 p2pFrameHeaderSize
    pure (append frame p2pFrameHeaderSize
      (aead.sealText key (p2pNonce direction sequence) payload header))

/-- `DecodeP2PFrame`, slice by slice. -/
def decodeP2PFrameSlices (aead : AEAD) (key : Bytes) (direction : UInt8) (lastSequence : UInt64)
    (frame : Bytes) : Sliced String (Bytes × UInt64) :=
  if key.length ≠ 32 ∨ frame.length < p2pFrameHeaderSize + p2pFrameTagSize then
    fail "invalid p2p frame"
  else do
    if (← slice frame 0 4) ≠ p2pFrameMagic then fail "invalid p2p frame header"
    else if (← index frame 4) ≠ direction then fail "invalid p2p frame header"
    else do
      let number ← uint 8 (← slice frame 5 13)
      let sequence := UInt64.ofNat number
      if sequence ≤ lastSequence then fail "replayed p2p frame"
      else do
        let ciphertext ← slice frame p2pFrameHeaderSize frame.length
        let header ← slice frame 0 p2pFrameHeaderSize
        match aead.openText key (p2pNonce direction sequence) ciphertext header with
        | none => fail "invalid p2p frame authentication"
        | some payload => pure (payload, sequence)

section Codec

variable (aead : AEAD) (key : Bytes) (direction : UInt8) (sequence lastSequence : UInt64)
  (payload : Bytes)

/-- The array is filled in without a gap, and what comes out is the frame. -/
theorem encodeP2PFrameInPlace_eq :
    encodeP2PFrameInPlace aead key direction sequence payload =
      ended (encodeP2PFrame aead key direction sequence payload) := by
  unfold encodeP2PFrameInPlace encodeP2PFrame
  split
  · rfl
  · split
    · rfl
    · let body : Bytes := List.replicate (payload.length + p2pFrameTagSize) 0
      have fresh : (List.replicate (p2pFrameHeaderSize + payload.length + p2pFrameTagSize) 0 : Bytes) =
          [] ++ List.replicate 4 0 ++ (List.replicate 1 0 ++ (List.replicate 8 0 ++ body)) := by
        rw [List.replicate_append_replicate, List.replicate_append_replicate, List.nil_append,
          List.replicate_append_replicate, p2pFrameHeaderSize]
        congr 1
        omega
      have magic : (put ([] ++ List.replicate 4 0 ++ (List.replicate 1 0 ++ (List.replicate 8 0 ++ body)))
          0 p2pFrameMagic : Sliced String Bytes) =
          pure (p2pFrameMagic ++ List.replicate 1 0 ++ (List.replicate 8 0 ++ body)) :=
        put_append [] _ _ rfl rfl
      have toward : (put (p2pFrameMagic ++ List.replicate 1 0 ++ (List.replicate 8 0 ++ body))
          4 [direction] : Sliced String Bytes) =
          pure (p2pFrameMagic ++ [direction] ++ List.replicate 8 0 ++ body) := by
        rw [List.append_assoc _ (List.replicate 8 0) body]
        exact put_append p2pFrameMagic _ _ rfl rfl
      have numbered : (put (p2pFrameMagic ++ [direction] ++ List.replicate 8 0 ++ body)
          5 (bigEndian 8 sequence.toNat) : Sliced String Bytes) =
          pure (p2pFrameHeader direction sequence ++ body) :=
        put_append (p2pFrameMagic ++ [direction]) _ _ rfl (length_bigEndian 8 _)
      have length := length_p2pFrameHeader direction sequence
      have bound : p2pFrameHeaderSize ≤ (p2pFrameHeader direction sequence ++ body).length := by
        rw [List.length_append, length]
        exact Nat.le_add_right _ _
      have header : (slice (p2pFrameHeader direction sequence ++ body) 0 p2pFrameHeaderSize :
          Sliced String Bytes) = pure (p2pFrameHeader direction sequence) := by
        rw [slice_eq (Nat.zero_le _) bound, List.take_left' length, List.drop_zero]
      simp only [fresh, magic, toward, numbered, header, return_bind, append_eq bound,
        List.take_left' length]
      rfl

theorem decodeP2PFrameSlices_eq (frame : Bytes) :
    decodeP2PFrameSlices aead key direction lastSequence frame =
      ended (decodeP2PFrame aead key direction lastSequence frame) := by
  unfold decodeP2PFrameSlices decodeP2PFrame
  split
  · rfl
  · rename_i proper
    have long : 29 ≤ frame.length := Nat.le_of_not_lt fun short => proper (.inr short)
    have magic : (slice frame 0 4 : Sliced String Bytes) = pure (frame.take 4) :=
      slice_eq (by omega) (by omega)
    have toward : (index frame 4 : Sliced String UInt8) = pure frame[4] :=
      index_eq (List.getElem?_eq_getElem (by omega))
    have number : (slice frame 5 13 : Sliced String Bytes) = pure ((frame.drop 5).take 8) := by
      rw [slice_eq (by omega) (by omega), List.drop_take]
    obtain ⟨digits, eight, sequence⟩ : ∃ digits,
        (uint 8 ((frame.drop 5).take 8) : Sliced String ℕ) = pure digits ∧
          UInt64.ofNat digits = frameSequence frame := by
      refine ⟨_, ?_, rfl⟩
      rw [uint_eq (by simp; omega), List.take_take, Nat.min_self]
    have text : (slice frame p2pFrameHeaderSize frame.length : Sliced String Bytes) =
        pure (frame.drop p2pFrameHeaderSize) := by
      rw [slice_eq (by rw [p2pFrameHeaderSize]; omega) (Nat.le_refl _), List.take_length]
    have header : (slice frame 0 p2pFrameHeaderSize : Sliced String Bytes) =
        pure (frame.take p2pFrameHeaderSize) :=
      slice_eq (Nat.zero_le _) (by rw [p2pFrameHeaderSize]; omega)
    have same : (frame[4]? ≠ some direction) = (frame[4] ≠ direction) := by
      rw [List.getElem?_eq_getElem (by omega), ne_eq, Option.some.injEq]
    simp only [magic, toward, number, eight, text, header, return_bind, same]
    rw [sequence]
    by_cases marked : frame.take 4 = p2pFrameMagic
    · by_cases directed : frame[4] = direction
      · rw [if_neg (not_not.mpr marked), if_neg (not_not.mpr directed),
          if_neg (not_or.mpr ⟨not_not.mpr marked, not_not.mpr directed⟩)]
        by_cases old : frameSequence frame ≤ lastSequence
        · rw [if_pos old, if_pos old]
          rfl
        · rw [if_neg old, if_neg old]
          cases aead.openText key (p2pNonce direction (frameSequence frame))
            (frame.drop p2pFrameHeaderSize) (frame.take p2pFrameHeaderSize) <;> rfl
      · rw [if_neg (not_not.mpr marked), if_pos directed, if_pos (.inr directed)]
        rfl
    · rw [if_pos marked, if_pos (.inl marked)]
      rfl

end Codec

section Laws

variable {aead : AEAD} {key : Bytes} {direction : UInt8} {sequence : UInt64}
  {payload frame : Bytes}

/-- When there is a frame. -/
theorem encodeP2PFrame_ok_iff :
    (∃ frame, encodeP2PFrame aead key direction sequence payload = .ok frame) ↔
      key.length = 32 ∧ payload.length ≤ 65478 := by
  unfold encodeP2PFrame
  constructor
  · rintro ⟨frame, encoded⟩
    split at encoded
    · cases encoded
    · rename_i proper
      split at encoded
      · cases encoded
      · rename_i short
        exact ⟨not_not.mp proper, Nat.le_of_not_lt short⟩
  · rintro ⟨proper, short⟩
    have fits : ¬ maxUDPDatagramSize - p2pFrameHeaderSize - p2pFrameTagSize < payload.length :=
      Nat.not_lt.mpr short
    rw [if_neg (not_not.mpr proper), if_neg fits]
    exact ⟨_, rfl⟩

theorem length_of_encode (overhead : aead.Overhead)
    (encoded : encodeP2PFrame aead key direction sequence payload = .ok frame) :
    frame.length = payload.length + 29 := by
  rw [encodeP2PFrame_eq encoded, List.length_append, length_p2pFrameHeader, overhead,
    p2pFrameHeaderSize, p2pFrameTagSize]
  omega

/-- What the decoder makes of a frame that was encoded, in any direction. -/
theorem decode_of_encode (correct : aead.Correct) (overhead : aead.Overhead)
    (encoded : encodeP2PFrame aead key direction sequence payload = .ok frame) (toward : UInt8)
    (lastSequence : UInt64) :
    decodeP2PFrame aead key toward lastSequence frame =
      if toward = direction then
        if sequence ≤ lastSequence then .error "replayed p2p frame" else .ok (payload, sequence)
      else .error "invalid p2p frame header" := by
  obtain ⟨fourth, number⟩ := header_of_encode encoded
  obtain ⟨proper, -⟩ := encodeP2PFrame_ok_iff.mp ⟨frame, encoded⟩
  have length := length_of_encode overhead encoded
  have magic : frame.take 4 = p2pFrameMagic := by
    rw [encodeP2PFrame_eq encoded]
    rfl
  have long : ¬ (key.length ≠ 32 ∨ frame.length < p2pFrameHeaderSize + p2pFrameTagSize) := by
    rw [p2pFrameHeaderSize, p2pFrameTagSize]
    omega
  rw [decodeP2PFrame, if_neg long, fourth]
  by_cases same : toward = direction
  · subst same
    have header : ¬ (frame.take 4 ≠ p2pFrameMagic ∨ some toward ≠ some toward) := by
      rintro (unmarked | other)
      · exact unmarked magic
      · exact other rfl
    simp only [if_neg header, number, payload_of_encode correct encoded, if_true]
  · rw [if_neg same, if_pos (.inr fun equal => same (Option.some.inj equal).symm)]

end Laws

/-- **The codec of the datagrams.**  For every key, direction, sequence, last sequence and payload, and
an AEAD that opens what it has sealed and adds a tag of 16 bytes: there is a frame exactly if the key is
32 bytes long and the payload fits; the frame is 29 bytes longer than the payload and fits into a UDP
datagram; it is decoded in its direction if its sequence number is new, and in no other direction.  On
no byte string whatsoever does the decoder, or the encoder, reach out of a slice.  Different directions
or sequence numbers make different nonces. -/
theorem p2p_frame_codec {aead : AEAD} (correct : aead.Correct) (overhead : aead.Overhead) (key : Bytes)
    (direction : UInt8) (sequence lastSequence : UInt64) (payload : Bytes) :
    ((∃ frame, encodeP2PFrame aead key direction sequence payload = .ok frame) ↔
      key.length = 32 ∧ payload.length ≤ 65478) ∧
    (∀ frame, encodeP2PFrame aead key direction sequence payload = .ok frame →
      frame.length = payload.length + 29 ∧ frame.length ≤ 65507 ∧
      (lastSequence < sequence →
        decodeP2PFrame aead key direction lastSequence frame = .ok (payload, sequence)) ∧
      (sequence ≤ lastSequence →
        ∃ error, decodeP2PFrame aead key direction lastSequence frame = .error error) ∧
      ∀ other, other ≠ direction →
        ∃ error, decodeP2PFrame aead key other lastSequence frame = .error error) ∧
    encodeP2PFrameInPlace aead key direction sequence payload =
      ended (encodeP2PFrame aead key direction sequence payload) ∧
    (∀ bytes, decodeP2PFrameSlices aead key direction lastSequence bytes =
      ended (decodeP2PFrame aead key direction lastSequence bytes)) ∧
    ∀ direction' sequence', (direction, sequence) ≠ (direction', sequence') →
      p2pNonce direction sequence ≠ p2pNonce direction' sequence' := by
  refine ⟨encodeP2PFrame_ok_iff, fun frame encoded => ?_,
    encodeP2PFrameInPlace_eq aead key direction sequence payload,
    decodeP2PFrameSlices_eq aead key direction lastSequence, fun direction' sequence' different same => ?_⟩
  · have length := length_of_encode overhead encoded
    obtain ⟨-, short⟩ := encodeP2PFrame_ok_iff.mp ⟨frame, encoded⟩
    have decoded (toward : UInt8) := decode_of_encode correct overhead encoded toward lastSequence
    refine ⟨length, by omega, fun fresh => ?_, fun old => ⟨"replayed p2p frame", ?_⟩,
      fun other different => ⟨"invalid p2p frame header", ?_⟩⟩
    · rw [decoded, if_pos rfl, if_neg (UInt64.not_le.mpr fresh)]
    · rw [decoded, if_pos rfl, if_pos old]
    · rw [decoded, if_neg different]
  · obtain ⟨rfl, rfl⟩ := p2pNonce_inj same
    exact different rfl

/-- A sealed text of the sample is longer by the tag. -/
theorem sampleAEAD_overhead : Channel.sampleAEAD.Overhead := by
  intro key nonce plaintext additionalData
  simp only [Channel.sampleAEAD]
  split
  · rename_i known
    obtain ⟨-, -, rfl, -⟩ := known
    rfl
  · rw [List.length_append, List.length_replicate]

/-- A datagram of the server, which is 33 bytes long and is read once, by the agent. -/
theorem p2p_frame_codec_ping :
    ∃ frame, encodeP2PFrame Channel.sampleAEAD Channel.sampleKey 1 1 (utf8 "ping") = .ok frame ∧
      frame.length = 33 ∧
      decodeP2PFrame Channel.sampleAEAD Channel.sampleKey 1 0 frame = .ok (utf8 "ping", 1) ∧
      ∃ error, decodeP2PFrame Channel.sampleAEAD Channel.sampleKey 2 0 frame = .error error := by
  obtain ⟨exact, laws, -⟩ := p2p_frame_codec Channel.sampleAEAD_correct sampleAEAD_overhead
    Channel.sampleKey 1 1 0 (utf8 "ping")
  obtain ⟨frame, encoded⟩ := exact.mpr ⟨rfl, by decide⟩
  obtain ⟨length, -, fresh, -, other⟩ := laws frame encoded
  exact ⟨frame, encoded, length, fresh (by decide), other 2 (by decide)⟩

end NryNet.Advanced.P2P

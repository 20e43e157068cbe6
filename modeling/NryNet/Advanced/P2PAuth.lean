import NryNet.Lib.ByteStream

/-!
# Datagrams between the server and an agent (`internal/advanced/p2p_auth.go`)

Once a direct path has been punched, the server (`p2pDirectSession`) and the agent
(`p2pDatagramProxy`) exchange sealed datagrams under one session key.  A frame carries its direction
and its sequence number in the clear, and both are authenticated and make up the nonce.  Each side
counts what it sends, and accepts only sequence numbers above the last one it has accepted.

## The model

The cipher is a parameter, `AEAD`.  The network is the environment: at any time it may deliver any
datagram from anywhere to either side, once, twice or never.  What it cannot do is forge, `Authentic`:
a datagram that a side can open is one that was sealed.

The two sides do the same in a different order, since the server asks and the agent answers.  A side is
`ready` when it is about to seal (the server between two round trips, the agent while the local service
answers) and `waiting` when it reads.  Whatever goes wrong there ends the session, and is one step: an
address that does not resolve, a time-out, an error of the socket, of the local service or of
`EncodeP2PFrame`.  `accepted` and `sealed` are ghosts.
-/

namespace NryNet.Advanced.P2P

open ByteStream

/-- `cipher.AEAD` made from a key: `Seal` and `Open`. -/
structure AEAD where
  sealText (key nonce plaintext additionalData : Bytes) : Bytes
  openText (key nonce ciphertext additionalData : Bytes) : Option Bytes

/-- `Open` undoes `Seal`. -/
def AEAD.Correct (aead : AEAD) : Prop :=
  ∀ key nonce plaintext additionalData,
    aead.openText key nonce (aead.sealText key nonce plaintext additionalData) additionalData =
      some plaintext

/-! ## Frames -/

def p2pDirectionServerToAgent : UInt8 := 1
def p2pDirectionAgentToServer : UInt8 := 2
def p2pFrameHeaderSize : ℕ := 13
def p2pFrameTagSize : ℕ := 16
def maxUDPDatagramSize : ℕ := 65507

/-- `p2pFrameMagic`. -/
def p2pFrameMagic : Bytes := utf8 "NLP2"

/-- `p2pNonce`. -/
def p2pNonce (direction : UInt8) (sequence : UInt64) : Bytes :=
  [direction, 0, 0, 0] ++ bigEndian 8 sequence.toNat

/-- The first bytes of a frame. -/
def p2pFrameHeader (direction : UInt8) (sequence : UInt64) : Bytes :=
  p2pFrameMagic ++ [direction] ++ bigEndian 8 sequence.toNat

/-- `EncodeP2PFrame`. -/
def encodeP2PFrame (aead : AEAD) (key : Bytes) (direction : UInt8) (sequence : UInt64)
    (payload : Bytes) : Except String Bytes :=
  if key.length ≠ 32 then .error "p2p session key must be 32 bytes"
  else if maxUDPDatagramSize - p2pFrameHeaderSize - p2pFrameTagSize < payload.length then
    .error "p2p datagram exceeds UDP payload limit"
  else
    let header := p2pFrameHeader direction sequence
    .ok (header ++ aead.sealText key (p2pNonce direction sequence) payload header)

/-- `binary.BigEndian.Uint64(frame[5:13])`. -/
def frameSequence (frame : Bytes) : UInt64 :=
  UInt64.ofNat (ofBigEndian ((frame.drop 5).take 8))

/-- `DecodeP2PFrame`. -/
def decodeP2PFrame (aead : AEAD) (key : Bytes) (direction : UInt8) (lastSequence : UInt64)
    (frame : Bytes) : Except String (Bytes × UInt64) :=
  if key.length ≠ 32 ∨ frame.length < p2pFrameHeaderSize + p2pFrameTagSize then
    .error "invalid p2p frame"
  else if frame.take 4 ≠ p2pFrameMagic ∨ frame[4]? ≠ some direction then
    .error "invalid p2p frame header"
  else
    let sequence := frameSequence frame
    if sequence ≤ lastSequence then .error "replayed p2p frame"
    else
      match aead.openText key (p2pNonce direction sequence) (frame.drop p2pFrameHeaderSize)
          (frame.take p2pFrameHeaderSize) with
      | none => .error "invalid p2p frame authentication"
      | some payload => .ok (payload, sequence)

section Frames

variable {aead : AEAD} {key : Bytes} {direction direction' : UInt8} {sequence sequence' : UInt64}
  {payload frame : Bytes}

@[simp] theorem length_p2pFrameHeader (direction : UInt8) (sequence : UInt64) :
    (p2pFrameHeader direction sequence).length = p2pFrameHeaderSize := by
  rw [p2pFrameHeader, List.length_append, length_bigEndian]
  rfl

theorem ofBigEndian_uint64 (sequence : UInt64) :
    ofBigEndian (bigEndian 8 sequence.toNat) = sequence.toNat := by
  rw [ofBigEndian_bigEndian]
  exact Nat.mod_eq_of_lt sequence.toNat_lt

/-- **A nonce belongs to one direction and one sequence number.** -/
theorem p2pNonce_inj (same : p2pNonce direction sequence = p2pNonce direction' sequence') :
    direction = direction' ∧ sequence = sequence' := by
  simp only [p2pNonce, List.cons_append, List.nil_append, List.cons.injEq, true_and] at same
  refine ⟨same.1, UInt64.toNat_inj.mp ?_⟩
  rw [← ofBigEndian_uint64 sequence, same.2, ofBigEndian_uint64]

theorem encodeP2PFrame_eq (encoded : encodeP2PFrame aead key direction sequence payload = .ok frame) :
    frame = p2pFrameHeader direction sequence ++
      aead.sealText key (p2pNonce direction sequence) payload (p2pFrameHeader direction sequence) := by
  unfold encodeP2PFrame at encoded
  split at encoded
  · cases encoded
  · split at encoded <;> cases encoded
    rfl

/-- The header of an encoded frame. -/
theorem header_of_encode (encoded : encodeP2PFrame aead key direction sequence payload = .ok frame) :
    frame[4]? = some direction ∧ frameSequence frame = sequence := by
  rw [encodeP2PFrame_eq encoded]
  generalize aead.sealText _ _ _ _ = body
  constructor
  · rfl
  · have cut : (List.drop 5 (p2pFrameHeader direction sequence ++ body)).take 8 =
        bigEndian 8 sequence.toNat := by
      change (bigEndian 8 sequence.toNat ++ body).take 8 = _
      exact List.take_left' (length_bigEndian 8 _)
    rw [frameSequence, cut, ofBigEndian_uint64, UInt64.ofNat_toNat]

/-- What an accepted frame says. -/
structure Decoded (aead : AEAD) (key : Bytes) (direction : UInt8) (lastSequence : UInt64)
    (frame payload : Bytes) (sequence : UInt64) : Prop where
  toward : frame[4]? = some direction
  numbered : sequence = frameSequence frame
  fresh : lastSequence < sequence
  opened : aead.openText key (p2pNonce direction sequence) (frame.drop p2pFrameHeaderSize)
    (frame.take p2pFrameHeaderSize) = some payload

theorem decoded_of_decode {lastSequence : UInt64}
    (decoded : decodeP2PFrame aead key direction lastSequence frame = .ok (payload, sequence)) :
    Decoded aead key direction lastSequence frame payload sequence := by
  unfold decodeP2PFrame at decoded
  split at decoded
  · cases decoded
  · split at decoded
    · cases decoded
    · rename_i header
      simp only at decoded
      split at decoded
      · cases decoded
      · rename_i fresh
        split at decoded <;> cases decoded
        rename_i opened
        push Not at header
        exact ⟨header.2, rfl, UInt64.not_le.mp fresh, opened⟩

/-- The text of a frame that was encoded is opened as what was encoded. -/
theorem payload_of_encode (correct : aead.Correct)
    (encoded : encodeP2PFrame aead key direction sequence payload = .ok frame) :
    aead.openText key (p2pNonce direction sequence) (frame.drop p2pFrameHeaderSize)
      (frame.take p2pFrameHeaderSize) = some payload := by
  have length := length_p2pFrameHeader direction sequence
  rw [encodeP2PFrame_eq encoded, List.drop_left' length, List.take_left' length]
  exact correct _ _ _ _

end Frames

/-! ## The two sides -/

/-- `p2pDirectSession` and `p2pDatagramProxy`. -/
inductive Side where
  | server
  | agent
  deriving DecidableEq, Repr

/-- The side that a side talks to. -/
def Side.other : Side → Side
  | .server => .agent
  | .agent => .server

/-- The direction in which a side seals, which is the one in which the other side opens. -/
def Side.direction : Side → UInt8
  | .server => p2pDirectionServerToAgent
  | .agent => p2pDirectionAgentToServer

/-- Where a side is. -/
inductive Phase where
  | ready
  | waiting
  | closed
  deriving DecidableEq, Repr

/-- A frame that was accepted. -/
structure Accepted where
  frame : Bytes
  payload : Bytes
  sequence : UInt64
  deriving DecidableEq, Repr

/-- The counters of a side: `sendSeq` and `recvSeq`, `sent` and `received`. -/
structure Party where
  phase : Phase
  sent : UInt64
  received : UInt64
  accepted : List Accepted
  deriving DecidableEq, Repr

/-- A frame that was sealed. -/
structure Sealing where
  side : Side
  direction : UInt8
  sequence : UInt64
  payload : Bytes
  frame : Bytes
  deriving DecidableEq, Repr

/-- The two sides of a session. -/
structure Channel where
  party : Side → Party
  sealed : List Sealing

/-- What a session depends on; `ι` is the type of the addresses. -/
structure Surroundings (ι : Type*) where
  aead : AEAD
  key : Bytes
  isExpectedUDPPeer : Side → ι → Bool
  isP2PControlPacket : Bytes → Bool

/-- What can happen to a session. -/
inductive Event (ι : Type*) where
  /-- a side seals a payload, and `WriteTo` succeeds or fails -/
  | send (side : Side) (payload : Bytes) (written : Bool)
  /-- a datagram comes out of the network -/
  | receive (side : Side) (source : ι) (datagram : Bytes)
  /-- something goes wrong, or the session is closed -/
  | finish (side : Side)

namespace Channel

/-- A session that has just been opened: the server speaks first. -/
def opened : Channel where
  party
    | .server => ⟨.ready, 0, 0, []⟩
    | .agent => ⟨.waiting, 0, 0, []⟩
  sealed := []

/-- One side has changed. -/
def set (c : Channel) (side : Side) (party : Party) : Channel :=
  { c with party := Function.update c.party side party }

variable {ι : Type*}

/-- One step.  `send` is `directRoundTrip` up to `readDirectResponse` on the server, and what `handle`
does with the answer of the local service on the agent; `receive` is a round of `readDirectResponse`, and
a round of `run` with the beginning of `handle`. -/
def step (env : Surroundings ι) (c : Channel) : Event ι → Option Channel
  | .send side payload written =>
      let p := c.party side
      if p.phase = .ready then
        let sent := p.sent + 1
        match encodeP2PFrame env.aead env.key side.direction sent payload with
        | .error _ => some (c.set side { p with sent := sent, phase := .closed })
        | .ok frame =>
            some
              { c.set side { p with sent := sent, phase := if written then .waiting else .closed } with
                sealed := c.sealed ++ [⟨side, side.direction, sent, payload, frame⟩] }
      else none
  | .receive side source datagram =>
      let p := c.party side
      if p.phase = .waiting then
        if env.isExpectedUDPPeer side source ∧ ¬ env.isP2PControlPacket datagram then
          match decodeP2PFrame env.aead env.key side.other.direction p.received datagram with
          | .error _ => some c
          | .ok (payload, sequence) =>
              some (c.set side
                { p with
                  phase := .ready
                  received := sequence
                  accepted := p.accepted ++ [⟨datagram, payload, sequence⟩] })
        else some c
      else none
  | .finish side => some (c.set side { c.party side with phase := .closed })

/-- **Unforgeability.**  If a datagram that is delivered to a side can be opened there, then it was
sealed before: with this nonce, this header and this ciphertext. -/
def Authentic (env : Surroundings ι) (c : Channel) : Event ι → Prop
  | .receive side _ datagram =>
      ∀ plaintext,
        env.aead.openText env.key (p2pNonce side.other.direction (frameSequence datagram))
          (datagram.drop p2pFrameHeaderSize) (datagram.take p2pFrameHeaderSize) = some plaintext →
        ∃ entry ∈ c.sealed,
          p2pNonce entry.direction entry.sequence =
            p2pNonce side.other.direction (frameSequence datagram) ∧
          entry.frame = datagram
  | _ => True

/-- The runs of a session. -/
inductive Reaches (env : Surroundings ι) : Channel → Prop
  | opened : Reaches env .opened
  | step {c c' : Channel} {event : Event ι} (reached : Reaches env c)
      (authentic : c.Authentic env event) (stepped : c.step env event = some c') : Reaches env c'

/-- How many frames a side has sealed. -/
def count (c : Channel) (side : Side) : ℕ :=
  c.sealed.countP (·.side = side)

/-! ## What a step can do -/

/-- The steps of a session. -/
inductive Change (env : Surroundings ι) (c : Channel) : Event ι → Channel → Prop
  | sealed {side : Side} {payload frame : Bytes} {written : Bool} {phase : Phase}
      (ready : (c.party side).phase = .ready)
      (encoded : encodeP2PFrame env.aead env.key side.direction ((c.party side).sent + 1) payload =
        .ok frame) :
      Change env c (.send side payload written)
        { c.set side { c.party side with sent := (c.party side).sent + 1, phase := phase } with
          sealed := c.sealed ++
            [⟨side, side.direction, (c.party side).sent + 1, payload, frame⟩] }
  | accepted {side : Side} {source : ι} {datagram payload : Bytes} {sequence : UInt64}
      (waiting : (c.party side).phase = .waiting)
      (decoded : Decoded env.aead env.key side.other.direction (c.party side).received datagram payload
        sequence) :
      Change env c (.receive side source datagram)
        (c.set side
          { c.party side with
            phase := .ready
            received := sequence
            accepted := (c.party side).accepted ++ [⟨datagram, payload, sequence⟩] })
  | dropped {side : Side} {source : ι} {datagram : Bytes} :
      Change env c (.receive side source datagram) c
  | closed {event : Event ι} (side : Side) (sent : UInt64) :
      Change env c event (c.set side { c.party side with sent := sent, phase := .closed })

section Step

variable {env : Surroundings ι} {c c' : Channel} {event : Event ι}

theorem change_of_step (stepped : c.step env event = some c') : Change env c event c' := by
  cases event with
  | send side payload written =>
      simp only [step] at stepped
      split at stepped
      · rename_i ready
        split at stepped <;> cases stepped
        · exact .closed side _
        · rename_i frame encoded
          exact .sealed ready encoded
      · cases stepped
  | receive side source datagram =>
      simp only [step] at stepped
      split at stepped
      · rename_i waiting
        split at stepped
        · split at stepped <;> cases stepped
          · exact .dropped
          · rename_i payload sequence decoded
            exact .accepted waiting (decoded_of_decode decoded)
        · cases stepped
          exact .dropped
      · cases stepped
  | finish side =>
      cases stepped
      exact .closed side _

end Step

/-! ## What was sealed -/

/-- The frames that were sealed are what they say, and their sequence numbers count them. -/
structure Numbered (env : Surroundings ι) (c : Channel) : Prop where
  encoded : ∀ entry ∈ c.sealed, entry.direction = entry.side.direction ∧
    encodeP2PFrame env.aead env.key entry.direction entry.sequence entry.payload = .ok entry.frame
  counted : ∀ side, (c.party side).phase ≠ .closed →
    (c.party side).sent = UInt64.ofNat (c.count side)
  upto : ∀ entry ∈ c.sealed, c.count entry.side < 2 ^ 64 →
    entry.sequence.toNat ≤ c.count entry.side
  ascending : (∀ side, c.count side < 2 ^ 64) →
    c.sealed.Pairwise fun earlier later =>
      earlier.side = later.side → earlier.sequence.toNat < later.sequence.toNat

section Sealed

variable {env : Surroundings ι} {c : Channel}

theorem party_set (c : Channel) (side other : Side) (party : Party) :
    (c.set side party).party other = if other = side then party else c.party other :=
  Function.update_apply c.party side party other

/-- A step that seals nothing. -/
theorem Numbered.set (numbered : Numbered env c) {side : Side} {party : Party}
    (counted : party.phase ≠ .closed → (c.party side).phase ≠ .closed ∧
      party.sent = (c.party side).sent) : Numbered env (c.set side party) := by
  refine ⟨numbered.encoded, fun other live => ?_, numbered.upto, numbered.ascending⟩
  rw [party_set] at live ⊢
  split at live
  · rename_i same
    subst same
    rw [if_pos rfl, (counted live).2]
    exact numbered.counted other (counted live).1
  · rename_i different
    rw [if_neg different]
    exact numbered.counted other live

/-- A step that seals a frame with the next sequence number. -/
theorem Numbered.seal (numbered : Numbered env c) {side : Side} {party : Party}
    {payload frame : Bytes} (live : (c.party side).phase ≠ .closed)
    (sent : party.sent = (c.party side).sent + 1)
    (encoded : encodeP2PFrame env.aead env.key side.direction party.sent payload = .ok frame) :
    Numbered env { c.set side party with
      sealed := c.sealed ++ [⟨side, side.direction, party.sent, payload, frame⟩] } := by
  have number : party.sent = UInt64.ofNat (c.count side + 1) := by
    rw [sent, numbered.counted side live, UInt64.ofNat_add]
    rfl
  have counts (other : Side) :
      count { c.set side party with
        sealed := c.sealed ++ [⟨side, side.direction, party.sent, payload, frame⟩] } other =
        c.count other + if side = other then 1 else 0 := by
    simp [count, List.countP_append, List.countP_cons]
  refine ⟨fun entry member => ?_, fun other live' => ?_, fun entry member bound => ?_,
    fun bounds => ?_⟩
  · rcases List.mem_append.mp member with old | new
    · exact numbered.encoded entry old
    · rw [List.mem_singleton.mp new]
      exact ⟨rfl, encoded⟩
  · rw [counts]
    change ((c.set side party).party other).sent = _
    change ((c.set side party).party other).phase ≠ _ at live'
    rw [party_set] at live' ⊢
    split at live'
    · rename_i same
      subst same
      rw [if_pos rfl, if_pos rfl, number]
    · rename_i different
      rw [if_neg different, if_neg (Ne.symm different)]
      exact numbered.counted other live'
  · rw [counts] at bound ⊢
    rcases List.mem_append.mp member with old | new
    · exact (numbered.upto entry old (by omega)).trans (Nat.le_add_right _ _)
    · rw [List.mem_singleton.mp new] at bound ⊢
      simp only [if_true] at bound ⊢
      rw [number, UInt64.toNat_ofNat_of_lt' bound]
  · have before (other : Side) : c.count other < 2 ^ 64 := by
      have bound := bounds other
      rw [counts] at bound
      omega
    refine List.pairwise_append.mpr ⟨numbered.ascending before, List.pairwise_singleton _ _, ?_⟩
    intro earlier old later new
    rw [List.mem_singleton.mp new]
    rintro rfl
    have bound := bounds earlier.side
    rw [counts, if_pos rfl] at bound
    have upto := numbered.upto earlier old (before _)
    simp only
    rw [number, UInt64.toNat_ofNat_of_lt' bound]
    omega

theorem numbered_of_reaches (reached : Reaches env c) : Numbered env c := by
  induction reached with
  | opened =>
      refine ⟨fun _ impossible => (nomatch impossible), fun side _ => ?_,
        fun _ impossible => (nomatch impossible), fun _ => .nil⟩
      cases side <;> rfl
  | step reached authentic stepped numbered =>
      cases change_of_step stepped with
      | sealed ready encoded => exact numbered.seal (by rw [ready]; decide) rfl encoded
      | accepted waiting decoded =>
          exact numbered.set fun _ => ⟨by rw [waiting]; decide, rfl⟩
      | dropped => exact numbered
      | closed side sent => exact numbered.set fun impossible => absurd rfl impossible

end Sealed

/-! ## What was accepted -/

/-- A side has accepted frames of the other side, in ascending order. -/
structure Genuine (sealed : List Sealing) (side : Side) (p : Party) : Prop where
  ascending : (p.accepted.map Accepted.sequence).Pairwise (· < ·)
  upto : ∀ entry ∈ p.accepted, entry.sequence ≤ p.received
  numbered : ∀ entry ∈ p.accepted, entry.sequence = frameSequence entry.frame
  origin : ∀ entry ∈ p.accepted, ∃ source ∈ sealed, source.side = side.other ∧
    source.direction = side.other.direction ∧ source.sequence = entry.sequence ∧
    source.payload = entry.payload ∧ source.frame = entry.frame

section Accepted

variable {env : Surroundings ι} {c : Channel} {side : Side}

/-- A frame that opens was sealed by the other side, with this sequence number and payload. -/
theorem origin_of_decoded (correct : env.aead.Correct) (numbered : Numbered env c) {source : ι}
    {datagram payload : Bytes} {last sequence : UInt64}
    (authentic : c.Authentic env (.receive side source datagram))
    (decoded : Decoded env.aead env.key side.other.direction last datagram payload sequence) :
    ∃ entry ∈ c.sealed, entry.side = side.other ∧ entry.direction = side.other.direction ∧
      entry.sequence = sequence ∧ entry.payload = payload ∧ entry.frame = datagram := by
  obtain ⟨toward, rfl, -, opened⟩ := decoded
  obtain ⟨entry, member, -, rfl⟩ := authentic payload opened
  obtain ⟨direction, encoded⟩ := numbered.encoded entry member
  obtain ⟨fourth, number⟩ := header_of_encode encoded
  have same : entry.direction = side.other.direction := by
    rw [fourth] at toward
    exact Option.some.inj toward
  have text := payload_of_encode correct encoded
  rw [same, ← number, opened] at text
  refine ⟨entry, member, ?_, same, number.symm, (Option.some.inj text).symm, rfl⟩
  rw [direction] at same
  revert same
  cases entry.side <;> cases side.other <;> decide

variable {p p' : Party} {sealed sealed' : List Sealing}

/-- A step that leaves what the side has accepted alone. -/
theorem Genuine.frame (genuine : Genuine sealed side p) (accepted : p'.accepted = p.accepted)
    (received : p'.received = p.received) (more : sealed ⊆ sealed') : Genuine sealed' side p' := by
  refine ⟨?_, ?_, ?_, fun entry member => ?_⟩
  · rw [accepted]
    exact genuine.ascending
  · rw [accepted, received]
    exact genuine.upto
  · rw [accepted]
    exact genuine.numbered
  · rw [accepted] at member
    obtain ⟨source, present, facts⟩ := genuine.origin entry member
    exact ⟨source, more present, facts⟩

/-- A step in which the side accepts a frame. -/
theorem Genuine.accept (genuine : Genuine sealed side p) {entry : Accepted}
    (accepted : p'.accepted = p.accepted ++ [entry]) (received : p'.received = entry.sequence)
    (fresh : p.received < entry.sequence) (numbered : entry.sequence = frameSequence entry.frame)
    (origin : ∃ source ∈ sealed, source.side = side.other ∧
      source.direction = side.other.direction ∧ source.sequence = entry.sequence ∧
      source.payload = entry.payload ∧ source.frame = entry.frame) : Genuine sealed side p' := by
  refine ⟨?_, fun other member => ?_, fun other member => ?_, fun other member => ?_⟩
  · rw [accepted, List.map_append]
    refine List.pairwise_append.mpr ⟨genuine.ascending, List.pairwise_singleton _ _, ?_⟩
    intro earlier old later new
    obtain ⟨before, member, rfl⟩ := List.mem_map.mp old
    rw [List.map_singleton, List.mem_singleton] at new
    rw [new]
    exact UInt64.lt_of_le_of_lt (genuine.upto before member) fresh
  all_goals
    rw [accepted] at member
    rcases List.mem_append.mp member with old | new
  · rw [received]
    exact UInt64.le_trans (genuine.upto other old) (UInt64.le_of_lt fresh)
  · rw [received, List.mem_singleton.mp new]
    exact UInt64.le_refl _
  · exact genuine.numbered other old
  · rw [List.mem_singleton.mp new]
    exact numbered
  · exact genuine.origin other old
  · rw [List.mem_singleton.mp new]
    exact origin

theorem genuine_of_reaches (correct : env.aead.Correct) (reached : Reaches env c) (side : Side) :
    Genuine c.sealed side (c.party side) := by
  induction reached with
  | opened => cases side <;> exact ⟨.nil, by decide, by decide, by decide⟩
  | step reached authentic stepped genuine =>
      cases change_of_step stepped with
      | @sealed acting payload frame written phase ready encoded =>
          change Genuine _ side (Channel.party (set _ acting _) side)
          rw [party_set]
          split
          · rename_i same
            subst same
            exact genuine.frame rfl rfl (List.subset_append_left _ _)
          · exact genuine.frame rfl rfl (List.subset_append_left _ _)
      | @accepted acting source datagram payload sequence waiting decoded =>
          rw [party_set]
          split
          · rename_i same
            subst same
            exact genuine.accept rfl rfl decoded.fresh decoded.numbered
              (origin_of_decoded correct (numbered_of_reaches reached) authentic decoded)
          · exact genuine
      | dropped => exact genuine
      | closed acting sent =>
          rw [party_set]
          split
          · rename_i same
            subst same
            exact genuine.frame rfl rfl (List.Subset.refl _)
          · exact genuine

end Accepted

variable {env : Surroundings ι} {c : Channel}

/-- **The datagrams of a session.**  In every run, with a network that loses, duplicates, reorders and
invents datagrams but does not forge them: as long as each side has sealed fewer than `2 ^ 64` frames,
no nonce was used twice, by the same side or by both; each side has accepted each frame at most once,
in ascending order of the sequence numbers; and each side has accepted only what the other side sealed
in its direction. -/
theorem p2p_datagrams_secure (correct : env.aead.Correct) (reached : Reaches env c) :
    ((∀ side, c.count side < 2 ^ 64) →
      (c.sealed.map fun entry => p2pNonce entry.direction entry.sequence).Nodup) ∧
    ∀ side,
      ((c.party side).accepted.map Accepted.sequence).Pairwise (· < ·) ∧
      ((c.party side).accepted.map Accepted.frame).Nodup ∧
      ∀ entry ∈ (c.party side).accepted, ∃ source ∈ c.sealed, source.side = side.other ∧
        source.direction = side.other.direction ∧ source.sequence = entry.sequence ∧
        source.payload = entry.payload ∧ source.frame = entry.frame := by
  have numbered := numbered_of_reaches reached
  refine ⟨fun bounds => ?_, fun side => ?_⟩
  · refine List.pairwise_map.mpr ((numbered.ascending bounds).imp_of_mem ?_)
    intro earlier later old new ascending same
    obtain ⟨direction, sequence⟩ := p2pNonce_inj same
    rw [(numbered.encoded earlier old).1, (numbered.encoded later new).1] at direction
    have sides : earlier.side = later.side := by
      revert direction
      cases earlier.side <;> cases later.side <;> decide
    have impossible := ascending sides
    rw [sequence] at impossible
    exact absurd impossible (lt_irrefl _)
  · have genuine := genuine_of_reaches correct reached side
    refine ⟨genuine.ascending, ?_, genuine.origin⟩
    refine List.pairwise_map.mpr ((List.pairwise_map.mp genuine.ascending).imp_of_mem ?_)
    intro earlier later old new ascending same
    rw [genuine.numbered earlier old, genuine.numbered later new, same] at ascending
    exact absurd ascending (UInt64.lt_irrefl _)

/-! ## A datagram -/

/-- A session key. -/
def sampleKey : Bytes := (List.range 32).map UInt8.ofNat

/-- What AES-GCM makes of the first datagram of the server under this key, if it is `ping`. -/
def pingText : Bytes :=
  [119, 188, 0, 83, 129, 83, 160, 234, 142, 197, 163, 112, 59, 144, 67, 193, 35, 202, 166, 217]

/-- The nonce and the header of this datagram. -/
def pingNonce : Bytes := p2pNonce 1 1
def pingHeader : Bytes := p2pFrameHeader 1 1

/-- AES-GCM, as far as this datagram goes. -/
def sampleAEAD : AEAD where
  sealText key nonce plaintext additionalData :=
    if key = sampleKey ∧ nonce = pingNonce ∧ plaintext = utf8 "ping" ∧ additionalData = pingHeader
    then pingText
    else plaintext ++ List.replicate p2pFrameTagSize 0
  openText key nonce ciphertext additionalData :=
    if key = sampleKey ∧ nonce = pingNonce ∧ ciphertext = pingText ∧ additionalData = pingHeader
    then some (utf8 "ping")
    else if ciphertext.drop (ciphertext.length - p2pFrameTagSize) = List.replicate p2pFrameTagSize 0
    then some (ciphertext.take (ciphertext.length - p2pFrameTagSize))
    else none

theorem sampleAEAD_correct : sampleAEAD.Correct := by
  intro key nonce plaintext additionalData
  simp only [sampleAEAD]
  split
  · rename_i known
    obtain ⟨rfl, rfl, rfl, rfl⟩ := known
    rw [if_pos ⟨rfl, rfl, rfl, rfl⟩]
  · have length : (plaintext ++ List.replicate p2pFrameTagSize (0 : UInt8)).length -
        p2pFrameTagSize = plaintext.length := by
      rw [List.length_append, List.length_replicate, Nat.add_sub_cancel]
    rw [if_neg, length, if_pos (List.drop_left' rfl), List.take_left' rfl]
    rintro ⟨-, -, same, -⟩
    have last := congrArg List.getLast? same
    simp [pingText, p2pFrameTagSize] at last

/-- A session with this key. -/
def sampleSession : Surroundings Unit where
  aead := sampleAEAD
  key := sampleKey
  isExpectedUDPPeer _ _ := true
  isP2PControlPacket _ := false

/-- The first datagram of the server is accepted by the agent. -/
theorem p2p_datagrams_secure_ping :
    ∃ c, Reaches sampleSession c ∧
      (c.party .agent).accepted = [⟨pingHeader ++ pingText, utf8 "ping", 1⟩] ∧
      (c.sealed.map fun entry => p2pNonce entry.direction entry.sequence).Nodup ∧
      ∃ source ∈ c.sealed, source.side = .server ∧ source.payload = utf8 "ping" := by
  have accepts : ∃ c, Reaches sampleSession c ∧
      (c.party .agent).accepted = [⟨pingHeader ++ pingText, utf8 "ping", 1⟩] ∧
      c.sealed.length = 1 := by
    let request : Event Unit := .send .server (utf8 "ping") true
    let delivery : Event Unit := .receive .agent () (pingHeader ++ pingText)
    refine ⟨_, @Reaches.step Unit sampleSession _ _ delivery
      (@Reaches.step Unit sampleSession _ _ request .opened trivial rfl) ?_ rfl, rfl, rfl⟩
    intro plaintext _
    exact ⟨_, List.mem_singleton.mpr rfl, rfl, rfl⟩
  obtain ⟨c, reached, accepted, one⟩ := accepts
  obtain ⟨distinct, both⟩ := p2p_datagrams_secure sampleAEAD_correct reached
  refine ⟨c, reached, accepted, distinct fun side => ?_, ?_⟩
  · have bound : c.count side ≤ 1 := one ▸ List.countP_le_length
    omega
  · obtain ⟨source, member, side, -, -, payload, -⟩ :=
      (both .agent).2.2 _ (by rw [accepted]; exact List.mem_singleton.mpr rfl)
    exact ⟨source, member, side, payload⟩

end Channel

end NryNet.Advanced.P2P

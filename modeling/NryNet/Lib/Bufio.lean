import NryNet.Lib.ByteStream
import Mathlib.Data.List.TakeDrop

/-!
# Buffered readers and writers

`bufio.Reader` and `bufio.Writer`.  The reader keeps up to `size` bytes of its source, and an error of
the source that it has not returned yet.  It is a reader itself (in the sense of `ByteStream.Reader`),
and what it has left is what it has buffered followed by what its source has left: bytes that came with
a line and belong to what follows are not lost.

`readSlice` is `ReadSlice`, which returns everything up to and including a delimiter, or fails if the
buffer is full before.
-/

namespace Bufio

open ByteStream

universe u v

/-- `bufio.Reader` with a buffer of `size` bytes: `buf[r:w]`, and `err`. -/
structure BufReader (ρ : Type u) [Reader ρ] (size : ℕ) where
  source : ρ
  buffered : Bytes
  failure : Option Failure
  fits : buffered.length ≤ size
  ended : failure ≠ none → Reader.remaining source = []

namespace BufReader

variable {ρ : Type u} [Reader ρ] {size : ℕ}

/-- `NewReaderSize`, which is also what is left when everything was handed out. -/
def newReader (source : ρ) : BufReader ρ size where
  source := source
  buffered := []
  failure := none
  fits := Nat.zero_le _
  ended impossible := absurd rfl impossible

/-- Some bytes are taken out of the buffer. -/
def advance (b : BufReader ρ size) (count : ℕ) : BufReader ρ size :=
  { b with
    buffered := b.buffered.drop count
    fits := by
      rw [List.length_drop]
      have fits := b.fits
      omega }

/-- Bytes of the source are put into the buffer, into the part that is free. -/
def append (b : BufReader ρ size) : BufReader ρ size :=
  let out := Reader.read b.source (size - b.buffered.length)
  { source := out.next
    buffered := b.buffered ++ out.bytes
    failure := out.failure
    fits := by
      have fits := b.fits
      have length : out.bytes.length ≤ size - b.buffered.length := Reader.length_read _ _
      rw [List.length_append]
      omega
    ended := Reader.remaining_of_failure }

/-- `Read` into a buffer of `count` bytes. -/
def read (b : BufReader ρ size) (count : ℕ) : Outcome (BufReader ρ size) :=
  if count = 0 then
    if b.buffered ≠ [] then ⟨[], none, b⟩ else ⟨[], b.failure, newReader b.source⟩
  else if b.buffered ≠ [] then ⟨b.buffered.take count, none, b.advance count⟩
  else
    match b.failure with
    | some failure => ⟨[], some failure, newReader b.source⟩
    | none =>
        if size ≤ count then
          -- a large read, which goes past the buffer
          let out := Reader.read b.source count
          ⟨out.bytes, out.failure, newReader out.next⟩
        else
          let b := b.append
          if b.buffered = [] then ⟨[], b.failure, newReader b.source⟩
          else ⟨b.buffered.take count, none, b.advance count⟩

/-- `fill` with some tries left; `false` is `ErrNoProgress`. -/
def fillLoop : ℕ → BufReader ρ size → BufReader ρ size × Bool
  | 0, b => (b, false)
  | tries + 1, b =>
      let next := b.append
      if next.failure = none ∧ next.buffered.length = b.buffered.length then fillLoop tries next
      else (next, true)

/-- `fill`, with `maxConsecutiveEmptyReads` tries. -/
def fill (b : BufReader ρ size) : BufReader ρ size × Bool :=
  b.fillLoop 100

/-- The loop of `ReadSlice`, for some rounds. -/
def readSliceLoop (delim : UInt8) : ℕ → BufReader ρ size → Outcome (BufReader ρ size)
  | 0, b => ⟨[], some .noProgress, b⟩
  | rounds + 1, b =>
      match b.buffered.idxOf? delim with
      | some i => ⟨b.buffered.take (i + 1), none, b.advance (i + 1)⟩
      | none =>
          match b.failure with
          | some failure => ⟨b.buffered, some failure, newReader b.source⟩
          | none =>
              if size ≤ b.buffered.length then
                ⟨b.buffered, some .bufferFull, newReader b.source⟩
              else
                match b.fill with
                | (next, true) => readSliceLoop delim rounds next
                -- the buffer is as it was, and the error is returned in the next round
                | (next, false) => ⟨next.buffered, some .noProgress, newReader next.source⟩

/-- `ReadSlice`.  Every round but the last two puts a byte into the buffer. -/
def readSlice (delim : UInt8) (b : BufReader ρ size) : Outcome (BufReader ρ size) :=
  readSliceLoop delim (size + 2) b

/-- The loop of `Peek`, for some rounds. -/
def peekLoop (count : ℕ) : ℕ → BufReader ρ size → Outcome (BufReader ρ size)
  | 0, b => ⟨[], some .noProgress, b⟩
  | rounds + 1, b =>
      if b.buffered.length < count ∧ b.buffered.length < size ∧ b.failure = none then
        match b.fill with
        | (next, true) => peekLoop count rounds next
        | (next, false) =>
            ⟨next.buffered, some (if size < count then .bufferFull else .noProgress), next⟩
      else if size < count then ⟨b.buffered, some .bufferFull, b⟩
      else if b.buffered.length < count then
        ⟨b.buffered, some (b.failure.getD .bufferFull), { b with
          failure := none
          ended := fun impossible => absurd rfl impossible }⟩
      else ⟨b.buffered.take count, none, b⟩

/-- `Peek`.  Every round but the last two puts a byte into the buffer. -/
def peek (count : ℕ) (b : BufReader ρ size) : Outcome (BufReader ρ size) :=
  peekLoop count (size + 2) b

/-! ## A buffered reader is a reader -/

/-- What is buffered, and then the source. -/
def remaining (b : BufReader ρ size) : Bytes :=
  b.buffered ++ Reader.remaining b.source

theorem remaining_newReader (source : ρ) :
    (newReader source : BufReader ρ size).remaining = Reader.remaining source :=
  rfl

theorem remaining_advance (b : BufReader ρ size) (count : ℕ) :
    b.remaining = b.buffered.take count ++ (b.advance count).remaining := by
  rw [remaining, remaining, advance, ← List.append_assoc, List.take_append_drop]

theorem remaining_append (b : BufReader ρ size) : b.append.remaining = b.remaining := by
  rw [remaining, remaining, Reader.remaining_read b.source (size - b.buffered.length), append,
    List.append_assoc]

/-- How often it can be read: what is buffered and, if the source has not failed, what that has. -/
def budget (b : BufReader ρ size) : ℕ :=
  b.buffered.length +
    if b.failure = none then (Reader.remaining b.source).length + Reader.budget b.source else 0

/-- What `Read` can do. -/
inductive Returns (b : BufReader ρ size) (count : ℕ) : Outcome (BufReader ρ size) → Prop
  | buffered (full : b.buffered ≠ []) :
      Returns b count ⟨b.buffered.take count, none, b.advance count⟩
  | pending (empty : b.buffered = []) (stops : count = 0 ∨ b.failure ≠ none) :
      Returns b count ⟨[], b.failure, newReader b.source⟩
  | direct (empty : b.buffered = []) (succeeded : b.failure = none) (positive : 0 < count) :
      Returns b count
        ⟨(Reader.read b.source count).bytes, (Reader.read b.source count).failure,
          newReader (Reader.read b.source count).next⟩
  | nothing (empty : b.buffered = []) (succeeded : b.failure = none) (room : 0 < size)
      (none_read : b.append.buffered = []) :
      Returns b count ⟨[], b.append.failure, newReader b.append.source⟩
  | refilled (empty : b.buffered = []) (succeeded : b.failure = none) (room : 0 < size)
      (some_read : b.append.buffered ≠ []) :
      Returns b count ⟨b.append.buffered.take count, none, b.append.advance count⟩

theorem returns_read (b : BufReader ρ size) (count : ℕ) : Returns b count (b.read count) := by
  unfold read
  split
  · rename_i zero
    split
    · rename_i full
      subst zero
      exact .buffered full
    · rename_i empty
      exact .pending (not_not.mp empty) (.inl zero)
  · rename_i positive
    split
    · rename_i full
      exact .buffered full
    · rename_i empty
      split
      · rename_i failure pending
        rw [← pending]
        exact .pending (not_not.mp empty) (.inr (by rw [pending]; simp))
      · rename_i succeeded
        split
        · exact .direct (not_not.mp empty) succeeded (Nat.pos_of_ne_zero positive)
        · have room : 0 < size := by omega
          simp only
          split
          · rename_i none_read
            exact .nothing (not_not.mp empty) succeeded room none_read
          · rename_i some_read
            exact .refilled (not_not.mp empty) succeeded room some_read

theorem remaining_of_empty {b : BufReader ρ size} (empty : b.buffered = []) :
    b.remaining = Reader.remaining b.source := by
  rw [remaining, empty, List.nil_append]

/-- A refill that succeeds, or returns something, costs some of the budget. -/
theorem budget_append {b : BufReader ρ size} (empty : b.buffered = [])
    (succeeded : b.failure = none) (room : 0 < size) :
    (b.append.failure = none → b.append.budget < b.budget) ∧ b.append.budget ≤ b.budget := by
  have kept : b.append.buffered.length + (Reader.remaining b.append.source).length =
      (Reader.remaining b.source).length := by
    rw [← remaining_of_empty empty, ← remaining_append, remaining, List.length_append]
  have cheaper (appended : b.append.failure = none) : b.append.budget < b.budget := by
    have spent : Reader.budget b.append.source < Reader.budget b.source :=
      Reader.budget_read (by rw [empty]; exact room) appended
    rw [budget, budget, if_pos appended, if_pos succeeded, empty, List.length_nil]
    omega
  refine ⟨cheaper, ?_⟩
  by_cases appended : b.append.failure = none
  · exact Nat.le_of_lt (cheaper appended)
  · rw [budget, budget, if_neg appended, if_pos succeeded]
    omega

/-- Taking something out of the buffer costs as much of the budget. -/
theorem budget_advance {b : BufReader ρ size} (full : b.buffered ≠ []) {count : ℕ}
    (positive : 0 < count) : (b.advance count).budget < b.budget := by
  have length := List.length_pos_iff.mpr full
  refine Nat.add_lt_add_right ?_ _
  rw [advance, List.length_drop]
  omega

theorem budget_newReader_le {b : BufReader ρ size} (empty : b.buffered = [])
    (succeeded : b.failure = none) : (newReader b.source : BufReader ρ size).budget ≤ b.budget := by
  simp [budget, newReader, empty, succeeded]

section Laws

variable {b : BufReader ρ size} {count : ℕ} {out : Outcome (BufReader ρ size)}

theorem Returns.remaining_eq (returns : Returns b count out) :
    b.remaining = out.bytes ++ out.next.remaining := by
  cases returns with
  | buffered full => exact remaining_advance b count
  | pending empty stops => exact remaining_of_empty empty
  | direct empty succeeded positive =>
      rw [remaining_of_empty empty]
      exact Reader.remaining_read b.source count
  | nothing empty succeeded room none_read =>
      rw [← remaining_append]
      exact remaining_of_empty none_read
  | refilled empty succeeded room some_read =>
      rw [← remaining_append]
      exact remaining_advance b.append count

theorem Returns.length_le (returns : Returns b count out) : out.bytes.length ≤ count := by
  cases returns with
  | buffered full => exact List.length_take_le _ _
  | pending empty stops => exact Nat.zero_le _
  | direct empty succeeded positive => exact Reader.length_read b.source count
  | nothing empty succeeded room none_read => exact Nat.zero_le _
  | refilled empty succeeded room some_read => exact List.length_take_le _ _

theorem Returns.remaining_of_failure (returns : Returns b count out)
    (failed : out.failure ≠ none) : out.next.remaining = [] := by
  cases returns with
  | buffered full => exact absurd rfl failed
  | pending empty stops => exact b.ended failed
  | direct empty succeeded positive => exact Reader.remaining_of_failure failed
  | nothing empty succeeded room none_read => exact b.append.ended failed
  | refilled empty succeeded room some_read => exact absurd rfl failed

theorem Returns.budget_lt (returns : Returns b count out) (positive : 0 < count)
    (succeeded : out.failure = none) : out.next.budget < b.budget := by
  cases returns with
  | buffered full => exact budget_advance full positive
  | pending empty stops =>
      rcases stops with zero | failed
      · exact absurd zero (Nat.pos_iff_ne_zero.mp positive)
      · exact absurd succeeded failed
  | direct empty pending _ =>
      have kept := congrArg List.length (Reader.remaining_read b.source count)
      have spent := Reader.budget_read positive succeeded
      rw [List.length_append] at kept
      simp only [budget, newReader, empty, if_true, List.length_nil, if_pos pending]
      omega
  | nothing empty pending room none_read =>
      exact lt_of_le_of_lt (budget_newReader_le none_read succeeded)
        ((budget_append empty pending room).1 succeeded)
  | refilled empty pending room some_read =>
      exact lt_of_lt_of_le (budget_advance some_read positive) (budget_append empty pending room).2

end Laws

instance : Reader (BufReader ρ size) where
  read := read
  remaining := remaining
  budget := budget
  remaining_read b count := (returns_read b count).remaining_eq
  length_read b count := (returns_read b count).length_le
  remaining_of_failure {b count} failed := (returns_read b count).remaining_of_failure failed
  budget_read {b count} positive succeeded := (returns_read b count).budget_lt positive succeeded

/-! ## Lines -/

/-- What the loop of `ReadSlice` does if it succeeds. -/
structure Slices (delim : UInt8) (b : BufReader ρ size) (out : Outcome (BufReader ρ size)) :
    Prop where
  kept : b.remaining = out.bytes ++ out.next.remaining
  length_le : out.bytes.length ≤ size
  found : ∃ body, out.bytes = body ++ [delim] ∧ delim ∉ body

section Lines

variable {delim : UInt8} {b : BufReader ρ size}

theorem remaining_fillLoop (tries : ℕ) (b : BufReader ρ size) :
    (b.fillLoop tries).1.remaining = b.remaining := by
  induction tries generalizing b with
  | zero => rfl
  | succ tries ih =>
      simp only [fillLoop]
      split
      · rw [ih, remaining_append]
      · exact remaining_append b

/-- What has been peeked is in the buffer, and nothing is lost. -/
theorem peekLoop_ok {count rounds : ℕ} {b : BufReader ρ size}
    (succeeded : (b.peekLoop count rounds).failure = none) :
    (b.peekLoop count rounds).bytes.length = count ∧
      (b.peekLoop count rounds).bytes = (b.peekLoop count rounds).next.buffered.take count ∧
      (b.peekLoop count rounds).next.remaining = b.remaining := by
  induction rounds generalizing b with
  | zero => cases succeeded
  | succ rounds ih =>
      rw [peekLoop] at succeeded ⊢
      split at succeeded
      · rename_i short
        rw [if_pos short]
        split at succeeded
        · rename_i next filled
          have kept := remaining_fillLoop 100 b
          rw [← fill, filled] at kept
          rw [← kept]
          exact ih succeeded
        · cases succeeded
      · rename_i filled
        rw [if_neg filled]
        split at succeeded
        · cases succeeded
        · rename_i fits
          rw [if_neg fits]
          split at succeeded
          · cases succeeded
          · rename_i complete
            rw [if_neg complete]
            exact ⟨List.length_take_of_le (Nat.le_of_not_lt complete), rfl, rfl⟩

/-- **What `Peek` returns stands next in the stream.** -/
theorem peek_ok {count : ℕ} {b : BufReader ρ size} (succeeded : (b.peek count).failure = none) :
    (b.peek count).bytes.length = count ∧
      (b.peek count).bytes = (b.peek count).next.buffered.take count ∧
      (b.peek count).next.remaining = b.remaining :=
  peekLoop_ok succeeded

/-- The delimiter is in the buffer. -/
theorem slices_advance {i : ℕ} (found : b.buffered.idxOf? delim = some i) :
    Slices delim b ⟨b.buffered.take (i + 1), none, b.advance (i + 1)⟩ := by
  obtain ⟨bound, here, first⟩ := List.idxOf?_eq_some_iff.mp found
  refine ⟨remaining_advance b (i + 1), ?_, b.buffered.take i, ?_, ?_⟩
  · exact (List.length_take_le' _ _).trans b.fits
  · rw [List.take_succ_eq_append_getElem bound, here]
  · intro member
    obtain ⟨j, before, same⟩ := List.mem_take_iff_getElem.mp member
    exact first j (by omega) same

/-- **A line that `ReadSlice` returns is the next one of the stream**, and not longer than the
buffer. -/
theorem slices_readSliceLoop {rounds : ℕ}
    (succeeded : (readSliceLoop delim rounds b).failure = none) :
    Slices delim b (readSliceLoop delim rounds b) := by
  induction rounds generalizing b with
  | zero => cases succeeded
  | succ rounds ih =>
      rw [readSliceLoop] at succeeded ⊢
      split at succeeded
      · rename_i i found
        exact slices_advance found
      · split at succeeded
        · cases succeeded
        · split at succeeded
          · cases succeeded
          · rename_i room
            rw [if_neg room]
            split at succeeded
            · rename_i next filled
              have kept := remaining_fillLoop 100 b
              rw [← fill, filled] at kept
              obtain ⟨kept', length_le, found⟩ := ih succeeded
              exact ⟨kept.symm.trans kept', length_le, found⟩
            · cases succeeded

theorem slices_readSlice (succeeded : (b.readSlice delim).failure = none) :
    Slices delim b (b.readSlice delim) :=
  slices_readSliceLoop succeeded

/-- `ReadSlice` touches the source by reading only. -/
theorem readTo_readSlice (delim : UInt8) (b : BufReader ρ size) :
    ReadTo b.source (b.readSlice delim).next.source := by
  have fillLoop (tries : ℕ) (b : BufReader ρ size) : ReadTo b.source (b.fillLoop tries).1.source := by
    induction tries generalizing b with
    | zero => exact .refl _
    | succ tries ih =>
        simp only [BufReader.fillLoop]
        split
        · exact .read _ (ih b.append)
        · exact .read _ (.refl _)
  have readSliceLoop (rounds : ℕ) (b : BufReader ρ size) :
      ReadTo b.source (b.readSliceLoop delim rounds).next.source := by
    induction rounds generalizing b with
    | zero => exact .refl _
    | succ rounds ih =>
        have filled := fillLoop 100 b
        rw [BufReader.readSliceLoop]
        split
        · exact .refl _
        · split
          · exact .refl _
          · split
            · exact .refl _
            · split
              · rename_i next fill_eq
                rw [← fill, fill_eq] at filled
                exact filled.trans (ih next)
              · rename_i next fill_eq
                rw [← fill, fill_eq] at filled
                exact filled
  exact readSliceLoop (size + 2) b

variable [Prompt ρ]

/-- One try fills the buffer, unless the source fails. -/
theorem fill_of_prompt (room : b.buffered.length < size) :
    b.fill = (b.append, true) ∧
      (b.append.failure = none → b.buffered.length < b.append.buffered.length) := by
  have longer (succeeded : b.append.failure = none) :
      b.buffered.length < b.append.buffered.length := by
    have some : (Reader.read b.source (size - b.buffered.length)).bytes ≠ [] :=
      fun nothing => Prompt.prompt (by omega) nothing succeeded
    have length := List.length_pos_iff.mpr some
    simp only [append, List.length_append]
    omega
  refine ⟨?_, longer⟩
  rw [fill, fillLoop, if_neg]
  rintro ⟨succeeded, same⟩
  exact absurd same (Nat.ne_of_gt (longer succeeded))

/-- How many rounds `ReadSlice` can still take. -/
def rounds (b : BufReader ρ size) : ℕ :=
  if b.failure = none then size - b.buffered.length + 2 else 1

/-- `ReadSlice` fails only if the delimiter is not among the bytes that fit into the buffer. -/
theorem notMem_of_readSliceLoop {rounds : ℕ} (enough : b.rounds ≤ rounds)
    (failed : (readSliceLoop delim rounds b).failure ≠ none) : delim ∉ b.remaining.take size := by
  induction rounds generalizing b with
  | zero =>
      unfold BufReader.rounds at enough
      split at enough <;> omega
  | succ rounds ih =>
      rw [readSliceLoop] at failed
      split at failed
      · exact absurd rfl failed
      · rename_i missing
        have absent := List.idxOf?_eq_none_iff.mp missing
        split at failed
        · -- the source has failed, and all that is left is in the buffer
          rename_i failure pending
          rw [remaining, b.ended (by rw [pending]; simp), List.append_nil]
          exact fun member => absent (List.mem_of_mem_take member)
        · rename_i pending
          split at failed
          · -- the buffer is full
            rename_i full
            rw [remaining, List.take_append_of_le_length full]
            exact fun member => absent (List.mem_of_mem_take member)
          · rename_i room
            obtain ⟨filled, longer⟩ := fill_of_prompt (Nat.lt_of_not_le room)
            simp only [filled] at failed
            rw [← remaining_append]
            refine ih ?_ failed
            unfold BufReader.rounds at enough ⊢
            rw [if_pos pending] at enough
            have fits := b.append.fits
            split
            · rename_i succeeded
              have progress := longer succeeded
              omega
            · omega

/-- **`ReadSlice` returns the next line**, if it fits into the buffer, however the source cuts the
stream, and what follows the line is left. -/
theorem readSlice_of_remaining {line rest : Bytes} (stream : b.remaining = line ++ delim :: rest)
    (plain : delim ∉ line) (short : line.length < size) :
    (b.readSlice delim).failure = none ∧ (b.readSlice delim).bytes = line ++ [delim] ∧
      (b.readSlice delim).next.remaining = rest := by
  have enough : b.rounds ≤ size + 2 := by
    unfold rounds
    split <;> omega
  have succeeded : (b.readSlice delim).failure = none := by
    by_contra failed
    refine notMem_of_readSliceLoop enough failed ?_
    obtain ⟨more, room⟩ : ∃ more, size - line.length = more + 1 := ⟨size - line.length - 1, by omega⟩
    rw [stream, List.take_append, room, List.take_succ_cons]
    exact List.mem_append_right _ List.mem_cons_self
  obtain ⟨kept, -, body, split, absent⟩ := slices_readSlice succeeded
  rw [stream, split, List.append_assoc, List.singleton_append] at kept
  obtain ⟨rfl, left⟩ := append_cons_inj_of_notMem_left plain absent kept
  exact ⟨succeeded, split, left.symm⟩

end Lines

end BufReader

/-! ## Writers -/

/-- `bufio.Writer` with a buffer of `size` bytes: `buf[:n]`, and `err`, which stays. -/
structure BufWriter (σ : Type v) (size : ℕ) where
  writer : σ
  buffered : Bytes
  failure : Option Failure

namespace BufWriter

variable {σ : Type v} [Writer σ] {size : ℕ}

/-- `NewWriterSize`. -/
def newWriter (writer : σ) : BufWriter σ size :=
  ⟨writer, [], none⟩

/-- Bytes are handed to the writer, and the buffer is empty. -/
def direct (b : BufWriter σ size) (bytes : Bytes) : BufWriter σ size :=
  let out := Writer.write b.writer bytes
  ⟨out.1, [], out.2⟩

/-- `Flush`. -/
def flush (b : BufWriter σ size) : BufWriter σ size :=
  if b.failure ≠ none ∨ b.buffered = [] then b else b.direct b.buffered

/-- `Write`.  What does not fit is written past the buffer, after what is in it. -/
def write (b : BufWriter σ size) (bytes : Bytes) : BufWriter σ size :=
  let room := size - b.buffered.length
  if b.failure ≠ none then b
  else if bytes.length ≤ room then { b with buffered := b.buffered ++ bytes }
  else if b.buffered = [] then b.direct bytes
  else
    let b := flush { b with buffered := b.buffered ++ bytes.take room }
    if b.failure ≠ none then b
    else if (bytes.drop room).length ≤ size then { b with buffered := bytes.drop room }
    else b.direct (bytes.drop room)

/-- Everything written to an empty buffered writer comes out in one piece when it is flushed. -/
theorem flush_write_newWriter (written bytes : Bytes) :
    ((newWriter (Buffer.mk written) : BufWriter Buffer size).write bytes).failure = none ∧
      ((newWriter (Buffer.mk written) : BufWriter Buffer size).write bytes).flush =
        newWriter ⟨written ++ bytes⟩ := by
  unfold write
  simp only [newWriter, ne_eq, not_true_eq_false, if_false, List.nil_append, if_true]
  split
  · refine ⟨rfl, ?_⟩
    simp only [flush, direct, write_buffer, ne_eq, not_true_eq_false, false_or]
    split
    · rename_i empty
      rw [empty, List.append_nil]
    · rfl
  · simp [flush, direct]

end BufWriter

end Bufio

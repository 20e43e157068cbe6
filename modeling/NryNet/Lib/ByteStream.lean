import Mathlib.Algebra.Order.Group.Nat
import Mathlib.Data.List.Basic
import Mathlib.Tactic.Ring

/-!
# Byte streams

Numbers as big-endian bytes, and readers in the sense of `io.Reader`: a state from which `read` takes
some of the bytes that are left, as many as it likes up to a given number.  `readFull` is `io.ReadFull`:
it goes on reading until it has what it was asked for.

A reader is known by what it still has, `remaining`, and not by how it cuts it into pieces.  All the
results are about `remaining`, so they hold for every way of cutting.  `Chunks` is the reader that hands
out the pieces of a list.
-/

namespace ByteStream

universe u v

abbrev Bytes := List UInt8

/-- The bytes of a text. -/
def utf8 (text : String) : Bytes :=
  text.toUTF8.data.toList

/-- The bytes are those of some text. -/
def IsUTF8 (bytes : Bytes) : Prop :=
  ∃ text, utf8 text = bytes

/-! ## Big-endian numbers -/

/-- The last `width` bytes of a number, the most significant one first. -/
def bigEndian : ℕ → ℕ → Bytes
  | 0, _ => []
  | width + 1, value => UInt8.ofNat (value / 256 ^ width) :: bigEndian width value

/-- The number that some bytes stand for. -/
def ofBigEndian (bytes : Bytes) : ℕ :=
  bytes.foldl (fun value byte => value * 256 + byte.toNat) 0

@[simp] theorem length_bigEndian (width value : ℕ) : (bigEndian width value).length = width := by
  induction width with
  | zero => rfl
  | succ width ih => rw [bigEndian, List.length_cons, ih]

/-- The digits of a number are read back in Horner's scheme. -/
theorem foldl_bigEndian (width value seed : ℕ) :
    (bigEndian width value).foldl (fun value byte => value * 256 + byte.toNat) seed =
      seed * 256 ^ width + value % 256 ^ width := by
  induction width generalizing seed with
  | zero => simp [bigEndian, Nat.mod_one]
  | succ width ih =>
      have digit : (UInt8.ofNat (value / 256 ^ width)).toNat = value / 256 ^ width % 256 := by
        rw [UInt8.toNat_ofNat']
      rw [bigEndian, List.foldl_cons, ih, digit, pow_succ, Nat.mod_mul]
      ring

theorem ofBigEndian_bigEndian (width value : ℕ) :
    ofBigEndian (bigEndian width value) = value % 256 ^ width := by
  rw [ofBigEndian, foldl_bigEndian]
  simp

/-! ## Separators -/

/-- What stands before the first separator can be read back. -/
theorem append_cons_inj_of_notMem_left {α : Type*} {separator : α} {left left' right right' : List α}
    (plain : separator ∉ left) (plain' : separator ∉ left')
    (same : left ++ separator :: right = left' ++ separator :: right') :
    left = left' ∧ right = right' := by
  induction left generalizing left' with
  | nil =>
      cases left' with
      | nil => exact ⟨rfl, (List.cons.inj same).2⟩
      | cons head tail => exact absurd ((List.cons.inj same).1 ▸ List.mem_cons_self) plain'
  | cons head tail hypothesis =>
      cases left' with
      | nil => exact absurd ((List.cons.inj same).1 ▸ List.mem_cons_self) plain
      | cons head' tail' =>
          obtain ⟨rfl, rest⟩ := List.cons.inj same
          obtain ⟨rfl, rfl⟩ := hypothesis (fun member => plain (List.mem_cons_of_mem _ member))
            (fun member => plain' (List.mem_cons_of_mem _ member)) rest
          exact ⟨rfl, rfl⟩

/-! ## Readers -/

/-- How a call of `Read` can fail: the errors that somebody compares with, and all the others. -/
inductive Failure where
  | eof
  | unexpectedEOF
  | bufferFull
  | noProgress
  | other (text : String)
  deriving DecidableEq, Repr

/-- The text of an error. -/
def Failure.text : Failure → String
  | .eof => "EOF"
  | .unexpectedEOF => "unexpected EOF"
  | .bufferFull => "bufio: buffer full"
  | .noProgress => "multiple Read calls return no data or error"
  | .other text => text

/-- What a call of `Read` returns, and the reader it leaves behind. -/
structure Outcome (ρ : Type u) where
  bytes : Bytes
  failure : Option Failure
  next : ρ

/-- An `io.Reader` of a finite stream.  It fails when nothing is left, if not before it is asked again:
the error may come with the last bytes.  `budget` bounds how often it can be read without an error,
for it may also return nothing.

Errors are final.  A reader that goes on after an error is none of these, such as a connection whose read
deadline has passed and is moved, for example while a request's body is being closed. -/
class Reader (ρ : Type u) where
  read : ρ → ℕ → Outcome ρ
  remaining : ρ → Bytes
  budget : ρ → ℕ
  remaining_read (r : ρ) (size : ℕ) :
    remaining r = (read r size).bytes ++ remaining (read r size).next
  length_read (r : ρ) (size : ℕ) : (read r size).bytes.length ≤ size
  remaining_of_failure {r : ρ} {size : ℕ} (failed : (read r size).failure ≠ none) :
    remaining (read r size).next = []
  budget_read {r : ρ} {size : ℕ} (positive : 0 < size) (succeeded : (read r size).failure = none) :
    budget (read r size).next < budget r

section ReadFull

open Reader

variable {ρ : Type u} [Reader ρ]

/-- The loop of `io.ReadAtLeast`, for some rounds: `got` has been read. -/
def readLoop : ℕ → ρ → Bytes → ℕ → Outcome ρ
  | 0, r, got, _ => ⟨got, none, r⟩
  | rounds + 1, r, got, size =>
      if got.length < size then
        let out := read r (size - got.length)
        match out.failure with
        | none => readLoop rounds out.next (got ++ out.bytes) size
        | some failure => ⟨got ++ out.bytes, some failure, out.next⟩
      else ⟨got, none, r⟩

/-- `io.ReadFull` into a buffer of some size. -/
def readFull (r : ρ) (size : ℕ) : Outcome ρ :=
  let out := readLoop (budget r + 1) r [] size
  if size ≤ out.bytes.length then { out with failure := none }
  else if out.bytes ≠ [] ∧ out.failure = some .eof then
    { out with failure := some .unexpectedEOF }
  else out

/-- What the loop does: it loses nothing, does not read too much, and stops early only if there is
nothing left. -/
structure Reads (r : ρ) (got : Bytes) (size : ℕ) (out : Outcome ρ) : Prop where
  kept : got ++ remaining r = out.bytes ++ remaining out.next
  length_le : out.bytes.length ≤ size
  failed : out.bytes.length < size → out.failure ≠ none ∧ remaining out.next = []

theorem reads_readLoop {rounds : ℕ} {r : ρ} {got : Bytes} {size : ℕ} (enough : budget r < rounds)
    (fits : got.length ≤ size) : Reads r got size (readLoop rounds r got size) := by
  -- by induction on the rounds: every successful read costs some of the budget
  induction rounds generalizing r got with
  | zero => exact absurd enough (Nat.not_lt_zero _)
  | succ rounds ih =>
      rw [readLoop]
      split
      · rename_i short
        have kept := remaining_read r (size - got.length)
        have length := length_read r (size - got.length)
        generalize read_eq : read r (size - got.length) = out at kept length
        have fits' : (got ++ out.bytes).length ≤ size := by
          rw [List.length_append]
          omega
        have joined : got ++ remaining r = (got ++ out.bytes) ++ remaining out.next := by
          rw [kept, List.append_assoc]
        cases failure_eq : out.failure with
        | none =>
            have cheaper : budget out.next < budget r := by
              rw [← read_eq]
              exact budget_read (by omega) (by rw [read_eq, failure_eq])
            obtain ⟨kept', length_le, failed⟩ := ih (by omega : budget out.next < rounds) fits'
            simp only [failure_eq]
            exact ⟨joined.trans kept', length_le, failed⟩
        | some failure =>
            simp only [failure_eq]
            refine ⟨joined, fits', fun _ => ⟨by simp, ?_⟩⟩
            rw [← read_eq]
            exact remaining_of_failure (by rw [read_eq, failure_eq]; simp)
      · rename_i complete
        exact ⟨rfl, fits, fun impossible => absurd impossible complete⟩

/-- **What `io.ReadFull` does.** -/
theorem reads_readFull (r : ρ) (size : ℕ) : Reads r [] size (readFull r size) := by
  have loop : Reads r [] size (readLoop (budget r + 1) r [] size) :=
    reads_readLoop (Nat.lt_succ_self _) (Nat.zero_le _)
  simp only [readFull]
  split
  · rename_i complete
    exact ⟨loop.kept, loop.length_le, fun short => absurd short (Nat.not_lt.mpr complete)⟩
  · split
    · exact ⟨loop.kept, loop.length_le, fun short => ⟨by simp, (loop.failed short).2⟩⟩
    · exact loop

/-- Nothing is lost. -/
theorem remaining_readFull (r : ρ) (size : ℕ) :
    remaining r = (readFull r size).bytes ++ remaining (readFull r size).next :=
  (reads_readFull r size).kept

theorem length_readFull_le (r : ρ) (size : ℕ) : (readFull r size).bytes.length ≤ size :=
  (reads_readFull r size).length_le

/-- Without an error the buffer is full. -/
theorem length_readFull {r : ρ} {size : ℕ} (succeeded : (readFull r size).failure = none) :
    (readFull r size).bytes.length = size := by
  refine Nat.le_antisymm (length_readFull_le r size) (Nat.le_of_not_lt fun short => ?_)
  exact ((reads_readFull r size).failed short).1 succeeded

/-- If the buffer is full, an error that came with the last bytes is dropped. -/
theorem failure_readFull {r : ρ} {size : ℕ} (full : (readFull r size).bytes.length = size) :
    (readFull r size).failure = none := by
  simp only [readFull] at full ⊢
  split
  · rfl
  · rename_i short
    rw [if_neg short] at full
    split at full <;> exact absurd (Nat.le_of_eq full.symm) short

/-- Enough bytes are left, so the buffer is filled with them, however the reader cuts them. -/
theorem readFull_of_remaining {r : ρ} {wanted rest : Bytes}
    (stream : remaining r = wanted ++ rest) :
    (readFull r wanted.length).bytes = wanted ∧ (readFull r wanted.length).failure = none ∧
      remaining (readFull r wanted.length).next = rest := by
  obtain ⟨kept, length_le, failed⟩ := reads_readFull r wanted.length
  have split := stream.symm.trans kept
  have full : (readFull r wanted.length).bytes.length = wanted.length := by
    refine Nat.le_antisymm length_le (Nat.le_of_not_lt fun short => ?_)
    have lengths := congrArg List.length split
    rw [(failed short).2, List.length_append, List.length_append] at lengths
    simp only [List.length_nil] at lengths
    omega
  obtain ⟨same, left⟩ := List.append_inj split full.symm
  exact ⟨same.symm, failure_readFull full, left.symm⟩

end ReadFull

section ReadMany

open Reader

variable {ρ : Type u} [Reader ρ]

/-- Calls of `Read` with buffers of some sizes, until one of them fails. -/
def readMany : List ℕ → ρ → Bytes × ρ
  | [], r => ([], r)
  | size :: sizes, r =>
      let out := read r size
      match out.failure with
      | some _ => (out.bytes, out.next)
      | none =>
          let more := readMany sizes out.next
          (out.bytes ++ more.1, more.2)

/-- No byte is lost, duplicated or reordered. -/
theorem remaining_readMany (sizes : List ℕ) (r : ρ) :
    remaining r = (readMany sizes r).1 ++ remaining (readMany sizes r).2 := by
  induction sizes generalizing r with
  | nil => rfl
  | cons size sizes ih =>
      have kept := remaining_read r size
      rw [readMany]
      split
      · exact kept
      · rw [List.append_assoc, ← ih]
        exact kept

/-- Enough calls return everything. -/
theorem readMany_all {sizes : List ℕ} {r : ρ} (positive : ∀ size ∈ sizes, 0 < size)
    (enough : budget r < sizes.length) : (readMany sizes r).1 = remaining r := by
  induction sizes generalizing r with
  | nil => exact absurd enough (Nat.not_lt_zero _)
  | cons size sizes ih =>
      have kept := remaining_read r size
      rw [readMany]
      split
      · rename_i failed
        have ended : remaining (read r size).next = [] :=
          remaining_of_failure (by rw [failed]; simp)
        rw [kept, ended, List.append_nil]
      · rename_i succeeded
        have cheaper := budget_read (positive size List.mem_cons_self) succeeded
        rw [List.length_cons] at enough
        simp only
        rw [ih (fun size member => positive size (List.mem_cons_of_mem _ member)) (by omega)]
        exact kept.symm

end ReadMany

/-- A reader has become another one by calls of `Read`, and by nothing else. -/
inductive ReadTo {ρ : Type u} [Reader ρ] : ρ → ρ → Prop
  | refl (r : ρ) : ReadTo r r
  | read {r r' : ρ} (size : ℕ) (more : ReadTo (Reader.read r size).next r') : ReadTo r r'

theorem ReadTo.trans {ρ : Type u} [Reader ρ] {r r' r'' : ρ} (first : ReadTo r r')
    (second : ReadTo r' r'') : ReadTo r r'' := by
  induction first with
  | refl r => exact second
  | read size more ih => exact .read size (ih second)

/-- What every call of `Read` preserves is preserved. -/
theorem ReadTo.preserves {ρ : Type u} [Reader ρ] {property : ρ → Prop}
    (step : ∀ r size, property r → property (Reader.read r size).next) {r r' : ρ}
    (reads : ReadTo r r') (initial : property r) : property r' := by
  induction reads with
  | refl r => exact initial
  | read size more ih => exact ih (step _ size initial)

/-- A reader that returns something whenever it does not fail. -/
class Prompt (ρ : Type u) [Reader ρ] : Prop where
  prompt {r : ρ} {size : ℕ} (positive : 0 < size)
    (nothing : (Reader.read r size).bytes = []) : (Reader.read r size).failure ≠ none

/-! ## Writers -/

/-- An `io.Writer`. -/
class Writer (σ : Type v) where
  write : σ → Bytes → σ × Option Failure

/-- A `bytes.Buffer` that is written to. -/
structure Buffer where
  bytes : Bytes
  deriving DecidableEq, Repr

instance : Writer Buffer where
  write buffer bytes := (⟨buffer.bytes ++ bytes⟩, none)

@[simp] theorem write_buffer (written bytes : Bytes) :
    Writer.write (Buffer.mk written) bytes = (⟨written ++ bytes⟩, none) := rfl

/-! ## Pieces of a list -/

/-- The reader that hands out the pieces of a list, a piece in several calls if it is too long, and
then fails.  An `eager` one returns the error together with the last bytes. -/
structure Chunks where
  chunks : List Bytes
  failure : Failure
  eager : Bool
  deriving DecidableEq, Repr

namespace Chunks

/-- `Read` into a buffer of some size. -/
def read (r : Chunks) (size : ℕ) : Outcome Chunks :=
  match r.chunks with
  | [] => ⟨[], some r.failure, r⟩
  | chunk :: rest =>
      if size < chunk.length then
        ⟨chunk.take size, none, { r with chunks := chunk.drop size :: rest }⟩
      else
        ⟨chunk, if r.eager ∧ rest = [] then some r.failure else none, { r with chunks := rest }⟩

instance : Reader Chunks where
  read := read
  remaining r := r.chunks.flatten
  budget r := r.chunks.flatten.length + r.chunks.length
  remaining_read r size := by
    unfold read
    split
    · rename_i ended
      simp [ended]
    · rename_i chunk rest cut
      split <;> simp [cut, ← List.append_assoc]
  length_read r size := by
    unfold read
    split
    · exact Nat.zero_le _
    · split
      · exact List.length_take_le _ _
      · rename_i short
        exact Nat.le_of_not_lt short
  remaining_of_failure {r size} failed := by
    unfold read at failed ⊢
    split at failed
    · rename_i ended
      simp [ended]
    · split at failed
      · exact absurd rfl failed
      · rename_i short
        simp only [ne_eq, ite_eq_right_iff, reduceCtorEq, imp_false, not_not] at failed
        simp [short, failed.2]
  budget_read {r size} positive succeeded := by
    unfold read at succeeded ⊢
    split at succeeded
    · cases succeeded
    · rename_i chunk rest cut
      simp only [cut]
      split
      · simp
        omega
      · simp
        omega

end Chunks

/-- The same with no empty pieces, as they come from a connection. -/
structure Segments extends Chunks where
  nonempty : [] ∉ chunks

namespace Segments

/-- `Read` into a buffer of some size. -/
def read (r : Segments) (size : ℕ) : Outcome Segments where
  bytes := (r.toChunks.read size).bytes
  failure := (r.toChunks.read size).failure
  next :=
    { toChunks := (r.toChunks.read size).next
      nonempty := by
        have nonempty := r.nonempty
        unfold Chunks.read
        split
        · exact nonempty
        · rename_i chunk rest cut
          rw [cut] at nonempty
          split
          · rename_i short
            simp only [List.mem_cons, not_or] at nonempty ⊢
            refine ⟨fun empty => ?_, nonempty.2⟩
            have lengths := congrArg List.length empty
            simp only [List.length_nil, List.length_drop] at lengths
            omega
          · exact fun member => nonempty (List.mem_cons_of_mem _ member) }

instance : Reader Segments where
  read := read
  remaining r := Reader.remaining r.toChunks
  budget r := Reader.budget r.toChunks
  remaining_read r := Reader.remaining_read r.toChunks
  length_read r := Reader.length_read r.toChunks
  remaining_of_failure {r _} := Reader.remaining_of_failure (r := r.toChunks)
  budget_read {r _} := Reader.budget_read (r := r.toChunks)

instance : Prompt Segments where
  prompt {r size} positive nothing succeeded := by
    have nonempty := r.nonempty
    change (r.toChunks.read size).bytes = [] at nothing
    change (r.toChunks.read size).failure = none at succeeded
    unfold Chunks.read at nothing succeeded
    split at nothing
    · rename_i ended
      simp [ended] at succeeded
    · rename_i chunk rest cut
      rw [cut] at nonempty
      split at nothing
      · rcases List.take_eq_nil_iff.mp nothing with zero | empty
        · omega
        · exact nonempty (List.mem_cons.mpr (.inl empty.symm))
      · exact nonempty (List.mem_cons.mpr (.inl nothing.symm))

end Segments

end ByteStream

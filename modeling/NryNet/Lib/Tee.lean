import NryNet.Lib.Bufio

/-!
# Readers made of readers

`io.TeeReader`, which keeps a copy of what is read through it, and `io.MultiReader` of a piece that is at
hand and a reader, which is how bytes that were read too early are put back in front of a stream.

The law of the first is `captured_of_readTo`: the copy, followed by what is left, is the stream as it was
at the beginning.  The law of the second is its `remaining`.
-/

namespace ByteStream

universe u

/-! ## Copies -/

/-- `io.TeeReader` that writes to a `bytes.Buffer`. -/
structure TeeReader (ρ : Type u) where
  reader : ρ
  captured : Bytes

namespace TeeReader

variable {ρ : Type u} [Reader ρ]

instance : Reader (TeeReader ρ) where
  read tee size :=
    let out := Reader.read tee.reader size
    ⟨out.bytes, out.failure, ⟨out.next, tee.captured ++ out.bytes⟩⟩
  remaining tee := Reader.remaining tee.reader
  budget tee := Reader.budget tee.reader
  remaining_read tee size := Reader.remaining_read tee.reader size
  length_read tee size := Reader.length_read tee.reader size
  remaining_of_failure failed := Reader.remaining_of_failure failed
  budget_read positive succeeded := Reader.budget_read positive succeeded

/-- The stream as it was at the beginning. -/
def whole (tee : TeeReader ρ) : Bytes :=
  tee.captured ++ Reader.remaining tee.reader

/-- **Whoever reads through a tee, and however much, the copy and the rest are the stream.** -/
theorem whole_of_readTo {tee tee' : TeeReader ρ} (reads : ReadTo tee tee') :
    tee'.whole = tee.whole := by
  have step (r : TeeReader ρ) (size : ℕ) (same : r.whole = tee.whole) :
      (Reader.read r size).next.whole = tee.whole := by
    rw [← same, whole, whole, Reader.remaining_read r.reader size, ← List.append_assoc]
    rfl
  exact reads.preserves step rfl

end TeeReader

/-! ## A piece in front -/

/-- `io.MultiReader` of a `bytes.Reader` and another reader: what is left of the piece and the reader,
as long as they have not returned `io.EOF`. -/
structure Prefixed (ρ : Type u) where
  piece : Option Bytes
  tail : Option ρ

namespace Prefixed

variable {ρ : Type u} [Reader ρ]

/-- `io.MultiReader(bytes.NewReader(piece), tail)`. -/
def new (piece : Bytes) (tail : ρ) : Prefixed ρ :=
  ⟨some piece, some tail⟩

/-- `Read`, when the piece is used up. -/
def readTail (r : Prefixed ρ) (size : ℕ) : Outcome (Prefixed ρ) :=
  match r.tail with
  | none => ⟨[], some .eof, ⟨none, none⟩⟩
  | some tail =>
      let out := Reader.read tail size
      ⟨out.bytes, out.failure, ⟨none, if out.failure = some .eof then none else some out.next⟩⟩

/-- `Read`. -/
def read (r : Prefixed ρ) (size : ℕ) : Outcome (Prefixed ρ) :=
  match r.piece with
  | some piece =>
      if piece = [] then r.readTail size
      else ⟨piece.take size, none, ⟨some (piece.drop size), r.tail⟩⟩
  | none => r.readTail size

/-- The piece, and then the reader. -/
def remaining (r : Prefixed ρ) : Bytes :=
  r.piece.getD [] ++ (r.tail.map Reader.remaining).getD []

/-- How often it can be read. -/
def budget (r : Prefixed ρ) : ℕ :=
  (r.piece.getD []).length + (r.tail.map Reader.budget).getD 0

/-- The laws of a reader, for a call of `Read`. -/
structure Lawful (r : Prefixed ρ) (size : ℕ) (out : Outcome (Prefixed ρ)) : Prop where
  kept : r.remaining = out.bytes ++ out.next.remaining
  length_le : out.bytes.length ≤ size
  ended : out.failure ≠ none → out.next.remaining = []
  cheaper : 0 < size → out.failure = none → out.next.budget < r.budget

theorem lawful_readTail {r : Prefixed ρ} (used : r.piece.getD [] = []) (size : ℕ) :
    Lawful r size (r.readTail size) := by
  unfold readTail
  split
  · rename_i ended
    refine ⟨?_, Nat.zero_le _, fun _ => rfl, fun _ impossible => (nomatch impossible)⟩
    rw [remaining, used, ended]
    rfl
  · rename_i tail present
    have kept := Reader.remaining_read tail size
    have whole : r.remaining = Reader.remaining tail := by
      rw [remaining, used, present]
      rfl
    refine ⟨?_, Reader.length_read tail size, fun failed => ?_, fun positive succeeded => ?_⟩
    · rw [whole, kept]
      congr 1
      simp only [remaining]
      split
      · rename_i eof
        rw [Reader.remaining_of_failure (by rw [eof]; simp)]
        rfl
      · rfl
    · have ended := Reader.remaining_of_failure failed
      simp only [remaining]
      split
      · rfl
      · rw [Option.map_some, Option.getD_some, ended]
        rfl
    · have cheaper := Reader.budget_read positive succeeded
      have other : (Reader.read tail size).failure ≠ some .eof := by
        rw [succeeded]
        exact fun impossible => (nomatch impossible)
      simp only [budget, if_neg other, used, present]
      exact Nat.add_lt_add_left cheaper 0

theorem lawful_read (r : Prefixed ρ) (size : ℕ) : Lawful r size (r.read size) := by
  unfold read
  split
  · rename_i piece present
    split
    · rename_i empty
      exact lawful_readTail (by rw [present, empty]; rfl) size
    · rename_i full
      have some : (r.piece.getD []) = piece := by rw [present]; rfl
      refine ⟨?_, List.length_take_le _ _, fun impossible => absurd rfl impossible,
        fun positive _ => ?_⟩
      · simp only [remaining, some, Option.getD_some]
        rw [← List.append_assoc, List.take_append_drop]
      · have length := List.length_pos_iff.mpr full
        simp only [budget, some, Option.getD_some, List.length_drop]
        omega
  · rename_i absent
    exact lawful_readTail (by rw [absent]; rfl) size

instance : Reader (Prefixed ρ) where
  read := read
  remaining := remaining
  budget := budget
  remaining_read r size := (lawful_read r size).kept
  length_read r size := (lawful_read r size).length_le
  remaining_of_failure {r size} failed := (lawful_read r size).ended failed
  budget_read {r size} positive succeeded := (lawful_read r size).cheaper positive succeeded

theorem remaining_new (piece : Bytes) (tail : ρ) :
    Reader.remaining (new piece tail) = piece ++ Reader.remaining tail :=
  rfl

end Prefixed

end ByteStream

import Mathlib.Data.List.Infix

/-!
# Buffered channels of Go

A channel with room for `capacity` values.  A send blocks while the buffer is full and a receive
blocks while it is empty; both are `none` then.  The channel remembers everything that was ever sent
on it, so that "it receives at most one value" can be said about a channel whose value has already
been taken out again.
-/

universe u

/-- A Go `chan α` made with some capacity. -/
structure Chan (α : Type u) where
  capacity : ℕ
  buffer : List α
  /-- everything that was ever sent -/
  sent : List α
  bounded : buffer.length ≤ capacity
  pending : buffer <:+ sent

namespace Chan

variable {α : Type u} {channel channel' : Chan α} {value : α}

/-- `make(chan α, capacity)`. -/
def make (capacity : ℕ) : Chan α where
  capacity := capacity
  buffer := []
  sent := []
  bounded := Nat.zero_le _
  pending := List.suffix_rfl

/-- `c <- value`. -/
def send (channel : Chan α) (value : α) : Option (Chan α) :=
  if room : channel.buffer.length < channel.capacity then
    some
      { capacity := channel.capacity
        buffer := channel.buffer ++ [value]
        sent := channel.sent ++ [value]
        bounded := by
          rw [List.length_append, List.length_singleton]
          omega
        pending := by
          obtain ⟨received, all⟩ := channel.pending
          exact ⟨received, by rw [← all, List.append_assoc]⟩ }
  else none

/-- `<-c`. -/
def receive (channel : Chan α) : Option (α × Chan α) :=
  match waiting : channel.buffer with
  | [] => none
  | value :: rest =>
      some (value,
        { capacity := channel.capacity
          buffer := rest
          sent := channel.sent
          bounded := by
            have bounded := channel.bounded
            rw [waiting, List.length_cons] at bounded
            omega
          pending := by
            have pending := channel.pending
            rw [waiting] at pending
            exact (List.suffix_cons value rest).trans pending })

/-- `select { case c <- value: default: }`. -/
def trySend (channel : Chan α) (value : α) : Chan α :=
  (channel.send value).getD channel

@[simp] theorem sent_make (capacity : ℕ) : (make capacity : Chan α).sent = [] := rfl

@[simp] theorem capacity_make (capacity : ℕ) : (make capacity : Chan α).capacity = capacity := rfl

/-- What a send that does not block has done. -/
theorem of_send (sent : channel.send value = some channel') :
    channel'.capacity = channel.capacity ∧ channel'.buffer = channel.buffer ++ [value] ∧
      channel'.sent = channel.sent ++ [value] := by
  unfold send at sent
  split at sent
  · cases sent
    exact ⟨rfl, rfl, rfl⟩
  · cases sent

/-- A send with room in the buffer does not block. -/
theorem send_isSome (value : α) (room : channel.buffer.length < channel.capacity) :
    (channel.send value).isSome = true := by
  unfold send
  rw [dif_pos room]
  rfl

/-- What a receive that does not block has done. -/
theorem of_receive (received : channel.receive = some (value, channel')) :
    channel.buffer = value :: channel'.buffer ∧ channel'.capacity = channel.capacity ∧
      channel'.sent = channel.sent := by
  unfold receive at received
  split at received
  · cases received
  · rename_i waiting
    cases received
    exact ⟨waiting, rfl, rfl⟩

/-- A value that is received was sent. -/
theorem mem_sent_of_receive (received : channel.receive = some (value, channel')) :
    value ∈ channel.sent := by
  refine channel.pending.subset ?_
  rw [(of_receive received).1]
  exact List.mem_cons_self

/-- Nothing waits in a channel on which nothing was sent. -/
theorem buffer_of_sent_nil (unsent : channel.sent = []) : channel.buffer = [] := by
  have pending := channel.pending
  rw [unsent] at pending
  exact List.suffix_nil.mp pending

end Chan

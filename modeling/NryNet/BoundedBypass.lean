import NryNet.Agent.WriteQueue
import NryNet.Control.WriteQueue
import NryNet.Lib.LaneHistory

/-!
# Bounded bypass in the two write queues

The server's `controlWriteQueue` and the agent's `queuedControlConn` serve their three classes by the
same rule, written down twice: critical messages first, then urgent ones, and a normal one after at
most 32 urgent ones.  The budget of the rule is also spent while no normal message waits, so what it
says about a period in which one does depends on what happened before.

Both queues are histories of `Lanes`: each move of either pool is one of the four events, and the
library's rule does the rest.
-/

namespace NryNet

open ThreadPool

namespace Control

/-- The three queues of a write queue, and what was taken from them. -/
def WriteQueue.history (s : WriteQueue) : Lanes.History QueuedControlMessage where
  lanes := s.queue.toLanes
  closed := s.queue.closed
  taken := s.taken

/-- What happens to the server's queue are the events of a history. -/
theorem QueueEvent.history {s s' : WriteQueue} (event : QueueEvent s s') :
    Lanes.Event QueuedControlMessage.lane 32 s.history s'.history := by
  cases event with
  | none queue accepted taken =>
      have same : s'.history = s.history := by
        unfold WriteQueue.history
        rw [queue, taken]
      rw [same]
      exact .same
  | enqueued item queue accepted taken =>
      obtain ⟨isOpen, -, lanes, -, -, isOpen'⟩ := ControlWriteQueue.enqueueItem_ok queue
      have pushed : s'.history = { s.history with lanes := s.queue.push item item.lane } := by
        unfold WriteQueue.history
        rw [lanes, taken, isOpen, isOpen']
      rw [pushed]
      exact .pushed item isOpen
  | dequeued item queue accepted taken =>
      obtain ⟨isOpen, ⟨kind, took⟩, -, -, isOpen'⟩ := ControlWriteQueue.next_item queue
      have popped : s'.history =
          { s.history with lanes := s'.queue.toLanes, taken := s.taken ++ [item] } := by
        unfold WriteQueue.history
        rw [taken, isOpen, isOpen']
      rw [popped]
      exact .popped isOpen took
  | drained queue accepted taken =>
      have closed : s'.history = { s.history with lanes := s.queue.clear, closed := true } := by
        unfold WriteQueue.history
        rw [queue, taken]
        rfl
      rw [closed]
      exact .closed

theorem writeQueue_fair :
    Lanes.Fair QueuedControlMessage.lane 32 writeQueue writeQueueStart WriteQueue.history := by
  have follows : Lanes.Follows QueuedControlMessage.lane 32 writeQueue WriteQueue.history :=
    fun config next move moved => (event_of_exec moved).history
  refine follows.fair (by decide) ⟨fun kind item member => ?_, le_refl 0⟩ (le_refl 0)
  cases kind <;> cases member

end Control

namespace Agent

/-- The three queues of a control connection, and what was taken from them. -/
def ControlConn.history (s : ControlConn) : Lanes.History QueuedAgentMessage where
  lanes := s.queue.toLanes
  closed := s.queue.closed
  taken := s.taken

/-- What happens to the agent's queue are the events of a history. -/
theorem QueueEvent.history {s s' : ControlConn} (event : QueueEvent s s') :
    Lanes.Event QueuedAgentMessage.lane 32 s.history s'.history := by
  cases event with
  | none queue accepted taken =>
      have same : s'.history = s.history := by
        unfold ControlConn.history
        rw [queue, taken]
      rw [same]
      exact .same
  | queued item queue accepted taken =>
      obtain ⟨isOpen, built, -⟩ := QueuedControlConn.writeJSON_queued queue
      have pushed : s'.history = { s.history with lanes := s.queue.push item item.lane } := by
        unfold ControlConn.history
        rw [built, taken]
        rfl
      rw [pushed]
      exact .pushed item isOpen
  | dequeued item queue accepted taken =>
      obtain ⟨isOpen, ⟨kind, took⟩, -, -, -, isOpen'⟩ := QueuedControlConn.next_item queue
      have popped : s'.history =
          { s.history with lanes := s'.queue.toLanes, taken := s.taken ++ [item] } := by
        unfold ControlConn.history
        rw [taken, isOpen, isOpen']
      rw [popped]
      exact .popped isOpen took
  | dropped queue accepted taken =>
      have closed : s'.history = { s.history with lanes := s.queue.clear, closed := true } := by
        unfold ControlConn.history
        rw [queue, taken]
        rfl
      rw [closed]
      exact .closed

theorem controlConn_fair :
    Lanes.Fair QueuedAgentMessage.lane 32 controlConn controlConnStart ControlConn.history := by
  have follows : Lanes.Follows QueuedAgentMessage.lane 32 controlConn ControlConn.history :=
    fun config next move moved => (event_of_exec moved).history
  refine follows.fair (by decide) ⟨fun kind item member => ?_, le_refl 0⟩ (le_refl 0)
  cases kind <;> cases member

end Agent

/-- **Bounded bypass**, in both queues and in runs of any length: a critical message that waits goes
first, and while a normal message waits at most 32 urgent ones are taken before the first normal one
and between two normal ones. -/
theorem control_queues_fair :
    Lanes.Fair Control.QueuedControlMessage.lane 32 Control.writeQueue Control.writeQueueStart
        Control.WriteQueue.history ∧
      Lanes.Fair Agent.QueuedAgentMessage.lane 32 Agent.controlConn Agent.controlConnStart
        Agent.ControlConn.history :=
  ⟨Control.writeQueue_fair, Agent.controlConn_fair⟩

end NryNet

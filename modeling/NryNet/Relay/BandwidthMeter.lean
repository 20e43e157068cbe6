import NryNet.Lib.ThreadPool

/-!
# The bandwidth meter (`server/relay/transfer.go`, `metrics.go`, `server/tunnel/manager_runtime.go`)

`bandwidthMeter.Add` is called from two layers.  Inside a stream relay, over TCP or over a direct P2P
stream, the writer that copies the bytes adds what each `Write` wrote.  And `Manager.recordTraffic`
adds what it is told: by the completion callback of a stream relay, and by the UDP runtime for each
datagram that was handed to the agent and each one that was sent to a visitor.

## The model

A transfer is a relay or a datagram at one of its program points; the two copying goroutines of a relay
and the one that waits for them are one transfer, and its moves say which of them runs.  What the
network does is the environment's choice, and so is everything that decides about the path of a datagram
without touching a counter (the allowlist, the session table, the direct session).

`transferred` is a ghost: a byte of a stream counts when it is written to the data stream or to the
visitor; a datagram of a visitor counts when it is handed to the agent, once, and a datagram to a
visitor when it is written.  Two more ghosts say where the meter goes wrong: `streamed` are the bytes of
the relays that report on completion, and `dropped` those of datagrams that went out directly, whose
answer could not be delivered and that the relay then refused.
-/

namespace NryNet.Relay.BandwidthMeter

open ThreadPool

/-- The sum of the amounts added to the meter, and the ghosts. -/
structure Meter where
  total : ℕ
  transferred : ℕ
  streamed : ℕ
  dropped : ℕ
  deriving DecidableEq, Repr

/-- `bandwidthMeter.Add`; the amounts are lengths and sums of lengths. -/
def Meter.add (meter : Meter) (bytes : ℕ) : Meter :=
  if 0 < bytes then { meter with total := meter.total + bytes } else meter

/-- `Manager.recordTraffic`, as far as the meter is concerned. -/
def Meter.recordTraffic (meter : Meter) (upload download : ℕ) : Meter :=
  if 0 < upload ∨ 0 < download then meter.add (upload + download) else meter

/-- Bytes reached their destination. -/
def Meter.transfer (meter : Meter) (bytes : ℕ) : Meter :=
  { meter with transferred := meter.transferred + bytes }

/-- `copyMeasured`: the bytes copied so far, a `Write` that has returned and is not yet counted, and the
end. -/
inductive Copy where
  | copying (copied : ℕ)
  | counting (copied written : ℕ)
  | ended (copied : ℕ)
  deriving DecidableEq, Repr

/-- A transfer at one of its program points. -/
inductive Transfer where
  /-- `relay`; `reports` says whether there is a completion callback -/
  | relay (upload download : Copy) (reports : Bool)
  /-- before `onComplete` -/
  | completed (upload download : ℕ)
  | handleVisitorPacket (size : ℕ)
  /-- in `directRoundTrip`, before `WriteTo` -/
  | directRoundTrip (size : ℕ)
  | readDirectResponse (size : ℕ)
  /-- in `sendToVisitor` with the answer of the agent -/
  | sendAnswer (size answer : ℕ)
  | recordAnswer (size answer : ℕ)
  /-- before `SendUDPPacket`; `handed` says whether the agent has the datagram already -/
  | sendUDPPacket (size : ℕ) (handed : Bool)
  | recordUpload (size : ℕ)
  /-- in `sendToVisitor` with a datagram from the control connection -/
  | sendToVisitor (size : ℕ)
  | recordDownload (size : ℕ)
  | finished
  deriving DecidableEq, Repr

/-- What the environment decides: which goroutine of a relay runs, what a call returns, and how many
bytes it moved. -/
structure Choice where
  upload : Bool
  ok : Bool
  bytes : ℕ
  deriving DecidableEq, Repr

/-- One step of `copyMeasured`, with what it does to the meter. -/
def copyStep (meter : Meter) (reports : Bool) (choice : Choice) : Copy → Option (Meter × Copy)
  | .copying copied =>
      if choice.ok then
        some ({ meter.transfer choice.bytes with
                streamed := meter.streamed + if reports then choice.bytes else 0 },
          .counting copied choice.bytes)
      else some (meter, .ended copied)
  | .counting copied written => some (meter.add written, .copying (copied + written))
  | .ended _ => none

/-- One step of a transfer. -/
def step (meter : Meter) (transfer : Transfer) (choice : Choice) :
    Option (Meter × Transfer × List Transfer) :=
  match transfer with
  | .relay (.ended upload) (.ended download) reports =>
      -- `waitCopies` has both results
      some (meter, if reports then .completed upload download else .finished, [])
  | .relay upload download reports =>
      if choice.upload then
        (copyStep meter reports choice upload).map fun (meter', upload') =>
          (meter', .relay upload' download reports, [])
      else
        (copyStep meter reports choice download).map fun (meter', download') =>
          (meter', .relay upload download' reports, [])
  | .completed upload download => some (meter.recordTraffic upload download, .finished, [])
  | .handleVisitorPacket size =>
      -- not allowed or no session, else over the direct path or not
      if choice.ok then
        some (meter, if choice.upload then .directRoundTrip size else .sendUDPPacket size false, [])
      else some (meter, .finished, [])
  | .directRoundTrip size =>
      if choice.ok then some (meter.transfer size, .readDirectResponse size, [])
      else some (meter, .sendUDPPacket size false, [])
  | .readDirectResponse size =>
      -- without an answer in time the datagram still counts as sent
      some (meter, if choice.ok then .sendAnswer size choice.bytes else .recordUpload size, [])
  | .sendAnswer size answer =>
      if choice.ok then some (meter.transfer answer, .recordAnswer size answer, [])
      else some (meter, .sendUDPPacket size true, [])
  | .recordAnswer size answer => some (meter.recordTraffic 0 answer, .recordUpload size, [])
  | .sendUDPPacket size handed =>
      if choice.ok then
        some (if handed then meter else meter.transfer size, .recordUpload size, [])
      else
        some (if handed then { meter with dropped := meter.dropped + size } else meter,
          .finished, [])
  | .recordUpload size => some (meter.recordTraffic size 0, .finished, [])
  | .sendToVisitor size =>
      if choice.ok then some (meter.transfer size, .recordDownload size, [])
      else some (meter, .finished, [])
  | .recordDownload size => some (meter.recordTraffic 0 size, .finished, [])
  | .finished => none

/-- The transfers of a server: relays of visitors, datagrams of visitors, and datagrams of agents. -/
def entry : Transfer → Bool
  | .relay (.copying 0) (.copying 0) _ => true
  | .handleVisitorPacket _ => true
  | .sendToVisitor _ => true
  | _ => false

/-- Any number of transfers over one meter. -/
def machine : Machine Meter Transfer Choice := ⟨entry, step⟩

/-- A new broker. -/
def start : Config Meter Transfer := ⟨⟨0, 0, 0, 0⟩, []⟩

/-! ## What is still to be added -/

/-- The bytes of one direction that are not counted yet, and those that a report will count again. -/
def Copy.owed (reports : Bool) : Copy → ℕ
  | .copying copied => if reports then copied else 0
  | .counting copied written => written + if reports then copied + written else 0
  | .ended copied => if reports then copied else 0

/-- What a transfer will still add to the meter. -/
def Transfer.owed : Transfer → ℕ
  | .relay upload download reports => upload.owed reports + download.owed reports
  | .completed upload download => upload + download
  | .readDirectResponse size => size
  | .sendAnswer size _ => size
  | .recordAnswer size answer => size + answer
  | .sendUDPPacket size handed => if handed then size else 0
  | .recordUpload size => size
  | .recordDownload size => size
  | _ => 0

@[simp] theorem Meter.add_total (meter : Meter) (bytes : ℕ) :
    (meter.add bytes).total = meter.total + bytes := by
  unfold add
  split
  · rfl
  · omega

@[simp] theorem Meter.add_transferred (meter : Meter) (bytes : ℕ) :
    (meter.add bytes).transferred = meter.transferred := by
  unfold add
  split <;> rfl

@[simp] theorem Meter.add_streamed (meter : Meter) (bytes : ℕ) :
    (meter.add bytes).streamed = meter.streamed := by
  unfold add
  split <;> rfl

@[simp] theorem Meter.add_dropped (meter : Meter) (bytes : ℕ) :
    (meter.add bytes).dropped = meter.dropped := by
  unfold add
  split <;> rfl

/-- Reporting nothing or something, the meter grows by the sum. -/
theorem Meter.recordTraffic_eq (meter : Meter) (upload download : ℕ) :
    meter.recordTraffic upload download = meter.add (upload + download) := by
  unfold recordTraffic
  split
  · rfl
  · have none : upload + download = 0 := by omega
    rw [none]
    rfl

/-- What is in the meter and what is owed to it, against what was transferred. -/
def Meter.Balanced (meter : Meter) (owed : ℕ) : Prop :=
  meter.total + meter.dropped + owed = meter.transferred + meter.streamed

/-- A transfer that is owed to the meter. -/
theorem balanced_transfer {meter : Meter} (bytes : ℕ) {others : ℕ} (balanced : meter.Balanced others) :
    (meter.transfer bytes).Balanced (others + bytes) := by
  unfold Meter.Balanced Meter.transfer at *
  simp only
  omega

/-- A report of bytes that were owed. -/
theorem balanced_recordTraffic {meter : Meter} (upload download : ℕ) {others : ℕ}
    (balanced : meter.Balanced (others + (upload + download))) :
    (meter.recordTraffic upload download).Balanced (others + 0) := by
  unfold Meter.Balanced at *
  rw [Meter.recordTraffic_eq, Meter.add_total, Meter.add_transferred, Meter.add_streamed,
    Meter.add_dropped]
  omega

/-- A step of one direction keeps the balance. -/
theorem balanced_copyStep {meter meter' : Meter} {reports : Bool} {choice : Choice} {copy copy' : Copy}
    {others : ℕ} (balanced : meter.Balanced (others + copy.owed reports))
    (moved : copyStep meter reports choice copy = some (meter', copy')) :
    meter'.Balanced (others + copy'.owed reports) := by
  unfold Meter.Balanced at balanced ⊢
  cases copy with
  | copying copied =>
      simp only [copyStep] at moved
      split at moved
      · obtain ⟨rfl, rfl⟩ := Prod.mk.inj (Option.some.inj moved)
        simp only [Copy.owed, Meter.transfer] at balanced ⊢
        cases reports with
        | true =>
            simp only [if_true] at balanced ⊢
            omega
        | false =>
            simp only [Bool.false_eq_true, if_false] at balanced ⊢
            omega
      · obtain ⟨rfl, rfl⟩ := Prod.mk.inj (Option.some.inj moved)
        exact balanced
  | counting copied written =>
      obtain ⟨rfl, rfl⟩ := Prod.mk.inj (Option.some.inj moved)
      simp only [Copy.owed, Meter.add_total, Meter.add_transferred, Meter.add_streamed,
        Meter.add_dropped] at balanced ⊢
      omega
  | ended copied => cases moved

/-- What a relay may do: it completes, or one of its two directions moves. -/
theorem relay_cases {meter meter' : Meter} {upload download : Copy} {reports : Bool} {choice : Choice}
    {transfer' : Transfer} {spawned : List Transfer}
    (moved : step meter (.relay upload download reports) choice = some (meter', transfer', spawned)) :
    spawned = [] ∧
      ((∃ up down, upload = .ended up ∧ download = .ended down ∧ meter' = meter ∧
          transfer' = if reports then .completed up down else .finished) ∨
        (∃ upload', copyStep meter reports choice upload = some (meter', upload') ∧
          transfer' = .relay upload' download reports) ∨
        ∃ download', copyStep meter reports choice download = some (meter', download') ∧
          transfer' = .relay upload download' reports) := by
  unfold step at moved
  split at moved
  · rename_i same
    obtain ⟨rfl, rfl, rfl⟩ := Transfer.relay.inj same
    cases moved
    exact ⟨rfl, Or.inl ⟨_, _, rfl, rfl, rfl, rfl⟩⟩
  · rename_i same
    obtain ⟨rfl, rfl, rfl⟩ := Transfer.relay.inj same
    split at moved
    · obtain ⟨⟨meter'', upload'⟩, copied, equal⟩ := Option.map_eq_some_iff.mp moved
      cases equal
      exact ⟨rfl, Or.inr (Or.inl ⟨upload', copied, rfl⟩)⟩
    · obtain ⟨⟨meter'', download'⟩, copied, equal⟩ := Option.map_eq_some_iff.mp moved
      cases equal
      exact ⟨rfl, Or.inr (Or.inr ⟨download', copied, rfl⟩)⟩
  all_goals rename_i same; cases same

/-- A step spawns nothing and keeps the balance. -/
theorem balanced_step {meter meter' : Meter} {transfer transfer' : Transfer} {choice : Choice}
    {spawned : List Transfer} {others : ℕ} (balanced : meter.Balanced (others + transfer.owed))
    (moved : step meter transfer choice = some (meter', transfer', spawned)) :
    spawned = [] ∧ meter'.Balanced (others + transfer'.owed) := by
  cases transfer with
  | relay upload download reports =>
      obtain ⟨rfl, ⟨up, down, rfl, rfl, rfl, rfl⟩ | ⟨upload', copied, rfl⟩ |
        ⟨download', copied, rfl⟩⟩ := relay_cases moved
      · refine ⟨rfl, ?_⟩
        cases reports with
        | true => exact balanced
        | false => exact balanced
      · refine ⟨rfl, ?_⟩
        rw [Transfer.owed, add_comm (upload.owed _), ← add_assoc] at balanced
        have kept := balanced_copyStep balanced copied
        rw [Transfer.owed, add_comm (upload'.owed _), ← add_assoc]
        exact kept
      · refine ⟨rfl, ?_⟩
        rw [Transfer.owed, ← add_assoc] at balanced
        have kept := balanced_copyStep balanced copied
        rw [Transfer.owed, ← add_assoc]
        exact kept
  | completed upload download =>
      cases moved
      exact ⟨rfl, balanced_recordTraffic upload download balanced⟩
  | handleVisitorPacket size =>
      simp only [step] at moved
      split at moved
      · cases moved
        refine ⟨rfl, ?_⟩
        split <;> exact balanced
      · cases moved
        exact ⟨rfl, balanced⟩
  | directRoundTrip size =>
      simp only [step] at moved
      split at moved
      · cases moved
        exact ⟨rfl, balanced_transfer size balanced⟩
      · cases moved
        exact ⟨rfl, balanced⟩
  | readDirectResponse size =>
      cases moved
      refine ⟨rfl, ?_⟩
      split <;> exact balanced
  | sendAnswer size answer =>
      simp only [step] at moved
      split at moved
      · cases moved
        rw [Transfer.owed] at balanced
        refine ⟨rfl, ?_⟩
        rw [Transfer.owed, ← add_assoc]
        exact balanced_transfer answer balanced
      · cases moved
        exact ⟨rfl, balanced⟩
  | recordAnswer size answer =>
      cases moved
      rw [Transfer.owed, ← add_assoc, ← Nat.zero_add answer] at balanced
      exact ⟨rfl, balanced_recordTraffic 0 answer balanced⟩
  | sendUDPPacket size handed =>
      simp only [step] at moved
      split at moved
      · cases moved
        refine ⟨rfl, ?_⟩
        cases handed with
        | true => exact balanced
        | false => exact balanced_transfer size balanced
      · cases moved
        refine ⟨rfl, ?_⟩
        cases handed with
        | true =>
            -- the agent has the datagram, and nobody will count it
            unfold Meter.Balanced at balanced ⊢
            simp only [Transfer.owed, if_true] at balanced ⊢
            omega
        | false => exact balanced
  | recordUpload size =>
      cases moved
      exact ⟨rfl, balanced_recordTraffic size 0 balanced⟩
  | sendToVisitor size =>
      simp only [step] at moved
      split at moved
      · cases moved
        exact ⟨rfl, balanced_transfer size balanced⟩
      · cases moved
        exact ⟨rfl, balanced⟩
  | recordDownload size =>
      cases moved
      rw [Transfer.owed, ← Nat.zero_add size] at balanced
      exact ⟨rfl, balanced_recordTraffic 0 size balanced⟩
  | finished => cases moved

/-- In every run, the meter and what is owed to it make up what was transferred and what is counted
twice. -/
theorem balanced_of_reachable {config : Config Meter Transfer}
    (reached : machine.Reachable start config) :
    config.shared.Balanced (config.total Transfer.owed) := by
  refine Machine.Run.reachable_invariant reached
    (fun config => config.shared.Balanced (config.total Transfer.owed)) rfl ?_ ?_
  · intro config transfer balanced admitted
    have nothing : transfer.owed = 0 := by
      change entry transfer = true at admitted
      unfold entry at admitted
      split at admitted
      · cases ‹Bool› <;> rfl
      · rfl
      · rfl
      · cases admitted
    simp only [Config.total, List.map_append, List.sum_append, List.map_singleton,
      List.sum_singleton, nothing, add_zero]
    exact balanced
  · intro config index choice transfer meter' transfer' spawned balanced present moved
    have part : transfer.owed ≤ config.total Transfer.owed :=
      Config.le_total (List.mem_of_getElem? present)
    obtain ⟨others, whole⟩ := Nat.exists_eq_add_of_le' part
    rw [whole] at balanced
    obtain ⟨rfl, kept⟩ := balanced_step balanced moved
    have traded := Machine.total_run Transfer.owed meter' transfer' [] present
    have left' : ({ shared := meter', threads := config.threads.set index transfer' ++ [] } :
        Config Meter Transfer).total Transfer.owed = others + transfer'.owed := by
      rw [List.map_nil, List.sum_nil] at traded
      omega
    rw [left']
    exact kept

/-- When all transfers of a run are over, the meter has counted each byte once exactly when the relays
carried as many bytes as were dropped; in particular when no relay carried any and none were dropped. -/
theorem total_eq_transferred_iff {config : Config Meter Transfer}
    (reached : machine.Reachable start config)
    (ended : ∀ transfer ∈ config.threads, transfer = .finished) :
    config.shared.total = config.shared.transferred ↔
      config.shared.streamed = config.shared.dropped := by
  have balanced := balanced_of_reachable reached
  have nothing : config.total Transfer.owed = 0 := by
    refine List.sum_eq_zero_iff.mpr fun owed member => ?_
    obtain ⟨transfer, present, rfl⟩ := List.mem_map.mp member
    rw [ended transfer present]
    rfl
  rw [nothing] at balanced
  unfold Meter.Balanced at balanced
  omega

/-- A visitor sends five bytes over the direct path and gets seven back. -/
theorem total_eq_transferred_datagram :
    ∃ config, machine.Reachable start config ∧ config.shared.transferred = 12 ∧
      config.shared.total = config.shared.transferred := by
  obtain ⟨config, reached, ended, same, moved⟩ :
      ∃ config, machine.Reachable start config ∧
        (∀ transfer ∈ config.threads, transfer = .finished) ∧
        config.shared.streamed = config.shared.dropped ∧ config.shared.transferred = 12 := by
    refine Machine.exists_run_of_replay
      [.arrive (.handleVisitorPacket 5), .run 0 ⟨true, true, 0⟩, .run 0 ⟨true, true, 0⟩,
        .run 0 ⟨true, true, 7⟩, .run 0 ⟨true, true, 0⟩, .run 0 ⟨true, true, 0⟩,
        .run 0 ⟨true, true, 0⟩] ?_
    decide
  exact ⟨config, reached, moved, (total_eq_transferred_iff reached ended).mpr same⟩

/-- A visitor sends three bytes over a relay, and the meter counts six. -/
theorem relay_counted_twice :
    ∃ config, machine.Reachable start config ∧
      (∀ transfer ∈ config.threads, transfer = .finished) ∧
      config.shared.transferred = 3 ∧ config.shared.total = 6 := by
  refine Machine.exists_run_of_replay
    [.arrive (.relay (.copying 0) (.copying 0) true), .run 0 ⟨true, true, 3⟩, .run 0 ⟨true, true, 0⟩,
      .run 0 ⟨true, false, 0⟩, .run 0 ⟨false, false, 0⟩, .run 0 ⟨true, true, 0⟩,
      .run 0 ⟨true, true, 0⟩] ?_
  decide

end NryNet.Relay.BandwidthMeter

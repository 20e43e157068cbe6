import NryNet.Lib.GoMap
import NryNet.Storage

/-!
# The rendezvous server (`internal/advanced/rendezvous_server.go`)

Two peers that want to talk to each other directly send a `register` packet each to the rendezvous
server.  The server tells every peer the address it was seen from, keeps the registration in a table,
and when the other half is there already it takes both out and sends each peer the address of the
other.

One goroutine reads the packets, so the server handles them one after the other; the clock is read
inside, and the instant is part of the arrival.  `pruneLocked` removes the registrations that are too
old and then, as long as the table is full, the oldest one.  Which of several oldest ones that is
depends on the order in which Go ranges over the map, so that order is part of the arrival as well.
The second loop runs as long as the table is full, which is for ever when `max` is not positive: the
loop is given one round for each entry, and `none` is a loop that would go on.

The second half of this file is about the table: how large it gets, and whom `pruneLocked` evicts.
What the exchanges are worth is the subject of `RendezvousPairing`.
-/

namespace NryNet.Advanced

/-- The values of `RendezvousPacket.Type`. -/
inductive PacketType where
  | register
  | observed
  | peer
  | punch
  | punchAck
  | ready
  | readyAck
  | unknown (text : String)
  deriving DecidableEq, Repr

/-- `Endpoint`. -/
structure Endpoint where
  ip : String
  port : ℤ
  deriving DecidableEq, Repr

/-- `RendezvousPacket`. -/
structure RendezvousPacket where
  type : PacketType
  sessionID : String
  peerID : String
  wantsPeerID : String
  endpoint : Endpoint
  relay : Bool
  deriving DecidableEq, Repr

/-- A `net.Addr`.  Of the IP of a UDP address only its text matters, which is the same for equal
addresses. -/
inductive Addr where
  | udp (ip : String) (port : ℤ) (zone : String)
  | other (network text : String)
  deriving DecidableEq, Repr

/-- `endpointFromAddr`. -/
def endpointFromAddr : Addr → Endpoint
  | .udp ip port _ => ⟨ip, port⟩
  | .other _ _ => ⟨"", 0⟩

/-- `registeredPeer`. -/
structure RegisteredPeer where
  packet : RendezvousPacket
  addr : Addr
  seen : Time
  deriving DecidableEq, Repr

/-- `RendezvousServer`, without its socket. -/
structure RendezvousServer where
  peers : GoMap String RegisteredPeer
  ttl : ℤ
  max : ℤ

/-- What is written to the socket. -/
structure Datagram where
  receiver : Addr
  packet : RendezvousPacket
  deriving DecidableEq, Repr

/-- A packet that was read from the socket, at some instant; and the order in which Go ranges over
the table while it is handled. -/
structure Arrival where
  packet : RendezvousPacket
  addr : Addr
  now : Time
  order : GoMap.RangeOrder String RegisteredPeer

/-- `peerKey`. -/
def peerKey (sessionID peerID : String) : String :=
  sessionID ++ "\x00" ++ peerID

/-- `observedPacket`. -/
def observedPacket (packet : RendezvousPacket) : RendezvousPacket :=
  ⟨.observed, "", "", "", packet.endpoint, false⟩

/-- `peerPacket`. -/
def peerPacket (packet : RendezvousPacket) : RendezvousPacket :=
  ⟨.peer, "", packet.peerID, "", packet.endpoint, packet.relay⟩

namespace RendezvousServer

/-- `NewRendezvousServer`, with any limits. -/
def new (ttl max : ℤ) : RendezvousServer where
  peers := ∅
  ttl := ttl
  max := max

/-- The first loop of `pruneLocked`. -/
def unexpired (s : RendezvousServer) (now : Time) : GoMap String RegisteredPeer :=
  s.peers.deleteWhere fun _ peer => (now : ℤ) - peer.seen > s.ttl

/-- The inner loop of `pruneLocked`: the key of the first entry that is older than those before
it. -/
def oldestKey (entries : List (Σ _ : String, RegisteredPeer)) : String :=
  (entries.foldl (fun (oldest : String × Time) entry =>
    if oldest.1 = "" ∨ entry.2.seen < oldest.2 then (entry.1, entry.2.seen) else oldest) ("", 0)).1

/-- The second loop of `pruneLocked`. -/
def evict (order : GoMap.RangeOrder String RegisteredPeer) (max : ℤ) :
    ℕ → GoMap String RegisteredPeer → Option (GoMap String RegisteredPeer)
  | rounds, peers =>
      if (peers.size : ℤ) < max then some peers
      else
        match rounds with
        | 0 => none
        | rounds + 1 => evict order max rounds (peers.erase (oldestKey (order.visit peers)))

/-- `pruneLocked`. -/
def pruneLocked (s : RendezvousServer) (order : GoMap.RangeOrder String RegisteredPeer) (now : Time) :
    Option (GoMap String RegisteredPeer) :=
  evict order s.max (s.unexpired now).size (s.unexpired now)

/-- `findPeerLocked`; a missing entry wants the empty string. -/
def findPeerLocked (peers : GoMap String RegisteredPeer) (packet : RendezvousPacket) :
    Option RegisteredPeer :=
  match peers.lookup (peerKey packet.sessionID packet.wantsPeerID) with
  | none => none
  | some other => if other.packet.wantsPeerID ≠ packet.peerID then none else some other

/-- `exchange`. -/
def exchange (packet : RendezvousPacket) (addr : Addr) (other : RegisteredPeer) : List Datagram :=
  [⟨addr, peerPacket other.packet⟩, ⟨other.addr, peerPacket packet⟩]

/-- `register`. -/
def register (s : RendezvousServer) (arrival : Arrival) :
    Option (RendezvousServer × List Datagram) :=
  let packet := arrival.packet
  if packet.sessionID = "" ∨ packet.peerID = "" ∨ packet.wantsPeerID = "" then some (s, [])
  else
    let packet := { packet with endpoint := endpointFromAddr arrival.addr }
    let observed : Datagram := ⟨arrival.addr, observedPacket packet⟩
    (s.pruneLocked arrival.order arrival.now).map fun peers =>
      let key := peerKey packet.sessionID packet.peerID
      let peers := peers.insert key ⟨packet, arrival.addr, arrival.now⟩
      match findPeerLocked peers packet with
      | none => ({ s with peers := peers }, [observed])
      | some other =>
          ({ s with
              peers := (peers.erase key).erase (peerKey packet.sessionID packet.wantsPeerID) },
            observed :: exchange packet arrival.addr other)

/-- `handlePacket`. -/
def handlePacket (s : RendezvousServer) (arrival : Arrival) :
    Option (RendezvousServer × List Datagram) :=
  match arrival.packet.type with
  | .register => s.register arrival
  | .punch => some (s, [⟨arrival.addr, ⟨.punchAck, "", arrival.packet.peerID, "", ⟨"", 0⟩, false⟩⟩])
  | _ => some (s, [])

/-- The packets that `readLoop` hands on, and everything that is written meanwhile. -/
def serveAll (s : RendezvousServer) : List Arrival → Option (RendezvousServer × List Datagram)
  | [] => some (s, [])
  | arrival :: rest =>
      (s.handlePacket arrival).bind fun handled =>
        (serveAll handled.1 rest).map fun served => (served.1, handled.2 ++ served.2)

end RendezvousServer

/-- The registration that the server makes of an arrival. -/
def Arrival.registered (arrival : Arrival) : RendezvousPacket :=
  { arrival.packet with endpoint := endpointFromAddr arrival.addr }

/-- The arrival is a `register` packet with all its fields. -/
def Arrival.registers (arrival : Arrival) : Bool :=
  arrival.packet.type = .register &&
    !(arrival.packet.sessionID = "" || arrival.packet.peerID = "" || arrival.packet.wantsPeerID = "")

/-- The key of a registration. -/
def Arrival.key (arrival : Arrival) : String :=
  peerKey arrival.packet.sessionID arrival.packet.peerID

/-- The entry of a registration. -/
def Arrival.entry (arrival : Arrival) : RegisteredPeer :=
  ⟨arrival.registered, arrival.addr, arrival.now⟩

namespace RendezvousServer

variable {s s' : RendezvousServer} {arrival : Arrival} {sent : List Datagram}
variable {peers peers' : GoMap String RegisteredPeer}
variable {order : GoMap.RangeOrder String RegisteredPeer} {max : ℤ} {rounds : ℕ} {now : Time}

/-! ## What a packet does -/

/-- A packet changes the table only if it registers. -/
theorem handlePacket_cases (handled : s.handlePacket arrival = some (s', sent)) :
    (arrival.registers = false ∧ s' = s ∧ ∀ datagram ∈ sent, datagram.packet.type ≠ .peer) ∨
    (arrival.registers = true ∧ ∃ peers, s.pruneLocked arrival.order arrival.now = some peers ∧
      ((findPeerLocked (peers.insert arrival.key arrival.entry) arrival.registered = none ∧
          s' = { s with peers := peers.insert arrival.key arrival.entry } ∧
          ∀ datagram ∈ sent, datagram.packet.type ≠ .peer) ∨
        ∃ other observed,
          findPeerLocked (peers.insert arrival.key arrival.entry) arrival.registered = some other ∧
          s' =
            { s with
              peers := ((peers.insert arrival.key arrival.entry).erase arrival.key).erase
                (peerKey arrival.packet.sessionID arrival.packet.wantsPeerID) } ∧
          observed.packet.type ≠ .peer ∧
          sent = observed :: exchange arrival.registered arrival.addr other)) := by
  unfold handlePacket at handled
  split at handled
  · rename_i registering
    unfold register at handled
    simp only at handled
    split at handled
    · rename_i incomplete
      cases handled
      refine Or.inl ⟨?_, rfl, fun _ impossible => nomatch impossible⟩
      simp only [Arrival.registers, registering, decide_true, Bool.true_and, Bool.not_eq_false',
        Bool.or_eq_true, decide_eq_true_eq]
      exact (or_assoc).mpr incomplete
    · rename_i complete
      obtain ⟨peers, pruned, built⟩ := Option.map_eq_some_iff.mp handled
      refine Or.inr ⟨?_, peers, pruned, ?_⟩
      · simp only [Arrival.registers, registering, decide_true, Bool.true_and, Bool.not_eq_true',
          Bool.or_eq_false_iff, decide_eq_false_iff_not]
        rw [not_or, not_or] at complete
        exact ⟨⟨complete.1, complete.2.1⟩, complete.2.2⟩
      · split at built
        · rename_i alone
          cases built
          refine Or.inl ⟨alone, rfl, fun datagram member => ?_⟩
          rw [List.mem_singleton.mp member]
          simp [observedPacket]
        · rename_i other found
          cases built
          exact Or.inr ⟨other, _, found, rfl, by simp [observedPacket], rfl⟩
  · rename_i punching
    cases handled
    refine Or.inl ⟨by simp [Arrival.registers, punching], rfl, fun datagram member => ?_⟩
    rw [List.mem_singleton.mp member]
    simp
  · rename_i other _
    cases handled
    refine Or.inl ⟨?_, rfl, fun _ impossible => nomatch impossible⟩
    unfold Arrival.registers
    rw [decide_eq_false other, Bool.false_and]

/-! ## Pruning -/

/-- The keys of the table are made by `peerKey`. -/
def Keyed (peers : GoMap String RegisteredPeer) : Prop :=
  ∀ key peer, peers.lookup key = some peer →
    key = peerKey peer.packet.sessionID peer.packet.peerID

theorem peerKey_ne_empty (sessionID peerID : String) : peerKey sessionID peerID ≠ "" := by
  intro empty
  have length := congrArg String.length empty
  unfold peerKey at length
  rw [String.length_append, String.length_append] at length
  have separator : "\x00".length = 1 := rfl
  rw [separator] at length
  exact absurd length (by simp)

/-- `oldestKey` finds an entry that is not younger than any other. -/
theorem exists_oldestKey {entries : List (Σ _ : String, RegisteredPeer)} (filled : entries ≠ [])
    (named : ∀ entry ∈ entries, entry.1 ≠ "") :
    ∃ entry ∈ entries, entry.1 = oldestKey entries ∧
      ∀ other ∈ entries, entry.2.seen ≤ other.2.seen := by
  -- the loop, begun with an entry that has been visited already
  have visited : ∀ (rest : List (Σ _ : String, RegisteredPeer)) (first : Σ _ : String, RegisteredPeer),
      first.1 ≠ "" → (∀ entry ∈ rest, entry.1 ≠ "") →
      ∃ entry ∈ first :: rest, (entry.1, entry.2.seen) =
        rest.foldl (fun (oldest : String × Time) entry =>
          if oldest.1 = "" ∨ entry.2.seen < oldest.2 then (entry.1, entry.2.seen) else oldest)
          (first.1, first.2.seen) ∧ ∀ other ∈ first :: rest, entry.2.seen ≤ other.2.seen := by
    intro rest
    induction rest with
    | nil =>
        intro first _ _
        refine ⟨first, List.mem_cons_self, rfl, fun other member => ?_⟩
        rw [List.mem_singleton.mp member]
    | cons next rest hypothesis =>
        intro first firstNamed restNamed
        have others : ∀ entry ∈ rest, entry.1 ≠ "" :=
          fun entry member => restNamed entry (List.mem_cons_of_mem _ member)
        rw [List.foldl_cons]
        by_cases older : next.2.seen < first.2.seen
        · obtain ⟨entry, member, found, least⟩ :=
            hypothesis next (restNamed next List.mem_cons_self) others
          rw [if_pos (Or.inr older)]
          refine ⟨entry, List.mem_cons_of_mem _ member, found, fun other present => ?_⟩
          rcases List.mem_cons.mp present with rfl | later
          · exact (least next List.mem_cons_self).trans older.le
          · exact least other later
        · obtain ⟨entry, member, found, least⟩ := hypothesis first firstNamed others
          rw [if_neg (by simp [firstNamed, older])]
          refine ⟨entry, ?_, found, fun other present => ?_⟩
          · rcases List.mem_cons.mp member with rfl | later
            · exact List.mem_cons_self
            · exact List.mem_cons_of_mem _ (List.mem_cons_of_mem _ later)
          · rcases List.mem_cons.mp present with rfl | later
            · exact least other List.mem_cons_self
            · rcases List.mem_cons.mp later with rfl | last
              · exact (least first List.mem_cons_self).trans (not_lt.mp older)
              · exact least other (List.mem_cons_of_mem _ last)
  cases entries with
  | nil => exact absurd rfl filled
  | cons first rest =>
      obtain ⟨entry, member, found, least⟩ := visited rest first (named first List.mem_cons_self)
        fun entry later => named entry (List.mem_cons_of_mem _ later)
      refine ⟨entry, member, ?_, least⟩
      unfold oldestKey
      rw [List.foldl_cons, if_pos (Or.inl rfl), ← found]

/-- In a table that is not empty, the key that is evicted is that of an oldest registration. -/
theorem lookup_oldestKey (keyed : Keyed peers) (filled : 0 < peers.size)
    (order : GoMap.RangeOrder String RegisteredPeer) :
    ∃ oldest, peers.lookup (oldestKey (order.visit peers)) = some oldest ∧
      ∀ key peer, peers.lookup key = some peer → oldest.seen ≤ peer.seen := by
  have same : ∀ entry, entry ∈ order.visit peers ↔ entry ∈ peers.entries :=
    fun entry => (order.perm peers).mem_iff
  have visits : order.visit peers ≠ [] := by
    obtain ⟨entry, member⟩ := GoMap.exists_mem_of_size_pos filled
    exact List.ne_nil_of_mem ((same entry).mpr member)
  have named : ∀ entry ∈ order.visit peers, entry.1 ≠ "" := by
    intro entry member
    rw [keyed entry.1 entry.2 (GoMap.mem_lookup_iff_mem_entries.mpr ((same entry).mp member))]
    exact peerKey_ne_empty _ _
  obtain ⟨entry, member, found, least⟩ := exists_oldestKey visits named
  refine ⟨entry.2, ?_, fun key peer present => ?_⟩
  · rw [← found]
    exact GoMap.mem_lookup_iff_mem_entries.mpr ((same entry).mp member)
  · exact least ⟨key, peer⟩ ((same _).mpr (GoMap.mem_lookup_iff_mem_entries.mp present))

theorem Keyed.erase (keyed : Keyed peers) (key : String) : Keyed (peers.erase key) := by
  intro other peer found
  rw [GoMap.lookup_erase_if] at found
  split at found
  · cases found
  · exact keyed other peer found

theorem evict_of_room (room : (peers.size : ℤ) < max) :
    evict order max rounds peers = some peers := by
  cases rounds <;> rw [evict, if_pos room]

theorem evict_of_full (full : ¬ (peers.size : ℤ) < max) :
    evict order max (rounds + 1) peers =
      evict order max rounds (peers.erase (oldestKey (order.visit peers))) := by
  rw [evict, if_neg full]

/-- **The second loop ends**, whatever the order of iteration, and leaves room for an entry. -/
theorem exists_evict (positive : 1 ≤ max) (keyed : Keyed peers) (enough : peers.size ≤ rounds) :
    ∃ peers', evict order max rounds peers = some peers' ∧ (peers'.size : ℤ) < max := by
  induction rounds generalizing peers with
  | zero =>
      have room : (peers.size : ℤ) < max := by omega
      exact ⟨peers, evict_of_room room, room⟩
  | succ rounds hypothesis =>
      by_cases room : (peers.size : ℤ) < max
      · exact ⟨peers, evict_of_room room, room⟩
      · obtain ⟨oldest, found, -⟩ := lookup_oldestKey keyed (by omega) order
        have smaller := GoMap.size_erase_of_present found
        obtain ⟨peers', evicted, room'⟩ :=
          hypothesis (keyed.erase (oldestKey (order.visit peers))) (by omega)
        exact ⟨peers', (evict_of_full room).trans evicted, room'⟩

/-- The second loop only removes. -/
theorem lookup_of_evict (evicted : evict order max rounds peers = some peers') {key : String}
    {peer : RegisteredPeer} (found : peers'.lookup key = some peer) : peers.lookup key = some peer := by
  induction rounds generalizing peers with
  | zero =>
      rw [evict] at evicted
      split at evicted
      · cases evicted
        exact found
      · cases evicted
  | succ rounds hypothesis =>
      by_cases room : (peers.size : ℤ) < max
      · rw [evict_of_room room] at evicted
        cases evicted
        exact found
      · rw [evict_of_full room] at evicted
        have earlier := hypothesis evicted
        rw [GoMap.lookup_erase_if] at earlier
        split at earlier
        · cases earlier
        · exact earlier

/-- In a table that is not beyond its limit, the second loop removes one oldest entry if the table is
full, and nothing otherwise. -/
theorem evict_cases (positive : 1 ≤ max) (keyed : Keyed peers) (bounded : (peers.size : ℤ) ≤ max)
    (enough : peers.size ≤ rounds) (evicted : evict order max rounds peers = some peers') :
    ((peers.size : ℤ) < max ∧ peers' = peers) ∨
    ((peers.size : ℤ) = max ∧ ∃ key oldest, peers.lookup key = some oldest ∧
      (∀ other peer, peers.lookup other = some peer → oldest.seen ≤ peer.seen) ∧
      peers' = peers.erase key) := by
  by_cases room : (peers.size : ℤ) < max
  · rw [evict_of_room room] at evicted
    exact Or.inl ⟨room, (Option.some.inj evicted).symm⟩
  · obtain ⟨oldest, found, least⟩ := lookup_oldestKey keyed (by omega) order
    refine Or.inr ⟨by omega, _, oldest, found, least, ?_⟩
    cases rounds with
    | zero => omega
    | succ rounds =>
        have smaller := GoMap.size_erase_of_present found
        -- one round makes room, so there is no second one
        rw [evict_of_full room, evict_of_room (by omega)] at evicted
        exact (Option.some.inj evicted).symm

theorem lookup_unexpired {key : String} {peer : RegisteredPeer} :
    (s.unexpired now).lookup key = some peer ↔
      s.peers.lookup key = some peer ∧ (now : ℤ) - peer.seen ≤ s.ttl := by
  unfold unexpired
  rw [GoMap.lookup_deleteWhere_eq_some, decide_eq_false_iff_not, gt_iff_lt, not_lt]

theorem Keyed.unexpired (keyed : Keyed s.peers) : Keyed (s.unexpired now) :=
  fun key peer found => keyed key peer (lookup_unexpired.mp found).1

/-- `pruneLocked` only removes. -/
theorem lookup_of_pruneLocked (pruned : s.pruneLocked order now = some peers) {key : String}
    {peer : RegisteredPeer} (found : peers.lookup key = some peer) : s.peers.lookup key = some peer :=
  (lookup_unexpired.mp (lookup_of_evict pruned found)).1

/-! ## The bound -/

/-- The table is within its limit, and its keys are in order. -/
structure Bounded (s : RendezvousServer) : Prop where
  keyed : Keyed s.peers
  bounded : (s.peers.size : ℤ) ≤ s.max

theorem Bounded.unexpired_le (bounded : Bounded s) : ((s.unexpired now).size : ℤ) ≤ s.max := by
  have fewer := GoMap.size_deleteWhere_le s.peers fun _ peer => (now : ℤ) - peer.seen > s.ttl
  have limit := bounded.bounded
  unfold unexpired
  omega

/-- An unexpired registration is evicted only when storing the incoming one would otherwise make the
table exceed `max`, and then it is one with the smallest `seen`. -/
def EvictsOnlyIfFull (s : RendezvousServer) (arrival : Arrival) : Prop :=
  ∀ peers, s.pruneLocked arrival.order arrival.now = some peers →
    ∀ key peer, (s.unexpired arrival.now).lookup key = some peer → peers.lookup key = none →
      s.max < GoMap.size ((s.unexpired arrival.now).insert arrival.key arrival.entry) ∧
        ∀ other peer', (s.unexpired arrival.now).lookup other = some peer' → peer.seen ≤ peer'.seen

/-- There is an unexpired registration less than the table can hold, or none with the incoming key. -/
def HasRoomOrNew (s : RendezvousServer) (arrival : Arrival) : Prop :=
  ((s.unexpired arrival.now).size : ℤ) < s.max ∨
    (s.unexpired arrival.now).lookup arrival.key = none

instance (s : RendezvousServer) (arrival : Arrival) : Decidable (s.HasRoomOrNew arrival) := by
  unfold HasRoomOrNew
  infer_instance

/-- `pruneLocked` ends, and leaves room for one registration. -/
theorem Bounded.exists_pruneLocked (bounded : Bounded s) (positive : 1 ≤ s.max)
    (order : GoMap.RangeOrder String RegisteredPeer) (now : Time) :
    ∃ peers, s.pruneLocked order now = some peers ∧ Keyed peers ∧ (peers.size : ℤ) < s.max := by
  have keyed : Keyed (s.unexpired now) := bounded.keyed.unexpired
  obtain ⟨peers, pruned, room⟩ : ∃ peers, s.pruneLocked order now = some peers ∧
      (peers.size : ℤ) < s.max := exists_evict positive keyed le_rfl
  exact ⟨peers, pruned,
    fun key peer found => bounded.keyed key peer (lookup_of_pruneLocked pruned found), room⟩

/-- **`pruneLocked` evicts for a good reason exactly when the incoming registration is new or there is
room**: it does not look whether the key is in the table already. -/
theorem evictsOnlyIfFull_iff (bounded : Bounded s) (positive : 1 ≤ s.max) :
    s.EvictsOnlyIfFull arrival ↔ s.HasRoomOrNew arrival := by
  have keyed : Keyed (s.unexpired arrival.now) := bounded.keyed.unexpired
  constructor
  · intro justified
    by_contra crowded
    unfold HasRoomOrNew at crowded
    rw [not_or] at crowded
    obtain ⟨full, known⟩ := crowded
    obtain ⟨old, present⟩ := Option.ne_none_iff_exists'.mp known
    obtain ⟨peers, pruned, -⟩ :=
      bounded.exists_pruneLocked positive arrival.order arrival.now
    rcases evict_cases positive keyed bounded.unexpired_le le_rfl pruned with
      ⟨room, -⟩ | ⟨-, key, oldest, found, -, rfl⟩
    · exact full room
    · have exceeds := (justified _ pruned key oldest found (AList.lookup_erase _ _)).1
      rw [GoMap.size_insert_of_present present] at exceeds
      have limit : ((s.unexpired arrival.now).size : ℤ) ≤ s.max := bounded.unexpired_le
      omega
  · intro condition peers pruned key peer found gone
    rcases evict_cases positive keyed bounded.unexpired_le le_rfl pruned with
      ⟨-, rfl⟩ | ⟨full, oldestKey, oldest, present, least, rfl⟩
    · rw [found] at gone
      cases gone
    · have new : (s.unexpired arrival.now).lookup arrival.key = none :=
        condition.resolve_left (by omega)
      rcases GoMap.lookup_erase_or present found with kept | ⟨rfl, rfl⟩
      · rw [kept] at gone
        cases gone
      · refine ⟨?_, least⟩
        rw [GoMap.size_insert_of_absent new]
        push_cast
        omega

theorem Keyed.insert (keyed : Keyed peers) (arrival : Arrival) :
    Keyed (peers.insert arrival.key arrival.entry) := by
  intro key peer found
  rw [GoMap.lookup_insert_if] at found
  split at found
  · rename_i same
    cases found
    exact same
  · exact keyed key peer found

theorem size_insert_le (room : (peers.size : ℤ) < max) (key : String) (peer : RegisteredPeer) :
    (GoMap.size (peers.insert key peer) : ℤ) ≤ max := by
  cases found : peers.lookup key with
  | none =>
      rw [GoMap.size_insert_of_absent found]
      push_cast
      omega
  | some old =>
      rw [GoMap.size_insert_of_present found]
      omega

/-- **A packet keeps the bound**, and is handled in finite time. -/
theorem Bounded.handlePacket (bounded : Bounded s) (positive : 1 ≤ s.max) (arrival : Arrival) :
    ∃ s' sent, s.handlePacket arrival = some (s', sent) ∧ Bounded s' ∧ s'.max = s.max := by
  obtain ⟨peers, pruned, keyed, room⟩ :=
    bounded.exists_pruneLocked positive arrival.order arrival.now
  obtain ⟨⟨s', sent⟩, handled⟩ : ∃ outcome, s.handlePacket arrival = some outcome := by
    unfold RendezvousServer.handlePacket
    split
    · unfold register
      simp only [pruned]
      split <;> exact ⟨_, rfl⟩
    · exact ⟨_, rfl⟩
    · exact ⟨_, rfl⟩
  have stored : (GoMap.size (peers.insert arrival.key arrival.entry) : ℤ) ≤ s.max :=
    size_insert_le room _ _
  refine ⟨s', sent, handled, ?_⟩
  rcases handlePacket_cases handled with ⟨-, rfl, -⟩ | ⟨-, peers', pruned', ⟨-, rfl, -⟩ |
    ⟨other, observed, -, rfl, -⟩⟩
  · exact ⟨bounded, rfl⟩
  · cases pruned.symm.trans pruned'
    exact ⟨⟨keyed.insert arrival, stored⟩, rfl⟩
  · cases pruned.symm.trans pruned'
    refine ⟨⟨((keyed.insert arrival).erase _).erase _, ?_⟩, rfl⟩
    have fewer := GoMap.size_erase_le (peers.insert arrival.key arrival.entry) arrival.key
    have fewest := GoMap.size_erase_le ((peers.insert arrival.key arrival.entry).erase arrival.key)
      (peerKey arrival.packet.sessionID arrival.packet.wantsPeerID)
    show (GoMap.size (((peers.insert arrival.key arrival.entry).erase arrival.key).erase
      (peerKey arrival.packet.sessionID arrival.packet.wantsPeerID)) : ℤ) ≤ s.max
    omega

/-- The bound holds after any sequence of packets. -/
theorem Bounded.serveAll (bounded : Bounded s) (positive : 1 ≤ s.max) (arrivals : List Arrival) :
    ∃ s' sent, s.serveAll arrivals = some (s', sent) ∧ Bounded s' ∧ s'.max = s.max := by
  induction arrivals generalizing s with
  | nil => exact ⟨s, [], rfl, bounded, rfl⟩
  | cons arrival rest hypothesis =>
      obtain ⟨s', sent, handled, bounded', same⟩ := bounded.handlePacket positive arrival
      obtain ⟨s'', sent', served, bounded'', same'⟩ := hypothesis bounded' (same ▸ positive)
      refine ⟨s'', sent ++ sent', ?_, bounded'', same'.trans same⟩
      rw [RendezvousServer.serveAll, handled, Option.bind_some, served]
      rfl

/-- **The table of the rendezvous server is bounded.**  After any sequence of packets the table holds
at most `max` registrations; whatever registers next, `pruneLocked` ends and leaves room for it; and
it evicts an unexpired registration only when it has to, an oldest one, if and only if the incoming
registration is new or there is room. -/
theorem rendezvous_table_bounded (ttl max : ℤ) (positive : 1 ≤ max) (arrivals : List Arrival) :
    ∃ s sent, (new ttl max).serveAll arrivals = some (s, sent) ∧ (s.peers.size : ℤ) ≤ max ∧
      ∀ arrival : Arrival,
        (∃ peers, s.pruneLocked arrival.order arrival.now = some peers ∧
          (GoMap.size (peers.insert arrival.key arrival.entry) : ℤ) ≤ max) ∧
        (s.EvictsOnlyIfFull arrival ↔ s.HasRoomOrNew arrival) := by
  have empty : Bounded (new ttl max) := by
    refine ⟨fun key peer found => (nomatch found), ?_⟩
    show (0 : ℤ) ≤ max
    omega
  obtain ⟨s, sent, served, bounded, same⟩ := empty.serveAll positive arrivals
  have same : s.max = max := same
  subst same
  refine ⟨s, sent, served, bounded.bounded, fun arrival => ⟨?_, evictsOnlyIfFull_iff bounded positive⟩⟩
  obtain ⟨peers, pruned, -, room⟩ :=
    bounded.exists_pruneLocked positive arrival.order arrival.now
  exact ⟨peers, pruned, size_insert_le room _ _⟩

/-- A peer nobody is waiting for. -/
def unmatched (peerID : String) (now : Time) : Arrival where
  packet := ⟨.register, "session-" ++ peerID, peerID, "missing", ⟨"", 0⟩, false⟩
  addr := .udp "192.0.2.7" 40000 ""
  now := now
  order := .kept _ _

/-- A peer that registers again while the table is full pushes out somebody else, although the table
would not grow. -/
theorem reregistration_evicts :
    ∃ s sent, (new 120 2).serveAll [unmatched "a" 0, unmatched "b" 1] = some (s, sent) ∧
      ¬ s.EvictsOnlyIfFull (unmatched "b" 2) := by
  refine ⟨_, _, rfl, fun justified => ?_⟩
  have exceeds := (justified _ rfl (peerKey "session-a" "a") (unmatched "a" 0).entry rfl rfl).1
  revert exceeds
  decide

/-- A third peer pushes out the oldest of two, and has to. -/
theorem rendezvous_table_bounded_full :
    ∃ s sent, (new 120 2).serveAll [unmatched "a" 0, unmatched "b" 1] = some (s, sent) ∧
      (s.peers.size : ℤ) ≤ 2 ∧ s.EvictsOnlyIfFull (unmatched "c" 2) := by
  obtain ⟨s, sent, served, bounded, evictions⟩ :=
    rendezvous_table_bounded 120 2 (by decide) [unmatched "a" 0, unmatched "b" 1]
  refine ⟨s, sent, served, bounded, (evictions _).2.mpr ?_⟩
  cases served
  decide

end RendezvousServer

end NryNet.Advanced

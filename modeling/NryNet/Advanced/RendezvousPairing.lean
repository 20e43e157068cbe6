import NryNet.Advanced.RendezvousServer
import NryNet.Lib.ByteStream

/-!
# What an exchange is worth

The rendezvous server is there to bring two peers together that want each other: registrations with
the same session, each of which wants the peer that the other one is.  The table is indexed by
`peerKey`, which joins the session and the peer with a NUL character, and `findPeerLocked` looks at
nothing but the key and at whom the other one wants.

Two things get in the way.  A session or a peer may itself contain a NUL, which JSON can carry, and
then two different pairs have one key; the exchange is then between registrations of different
sessions.  And a peer that wants itself finds the registration it has just stored.  As long as neither
happens, every `peer` packet is one half of an exchange between two registrations that fit, and no
registration takes part in a second exchange.

Registrations are told apart by their place among the packets that were read, since the same packet
may well arrive twice.
-/

namespace NryNet.Advanced

/-- One side of an exchange: a registration and its place among the packets. -/
structure Side where
  number : ℕ
  arrival : Arrival

/-- What an exchange tells `receiver`: who the other one is, and where it was seen. -/
def half (receiver other : Arrival) : Datagram :=
  ⟨receiver.addr,
    ⟨.peer, "", other.packet.peerID, "", endpointFromAddr other.addr, other.packet.relay⟩⟩

/-- The registrations that take part in exchanges, by their places. -/
def sides (exchanges : List (Side × Side)) : List ℕ :=
  exchanges.flatMap fun exchange => [exchange.1.number, exchange.2.number]

/-- The `peer` packets among what was sent are the halves of these exchanges. -/
structure PairedBy (arrivals : List Arrival) (sent : List Datagram)
    (exchanges : List (Side × Side)) : Prop where
  /-- an exchange is between two registrations -/
  located : ∀ exchange ∈ exchanges, ∀ side ∈ [exchange.1, exchange.2],
    arrivals[side.number]? = some side.arrival ∧ side.arrival.registers = true
  /-- of the same session, each of which wants the other one -/
  fitting : ∀ exchange ∈ exchanges,
    exchange.1.arrival.packet.sessionID = exchange.2.arrival.packet.sessionID ∧
      exchange.1.arrival.packet.peerID = exchange.2.arrival.packet.wantsPeerID ∧
      exchange.2.arrival.packet.peerID = exchange.1.arrival.packet.wantsPeerID
  halves : sent.filter (fun datagram => datagram.packet.type = .peer) =
    exchanges.flatMap fun exchange =>
      [half exchange.1.arrival exchange.2.arrival, half exchange.2.arrival exchange.1.arrival]
  /-- no registration takes part twice -/
  once : (sides exchanges).Nodup

/-- Every `peer` packet is one of the two halves of an exchange. -/
def Paired (arrivals : List Arrival) (sent : List Datagram) : Prop :=
  ∃ exchanges, PairedBy arrivals sent exchanges

section Account

variable {arrival : Arrival} {arrivals : List Arrival} {sent sent' : List Datagram}
variable {exchanges : List (Side × Side)}

/-- The places of what has arrived stay the same. -/
theorem getElem?_concat {side : Side} (located : arrivals[side.number]? = some side.arrival)
    (arrival : Arrival) : (arrivals ++ [arrival])[side.number]? = some side.arrival := by
  rw [List.getElem?_append_left (List.getElem?_eq_some_iff.mp located).1]
  exact located

/-- A registration that has just arrived has not taken part in an exchange. -/
theorem PairedBy.fresh (paired : PairedBy arrivals sent exchanges) :
    arrivals.length ∉ sides exchanges := by
  intro member
  obtain ⟨exchange, present, position⟩ := List.mem_flatMap.mp member
  have bound : ∀ side ∈ [exchange.1, exchange.2], side.number < arrivals.length :=
    fun side sided => (List.getElem?_eq_some_iff.mp (paired.located exchange present side sided).1).1
  have first := bound exchange.1 List.mem_cons_self
  have second := bound exchange.2 (List.mem_cons_of_mem _ List.mem_cons_self)
  rcases List.mem_cons.mp position with same | other
  · omega
  · have same := List.mem_singleton.mp other
    omega

/-- A packet that leads to no exchange. -/
theorem PairedBy.quiet (paired : PairedBy arrivals sent exchanges) (arrival : Arrival)
    (silent : ∀ datagram ∈ sent', datagram.packet.type ≠ .peer) :
    PairedBy (arrivals ++ [arrival]) (sent ++ sent') exchanges := by
  refine
    { paired with
      located := fun exchange present side sided => ?_
      halves := ?_ }
  · obtain ⟨located, registers⟩ := paired.located exchange present side sided
    exact ⟨getElem?_concat located arrival, registers⟩
  · have none : sent'.filter (fun datagram => datagram.packet.type = .peer) = [] := by
      rw [List.filter_eq_nil_iff]
      intro datagram member
      simpa using silent datagram member
    rw [List.filter_append, none, List.append_nil, paired.halves]

theorem sides_concat (exchanges : List (Side × Side)) (exchange : Side × Side) :
    sides (exchanges ++ [exchange]) =
      sides exchanges ++ [exchange.1.number, exchange.2.number] := by
  unfold sides
  rw [List.flatMap_append, List.flatMap_singleton]

/-- An exchange between the registration that has just arrived and one that fits. -/
theorem PairedBy.exchanged (paired : PairedBy arrivals sent exchanges) {side : Side}
    (located : arrivals[side.number]? = some side.arrival)
    (registers : side.arrival.registers = true) (free : side.number ∉ sides exchanges)
    (incoming : arrival.registers = true)
    (fitting : arrival.packet.sessionID = side.arrival.packet.sessionID ∧
      arrival.packet.peerID = side.arrival.packet.wantsPeerID ∧
      side.arrival.packet.peerID = arrival.packet.wantsPeerID)
    {observed : Datagram} (silent : observed.packet.type ≠ .peer) :
    PairedBy (arrivals ++ [arrival])
      (sent ++
        observed :: RendezvousServer.exchange arrival.registered arrival.addr side.arrival.entry)
      (exchanges ++ [(⟨arrivals.length, arrival⟩, side)]) where
  located := by
    intro exchange present other sided
    rcases List.mem_append.mp present with earlier | last
    · obtain ⟨located, registers⟩ := paired.located exchange earlier other sided
      exact ⟨getElem?_concat located arrival, registers⟩
    · rw [List.mem_singleton.mp last] at sided
      rcases List.mem_cons.mp sided with rfl | second
      · exact ⟨List.getElem?_concat_length, incoming⟩
      · rw [List.mem_singleton.mp second]
        exact ⟨getElem?_concat located arrival, registers⟩
  fitting := by
    intro exchange present
    rcases List.mem_append.mp present with earlier | last
    · exact paired.fitting exchange earlier
    · rw [List.mem_singleton.mp last]
      exact fitting
  halves := by
    rw [List.filter_append, paired.halves, List.flatMap_append, List.flatMap_singleton,
      List.filter_cons_of_neg (by simpa using silent)]
    rfl
  once := by
    have bound : side.number < arrivals.length := (List.getElem?_eq_some_iff.mp located).1
    rw [sides_concat]
    refine paired.once.append ?_ ?_
    · simp only [List.nodup_cons, List.mem_singleton, List.not_mem_nil, not_false_eq_true,
        List.nodup_nil, and_true]
      omega
    · intro number earlier last
      rcases List.mem_cons.mp last with rfl | second
      · exact paired.fresh earlier
      · rw [List.mem_singleton.mp second] at earlier
        exact free earlier

end Account

namespace RendezvousServer

/-- Another session or peer than the one that is wanted, with the same key. -/
def Collides (other wanting : RendezvousPacket) : Prop :=
  peerKey other.sessionID other.peerID = peerKey wanting.sessionID wanting.wantsPeerID ∧
    ¬ (other.sessionID = wanting.sessionID ∧ other.peerID = wanting.wantsPeerID)

instance (other wanting : RendezvousPacket) : Decidable (Collides other wanting) :=
  inferInstanceAs (Decidable (_ ∧ ¬ _))

/-- The registration does not want itself, and whoever is found under the key it looks for, wanting
it, has not got there by a collision. -/
def Apart (s : RendezvousServer) (arrival : Arrival) : Prop :=
  arrival.registers = true →
    arrival.packet.peerID ≠ arrival.packet.wantsPeerID ∧
    ∀ peers ∈ s.pruneLocked arrival.order arrival.now,
      ∀ other ∈ peers.lookup (peerKey arrival.packet.sessionID arrival.packet.wantsPeerID),
        other.packet.wantsPeerID = arrival.packet.peerID → ¬ Collides other.packet arrival.packet

instance (s : RendezvousServer) (arrival : Arrival) : Decidable (s.Apart arrival) := by
  unfold Apart
  infer_instance

/-- Every packet meets the condition when it arrives. -/
def AllApart (s : RendezvousServer) : List Arrival → Prop
  | [] => True
  | arrival :: rest =>
      s.Apart arrival ∧ ∀ handled ∈ s.handlePacket arrival, handled.1.AllApart rest

instance decidableAllApart (s : RendezvousServer) :
    (arrivals : List Arrival) → Decidable (s.AllApart arrivals)
  | [] => isTrue trivial
  | arrival :: rest =>
      haveI (handled : RendezvousServer × List Datagram) : Decidable (handled.1.AllApart rest) :=
        decidableAllApart handled.1 rest
      inferInstanceAs (Decidable (s.Apart arrival ∧
        ∀ handled ∈ s.handlePacket arrival, handled.1.AllApart rest))

/-- Every registration in the table is one of those that have arrived, and has not taken part in an
exchange. -/
def Tracked (s : RendezvousServer) (arrivals : List Arrival) (exchanges : List (Side × Side)) : Prop :=
  ∀ key peer, s.peers.lookup key = some peer →
    ∃ side : Side, arrivals[side.number]? = some side.arrival ∧ side.arrival.registers = true ∧
      side.arrival.key = key ∧ peer = side.arrival.entry ∧ side.number ∉ sides exchanges

section Step

variable {s s' : RendezvousServer} {arrival : Arrival} {arrivals : List Arrival}
variable {sent sent' : List Datagram} {exchanges : List (Side × Side)}

theorem peerKey_left_cancel {sessionID peerID other : String}
    (same : peerKey sessionID peerID = peerKey sessionID other) : peerID = other := by
  unfold peerKey at same
  have characters := congrArg String.toList same
  simp only [String.toList_append] at characters
  exact String.toList_inj.mp (List.append_cancel_left characters)

/-- **A packet keeps the account of the exchanges**, if it meets the condition. -/
theorem paired_handlePacket (tracked : s.Tracked arrivals exchanges)
    (paired : PairedBy arrivals sent exchanges) (apart : s.Apart arrival)
    (handled : s.handlePacket arrival = some (s', sent')) :
    ∃ exchanges', s'.Tracked (arrivals ++ [arrival]) exchanges' ∧
      PairedBy (arrivals ++ [arrival]) (sent ++ sent') exchanges' := by
  have old {key : String} {peer : RegisteredPeer} (found : s.peers.lookup key = some peer) :
      ∃ side : Side, (arrivals ++ [arrival])[side.number]? = some side.arrival ∧
        side.arrival.registers = true ∧ side.arrival.key = key ∧ peer = side.arrival.entry ∧
        side.number ∉ sides exchanges ∧ side.number < arrivals.length := by
    obtain ⟨side, located, rest⟩ := tracked key peer found
    exact ⟨side, getElem?_concat located arrival, rest.1, rest.2.1, rest.2.2.1, rest.2.2.2,
      (List.getElem?_eq_some_iff.mp located).1⟩
  rcases handlePacket_cases handled with ⟨-, rfl, silent⟩ | ⟨incoming, peers, pruned,
    ⟨-, rfl, silent⟩ | ⟨other, observed, found, rfl, silent, rfl⟩⟩
  · refine ⟨exchanges, fun key peer found => ?_, paired.quiet arrival silent⟩
    obtain ⟨side, located, registers, named, stored, free, -⟩ := old found
    exact ⟨side, located, registers, named, stored, free⟩
  · refine ⟨exchanges, fun key peer found => ?_, paired.quiet arrival silent⟩
    rw [GoMap.lookup_insert_if] at found
    split at found
    · rename_i same
      cases found
      exact ⟨⟨arrivals.length, arrival⟩, List.getElem?_concat_length, incoming, same.symm, rfl,
        paired.fresh⟩
    · obtain ⟨side, located, registers, named, stored, free, -⟩ :=
        old (lookup_of_pruneLocked pruned found)
      exact ⟨side, located, registers, named, stored, free⟩
  · obtain ⟨different, honest⟩ := apart incoming
    -- whoever was found is not the registration that was stored a moment ago
    have looked : peers.lookup (peerKey arrival.packet.sessionID arrival.packet.wantsPeerID) =
        some other ∧ other.packet.wantsPeerID = arrival.packet.peerID := by
      unfold findPeerLocked at found
      split at found
      · cases found
      · rename_i peer present
        have present : (peers.insert arrival.key arrival.entry).lookup
            (peerKey arrival.packet.sessionID arrival.packet.wantsPeerID) = some peer := present
        have apart : peerKey arrival.packet.sessionID arrival.packet.wantsPeerID ≠ arrival.key :=
          fun same => different (peerKey_left_cancel same).symm
        rw [GoMap.lookup_insert_if, if_neg apart] at present
        split at found
        · cases found
        · rename_i wanted
          cases found
          exact ⟨present, not_not.mp wanted⟩
    have apart_keys := honest peers pruned other looked.1 looked.2
    obtain ⟨side, located, registers, named, rfl, free⟩ :=
      tracked _ other (lookup_of_pruneLocked pruned looked.1)
    obtain ⟨session, peer⟩ := not_not.mp fun others => apart_keys ⟨named, others⟩
    refine ⟨exchanges ++ [(⟨arrivals.length, arrival⟩, side)], fun key kept found' => ?_,
      paired.exchanged located registers free incoming ⟨session.symm, looked.2.symm, peer⟩ silent⟩
    rw [GoMap.lookup_erase_if] at found'
    split at found'
    · cases found'
    · rename_i notWanted
      rw [GoMap.lookup_erase_if] at found'
      split at found'
      · cases found'
      · rename_i notOwn
        rw [GoMap.lookup_insert_if, if_neg notOwn] at found'
        obtain ⟨third, located', registers', named', stored', free', bound'⟩ :=
          old (lookup_of_pruneLocked pruned found')
        refine ⟨third, located', registers', named', stored', ?_⟩
        rw [sides_concat, List.mem_append, not_or]
        refine ⟨free', fun taken => ?_⟩
        rcases List.mem_cons.mp taken with last | second
        · exact bound'.ne last
        · -- a registration has one key, and that of the other side is gone
          have same : third.number = side.number := List.mem_singleton.mp second
          rw [same, List.getElem?_append_left (List.getElem?_eq_some_iff.mp located).1, located,
            Option.some.injEq] at located'
          rw [← located', named] at named'
          exact notWanted named'.symm

end Step

/-- The account of the exchanges is kept along a run. -/
theorem paired_serveAll {s s' : RendezvousServer} {arrivals rest : List Arrival}
    {sent sent' : List Datagram} {exchanges : List (Side × Side)}
    (tracked : s.Tracked arrivals exchanges) (paired : PairedBy arrivals sent exchanges)
    (apart : s.AllApart rest) (served : s.serveAll rest = some (s', sent')) :
    Paired (arrivals ++ rest) (sent ++ sent') := by
  induction rest generalizing s arrivals sent sent' exchanges with
  | nil =>
      cases served
      rw [List.append_nil, List.append_nil]
      exact ⟨exchanges, paired⟩
  | cons arrival rest hypothesis =>
      rw [serveAll, Option.bind_eq_some_iff] at served
      obtain ⟨⟨middle, early⟩, handled, later⟩ := served
      obtain ⟨⟨last, late⟩, served, built⟩ := Option.map_eq_some_iff.mp later
      cases built
      obtain ⟨exchanges', tracked', paired'⟩ := paired_handlePacket tracked paired apart.1 handled
      have ended := hypothesis tracked' paired' (apart.2 _ handled) served
      rw [List.append_assoc, List.append_assoc, List.singleton_append] at ended
      exact ended

/-! ## Sessions without a NUL

The condition speaks about the table.  It is met by every run in which no session has a NUL in its
name, and no peer wants itself. -/

/-- A session without a NUL can be read back from the key. -/
theorem peerKey_inj {sessionID peerID sessionID' peerID' : String}
    (plain : '\x00' ∉ sessionID.toList) (plain' : '\x00' ∉ sessionID'.toList)
    (same : peerKey sessionID peerID = peerKey sessionID' peerID') :
    sessionID = sessionID' ∧ peerID = peerID' := by
  have characters := congrArg String.toList same
  unfold peerKey at characters
  simp only [String.toList_append, List.append_assoc] at characters
  have separator : "\x00".toList = ['\x00'] := rfl
  rw [separator, List.singleton_append, List.singleton_append] at characters
  obtain ⟨sessions, peers⟩ := ByteStream.append_cons_inj_of_notMem_left plain plain' characters
  exact ⟨String.toList_inj.mp sessions, String.toList_inj.mp peers⟩

/-- The sessions in the table have no NUL in their names, and the keys are in order. -/
structure PlainSessions (s : RendezvousServer) : Prop where
  keyed : Keyed s.peers
  plain : ∀ key peer, s.peers.lookup key = some peer → '\x00' ∉ peer.packet.sessionID.toList

theorem PlainSessions.apart {s : RendezvousServer} {arrival : Arrival} (plain : PlainSessions s)
    (session : '\x00' ∉ arrival.packet.sessionID.toList)
    (different : arrival.packet.peerID ≠ arrival.packet.wantsPeerID) : s.Apart arrival := by
  intro _
  refine ⟨different, fun peers pruned other found _ collides => ?_⟩
  have stored := lookup_of_pruneLocked pruned found
  exact collides.2 (peerKey_inj (plain.plain _ other stored) session collides.1)

theorem PlainSessions.handlePacket {s s' : RendezvousServer} {arrival : Arrival}
    {sent : List Datagram} (plain : PlainSessions s)
    (session : '\x00' ∉ arrival.packet.sessionID.toList)
    (handled : s.handlePacket arrival = some (s', sent)) : PlainSessions s' := by
  -- a registration that stays is the new one or an old one
  have remain : ∀ key peer, s'.peers.lookup key = some peer →
      s.peers.lookup key = some peer ∨ key = arrival.key ∧ peer = arrival.entry := by
    have insert {peers : GoMap String RegisteredPeer}
        (pruned : s.pruneLocked arrival.order arrival.now = some peers) {key : String}
        {peer : RegisteredPeer}
        (found : (peers.insert arrival.key arrival.entry).lookup key = some peer) :
        s.peers.lookup key = some peer ∨ key = arrival.key ∧ peer = arrival.entry := by
      rw [GoMap.lookup_insert_if] at found
      split at found
      · rename_i same
        exact Or.inr ⟨same, (Option.some.inj found).symm⟩
      · exact Or.inl (lookup_of_pruneLocked pruned found)
    intro key peer found
    rcases handlePacket_cases handled with ⟨-, rfl, -⟩ | ⟨-, peers, pruned, ⟨-, rfl, -⟩ |
      ⟨other, observed, -, rfl, -⟩⟩
    · exact Or.inl found
    · exact insert pruned found
    · rw [GoMap.lookup_erase_if] at found
      split at found
      · cases found
      · rw [GoMap.lookup_erase_if] at found
        split at found
        · cases found
        · exact insert pruned found
  constructor
  · intro key peer found
    rcases remain key peer found with old | ⟨rfl, rfl⟩
    · exact plain.keyed key peer old
    · rfl
  · intro key peer found
    rcases remain key peer found with old | ⟨-, rfl⟩
    · exact plain.plain key peer old
    · exact session

/-- **Names without a NUL are safe.** -/
theorem PlainSessions.allApart {s : RendezvousServer} {arrivals : List Arrival}
    (plain : PlainSessions s)
    (names : ∀ arrival ∈ arrivals, '\x00' ∉ arrival.packet.sessionID.toList ∧
      arrival.packet.peerID ≠ arrival.packet.wantsPeerID) : s.AllApart arrivals := by
  induction arrivals generalizing s with
  | nil => trivial
  | cons arrival rest hypothesis =>
      obtain ⟨session, different⟩ := names arrival List.mem_cons_self
      refine ⟨plain.apart session different, fun handled found => ?_⟩
      exact hypothesis (plain.handlePacket session found)
        fun other member => names other (List.mem_cons_of_mem _ member)

/-! ## The exchanges -/

theorem tracked_new (ttl max : ℤ) : (new ttl max).Tracked [] [] :=
  fun _ _ found => nomatch found

theorem pairedBy_nil : PairedBy [] [] [] where
  located _ member := nomatch member
  fitting _ member := nomatch member
  halves := rfl
  once := List.nodup_nil

/-- **Every exchange brings two peers together that want each other.**  In every run in which no
registration wants itself, and none finds a registration of another session or peer by a collision of
keys, the `peer` packets are the halves of exchanges between registrations of one session that
want each other, and no registration takes part in two of them. -/
theorem rendezvous_pairs_fit (ttl max : ℤ) (arrivals : List Arrival) {s : RendezvousServer}
    {sent : List Datagram} (served : (new ttl max).serveAll arrivals = some (s, sent))
    (apart : (new ttl max).AllApart arrivals) : Paired arrivals sent := by
  have ended := paired_serveAll (tracked_new ttl max) pairedBy_nil apart served
  rw [List.nil_append, List.nil_append] at ended
  exact ended

/-- So it is in every run in which no session has a NUL in its name and no peer wants itself. -/
theorem pairs_fit_of_plain_names (ttl max : ℤ) (arrivals : List Arrival) {s : RendezvousServer}
    {sent : List Datagram} (served : (new ttl max).serveAll arrivals = some (s, sent))
    (names : ∀ arrival ∈ arrivals, '\x00' ∉ arrival.packet.sessionID.toList ∧
      arrival.packet.peerID ≠ arrival.packet.wantsPeerID) : Paired arrivals sent := by
  have plain : PlainSessions (new ttl max) :=
    ⟨fun _ _ found => (nomatch found), fun _ _ found => (nomatch found)⟩
  have ended := paired_serveAll (tracked_new ttl max) pairedBy_nil (plain.allApart names) served
  rw [List.nil_append, List.nil_append] at ended
  exact ended

/-- A registration. -/
def registration (sessionID peerID wantsPeerID : String) (port : ℤ) : Arrival where
  packet := ⟨.register, sessionID, peerID, wantsPeerID, ⟨"", 0⟩, false⟩
  addr := .udp "192.0.2.7" port ""
  now := 0
  order := .kept _ _

/-- Two peers of different sessions meet under one key. -/
def crossedArrivals : List Arrival :=
  [registration "a" "b\x00c" "p" 40000, registration "a\x00b" "p" "c" 40001]

/-- Peers of different sessions are brought together when a name has a NUL in it. -/
theorem crossed_sessions_exchange :
    ∃ s sent, (new 120 10000).serveAll crossedArrivals = some (s, sent) ∧
      ¬ Paired crossedArrivals sent := by
  refine ⟨_, _, rfl, ?_⟩
  rintro ⟨exchanges, paired⟩
  -- there is an exchange, since two packets were sent
  cases exchanges with
  | nil => exact absurd (congrArg List.length paired.halves) (by decide)
  | cons exchange rest =>
      have member : exchange ∈ exchange :: rest := List.mem_cons_self
      have first := (paired.located exchange member exchange.1 List.mem_cons_self).1
      have second :=
        (paired.located exchange member exchange.2 (List.mem_cons_of_mem _ List.mem_cons_self)).1
      have session := (paired.fitting exchange member).1
      have different : exchange.1.number ≠ exchange.2.number := by
        have once := paired.once
        unfold sides at once
        rw [List.flatMap_cons] at once
        intro same
        rw [same] at once
        exact absurd once (by simp)
      -- the two arrivals are of different sessions
      have bound := (List.getElem?_eq_some_iff.mp first).1
      have bound' := (List.getElem?_eq_some_iff.mp second).1
      have places : exchange.1.number = 0 ∧ exchange.2.number = 1 ∨
          exchange.1.number = 1 ∧ exchange.2.number = 0 := by
        have length : crossedArrivals.length = 2 := rfl
        omega
      rcases places with ⟨here, there⟩ | ⟨here, there⟩
      all_goals
        rw [here] at first
        rw [there] at second
        rw [← Option.some.inj first, ← Option.some.inj second] at session
        revert session
        decide

/-- Two peers that want each other, and a third one that wants the first of them. -/
def meetingArrivals : List Arrival :=
  [registration "call" "left" "right" 40000, registration "call" "third" "left" 40002,
    registration "call" "right" "left" 40001]

theorem rendezvous_pairs_fit_meeting :
    ∃ s sent, (new 120 10000).serveAll meetingArrivals = some (s, sent) ∧ sent.length = 5 ∧
      Paired meetingArrivals sent :=
  ⟨_, _, rfl, rfl, rendezvous_pairs_fit 120 10000 meetingArrivals rfl (by decide)⟩

end RendezvousServer

end NryNet.Advanced

import NryNet.Lib.GoNet
import NryNet.Tunnels.Manager

/-!
# Which visitors are let in (`server/tunnel/allowlist.go`, `manager.go`, `relay_binding.go`)

A tunnel has a list of the addresses and networks its visitors may come from; an empty list lets everybody
in.  A visitor reaches the server itself, or a relay node, which connects to the server in its place and
tells the visitor's address as a text.  The server reads that text, makes an address of it, and the same
check as for a visitor of its own looks at the text of this one.

The text of an address is read as it was written, so both checks see the same sixteen bytes.  A zone gets
lost: the check never finds an address with a zone in a list, but it does not look at the address when the
list is empty, and then the relayed visitor has been refused already, because its address could not be
read.

`handleVisitor` is left out; a visitor is let in when it is called.
-/

namespace NryNet.Tunnels

open GoText Advanced

/-- `addressMatches`. -/
def addressMatches (ip : List ℕ) (entry : String) : Bool :=
  match parseIP entry with
  | some allowed => ipEqual allowed ip
  | none =>
      match parseCIDR entry with
      | some network => network.contains ip
      | none => false

/-- `visitorAllowed`. -/
def visitorAllowed (remoteAddr : TCPAddr) (allowlist : List String) : Bool :=
  if allowlist = [] then true
  else
    match splitHostPort remoteAddr.string with
    | .error _ => false
    | .ok (host, _) =>
        match parseIP host with
        | none => false
        | some ip => allowlist.any fun entry => addressMatches ip (trimSpace entry)

/-- `acceptLoop`: the visitors that are handled, and those that are turned away, until `Accept` fails. -/
def acceptLoop (tunnel : Tunnel) : List TCPAddr → List TCPAddr × List TCPAddr
  | [] => ([], [])
  | visitor :: visitors =>
      let (handled, denied) := acceptLoop tunnel visitors
      if !visitorAllowed visitor tunnel.ipAllowlist then (handled, visitor :: denied)
      else (visitor :: handled, denied)

namespace Manager

/-- `RouteVisitor`, up to `handleVisitor` with the tunnel and the visitor. -/
def routeVisitor (m : Manager) (choice : Choice) (tunnelID : String) (visitor : TCPAddr) :
    Except String (Tunnel × TCPAddr) := do
  let tunnel ← m.getTunnel tunnelID choice
  if tunnel.status ≠ .running then .error "tunnel is not running"
  else if !visitorAllowed visitor tunnel.ipAllowlist then
    .error "visitor is not in the tunnel IP allowlist"
  else .ok (tunnel, visitor)

/-- `routeRelayVisitor`, up to `handleVisitor`. -/
def routeRelayConn (m : Manager) (choice : Choice) (tunnelID : String) (visitor : TCPAddr) :
    Except String (Tunnel × TCPAddr) := do
  let tunnel ← m.getTunnel tunnelID choice
  if tunnel.status ≠ .running then .error "tunnel is not running"
  else if !visitorAllowed visitor tunnel.ipAllowlist then
    .error "visitor is not in the tunnel IP allowlist"
  else .ok (tunnel, visitor)

/-- What `RouteRelayVisitor` makes of the text of an address. -/
def relayAddr (visitorAddr : String) : Except String TCPAddr :=
  match splitHostPort visitorAddr with
  | .error _ => .error "relay visitor address is invalid"
  | .ok (host, portText) =>
      match parseIP host, atoi portText with
      | some ip, some port =>
          if port < 1 ∨ 65535 < port then .error "relay visitor address is invalid"
          else .ok ⟨ip, port.toNat, ""⟩
      | _, _ => .error "relay visitor address is invalid"

/-- `RouteRelayVisitor`. -/
def routeRelayVisitor (m : Manager) (choice : Choice) (now : Time)
    (nodeID tunnelID visitorAddr : String) : Manager × Except String (Tunnel × TCPAddr) :=
  match m.registry with
  | none => (m, .error "relay is not assigned to tunnel")
  | some registry =>
      let (registry, assigned) := registry.isAssignedTo now tunnelID nodeID
      let m := { m with registry := some registry }
      if !assigned then (m, .error "relay is not assigned to tunnel")
      else (m, do m.routeRelayConn choice tunnelID (← relayAddr visitorAddr))

end Manager

/-! ## The check of an address -/

section Admission

variable {peer : PeerAddr} {allowlist : List String}

/-- An empty list lets everybody in. -/
theorem visitorAllowed_nil (remoteAddr : TCPAddr) : visitorAllowed remoteAddr [] = true :=
  if_pos rfl

/-- The check compares the sixteen bytes of the address. -/
theorem visitorAllowed_plain (plain : peer.zone = "") (listed : allowlist ≠ []) :
    visitorAllowed peer.toTCPAddr allowlist =
      allowlist.any fun entry => addressMatches (to16 peer.ip) (trimSpace entry) := by
  unfold visitorAllowed
  rw [if_neg listed, PeerAddr.splitHostPort_string plain]
  simp only [parseIP_ipString peer.sized peer.small]

/-- An address with a zone is in no list. -/
theorem visitorAllowed_zoned (zoned : peer.zone ≠ "") (listed : allowlist ≠ []) :
    visitorAllowed peer.toTCPAddr allowlist = false := by
  unfold visitorAllowed
  rw [if_neg listed]
  cases split : splitHostPort peer.string with
  | error message => rfl
  | ok parts =>
      have nowhere := PeerAddr.parseIP_of_zone zoned split
      simp only [nowhere]

/-- The address that the server makes of the text. -/
def relayed (peer : PeerAddr) : PeerAddr where
  ip := to16 peer.ip
  port := peer.port
  zone := ""
  sized := Or.inr (length_to16 peer.sized)
  small := to16_lt peer.small
  connected := peer.connected

/-- The text is read as it was written. -/
theorem relayAddr_plain (plain : peer.zone = "") :
    Manager.relayAddr peer.string = .ok (relayed peer).toTCPAddr := by
  obtain ⟨least, largest⟩ := peer.connected
  unfold Manager.relayAddr
  rw [PeerAddr.splitHostPort_string plain]
  simp only [parseIP_ipString peer.sized peer.small, atoi_toString (show peer.port < 2 ^ 63 by omega)]
  rw [if_neg (by omega)]
  rfl

/-- A text with a zone is not read at all. -/
theorem relayAddr_zoned (zoned : peer.zone ≠ "") :
    Manager.relayAddr peer.string = .error "relay visitor address is invalid" := by
  unfold Manager.relayAddr
  cases split : splitHostPort peer.string with
  | error message => rfl
  | ok parts =>
      have nowhere := PeerAddr.parseIP_of_zone zoned split
      simp only [nowhere]

/-- The relayed address passes the check when the address does. -/
theorem visitorAllowed_relayed (plain : peer.zone = "") :
    visitorAllowed (relayed peer).toTCPAddr allowlist = visitorAllowed peer.toTCPAddr allowlist := by
  by_cases listed : allowlist = []
  · rw [listed, visitorAllowed_nil, visitorAllowed_nil]
  · rw [visitorAllowed_plain plain listed, visitorAllowed_plain rfl listed]
    change (allowlist.any fun entry => addressMatches (to16 (to16 peer.ip)) (trimSpace entry)) = _
    rw [to16_to16 peer.sized]

end Admission

/-! ## Two ways in -/

section Routes

variable {m : Manager} {choice : Choice} {tunnelID : String} {tunnel : Tunnel} {visitor : TCPAddr}

theorem isOk_routeVisitor (found : m.getTunnel tunnelID choice = .ok tunnel)
    (running : tunnel.status = .running) :
    (m.routeVisitor choice tunnelID visitor).isOk = visitorAllowed visitor tunnel.ipAllowlist := by
  have stays : ¬ tunnel.status ≠ .running := not_not_intro running
  unfold Manager.routeVisitor
  rw [found]
  change (if _ then _ else _ : Except String (Tunnel × TCPAddr)).isOk = _
  rw [if_neg stays]
  cases visitorAllowed visitor tunnel.ipAllowlist <;> rfl

theorem isOk_routeRelayConn (found : m.getTunnel tunnelID choice = .ok tunnel)
    (running : tunnel.status = .running) :
    (m.routeRelayConn choice tunnelID visitor).isOk = visitorAllowed visitor tunnel.ipAllowlist :=
  isOk_routeVisitor found running

/-- The accept loop handles the visitors that are allowed. -/
theorem mem_acceptLoop {visitors : List TCPAddr} (arrives : visitor ∈ visitors) :
    visitor ∈ (acceptLoop tunnel visitors).1 ↔ visitorAllowed visitor tunnel.ipAllowlist = true := by
  have handled (visitors : List TCPAddr) : (acceptLoop tunnel visitors).1 =
      visitors.filter fun visitor => visitorAllowed visitor tunnel.ipAllowlist := by
    induction visitors with
    | nil => rfl
    | cons visitor rest ih =>
        rw [acceptLoop, List.filter_cons, ← ih]
        cases visitorAllowed visitor tunnel.ipAllowlist <;> rfl
  rw [handled, List.mem_filter]
  exact and_iff_right arrives

variable {registry : RelayRegistry} {now : Time} {nodeID : String}

/-- A visitor that a relay node reports is let in when its address is read and passes the check. -/
theorem isOk_routeRelayVisitor (configured : m.registry = some registry)
    (assigned : (registry.isAssignedTo now tunnelID nodeID).2 = true)
    (found : m.getTunnel tunnelID choice = .ok tunnel) (running : tunnel.status = .running)
    (peer : PeerAddr) :
    (m.routeRelayVisitor choice now nodeID tunnelID peer.string).2.isOk =
      (decide (peer.zone = "") && visitorAllowed peer.toTCPAddr tunnel.ipAllowlist) := by
  unfold Manager.routeRelayVisitor
  rw [configured]
  simp only [assigned, Bool.not_true, Bool.false_eq_true, if_false]
  by_cases plain : peer.zone = ""
  · rw [relayAddr_plain plain, decide_eq_true plain, Bool.true_and, ← visitorAllowed_relayed plain]
    exact isOk_routeRelayConn found running
  · rw [relayAddr_zoned plain, decide_eq_false plain, Bool.false_and]
    rfl

/-- **A visitor is let in through a relay node as it is let in directly**, unless its address has a zone
and the list is empty. -/
theorem relayed_admission (configured : m.registry = some registry)
    (assigned : (registry.isAssignedTo now tunnelID nodeID).2 = true)
    (found : m.getTunnel tunnelID choice = .ok tunnel) (running : tunnel.status = .running)
    (peer : PeerAddr) {visitors : List TCPAddr} (arrives : peer.toTCPAddr ∈ visitors) :
    let relayed := (m.routeRelayVisitor choice now nodeID tunnelID peer.string).2.isOk = true
    ((relayed ↔ (m.routeVisitor choice tunnelID peer.toTCPAddr).isOk = true) ∧
        (relayed ↔ peer.toTCPAddr ∈ (acceptLoop tunnel visitors).1)) ↔
      (peer.zone = "" ∨ tunnel.ipAllowlist ≠ []) := by
  simp only [isOk_routeRelayVisitor configured assigned found running, isOk_routeVisitor found running,
    mem_acceptLoop arrives, and_self, Bool.and_eq_true, decide_eq_true_eq]
  constructor
  · intro same
    by_contra neither
    obtain ⟨zoned, empty⟩ := not_or.mp neither
    rw [not_not.mp empty] at same
    exact zoned (same.mpr (visitorAllowed_nil _)).1
  · rintro (plain | listed)
    · exact and_iff_right plain
    · by_cases plain : peer.zone = ""
      · exact and_iff_right plain
      · rw [visitorAllowed_zoned plain listed]
        exact iff_of_false (fun both => plain both.1) Bool.false_ne_true

end Routes

/-- A registry with a node that a tunnel is assigned to. -/
def oneRelay : RelayRegistry where
  timeout := 60
  nodes := (∅ : GoMap String RelayNode).insert "relay" ⟨"relay", "192.0.2.1", "", 1, true, 5⟩
  assignments := (∅ : GoMap String String).insert "u" "relay"

/-- A running tunnel, for visitors from anywhere or from some networks. -/
def sshTunnel (allowlist : List String) : Tunnel :=
  ⟨"u", "c", "ssh", "tcp", "", "127.0.0.1", 22, 2222, "", .running, allowlist, 3, 3⟩

def sshStore (allowlist : List String) : Store where
  tokens := [⟨⟨"t", "home", "abcdefgh", false, none, 1⟩, "hash"⟩]
  clients := [⟨"c", "laptop", "device", "t", .online, false, "192.0.2.9", "linux", "1.0", 2, 2⟩]
  revokedDevices := []
  tunnels := [sshTunnel allowlist]
  tokens_primary := by decide
  clients_primary := by decide
  clients_device := by decide
  clients_token := by decide
  tunnels_client := by simp [sshTunnel]

def relayManager (allowlist : List String) : Manager :=
  newManager (sshStore allowlist) (some oneRelay) true

/-- A visitor on the network of the relay node and the server. -/
def linkLocal : PeerAddr where
  ip := [0xfe, 0x80, 0, 0, 0, 0, 0, 0, 0, 0, 0, 0, 0, 0, 0, 1]
  port := 5000
  zone := "eth0"
  sized := Or.inr rfl
  small := by decide
  connected := by decide

def neighbour : PeerAddr where
  ip := [192, 168, 1, 20]
  port := 1234
  zone := ""
  sized := Or.inl rfl
  small := by decide
  connected := by decide

theorem relayed_admission_cidr :
    let m := relayManager [" 192.168.1.0/24"]
    let relayed := (m.routeRelayVisitor (.go 9) 9 "relay" "u" neighbour.string).2.isOk = true
    (relayed ↔ (m.routeVisitor (.go 9) "u" neighbour.toTCPAddr).isOk = true) ∧
      (relayed ↔ neighbour.toTCPAddr ∈ (acceptLoop (sshTunnel [" 192.168.1.0/24"])
        [linkLocal.toTCPAddr, neighbour.toTCPAddr]).1) ∧ relayed := by
  intro m relayed
  have assigned : (oneRelay.isAssignedTo 9 "u" "relay").2 = true := by decide +kernel
  have found : m.getTunnel "u" (.go 9) = .ok (sshTunnel [" 192.168.1.0/24"]) := rfl
  have arrives : neighbour.toTCPAddr ∈ [linkLocal.toTCPAddr, neighbour.toTCPAddr] :=
    List.mem_cons_of_mem _ List.mem_cons_self
  have same := (relayed_admission rfl assigned found rfl neighbour arrives).mpr (Or.inl rfl)
  refine ⟨same.1, same.2, ?_⟩
  decide +kernel

/-- With an empty list a visitor whose address has a zone is let in directly and refused at a relay
node. -/
theorem relayed_admission_zone :
    ¬ ∀ (m : Manager) (registry : RelayRegistry) (choice : Choice) (now : Time)
        (nodeID tunnelID : String) (tunnel : Tunnel) (peer : PeerAddr),
      m.registry = some registry → (registry.isAssignedTo now tunnelID nodeID).2 = true →
      m.getTunnel tunnelID choice = .ok tunnel → tunnel.status = .running →
      ((m.routeRelayVisitor choice now nodeID tunnelID peer.string).2.isOk = true ↔
        (m.routeVisitor choice tunnelID peer.toTCPAddr).isOk = true) := by
  intro same
  have assigned : (oneRelay.isAssignedTo 9 "u" "relay").2 = true := by decide +kernel
  have refused : ((relayManager []).routeRelayVisitor (.go 9) 9 "relay" "u" linkLocal.string).2.isOk =
      false := by
    decide +kernel
  have direct : ((relayManager []).routeVisitor (.go 9) "u" linkLocal.toTCPAddr).isOk = true := by
    decide +kernel
  have both := (same (relayManager []) oneRelay (.go 9) 9 "relay" "u" (sshTunnel []) linkLocal rfl assigned
    rfl rfl).mpr direct
  rw [refused] at both
  cases both

end NryNet.Tunnels

import NryNet.Gateway.Sniff
import NryNet.Lib.GoNet
import NryNet.Lib.GoTrim
import NryNet.Storage.Database

/-!
# Domains from the request to the tunnel (`internal/storage/tunnels.go`, `server/gateway/sniff.go`)

The administrator types a domain; `validateTunnel` looks at its normal form and `CreateTunnel` and
`UpdateTunnel` store another one, which is made in a different order.  A visitor names a host; the gateway
brings it into a form of its own, and `FindDomainTunnel` once more.  All of them come to the same text, so
the index over protocols and domains is an index over what was accepted, and a visitor finds the one
tunnel with its name or none.

What the administrator typed is not in the tables.  A `History` is the database together with it.
-/

namespace NryNet

open GoText

namespace Database

variable [CaseTable]

/-- `FindDomainTunnel`. -/
def findDomainTunnel (protocol domain : String) : Fallible Database String Tunnel := fun db =>
  let domain := toLower (trimSuffix domain '.')
  let hit := fun tunnel : Tunnel =>
    tunnel.protocol = protocol && sqlLower tunnel.domain = domain && tunnel.status = .running
  match db.tunnels.find? hit with
  | none => (db, .error Store.errNoRows)
  | some tunnel => (db, .ok tunnel)

/-- `UpdateTunnel`, of a tunnel that is not there. -/
theorem updateTunnel_missing {db : Database} {tunnel : Tunnel} (intact : db.Valid)
    (missing : Table.select db.tunnels Tunnel.id tunnel.id = none) (uuid : String) (now : Time) :
    ∃ message, updateTunnel tunnel uuid now db = (db, .error message) := by
  have none : ∀ row ∈ db.tunnels, (row.id == tunnel.id) = false := by
    intro row member
    have other := List.find?_eq_none.mp missing row member
    simpa using other
  have idle (visitorToken : String) :
      updateTunnels (fun row => row.id == tunnel.id) (fun row => tunnel.updated row visitorToken now) db =
        (db, .ok 0) := by
    have count : db.tunnels.countP (fun row => row.id == tunnel.id) = 0 :=
      List.countP_eq_zero.mpr fun row member => Bool.eq_false_iff.mp (none row member)
    have same : Table.update db.tunnels (fun row => row.id == tunnel.id)
        (fun row => tunnel.updated row visitorToken now) = db.tunnels :=
      Table.update_of_forall none
    unfold updateTunnels
    rw [execute_idle intact (by simp only [same]), count]
  have token : (∃ message, updatedVisitorToken tunnel uuid db = (db, .error message)) ∨
      ∃ visitorToken, updatedVisitorToken tunnel uuid db = (db, .ok visitorToken) := by
    have read : getTunnel tunnel.id db = (db, .error Store.errNoRows) := by
      unfold getTunnel
      rw [missing]
    unfold updatedVisitorToken
    split
    · split
      · exact Or.inl ⟨_, Fallible.bind_error read⟩
      · exact Or.inr ⟨_, rfl⟩
    · exact Or.inr ⟨_, rfl⟩
  unfold updateTunnel
  cases checked : validateTunnel tunnel with
  | error message =>
      have failed : validated tunnel db = (db, .error message) := by
        unfold validated
        rw [checked]
        rfl
      exact ⟨message, Fallible.bind_error failed⟩
  | ok _ =>
      rw [Fallible.bind_ok (validated_ok checked db)]
      rcases token with ⟨message, failed⟩ | ⟨visitorToken, found⟩
      · exact ⟨message, Fallible.bind_error failed⟩
      · rw [Fallible.bind_ok found, Fallible.bind_ok (idle visitorToken)]
        exact ⟨Store.errNotFound, rfl⟩

omit [CaseTable] in
/-- `SetTunnelStatus` fails and changes nothing, or it sets the status. -/
theorem setTunnelStatus_cases (id : String) (status : TunnelStatus) (now : Time) (db : Database) :
    (∃ message, setTunnelStatus id status now db = (db, .error message)) ∨
      ({ db with
          tunnels := Table.update db.tunnels (fun tunnel => tunnel.id == id)
            fun tunnel => { tunnel with status := status, updatedAt := now } } : Database).Valid ∧
        setTunnelStatus id status now db =
          ({ db with
              tunnels := Table.update db.tunnels (fun tunnel => tunnel.id == id)
                fun tunnel => { tunnel with status := status, updatedAt := now } }, .ok ()) := by
  let change (db : Database) : Database × ℕ :=
    ({ db with
        tunnels := Table.update db.tunnels (fun tunnel => tunnel.id == id)
          fun tunnel => { tunnel with status := status, updatedAt := now } },
      db.tunnels.countP fun tunnel => tunnel.id == id)
  have idle : (change db).2 = 0 → (change db).1 = db := by
    intro none
    have missing : ∀ row ∈ db.tunnels, (row.id == id) = false := fun row member =>
      Bool.eq_false_iff.mpr (List.countP_eq_zero.mp none row member)
    simp only [change, Table.update_of_forall missing]
  rcases changed_cases idle with ⟨message, failed⟩ | ⟨valid, -, changed⟩
  · exact Or.inl ⟨message, failed⟩
  · exact Or.inr ⟨valid, changed⟩

end Database

/-- What the administrator does. -/
inductive TunnelCall where
  | create (tunnel : Tunnel) (id uuid : String) (now : Time)
  | update (tunnel : Tunnel) (uuid : String) (now : Time)
  | setStatus (id : String) (status : TunnelStatus) (now : Time)

/-- The operation of the store. -/
def TunnelCall.operation : TunnelCall → Operation
  | .create tunnel id uuid now => .createTunnel tunnel id uuid now
  | .update tunnel uuid now => .updateTunnel tunnel uuid now
  | .setStatus id status now => .setTunnelStatus id status now

/-- The database, and for every tunnel the domain that was typed when it was last written. -/
structure History where
  db : Database
  typed : String → String

section Calls

variable [CaseTable]

/-- A call; a domain that was typed counts when the call succeeds. -/
def TunnelCall.perform (call : TunnelCall) (history : History) : History :=
  match call with
  | .create tunnel id uuid now =>
      match Database.createTunnel tunnel id uuid now history.db with
      | (db, .error _) => ⟨db, history.typed⟩
      | (db, .ok _) => ⟨db, Function.update history.typed id tunnel.domain⟩
  | .update tunnel uuid now =>
      match Database.updateTunnel tunnel uuid now history.db with
      | (db, .error _) => ⟨db, history.typed⟩
      | (db, .ok _) => ⟨db, Function.update history.typed tunnel.id tunnel.domain⟩
  | .setStatus id status now =>
      ⟨(Database.setTunnelStatus id status now history.db).1, history.typed⟩

/-- The calls, one after the other. -/
def History.runAll (calls : List TunnelCall) (history : History) : History :=
  calls.foldl (fun history call => call.perform history) history

/-- The database does not notice what is written down beside it. -/
theorem db_perform (call : TunnelCall) (history : History) :
    (call.perform history).db = (call.operation.perform history.db).1 := by
  cases call with
  | create tunnel id uuid now =>
      change _ = ((Database.createTunnel tunnel id uuid now >>= fun _ => pure ()) history.db).1
      rw [Fallible.bind_apply]
      simp only [TunnelCall.perform]
      rcases Database.createTunnel tunnel id uuid now history.db with ⟨db, _ | _⟩ <;> rfl
  | update tunnel uuid now =>
      change _ = ((Database.updateTunnel tunnel uuid now >>= fun _ => pure ()) history.db).1
      rw [Fallible.bind_apply]
      simp only [TunnelCall.perform]
      rcases Database.updateTunnel tunnel uuid now history.db with ⟨db, _ | _⟩ <;> rfl
  | setStatus id status now => rfl

theorem db_runAll (calls : List TunnelCall) (history : History) :
    (history.runAll calls).db = Operation.runAll (calls.map TunnelCall.operation) history.db := by
  induction calls generalizing history with
  | nil => rfl
  | cons call rest ih =>
      change ((call.perform history).runAll rest).db = _
      rw [ih, db_perform]
      rfl

/-! ## What is stored is what was accepted -/

variable {db : Database} {tunnel : Tunnel} {domain form : String}

/-- The two orders of trimming and lower-casing come to the same text. -/
theorem storedDomain_of_normalizeDomain (dots : ∀ c, lower c = '.' → c = '.')
    (normal : normalizeDomain domain = .ok form) : storedDomain domain = form := by
  delta normalizeDomain at normal
  simp only at normal
  split at normal
  · cases normal
  · rw [← Except.ok.inj normal]
    exact toLower_trimSuffix dots (trimSpace domain)

theorem normalizeDomain_of_validateTunnel (valid : validateTunnel tunnel = .ok ())
    (web : toLower tunnel.protocol ∈ ["http", "https"]) :
    ∃ form, normalizeDomain tunnel.domain = .ok form := by
  unfold validateTunnel at valid
  split at valid
  · cases valid
  split at valid
  · cases valid
  simp only at valid
  split at valid
  · cases valid
  split at valid
  · cases valid
  split at valid
  · cases valid
  split at valid
  · cases valid
  cases normal : normalizeDomain tunnel.domain with
  | error message =>
      rw [normal] at valid
      cases valid
  | ok form => exact ⟨form, rfl⟩

/-- What is known of the tables and of what was typed: every tunnel of the gateway has the normal form of
the domain that was typed for it. -/
structure History.Canonical (history : History) : Prop where
  valid : history.db.Valid
  named : ∀ row ∈ history.db.tunnels, row.protocol ∈ ["http", "https"] →
    normalizeDomain (history.typed row.id) = .ok row.domain

/-- A row that is written. -/
theorem normalizeDomain_of_written (dots : ∀ c, lower c = '.' → c = '.')
    (valid : validateTunnel tunnel = .ok ()) (web : toLower tunnel.protocol ∈ ["http", "https"]) :
    normalizeDomain tunnel.domain = .ok (storedDomain tunnel.domain) := by
  obtain ⟨form, normal⟩ := normalizeDomain_of_validateTunnel valid web
  rw [storedDomain_of_normalizeDomain dots normal]
  exact normal

theorem canonical_create (dots : ∀ c, lower c = '.' → c = '.') {history : History}
    (canonical : history.Canonical) (tunnel : Tunnel) (id uuid : String) (now : Time) :
    ((TunnelCall.create tunnel id uuid now).perform history).Canonical := by
  obtain ⟨intact, named⟩ := canonical
  unfold TunnelCall.perform
  rcases Database.createTunnel_cases tunnel id uuid now history.db with
    ⟨message, failed⟩ | ⟨valid, fine, created⟩
  · simp only [failed]
    exact ⟨intact, named⟩
  · simp only [created]
    have unique := (Database.violation_eq_none.mp fine).tunnels
    refine ⟨Database.violation_eq_none.mp fine, fun row member web => ?_⟩
    rcases List.mem_append.mp member with old | new
    · -- an old row has another identifier
      have other : row.id ≠ id := Table.fresh_of_nodup_insert unique row old
      simp only [Function.update_of_ne other]
      exact named row old web
    · rw [List.mem_singleton.mp new] at web ⊢
      exact (congrArg normalizeDomain (Function.update_self _ _ _)).trans
        (normalizeDomain_of_written dots valid web)

theorem canonical_update (dots : ∀ c, lower c = '.' → c = '.') {history : History}
    (canonical : history.Canonical) (tunnel : Tunnel) (uuid : String) (now : Time) :
    ((TunnelCall.update tunnel uuid now).perform history).Canonical := by
  obtain ⟨intact, named⟩ := canonical
  unfold TunnelCall.perform
  cases found : Table.select history.db.tunnels Tunnel.id tunnel.id with
  | none =>
      obtain ⟨message, failed⟩ := Database.updateTunnel_missing intact found uuid now
      simp only [failed]
      exact ⟨intact, named⟩
  | some row =>
      rcases Database.updateTunnel_cases found uuid now with
        ⟨-, message, failed⟩ | ⟨valid, -, fine, updated⟩
      · simp only [failed]
        exact ⟨intact, named⟩
      · simp only [updated]
        refine ⟨Database.violation_eq_none.mp fine, fun row member web => ?_⟩
        obtain ⟨old, before, rfl⟩ := Table.mem_update.mp member
        by_cases hit : (old.id == tunnel.id) = true
        · rw [if_pos hit] at web ⊢
          have same : old.id = tunnel.id := by simpa using hit
          have typed : Function.update history.typed tunnel.id tunnel.domain
              (tunnel.updated old (tunnel.nextVisitorToken row uuid) now).id = tunnel.domain := by
            change Function.update history.typed tunnel.id tunnel.domain old.id = _
            rw [same, Function.update_self]
          exact (congrArg normalizeDomain typed).trans (normalizeDomain_of_written dots valid web)
        · rw [if_neg hit] at web ⊢
          have other : old.id ≠ tunnel.id := by simpa using hit
          simp only [Function.update_of_ne other]
          exact named old before web

theorem canonical_setStatus {history : History} (canonical : history.Canonical) (id : String)
    (status : TunnelStatus) (now : Time) :
    ((TunnelCall.setStatus id status now).perform history).Canonical := by
  obtain ⟨intact, named⟩ := canonical
  unfold TunnelCall.perform
  rcases Database.setTunnelStatus_cases id status now history.db with
    ⟨message, failed⟩ | ⟨valid, changed⟩
  · simp only [failed]
    exact ⟨intact, named⟩
  · simp only [changed]
    refine ⟨valid, fun row member web => ?_⟩
    obtain ⟨old, before, rfl⟩ := Table.mem_update.mp member
    by_cases hit : (old.id == id) = true
    · rw [if_pos hit] at web ⊢
      exact named old before web
    · rw [if_neg hit] at web ⊢
      exact named old before web

/-- **What was accepted is what is stored**, after any calls. -/
theorem canonical_runAll (dots : ∀ c, lower c = '.' → c = '.') {history : History}
    (canonical : history.Canonical) (calls : List TunnelCall) : (history.runAll calls).Canonical := by
  refine List.foldlRecOn calls _ canonical fun before holds call _ => ?_
  cases call with
  | create tunnel id uuid now => exact canonical_create dots holds tunnel id uuid now
  | update tunnel uuid now => exact canonical_update dots holds tunnel uuid now
  | setStatus id status now => exact canonical_setStatus holds id status now

/-! ## What a visitor finds -/

/-- The row is the one a visitor with this name is looking for: it runs, and the domain that was typed for
it is the name, up to case, a dot at the end and spaces around it. -/
def History.Serves (history : History) (protocol name : String) (tunnel : Tunnel) : Prop :=
  tunnel ∈ history.db.tunnels ∧ tunnel.protocol = protocol ∧ tunnel.status = .running ∧
    normalizeDomain (history.typed tunnel.id) = .ok (toLower (trimSuffix name '.'))

/-- The gateway's form of a name is one for the store as well. -/
theorem lookup_form (stable : ∀ c, lower (lower c) = lower c) (dots : ∀ c, lower c = '.' → c = '.')
    {name : String} (single : ¬ ['.', '.'] <:+ name.toList) :
    toLower (trimSuffix (Gateway.normalizeDomain name) '.') = toLower (trimSuffix name '.') := by
  have ended : (trimSuffix name '.').toList.getLast? ≠ some '.' := by
    unfold trimSuffix
    by_cases last : name.toList.getLast? = some '.'
    · rw [if_pos last, String.toList_ofList]
      intro again
      obtain ⟨front, split⟩ := List.getLast?_eq_some_iff.mp last
      rw [split, List.dropLast_concat] at again
      obtain ⟨start, rfl⟩ := List.getLast?_eq_some_iff.mp again
      refine single ⟨start, ?_⟩
      rw [split, List.append_assoc]
      rfl
    · rw [if_neg last]
      exact last
  unfold Gateway.normalizeDomain
  rw [trimSuffix_of_ne fun dot => ended ((getLast?_toLower dots _).mp dot), toLower_toLower stable]

theorem sqlLower_of_normalizeDomain {value : String} (normal : normalizeDomain value = .ok form) :
    sqlLower form = form := by
  have labels := labels_of_validateDomain (validateDomain_of_normalizeDomain normal)
  have plain := plain_of_labels fun label listed => (labels label listed).2
  rw [← toLower_of_ascii fun c member => lt_of_plain (plain c member)]
  exact (fixed_of_plain plain).2

/-- `FindDomainTunnel` looks for the rows that serve the visitor. -/
theorem History.Canonical.hit_iff {history : History} (canonical : history.Canonical)
    {protocol name : String} (web : protocol ∈ ["http", "https"]) {row : Tunnel}
    (member : row ∈ history.db.tunnels) :
    (row.protocol = protocol && sqlLower row.domain = toLower (trimSuffix name '.') &&
        row.status = .running) = true ↔ history.Serves protocol name row := by
  simp only [Bool.and_eq_true, decide_eq_true_eq]
  constructor
  · rintro ⟨⟨rfl, named⟩, running⟩
    have normal := canonical.named row member web
    rw [sqlLower_of_normalizeDomain normal] at named
    exact ⟨member, rfl, running, named ▸ normal⟩
  · rintro ⟨-, rfl, running, named⟩
    have normal := canonical.named row member web
    rw [named] at normal
    have same := Except.ok.inj normal
    rw [← same, sqlLower_of_normalizeDomain named]
    exact ⟨⟨rfl, rfl⟩, running⟩

/-- Only one row serves a visitor. -/
theorem History.Canonical.serves_unique {history : History} (canonical : history.Canonical)
    {protocol name : String} (web : protocol ∈ ["http", "https"]) {first second : Tunnel}
    (serves : history.Serves protocol name first) (also : history.Serves protocol name second) :
    second = first := by
  have domain {row : Tunnel} (serves : history.Serves protocol name row) :
      row.domain = toLower (trimSuffix name '.') ∧ row.domain ≠ "" := by
    obtain ⟨member, rfl, -, named⟩ := serves
    have normal := canonical.named row member web
    exact ⟨Except.ok.inj (normal.symm.trans named), (ne_empty_of_normalizeDomain normal).2⟩
  have listed {row : Tunnel} (serves : history.Serves protocol name row) :
      row ∈ history.db.tunnels.filter fun tunnel => tunnel.domain ≠ "" :=
    List.mem_filter.mpr ⟨serves.1, decide_eq_true (domain serves).2⟩
  refine List.inj_on_of_nodup_map canonical.valid.domains (listed also) (listed serves) ?_
  rw [serves.2.1, also.2.1, (domain serves).1, (domain also).1]

end Calls

namespace Gateway

open ByteStream Bufio Sliced

/-- `net.SplitHostPort`, when there is a port. -/
def hostName (host : String) : String :=
  match splitHostPort host with
  | .ok (parsed, _) => parsed
  | .error _ => host

/-- What a visitor says: the `Host` of a request, or the name in a `ClientHello`. -/
inductive Visitor where
  | http (host : String)
  | tls (serverName : String)

def Visitor.protocol : Visitor → String
  | .http _ => "http"
  | .tls _ => "https"

/-- The name, without the port. -/
def Visitor.name : Visitor → String
  | .http host => hostName host
  | .tls serverName => serverName

theorem Visitor.protocol_web (visitor : Visitor) : visitor.protocol ∈ ["http", "https"] := by
  cases visitor with
  | http host => exact List.mem_cons_self
  | tls serverName => exact List.mem_cons_of_mem _ List.mem_cons_self

/-- A host without a colon has no port, … -/
theorem hostName_of_no_colon {host : String} (plain : ':' ∉ host.toList) : hostName host = host := by
  unfold hostName
  cases split : splitHostPort host with
  | error reason => rfl
  | ok parts => exact absurd (colon_mem_of_splitHostPort split) plain

/-- … and a port is taken off. -/
theorem hostName_of_port {name port : List Char} (digits : ∀ c ∈ port, c ∉ [':', '[', ']'])
    (plain : ∀ c ∈ name, c ∉ [':', '[', ']']) :
    hostName (String.ofList (name ++ ':' :: port)) = String.ofList name := by
  have absent {c : Char} (special : c ∈ [':', '[', ']']) : c ∉ name := fun member =>
    plain c member special
  unfold hostName
  rcases splitHostPort_plain digits (absent (by decide))
    (fun first => absent (by decide) (List.mem_of_head? first)) with split | ⟨bracket, -⟩
  · rw [split]
  · exact (bracket.elim (absent (by decide)) (absent (by decide))).elim

example : hostName "web.example.com:8443" = "web.example.com" := by decide +kernel

section Gateway

variable [CaseTable] {ρ : Type} [Reader ρ]

/-- What `sniffConnection` returns is a visitor's protocol, and the visitor's name in the gateway's
form. -/
theorem visitor_of_sniffConnection (surroundings : Surroundings ρ) (conn : ρ) :
    Returns (sniffConnection surroundings conn) fun sniffed =>
      ∃ visitor : Visitor,
        sniffed.2.1 = visitor.protocol ∧ sniffed.2.2 = normalizeDomain visitor.name := by
  have tls (reader : Sniffer ρ) : Returns (sniffTLS surroundings reader) fun sniffed =>
      ∃ serverName, sniffed.2.1 = normalizeDomain serverName := by
    refine (returns_peeked reader 5).bind ?_
    rintro ⟨header, reader'⟩ ⟨five, -, -⟩
    refine (returns_slice (by omega) (by omega)).bind fun digits two => ?_
    refine (returns_uint (by omega)).bind fun recordLength _ => ?_
    refine returns_ite (fun _ => returns_fail _) fun _ => ?_
    refine (returns_peeked reader' (5 + recordLength)).bind ?_
    rintro ⟨record, reader''⟩ ⟨length, -, -⟩
    refine (returns_slice (by omega) (by omega)).bind fun handshake _ => ?_
    refine (returns_parseServerName handshake).bind fun name _ => ?_
    exact returns_pure ⟨surroundings.text name, rfl⟩
  have http (reader : Sniffer ρ) : Returns (sniffHTTP surroundings reader) fun sniffed =>
      ∃ host, sniffed.2.1 = normalizeDomain (hostName host) := by
    unfold sniffHTTP
    split
    · exact returns_fail _
    · rename_i request tee read_eq
      exact returns_ite (fun _ => returns_fail _) fun _ => returns_pure ⟨request.host, rfl⟩
  refine (returns_peeked (BufReader.newReader conn) 1).bind ?_
  rintro ⟨first, reader⟩ ⟨one, -, -⟩
  refine (returns_index (by omega)).bind fun byte _ => ?_
  refine returns_ite (fun _ => ?_) fun _ => ?_
  · refine (tls reader).bind ?_
    rintro ⟨piece, domain, next⟩ ⟨serverName, rfl⟩
    exact returns_pure ⟨.tls serverName, rfl, rfl⟩
  · refine (http reader).bind ?_
    rintro ⟨piece, domain, next⟩ ⟨host, rfl⟩
    exact returns_pure ⟨.http host, rfl, rfl⟩

/-- **A visitor finds exactly the tunnel with its name.** -/
theorem findDomainTunnel_exact (stable : ∀ c, lower (lower c) = lower c)
    (dots : ∀ c, lower c = '.' → c = '.') (history : History) (intact : history.db.Valid)
    (fresh : history.db.tunnels = []) (calls : List TunnelCall) (visitor : Visitor)
    (single : ¬ ['.', '.'] <:+ visitor.name.toList) :
    let later := history.runAll calls
    let found := Database.findDomainTunnel visitor.protocol (normalizeDomain visitor.name) later.db
    (∃ tunnel, later.Serves visitor.protocol visitor.name tunnel ∧
        (∀ other, later.Serves visitor.protocol visitor.name other → other = tunnel) ∧
        found = (later.db, .ok tunnel)) ∨
      ((∀ tunnel, ¬ later.Serves visitor.protocol visitor.name tunnel) ∧
        found = (later.db, .error Store.errNoRows)) := by
  intro later found
  have start : history.Canonical := ⟨intact, by rw [fresh]; exact List.forall_mem_nil _⟩
  have canonical : later.Canonical := canonical_runAll dots start calls
  have web := visitor.protocol_web
  have looks : found = Database.findDomainTunnel visitor.protocol (normalizeDomain visitor.name)
    later.db := rfl
  unfold Database.findDomainTunnel at looks
  rw [lookup_form stable dots single] at looks
  simp only at looks
  split at looks
  · rename_i none
    refine Or.inr ⟨fun tunnel serves => ?_, looks⟩
    exact List.find?_eq_none.mp none tunnel serves.1 ((canonical.hit_iff web serves.1).mpr serves)
  · rename_i tunnel hit
    obtain ⟨held, -⟩ := List.find?_eq_some_iff_append.mp hit
    have serves := (canonical.hit_iff web (List.mem_of_find?_eq_some hit)).mp held
    exact Or.inl ⟨tunnel, serves, fun other also => canonical.serves_unique web serves also, looks⟩

end Gateway

/-- The letters of ASCII have no dot among them. -/
theorem lower_dots_ascii :
    let _ := CaseTable.ascii
    ∀ c, lower c = '.' → c = '.' := by
  intro _ c
  have checked : ∀ n < 128, (Char.ofNat n).toLower = '.' → Char.ofNat n = '.' := by decide +kernel
  unfold lower
  by_cases small : c.toNat < 128
  · rw [if_pos small]
    have same := checked c.toNat small
    rwa [Char.ofNat_toNat] at same
  · rw [if_neg small]
    exact id

/-- A tunnel is created with capital letters, spaces and a dot, and a visitor asks for a port. -/
theorem findDomainTunnel_exact_port :
    let _ := CaseTable.ascii
    let db : Database :=
      ⟨[⟨⟨"t", "home", "abcdefgh", false, none, 1⟩, "hash"⟩],
        [⟨"c", "laptop", "device", "t", .online, false, "192.0.2.1", "linux", "1.0", 2, 2⟩], [], [], []⟩
    let tunnel : Tunnel :=
      ⟨"", "c", "site", "http", "", "127.0.0.1", 8080, 0, " Web.Example.com. ", .stopped, [], 0, 0⟩
    let later := History.runAll [.create tunnel "u" "v" 3, .setStatus "u" .running 4] ⟨db, fun _ => ""⟩
    ∃ tunnel, tunnel.id = "u" ∧ tunnel.domain = "web.example.com" ∧
      later.Serves "http" "WEB.example.com." tunnel ∧
      Database.findDomainTunnel "http" (normalizeDomain (hostName "WEB.example.com.:443")) later.db =
        (later.db, .ok tunnel) := by
  intro _ db tunnel later
  have name : (Visitor.http "WEB.example.com.:443").name = "WEB.example.com." := by decide +kernel
  have running : later.db.tunnels.map (fun row => (row.id, row.domain, row.status)) =
      [("u", "web.example.com", .running)] := by
    decide +kernel
  have looks : (Database.findDomainTunnel "http" (normalizeDomain "WEB.example.com.") later.db).2.isOk =
      true := by
    decide +kernel
  have visited := findDomainTunnel_exact lower_lower_ascii lower_dots_ascii ⟨db, fun _ => ""⟩
    (Database.violation_eq_none.mp (by decide +kernel)) rfl
    [.create tunnel "u" "v" 3, .setStatus "u" .running 4] (.http "WEB.example.com.:443")
    (by rw [name]; decide +kernel)
  have named : History.runAll [.create tunnel "u" "v" 3, .setStatus "u" .running 4] ⟨db, fun _ => ""⟩ =
      later := rfl
  rw [named] at visited
  clear named
  clear_value later
  rcases visited with ⟨found, serves, -, hit⟩ | ⟨-, missed⟩
  · have member : (found.id, found.domain, found.status) ∈ [("u", "web.example.com", .running)] := by
      rw [← running]
      exact List.mem_map.mpr ⟨found, serves.1, rfl⟩
    have row := List.mem_singleton.mp member
    rw [name] at serves
    exact ⟨found, congrArg Prod.fst row, congrArg (fun row => row.2.1) row, serves, hit⟩
  · rw [name] at missed
    rw [show (Visitor.http "WEB.example.com.:443").protocol = "http" from rfl] at missed
    rw [missed] at looks
    cases looks

end Gateway

end NryNet

import NryNet.Gateway.ServerName
import NryNet.Lib.GoText
import NryNet.Lib.Tee

/-!
# What a visitor wants (`server/gateway/sniff.go`)

Before the gateway can route a visitor it reads the beginning of the stream: the first record of a TLS
connection, or the head of an HTTP request.  The agent is to see the stream from its first byte, so what
was read is put back in front.  A TLS record is peeked at in the buffer of one reader and then discarded.
An HTTP request is parsed through a second buffered reader, and a tee in between keeps what the second
one takes from the first.

`http.ReadRequest` and `Body.Close` are parameters.  `OnlyReads` says that they touch the stream by
calling `Read` on what is below the second reader, however often and with whatever sizes; what they make
of it, and how much of it they leave in the second reader, is theirs.

When `sniffConnection` fails, the gateway closes the connection, so what it returns beside an error is
left out.
-/

namespace NryNet.Gateway

open ByteStream Bufio GoText Sliced

/-- `maxHTTPHeader`. -/
def maxHTTPHeader : ℕ := 64 * 1024

/-- The reader on the connection. -/
abbrev Sniffer (ρ : Type) [Reader ρ] := BufReader ρ maxHTTPHeader

/-- The reader that the request is parsed from, `bufio.NewReader(io.TeeReader(reader, &captured))`. -/
abbrev HTTPReader (ρ : Type) [Reader ρ] := BufReader (TeeReader (Sniffer ρ)) 4096

/-- What is used of an `http.Request`: `Host`, and `Body.Close`. -/
structure Request (ρ : Type) [Reader ρ] where
  host : String
  closeBody : HTTPReader ρ → HTTPReader ρ

/-- What sniffing depends on: `http.ReadRequest`, and how a string of bytes reads as a text. -/
structure Surroundings (ρ : Type) [Reader ρ] where
  readRequest : HTTPReader ρ → Except String (Request ρ) × HTTPReader ρ
  text : Bytes → String

section Sniffing

variable {ρ : Type} [Reader ρ]

/-- `http.ReadRequest` and `Body.Close` touch the stream by reading only. -/
def Surroundings.OnlyReads (surroundings : Surroundings ρ) : Prop :=
  ∀ tee, ReadTo tee.source (surroundings.readRequest tee).2.source ∧
    ∀ request, (surroundings.readRequest tee).1 = .ok request →
      ∀ tee', ReadTo tee'.source (request.closeBody tee').source

/-- `normalizeDomain`. -/
def normalizeDomain [CaseTable] (value : String) : String :=
  toLower (trimSuffix value '.')

/-- `reader.Peek`, with its error. -/
def peeked (reader : Sniffer ρ) (count : ℕ) : Sliced String (Bytes × Sniffer ρ) :=
  let out := reader.peek count
  match out.failure with
  | some failure => fail failure.text
  | none => pure (out.bytes, out.next)

/-- `sniffHTTP`: the bytes that were captured, the domain, and the reader as it is then. -/
def sniffHTTP [CaseTable] (surroundings : Surroundings ρ) (reader : Sniffer ρ) :
    Sliced String (Bytes × String × Sniffer ρ) :=
  match surroundings.readRequest (BufReader.newReader ⟨reader, []⟩) with
  | (.error reason, _) => fail s!"read HTTP request: {reason}"
  | (.ok request, tee) =>
      let tee := request.closeBody tee
      let host := match splitHostPort request.host with
        | .ok (parsed, _) => parsed
        | .error _ => request.host
      if host = "" then fail "HTTP Host header is required"
      else pure (tee.source.captured, normalizeDomain host, tee.source.reader)

/-- `sniffTLS`: the record, the domain, and the reader behind the record. -/
def sniffTLS [CaseTable] (surroundings : Surroundings ρ) (reader : Sniffer ρ) :
    Sliced String (Bytes × String × Sniffer ρ) := do
  let (header, reader) ← peeked reader 5
  let recordLength ← uint 2 (← slice header 3 5)
  if recordLength < 5 ∨ maxHTTPHeader < recordLength then fail "invalid TLS ClientHello length"
  else do
    let (record, reader) ← peeked reader (5 + recordLength)
    -- the record is in the buffer, so `Discard` takes it out without reading
    let reader := reader.advance record.length
    let domain ← parseServerName (← slice record 5 record.length)
    pure (record, normalizeDomain (surroundings.text domain), reader)

/-- `sniffConnection`: the connection for the agent, the protocol and the domain. -/
def sniffConnection [CaseTable] (surroundings : Surroundings ρ) (conn : ρ) :
    Sliced String (Prefixed (Sniffer ρ) × String × String) := do
  let (first, reader) ← peeked (BufReader.newReader conn) 1
  if (← index first 0) = 0x16 then do
    let (piece, domain, reader) ← sniffTLS surroundings reader
    pure (Prefixed.new piece reader, "https", domain)
  else do
    let (piece, domain, reader) ← sniffHTTP surroundings reader
    pure (Prefixed.new piece reader, "http", domain)

/-! ## Nothing is lost -/

/-- What has been peeked is as long as it should be and still in the buffer. -/
theorem returns_peeked (reader : Sniffer ρ) (count : ℕ) :
    Returns (peeked reader count) fun (bytes, next) => bytes.length = count ∧
      bytes = next.buffered.take count ∧ Reader.remaining next = Reader.remaining reader := by
  unfold peeked
  cases failed : (reader.peek count).failure with
  | some failure =>
      simp only [failed]
      exact returns_fail _
  | none =>
      simp only [failed]
      exact returns_pure (BufReader.peek_ok failed)

variable [CaseTable] {surroundings : Surroundings ρ}

theorem returns_sniffHTTP (only : surroundings.OnlyReads) (reader : Sniffer ρ) :
    Returns (sniffHTTP surroundings reader) fun (piece, _, next) =>
      piece ++ Reader.remaining next = Reader.remaining reader := by
  obtain ⟨reads, closes⟩ := only (BufReader.newReader ⟨reader, []⟩)
  unfold sniffHTTP
  split
  · exact returns_fail _
  · rename_i request tee read_eq
    rw [read_eq] at reads closes
    -- the tee has seen all that either of them has read
    have whole := TeeReader.whole_of_readTo (reads.trans (closes request rfl tee))
    exact returns_ite (fun _ => returns_fail _) fun _ => returns_pure whole

theorem returns_sniffTLS (surroundings : Surroundings ρ) (reader : Sniffer ρ) :
    Returns (sniffTLS surroundings reader) fun (piece, _, next) =>
      piece ++ Reader.remaining next = Reader.remaining reader := by
  refine (returns_peeked reader 5).bind ?_
  rintro ⟨header, reader'⟩ ⟨five, -, kept⟩
  refine (returns_slice (by omega) (by omega)).bind fun digits two => ?_
  refine (returns_uint (by omega)).bind fun recordLength _ => ?_
  refine returns_ite (fun _ => returns_fail _) fun proper => ?_
  refine (returns_peeked reader' (5 + recordLength)).bind ?_
  rintro ⟨record, reader''⟩ ⟨length, buffered, kept'⟩
  refine (returns_slice (by omega) (by omega)).bind fun handshake _ => ?_
  refine (returns_parseServerName handshake).bind fun domain _ => ?_
  refine returns_pure ?_
  -- what is taken out of the buffer is the record
  have taken := BufReader.remaining_advance reader'' record.length
  have whole : reader''.buffered.take record.length = record := by
    rw [length]
    exact buffered.symm
  rw [whole] at taken
  exact taken.symm.trans (kept'.trans kept)

/-- **The stream is preserved.**  Whatever the visitor sends and however the connection cuts it, whatever
`http.ReadRequest` and `Body.Close` read of it: if a visitor is accepted, then what can be read from the
new connection is what could be read from the old one.  Calls of `Read` with any buffers return the
beginning of the stream, and enough of them return all of it. -/
theorem sniffing_preserves_stream (only : surroundings.OnlyReads) (conn : ρ) :
    Returns (sniffConnection surroundings conn) fun (visitor, _, _) =>
      Reader.remaining visitor = Reader.remaining conn ∧
      ∀ sizes, (readMany sizes visitor).1 <+: Reader.remaining conn ∧
        ((∀ size ∈ sizes, 0 < size) → Reader.budget visitor < sizes.length →
          (readMany sizes visitor).1 = Reader.remaining conn) := by
  have reading {visitor : Prefixed (Sniffer ρ)}
      (same : Reader.remaining visitor = Reader.remaining conn) :
      Reader.remaining visitor = Reader.remaining conn ∧
      ∀ sizes, (readMany sizes visitor).1 <+: Reader.remaining conn ∧
        ((∀ size ∈ sizes, 0 < size) → Reader.budget visitor < sizes.length →
          (readMany sizes visitor).1 = Reader.remaining conn) := by
    refine ⟨same, fun sizes =>
      ⟨⟨Reader.remaining (readMany sizes visitor).2, ?_⟩, fun positive enough => ?_⟩⟩
    · rw [← same]
      exact (remaining_readMany sizes visitor).symm
    · rw [← same]
      exact readMany_all positive enough
  refine (returns_peeked (BufReader.newReader conn) 1).bind ?_
  rintro ⟨first, reader⟩ ⟨one, -, kept⟩
  refine (returns_index (by omega)).bind fun byte _ => ?_
  refine returns_ite (fun _ => ?_) fun _ => ?_
  · refine (returns_sniffTLS surroundings reader).bind ?_
    rintro ⟨piece, domain, next⟩ whole
    exact returns_pure (reading ((Prefixed.remaining_new piece next).trans (whole.trans kept)))
  · refine (returns_sniffHTTP only reader).bind ?_
    rintro ⟨piece, domain, next⟩ whole
    exact returns_pure (reading ((Prefixed.remaining_new piece next).trans (whole.trans kept)))

end Sniffing

/-! ## A request -/

section Sample

variable {ρ : Type} [Reader ρ]

/-- The lines of a head, up to the empty one, for some lines at most. -/
def readHead : ℕ → HTTPReader ρ → Except String (List Bytes) × HTTPReader ρ
  | 0, tee => (.error "head too long", tee)
  | lines + 1, tee =>
      let out := tee.readSlice 10
      match out.failure with
      | some failure => (.error failure.text, out.next)
      | none =>
          if out.bytes = [13, 10] then (.ok [], out.next)
          else
            match readHead lines out.next with
            | (.ok more, tee) => (.ok (out.bytes :: more), tee)
            | (.error reason, tee) => (.error reason, tee)

/-- `http.ReadRequest`, as far as it matters for requests with few lines, a Host header and no body. -/
def sampleHTTP : Surroundings ρ where
  readRequest tee :=
    match readHead 8 tee with
    | (.error reason, tee) => (.error reason, tee)
    | (.ok lines, tee) =>
        let name := utf8 "Host: "
        match lines.find? name.isPrefixOf with
        | none => (.ok ⟨"", id⟩, tee)
        | some line =>
            let value := (line.drop name.length).take (line.length - name.length - 2)
            (.ok ⟨String.ofList (value.map fun byte => Char.ofNat byte.toNat), id⟩, tee)
  text bytes := String.ofList (bytes.map fun byte => Char.ofNat byte.toNat)

theorem readTo_readHead (lines : ℕ) (tee : HTTPReader ρ) :
    ReadTo tee.source (readHead lines tee).2.source := by
  induction lines generalizing tee with
  | zero => exact .refl _
  | succ lines ih =>
      have line := BufReader.readTo_readSlice 10 tee
      have rest := ih (tee.readSlice 10).next
      simp only [readHead]
      split
      · exact line
      · split
        · exact line
        · split <;> rename_i read_eq <;> rw [read_eq] at rest <;> exact line.trans rest

theorem sampleHTTP_onlyReads : (sampleHTTP : Surroundings ρ).OnlyReads := by
  intro tee
  have head := readTo_readHead 8 tee
  simp only [sampleHTTP]
  split <;> rename_i read_eq <;> rw [read_eq] at head
  · exact ⟨head, fun request impossible => (nomatch impossible)⟩
  · split
    all_goals
      refine ⟨head, fun request same tee' => ?_⟩
      cases same
      exact .refl _

end Sample

/-- A request in two pieces; the second one brings bytes beyond the head. -/
def sampleRequest : Chunks where
  chunks := [utf8 "GET /socket HTTP/1.1\r\nHo", utf8 "st: Example.COM:8080\r\n\r\nearly"]
  failure := .eof
  eager := false

theorem sniffing_preserves_stream_socket :
    let _ := CaseTable.ascii
    ∃ visitor, sniffConnection sampleHTTP sampleRequest = some (.ok (visitor, "http", "example.com")) ∧
      Reader.remaining visitor = utf8 "GET /socket HTTP/1.1\r\nHost: Example.COM:8080\r\n\r\nearly" := by
  intro _
  obtain ⟨result, sniffed, met⟩ := sniffing_preserves_stream sampleHTTP_onlyReads sampleRequest
  have named : ((sniffConnection sampleHTTP sampleRequest).any fun result =>
      result.toOption.any fun sniffed => sniffed.2.1 == "http" && sniffed.2.2 == "example.com") =
      true := by
    decide +kernel
  rw [sniffed] at named
  cases result with
  | error reason => cases named
  | ok result =>
      obtain ⟨visitor, protocol, domain⟩ := result
      simp only [Option.any_some, Except.toOption, Bool.and_eq_true, beq_iff_eq] at named
      obtain ⟨rfl, rfl⟩ := named
      refine ⟨visitor, sniffed, (met _ rfl).1.trans ?_⟩
      decide +kernel

end NryNet.Gateway

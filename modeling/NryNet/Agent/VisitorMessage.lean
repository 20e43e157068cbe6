import NryNet.Lib.ByteStream
import NryNet.Lib.GoMap
import NryNet.Lib.GoText

/-!
# The messages of visitors (`internal/protocol/messages.go`, `client/agent/visitor_http.go`)

The browser of a visitor speaks to an agent on a WebRTC data channel.  Its frames are JSON texts of
`VisitorWebRTCDataMessage`; what they ask for becomes an HTTP request to a local service.

What a JSON text stands for, the parser of request URIs and what `http.NewRequestWithContext` refuses are
parameters.  A Go map is visited in an unspecified order, and two names of a header may be the same one
in canonical form, so the order in which their values are sent is a parameter as well.
-/

namespace NryNet.Agent

open ByteStream GoText

/-- `http.Header`, and the headers of a message. -/
abbrev Header := GoMap String (List String)

/-- `VisitorWebRTCDataMessage`. -/
structure VisitorWebRTCDataMessage where
  kind : String
  id : String
  method : String := ""
  path : String := ""
  headers : Header := ∅
  body : String := ""
  status : ℤ := 0
  error : String := ""
  deriving DecidableEq

/-- `json.Unmarshal` of a message. -/
class MessageJSON where
  unmarshal : Bytes → Option VisitorWebRTCDataMessage

/-- The table for some texts, with what they stand for. -/
@[reducible] def MessageJSON.listed (texts : List (String × VisitorWebRTCDataMessage)) : MessageJSON where
  unmarshal data := (texts.find? fun entry => utf8 entry.1 = data).map Prod.snd

/-- `visitorMaxMessageBytes`. -/
def visitorMaxMessageBytes : ℕ := 60 * 1024

/-- `visitorMaxBodyBytes`. -/
def visitorMaxBodyBytes : ℕ := 40 * 1024

/-- `visitorStreamChunkBytes`. -/
def visitorStreamChunkBytes : ℕ := 24 * 1024

/-- `visitorMaxRequestBytes`. -/
def visitorMaxRequestBytes : ℕ := 16 * 1024 * 1024

/-- `visitorMaxResponseBytes`. -/
def visitorMaxResponseBytes : ℕ := 16 * 1024 * 1024

/-- `visitorMaxVisitorStreams`. -/
def visitorMaxVisitorStreams : ℕ := 4096

/-- `visitorMaxTotalStreams`. -/
def visitorMaxTotalStreams : ℕ := 16384

/-! ## Headers -/

namespace Header

/-- The characters of the name of a header. -/
def isTokenChar (c : Char) : Bool :=
  c.isAlphanum || "!#$%&'*+-.^_`|~".toList.contains c

/-- Capital letters at the beginning and after a hyphen, and small letters elsewhere. -/
def capitalize : Bool → List Char → List Char
  | _, [] => []
  | upper, c :: rest => (if upper then c.toUpper else c.toLower) :: capitalize (c = '-') rest

/-- `textproto.CanonicalMIMEHeaderKey`. -/
def canonicalKey (name : String) : String :=
  if name.toList.all isTokenChar then String.ofList (capitalize true name.toList) else name

/-- `header[key]`, which is empty for a missing key. -/
def values (header : Header) (key : String) : List String :=
  (header.lookup key).getD []

/-- `header.Add`. -/
def add (header : Header) (name value : String) : Header :=
  header.insert (canonicalKey name) (header.values (canonicalKey name) ++ [value])

/-- The values of one entry, added one after the other. -/
def addEntry (header : Header) (entry : Σ _ : String, List String) : Header :=
  entry.2.foldl (fun header value => header.add entry.1 value) header

/-- The loop that adds the values of all entries but those whose names are left out. -/
def addAll (order : GoMap.RangeOrder String (List String)) (omitted : String → Bool)
    (destination source : Header) : Header :=
  ((order.visit source).filter fun entry => !omitted entry.1).foldl addEntry destination

theorem values_add (header : Header) (name value key : String) :
    (header.add name value).values key =
      header.values key ++ if canonicalKey name = key then [value] else [] := by
  unfold add
  rw [values, GoMap.lookup_insert_if]
  by_cases same : canonicalKey name = key
  · rw [if_pos same.symm, if_pos same, same]
    rfl
  · rw [if_neg (Ne.symm same), if_neg same, List.append_nil]
    rfl

theorem values_addEntry (header : Header) (entry : Σ _ : String, List String) (key : String) :
    (header.addEntry entry).values key =
      header.values key ++ if canonicalKey entry.1 = key then entry.2 else [] := by
  unfold addEntry
  induction entry.2 generalizing header with
  | nil => rw [ite_self, List.append_nil]; rfl
  | cons value rest ih =>
      rw [List.foldl_cons, ih, values_add, List.append_assoc]
      split <;> rfl

/-- What comes to stand under a canonical name: the values of all the names that have this form. -/
theorem values_addAll (order : GoMap.RangeOrder String (List String)) (omitted : String → Bool)
    (destination source : Header) (key : String) :
    (addAll order omitted destination source).values key = destination.values key ++
      ((order.visit source).filter fun entry =>
        !omitted entry.1 && canonicalKey entry.1 = key).flatMap fun entry => entry.2 := by
  unfold addAll
  induction order.visit source generalizing destination with
  | nil => rw [List.filter_nil, List.filter_nil, List.flatMap_nil, List.append_nil]; rfl
  | cons entry rest ih =>
      by_cases left : omitted entry.1 = true
      · rw [List.filter_cons_of_neg (by simp [left]), List.filter_cons_of_neg (by simp [left]), ih]
      · rw [List.filter_cons_of_pos (by simp [left]), List.foldl_cons, ih, values_addEntry]
        by_cases same : canonicalKey entry.1 = key
        · rw [if_pos same, List.filter_cons_of_pos (by simp [left, same]), List.flatMap_cons,
            List.append_assoc]
        · rw [if_neg same, List.filter_cons_of_neg (by simp [same]), List.append_nil]

end Header

/-- `isVisitorHopByHopHeader`. -/
def isVisitorHopByHopHeader [CaseTable] (name : String) : Bool :=
  ["connection", "keep-alive", "proxy-authenticate", "proxy-authorization", "te", "trailer",
    "transfer-encoding", "upgrade"].contains (toLower name)

/-- The headers that `copyVisitorStreamHeaders` leaves out. -/
def omittedFromRequest [CaseTable] (name : String) : Bool :=
  isVisitorHopByHopHeader name || equalFold name "host" || equalFold name "content-length" ||
    equalFold name "accept-encoding"

/-- `copyVisitorStreamHeaders`. -/
def copyVisitorStreamHeaders [CaseTable] (order : GoMap.RangeOrder String (List String))
    (destination source : Header) : Header :=
  Header.addAll order omittedFromRequest destination source

/-- `copyVisitorHeaders`. -/
def copyVisitorHeaders (order : GoMap.RangeOrder String (List String))
    (destination source : Header) : Header :=
  Header.addAll order (fun _ => false) destination source

/-- `visitorResponseHeaders`. -/
def visitorResponseHeaders [CaseTable] (source : Header) : Header :=
  source.deleteWhere fun name _ => isVisitorHopByHopHeader name ||
    equalFold name "content-length" || equalFold name "content-encoding"

/-! ## Requests -/

/-- `url.ParseRequestURI`, as the scheme and the host of the URL, and the error of
`http.NewRequestWithContext` for a method and a URL, if there is one. -/
class HTTPTable where
  parseRequestURI : String → Option (String × String)
  refused : String → String → Option String

/-- The table for plain paths: they name neither a scheme nor a host, and nothing is refused. -/
@[reducible] def HTTPTable.plain : HTTPTable where
  parseRequestURI _ := some ("", "")
  refused _ _ := none

/-- An `http.Request`. -/
structure HTTPRequest where
  method : String
  url : String
  header : Header
  body : Bytes
  deriving DecidableEq

variable [HTTPTable]

/-- The path that is asked for: white space around it does not count, and the root is the default. -/
def requestPath (path : String) : String :=
  if trimSpace path = "" then "/" else trimSpace path

/-- `visitorTargetURL`. -/
def visitorTargetURL (host : String) (port : ℤ) (path : String) : Except String String :=
  if host = "" ∨ port < 1 ∨ 65535 < port then .error "invalid local service address"
  else if startsWith (requestPath path) "/" = false ∨ startsWith (requestPath path) "//" = true then
    .error "path must be an absolute local path"
  else
    match HTTPTable.parseRequestURI (requestPath path) with
    | some ("", "") => .ok ("http://" ++ joinHostPort host port.toNat ++ requestPath path)
    | _ => .error "invalid request path"

/-- `http.NewRequestWithContext`. -/
def newRequest (method url : String) (body : Bytes) : Except String HTTPRequest :=
  let method := if method = "" then "GET" else method
  match HTTPTable.refused method url with
  | some err => .error ("invalid HTTP request: " ++ err)
  | none => .ok ⟨method, url, ∅, body⟩

/-- The URL is the address of the service with the path. -/
theorem url_of_visitorTargetURL {host path url : String} {port : ℤ}
    (accepted : visitorTargetURL host port path = .ok url) :
    url = "http://" ++ joinHostPort host port.toNat ++ requestPath path := by
  unfold visitorTargetURL at accepted
  split at accepted
  · cases accepted
  · split at accepted
    · cases accepted
    · split at accepted
      · exact (Except.ok.inj accepted).symm
      · cases accepted

theorem newRequest_eq_ok {method url : String} {body : Bytes} {request : HTTPRequest}
    (made : newRequest method url body = .ok request) :
    request = ⟨if method = "" then "GET" else method, url, ∅, body⟩ := by
  simp only [newRequest] at made
  split at made
  · cases made
  · exact (Except.ok.inj made).symm

end NryNet.Agent

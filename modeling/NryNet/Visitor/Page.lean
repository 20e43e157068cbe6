import NryNet.Agent.VisitorStream
import NryNet.Lib.ThreadPool

/-!
# The page of a visitor (`server/visitor/page.go`)

The page holds the data channel to the agent.  Its service worker hands it every fetch with a message
port for the answer; `forwardFetch` gives the fetch an ID and cuts it into frames, and `handleFrame` passes
the frames of the agent on to the port of their ID.

JavaScript runs one task at a time, and a task is suspended where it awaits.  `sendFrame` puts a frame
behind the earlier ones, so a task waits until its frame has come to the front of the queue and was sent
or has failed; tasks of other fetches run in between.  Why a frame fails is up to the environment: the
channel is not open, or its buffer stays full.

A message that `JSON.parse` does not read, or that has no ID, is for no port, and is left out.  The page
remembers for the specification which fetches it admitted (their position is the number of their port),
what it has answered and what has arrived.
-/

namespace NryNet.Visitor

open ThreadPool ByteStream Agent

/-- `visitor_fetch`. -/
structure Fetch where
  method : String
  path : String
  headers : Header
  body : Bytes
  deriving DecidableEq

/-- `limits.maxPendingRequests`. -/
def maxPendingRequests : ℕ := 256

/-- `limits.maxRequestBytes`. -/
def maxRequestBytes : ℕ := 16 * 1024 * 1024

/-- The step of the loop over the body. -/
def chunkBytes : ℕ := 24576

/-- The page, from the call of `createDataChannel`. -/
structure Page where
  /-- `channel.readyState === 'open'` -/
  opened : Bool := true
  sequence : ℕ := 0
  /-- `state.pending`, as the number of the port -/
  pending : GoMap String ℕ := ∅
  sendQueue : List VisitorWebRTCDataMessage := []
  /-- what was given to `channel.send` -/
  sent : List VisitorWebRTCDataMessage := []
  fetches : List Fetch := []
  posted : List (ℕ × VisitorWebRTCDataMessage) := []
  refused : List (Fetch × VisitorWebRTCDataMessage) := []
  /-- the frames of the agent, with the number of fetches that were admitted before -/
  received : List (ℕ × VisitorWebRTCDataMessage) := []

/-- The pieces of a body, of `chunkBytes` each and what is left. -/
def pieces (body : Bytes) : List Bytes :=
  (List.range ((body.length + chunkBytes - 1) / chunkBytes)).map fun i =>
    (body.drop (i * chunkBytes)).take chunkBytes

namespace Fetch

/-- `request_start`. -/
def startFrame (fetch : Fetch) (id : String) : VisitorWebRTCDataMessage where
  kind := "request_start"
  id := id
  method := fetch.method
  path := fetch.path
  headers := fetch.headers

/-- `request_chunk`. -/
def chunkFrame (id : String) (piece : Bytes) : VisitorWebRTCDataMessage where
  kind := "request_chunk"
  id := id
  body := Base64.encodeToString piece

/-- `request_end`. -/
def endFrame (id : String) : VisitorWebRTCDataMessage where
  kind := "request_end"
  id := id

/-- What `forwardFetch` sends, one frame after the other. -/
def frames (fetch : Fetch) (id : String) : List VisitorWebRTCDataMessage :=
  fetch.startFrame id :: ((pieces fetch.body).map (chunkFrame id) ++ [endFrame id])

/-- The request as the agent is to see it. -/
def request (fetch : Fetch) : VisitorStreamRequest :=
  ⟨fetch.method, fetch.path, fetch.headers, fetch.body⟩

end Fetch

/-- `String(++state.sequence)` of the fetch with a number. -/
def fetchID (n : ℕ) : String := toString (n + 1)

/-- The `response_end` that the page makes itself. -/
def errorEnd (id error : String) : VisitorWebRTCDataMessage where
  kind := "response_end"
  id := id
  error := error

/-- The tasks of the page. -/
inductive Task where
  | forwardFetch (fetch : Fetch)
  /-- `forwardFetch` before its next call of `sendFrame` -/
  | sendFrame (n : ℕ) (frames : List VisitorWebRTCDataMessage)
  /-- `forwardFetch` while its frame is in the queue -/
  | awaiting (n : ℕ) (frame : VisitorWebRTCDataMessage) (frames : List VisitorWebRTCDataMessage)
  /-- the branch `catch` of `forwardFetch` -/
  | caught (n : ℕ) (error : String)
  | handleFrame (message : VisitorWebRTCDataMessage)
  | onclose
  | onerror
  | finished

/-- What the environment decides: whether the frame at the front of the queue is sent. -/
inductive Choice where
  | go
  | fail (error : String)

namespace Page

/-- `port.postMessage`. -/
def post (page : Page) (port : ℕ) (message : VisitorWebRTCDataMessage) : Page :=
  { page with posted := page.posted ++ [(port, message)] }

/-- `forwardFetch` up to its first call of `sendFrame`. -/
def forwardFetch (page : Page) (fetch : Fetch) : Page × Task :=
  if maxPendingRequests ≤ page.pending.size then
    ({ page with refused := page.refused ++ [(fetch, errorEnd "" "too many visitor requests")] }, .finished)
  else if maxRequestBytes < fetch.body.length then
    ({ page with
        refused := page.refused ++ [(fetch, errorEnd "" "visitor request body is too large")] }, .finished)
  else
    let id := fetchID page.sequence
    ({ page with
        sequence := page.sequence + 1
        pending := page.pending.insert id page.fetches.length
        fetches := page.fetches ++ [fetch] },
      .sendFrame page.fetches.length (fetch.frames id))

/-- The frame is remembered. -/
def receive (page : Page) (message : VisitorWebRTCDataMessage) : Page :=
  { page with received := page.received ++ [(page.fetches.length, message)] }

/-- `handleFrame`. -/
def handleFrame (page : Page) (message : VisitorWebRTCDataMessage) : Page :=
  match page.pending.lookup message.id with
  | none => page.receive message
  | some port =>
      if message.kind = "response_end" then
        { (page.receive message).post port message with pending := page.pending.erase message.id }
      else (page.receive message).post port message

/-- `failPending`. -/
def failPending (page : Page) (error : String) : Page :=
  { page with
    posted := page.posted ++ page.pending.entries.map fun entry => (entry.2, errorEnd entry.1 error)
    pending := ∅ }

/-- `error.message || String(error)`. -/
def errorText (error : String) : String := if error = "" then "Error" else error

/-- The branch `catch` of `forwardFetch`. -/
def fail (page : Page) (n : ℕ) (error : String) : Page :=
  { page with pending := page.pending.erase (fetchID n) }.post n
    (errorEnd (fetchID n) (errorText error))

/-- One step of a task. -/
def step (page : Page) : Task → Choice → Option (Page × Task × List Task)
  | .forwardFetch fetch, .go =>
      some ((page.forwardFetch fetch).1, (page.forwardFetch fetch).2, [])
  | .sendFrame n (frame :: frames), .go =>
      some ({ page with sendQueue := page.sendQueue ++ [frame] }, .awaiting n frame frames, [])
  | .sendFrame _ [], .go => some (page, .finished, [])
  | .awaiting n frame frames, .go =>
      if page.opened ∧ page.sendQueue.head? = some frame then
        some ({ page with sendQueue := page.sendQueue.tail, sent := page.sent ++ [frame] },
          .sendFrame n frames, [])
      else none
  | .awaiting n frame _, .fail error =>
      if page.sendQueue.head? = some frame then
        some ({ page with sendQueue := page.sendQueue.tail }, .caught n error, [])
      else none
  | .caught n error, .go => some (page.fail n error, .finished, [])
  | .handleFrame message, .go => some (page.handleFrame message, .finished, [])
  | .onclose, .go =>
      some ({ page.failPending "P2P connection closed" with opened := false }, .finished, [])
  | .onerror, .go => some (page.failPending "P2P data channel error", .finished, [])
  | _, _ => none

end Page

/-- The page with all of its tasks. -/
def pageMachine : Machine Page Task Choice where
  entry
    | .forwardFetch _ => true
    | .handleFrame _ => true
    | .onclose => true
    | .onerror => true
    | _ => false
  step := Page.step

/-- A page whose channel has been opened. -/
def newPage : Config Page Task := ⟨{}, []⟩

/-! ## IDs and pieces -/

theorem fetchID_injective {m n : ℕ} (same : fetchID m = fetchID n) : m = n := by
  unfold fetchID at same
  rw [Nat.toString_eq_ofList_toDigits, Nat.toString_eq_ofList_toDigits, String.ofList_inj] at same
  have read (k : ℕ) := @Nat.ofDigitChars_toDigits 10 (k + 1) (by omega) (by omega)
  have value := read m
  rw [same, read n] at value
  omega

theorem fetchID_eq_iff {m n : ℕ} : fetchID m = fetchID n ↔ m = n :=
  ⟨fetchID_injective, congrArg fetchID⟩

/-- Windows of one size, one behind the other. -/
theorem flatten_windows {α : Type*} (items : List α) (size rounds : ℕ) :
    ((List.range rounds).map fun i => (items.drop (i * size)).take size).flatten =
      items.take (rounds * size) := by
  induction rounds with
  | zero => simp
  | succ rounds ih =>
      rw [List.range_succ, List.map_append, List.flatten_append, ih, Nat.succ_mul, List.take_add]
      simp

/-- The pieces are the body. -/
theorem flatten_pieces (body : Bytes) : (pieces body).flatten = body := by
  unfold pieces
  rw [flatten_windows, List.take_of_length_le]
  unfold chunkBytes
  omega

theorem id_of_mem_frames {fetch : Fetch} {id : String} {frame : VisitorWebRTCDataMessage}
    (member : frame ∈ fetch.frames id) : frame.id = id := by
  unfold Fetch.frames at member
  rw [List.mem_cons, List.mem_append, List.mem_map, List.mem_singleton] at member
  rcases member with rfl | ⟨piece, -, rfl⟩ | rfl <;> rfl

/-! ## Every fetch is pending or has been answered -/

/-- A frame ends the answer to a fetch. -/
def Last (message : VisitorWebRTCDataMessage) : Prop := message.kind = "response_end"

instance (message : VisitorWebRTCDataMessage) : Decidable (Last message) :=
  inferInstanceAs (Decidable (_ = _))

/-- The answer ends with a frame of the agent, or with an error that the page has made. -/
def Answered (received posted : List VisitorWebRTCDataMessage) : Prop :=
  ∃ before last after, posted = before ++ last :: after ∧ (∀ message ∈ before, ¬ Last message) ∧
    Last last ∧ (before ++ [last] <+: received ∨ before <+: received ∧ last.error ≠ "")

/-- The answer goes on. -/
def Going (received posted : List VisitorWebRTCDataMessage) : Prop :=
  posted = received ∧ ∀ message ∈ posted, ¬ Last message

theorem Answered.mono {received received' posted : List VisitorWebRTCDataMessage}
    (answered : Answered received posted) (more : received <+: received')
    (extra : List VisitorWebRTCDataMessage) : Answered received' (posted ++ extra) := by
  obtain ⟨before, last, after, rfl, going, final, origin⟩ := answered
  refine ⟨before, last, after ++ extra, by simp, going, final, ?_⟩
  exact origin.imp (·.trans more) fun own => ⟨own.1.trans more, own.2⟩

/-- The page itself ends an answer. -/
theorem Going.fails {received posted : List VisitorWebRTCDataMessage} (going : Going received posted)
    {last : VisitorWebRTCDataMessage} (final : Last last) (error : last.error ≠ "")
    (after : List VisitorWebRTCDataMessage) : Answered received (posted ++ last :: after) :=
  ⟨posted, last, after, rfl, going.2, final, .inr ⟨going.1 ▸ List.prefix_refl _, error⟩⟩

/-- The agent ends an answer. -/
theorem Going.ends {received posted : List VisitorWebRTCDataMessage} (going : Going received posted)
    {last : VisitorWebRTCDataMessage} (final : Last last) :
    Answered (received ++ [last]) (posted ++ [last]) :=
  ⟨posted, last, [], rfl, going.2, final, .inl (going.1 ▸ List.prefix_refl _)⟩

theorem Going.goes_on {received posted : List VisitorWebRTCDataMessage} (going : Going received posted)
    {message : VisitorWebRTCDataMessage} (more : ¬ Last message) :
    Going (received ++ [message]) (posted ++ [message]) := by
  refine ⟨by rw [going.1], fun other member => ?_⟩
  rcases List.mem_append.mp member with old | new
  · exact going.2 other old
  · rw [List.mem_singleton.mp new]
    exact more

namespace Page

/-- What the port of a fetch has been given. -/
def postedTo (page : Page) (n : ℕ) : List VisitorWebRTCDataMessage :=
  page.posted.filterMap fun entry => if entry.1 = n then some entry.2 else none

/-- The frames with the ID of a fetch that have arrived since it was admitted. -/
def receivedFor (page : Page) (n : ℕ) : List VisitorWebRTCDataMessage :=
  page.received.filterMap fun entry =>
    if n < entry.1 ∧ entry.2.id = fetchID n then some entry.2 else none

/-- The page accounts for every fetch it has admitted. -/
structure Accounts (page : Page) : Prop where
  sequence : page.sequence = page.fetches.length
  small : ∀ fetch ∈ page.fetches, fetch.body.length ≤ maxRequestBytes
  bound : page.pending.size ≤ maxPendingRequests
  ported : ∀ id port, page.pending.lookup id = some port →
    port < page.fetches.length ∧ id = fetchID port
  own : ∀ entry ∈ page.posted, entry.1 < page.fetches.length ∧ entry.2.id = fetchID entry.1
  arrived : ∀ entry ∈ page.received, entry.1 ≤ page.fetches.length
  going : ∀ n < page.fetches.length, page.pending.lookup (fetchID n) ≠ none →
    Going (page.receivedFor n) (page.postedTo n)
  answered : ∀ n < page.fetches.length, page.pending.lookup (fetchID n) = none →
    Answered (page.receivedFor n) (page.postedTo n)

variable {page : Page}

theorem postedTo_post (port n : ℕ) (message : VisitorWebRTCDataMessage) :
    (page.post port message).postedTo n = page.postedTo n ++ if port = n then [message] else [] := by
  unfold postedTo post
  rw [List.filterMap_append]
  by_cases same : port = n <;> simp [same]

theorem accounts_new : Accounts {} where
  sequence := rfl
  small := nofun
  bound := Nat.zero_le _
  ported := nofun
  own := nofun
  arrived := nofun
  going := nofun
  answered := nofun

/-- An admitted fetch is pending. -/
theorem Accounts.forwardFetch (accounts : page.Accounts) (fetch : Fetch) :
    (page.forwardFetch fetch).1.Accounts := by
  unfold Page.forwardFetch
  split
  · exact { accounts with }
  · rename_i room
    split
    · exact { accounts with }
    · rename_i small
      have fresh : page.pending.lookup (fetchID page.fetches.length) = none := by
        rw [Option.eq_none_iff_forall_ne_some]
        intro port present
        obtain ⟨bound, same⟩ := accounts.ported _ _ present
        exact absurd (fetchID_injective same) (Nat.ne_of_gt bound)
      have unposted : page.postedTo page.fetches.length = [] := by
        unfold postedTo
        rw [List.filterMap_eq_nil_iff]
        intro entry member
        rw [if_neg (Nat.ne_of_lt (accounts.own entry member).1)]
      have unread : page.receivedFor page.fetches.length = [] := by
        unfold receivedFor
        rw [List.filterMap_eq_nil_iff]
        intro entry member
        rw [if_neg fun both => absurd both.1 (Nat.not_lt.mpr (accounts.arrived entry member))]
      have lookup (n : ℕ) : (page.pending.insert (fetchID page.sequence) page.fetches.length).lookup
          (fetchID n) = if n = page.fetches.length then some page.fetches.length
            else page.pending.lookup (fetchID n) := by
        rw [GoMap.lookup_insert_if, accounts.sequence]
        simp only [fetchID_eq_iff]
      refine ⟨?_, ?_, ?_, ?_, ?_, ?_, ?_, ?_⟩
      · show page.sequence + 1 = (page.fetches ++ [fetch]).length
        rw [accounts.sequence, List.length_append, List.length_singleton]
      · intro other member
        rcases List.mem_append.mp member with old | new
        · exact accounts.small other old
        · rw [List.mem_singleton.mp new]
          exact Nat.not_lt.mp small
      · show GoMap.size (page.pending.insert _ _) ≤ _
        rw [accounts.sequence, GoMap.size_insert_of_absent fresh]
        exact Nat.not_le.mp room
      · intro id port present
        rw [GoMap.lookup_insert_if] at present
        show _ < (page.fetches ++ [fetch]).length ∧ _
        rw [List.length_append, List.length_singleton]
        split at present
        · rename_i same
          cases present
          exact ⟨Nat.lt_succ_self _, same.trans (by rw [accounts.sequence])⟩
        · obtain ⟨bound, same⟩ := accounts.ported id port present
          exact ⟨Nat.lt_succ_of_lt bound, same⟩
      · intro entry member
        show _ < (page.fetches ++ [fetch]).length ∧ _
        rw [List.length_append, List.length_singleton]
        exact ⟨Nat.lt_succ_of_lt (accounts.own entry member).1, (accounts.own entry member).2⟩
      · intro entry member
        show _ ≤ (page.fetches ++ [fetch]).length
        rw [List.length_append, List.length_singleton]
        exact Nat.le_succ_of_le (accounts.arrived entry member)
      · intro n bound present
        by_cases last : n = page.fetches.length
        · subst last
          show Going (page.receivedFor _) (page.postedTo _)
          rw [unposted, unread]
          exact ⟨rfl, nofun⟩
        · rw [lookup, if_neg last] at present
          rw [List.length_append, List.length_singleton] at bound
          exact accounts.going n (by omega) present
      · intro n bound missing
        rw [lookup] at missing
        split at missing
        · cases missing
        · rename_i other
          rw [List.length_append, List.length_singleton] at bound
          exact accounts.answered n (by omega) missing

/-- A frame is for the fetch with its ID. -/
theorem receivedFor_append (n : ℕ) (message : VisitorWebRTCDataMessage) :
    (page.receive message).receivedFor n =
      page.receivedFor n ++
        if n < page.fetches.length ∧ message.id = fetchID n then [message] else [] := by
  unfold receivedFor receive
  rw [List.filterMap_append]
  by_cases own : n < page.fetches.length ∧ message.id = fetchID n <;> simp [own]

theorem Accounts.handleFrame (accounts : page.Accounts) (message : VisitorWebRTCDataMessage) :
    (page.handleFrame message).Accounts := by
  have arrived : ∀ entry ∈ page.received ++ [(page.fetches.length, message)],
      entry.1 ≤ page.fetches.length := by
    intro entry member
    rcases List.mem_append.mp member with old | new
    · exact accounts.arrived entry old
    · rw [List.mem_singleton.mp new]
  have more (n : ℕ) := @receivedFor_append page n message
  unfold Page.handleFrame
  cases found : page.pending.lookup message.id with
  | none =>
      show (page.receive message).Accounts
      refine { accounts with arrived := arrived, going := ?_, answered := ?_ }
      · intro n bound present
        have other : message.id ≠ fetchID n := by
          intro same
          rw [same] at found
          exact present found
        rw [more, if_neg fun both => other both.2, List.append_nil]
        exact accounts.going n bound present
      · intro n bound missing
        have ended := (accounts.answered n bound missing).mono (more n ▸ List.prefix_append _ _) []
        rwa [List.append_nil] at ended
  | some port =>
      obtain ⟨bound, named⟩ := accounts.ported _ _ found
      have own : ∀ entry ∈ page.posted ++ [(port, message)],
          entry.1 < page.fetches.length ∧ entry.2.id = fetchID entry.1 := by
        intro entry member
        rcases List.mem_append.mp member with old | new
        · exact accounts.own entry old
        · rw [List.mem_singleton.mp new]
          exact ⟨bound, named⟩
      -- the fetches with other IDs do not notice
      have apart {n : ℕ} (other : n ≠ port) : message.id ≠ fetchID n := by
        rw [named]
        exact fun same => other (fetchID_injective same).symm
      have received {n : ℕ} (other : n ≠ port) :
          (page.receive message).receivedFor n = page.receivedFor n := by
        rw [more, if_neg fun both => apart other both.2, List.append_nil]
      have posted {n : ℕ} (other : n ≠ port) :
          (page.post port message).postedTo n = page.postedTo n := by
        rw [postedTo_post, if_neg other.symm, List.append_nil]
      have received_own :
          (page.receive message).receivedFor port = page.receivedFor port ++ [message] := by
        rw [more, if_pos ⟨bound, named⟩]
      have posted_own : (page.post port message).postedTo port = page.postedTo port ++ [message] := by
        rw [postedTo_post, if_pos rfl]
      have before : Going (page.receivedFor port) (page.postedTo port) := by
        refine accounts.going port bound ?_
        rw [← named, found]
        exact Option.some_ne_none _
      show Page.Accounts (if message.kind = "response_end" then
        { (page.receive message).post port message with pending := page.pending.erase message.id }
        else (page.receive message).post port message)
      split
      · rename_i last
        refine
          { accounts with
            bound := ?_
            ported := ?_
            own := own
            arrived := arrived
            going := ?_
            answered := ?_ }
        · exact (GoMap.size_erase_le _ _).trans accounts.bound
        · intro id port present
          rw [GoMap.lookup_erase_if] at present
          split at present
          · cases present
          · exact accounts.ported id port present
        · intro n bound present
          rw [GoMap.lookup_erase_if] at present
          split at present
          · exact absurd rfl present
          · rename_i other
            have other : n ≠ port := by
              rintro rfl
              exact other named.symm
            exact (received other).symm ▸ (posted other).symm ▸ accounts.going n bound present
        · intro n bound missing
          by_cases same : n = port
          · subst same
            exact received_own.symm ▸ posted_own.symm ▸ before.ends last
          · rw [GoMap.lookup_erase_if, if_neg (Ne.symm (apart same))] at missing
            exact (received same).symm ▸ (posted same).symm ▸ accounts.answered n bound missing
      · rename_i more
        refine { accounts with own := own, arrived := arrived, going := ?_, answered := ?_ }
        · intro n bound present
          by_cases same : n = port
          · subst same
            exact received_own.symm ▸ posted_own.symm ▸ before.goes_on more
          · exact (received same).symm ▸ (posted same).symm ▸ accounts.going n bound present
        · intro n bound missing
          have other : n ≠ port := by
            rintro rfl
            rw [← named] at missing
            exact absurd (found.symm.trans missing) (Option.some_ne_none _)
          exact (received other).symm ▸ (posted other).symm ▸ accounts.answered n bound missing

theorem Accounts.failPending (accounts : page.Accounts) {error : String} (given : error ≠ "") :
    (page.failPending error).Accounts := by
  have posted (n : ℕ) : (page.failPending error).postedTo n = page.postedTo n ++
      (page.pending.entries.filterMap fun entry =>
        if entry.2 = n then some (errorEnd entry.1 error) else none) := by
    unfold postedTo Page.failPending
    rw [List.filterMap_append, List.filterMap_map]
    rfl
  refine { accounts with bound := Nat.zero_le _, ported := nofun, own := ?_, going := ?_, answered := ?_ }
  · intro entry member
    rcases List.mem_append.mp member with old | new
    · exact accounts.own entry old
    · obtain ⟨pending, listed, rfl⟩ := List.mem_map.mp new
      exact accounts.ported _ _ (GoMap.mem_lookup_iff_mem_entries.mpr listed)
  · intro n _ present
    exact absurd rfl present
  · intro n bound _
    show Answered (page.receivedFor n) _
    rw [posted]
    by_cases missing : page.pending.lookup (fetchID n) = none
    · exact (accounts.answered n bound missing).mono (List.prefix_refl _) _
    · have going := accounts.going n bound missing
      obtain ⟨port, present⟩ := Option.ne_none_iff_exists'.mp missing
      obtain ⟨-, same⟩ := accounts.ported _ _ present
      cases fetchID_injective same
      -- at least the fetch itself is told
      have told : errorEnd (fetchID n) error ∈ page.pending.entries.filterMap fun entry =>
          if entry.2 = n then some (errorEnd entry.1 error) else none :=
        List.mem_filterMap.mpr ⟨_, GoMap.mem_lookup_iff_mem_entries.mp present, if_pos rfl⟩
      have ends : ∀ message ∈ page.pending.entries.filterMap fun entry =>
          if entry.2 = n then some (errorEnd entry.1 error) else none,
          Last message ∧ message.error ≠ "" := by
        intro message member
        obtain ⟨entry, -, made⟩ := List.mem_filterMap.mp member
        split at made
        · cases made
          exact ⟨rfl, given⟩
        · cases made
      cases listed : page.pending.entries.filterMap fun entry =>
          if entry.2 = n then some (errorEnd entry.1 error) else none with
      | nil =>
          rw [listed] at told
          cases told
      | cons first rest =>
          obtain ⟨last, message⟩ := ends first (listed ▸ List.mem_cons_self)
          exact going.fails last message rest

theorem errorText_ne_empty (error : String) : errorText error ≠ "" := by
  unfold errorText
  split
  · decide
  · assumption

theorem Accounts.fail (accounts : page.Accounts) {n : ℕ} (bound : n < page.fetches.length)
    (error : String) : (page.fail n error).Accounts := by
  have posted (k : ℕ) : (page.fail n error).postedTo k = page.postedTo k ++
      if n = k then [errorEnd (fetchID n) (errorText error)] else [] :=
    postedTo_post _ _ _
  refine { accounts with bound := ?_, ported := ?_, own := ?_, going := ?_, answered := ?_ }
  · exact (GoMap.size_erase_le _ _).trans accounts.bound
  · intro id port present
    have present := (GoMap.lookup_erase_if _ _ _).symm.trans present
    split at present
    · cases present
    · exact accounts.ported id port present
  · intro entry member
    rcases List.mem_append.mp member with old | new
    · exact accounts.own entry old
    · rw [List.mem_singleton.mp new]
      exact ⟨bound, rfl⟩
  · intro k within present
    have present := fun missing => present ((GoMap.lookup_erase_if _ _ _).trans missing)
    have other : ¬ fetchID k = fetchID n := fun same => present (if_pos same)
    show Going (page.receivedFor k) _
    rw [posted, if_neg (fun same => other (congrArg fetchID same.symm)), List.append_nil]
    exact accounts.going k within fun missing => present ((if_neg other).trans missing)
  · intro k within missing
    show Answered (page.receivedFor k) _
    rw [posted]
    by_cases before : page.pending.lookup (fetchID k) = none
    · exact (accounts.answered k within before).mono (List.prefix_refl _) _
    · have missing := (GoMap.lookup_erase_if _ _ _).symm.trans missing
      split at missing
      · rename_i same
        have final : Last (errorEnd (fetchID n) (errorText error)) := rfl
        rw [if_pos (fetchID_injective same).symm]
        exact (accounts.going k within before).fails final (errorText_ne_empty error) []
      · exact absurd missing before

/-- What was sent with the ID of a fetch. -/
def sentFor (page : Page) (n : ℕ) : List VisitorWebRTCDataMessage :=
  page.sent.filter fun frame => frame.id = fetchID n

end Page

/-! ## What one step does -/

namespace Task

/-- The fetch that a task forwards. -/
def serves : Task → Option ℕ
  | .sendFrame n _ => some n
  | .awaiting n _ _ => some n
  | .caught n _ => some n
  | _ => none

/-- The frames that it has still to send. -/
def left : Task → Option (ℕ × List VisitorWebRTCDataMessage)
  | .sendFrame n frames => some (n, frames)
  | .awaiting n frame frames => some (n, frame :: frames)
  | _ => none

/-- One for the task that forwards the fetch. -/
def weight (n : ℕ) (task : Task) : ℕ := if task.serves = some n then 1 else 0

theorem serves_of_left {task : Task} {n : ℕ} {frames : List VisitorWebRTCDataMessage}
    (left : task.left = some (n, frames)) : task.serves = some n := by
  cases task <;> cases left <;> rfl

end Task

/-- The steps, by what they do to the fetches and to what was sent. -/
inductive Turn (page : Page) : Page → Task → Task → Prop
  | kept {page' : Page} {task task' : Task} (fetches : page'.fetches = page.fetches)
      (sent : page'.sent = page.sent)
      (accounts : page.Accounts → (∀ n, task.serves = some n → n < page.fetches.length) →
        page'.Accounts)
      (serves : task'.serves = none ∨ task'.serves = task.serves)
      (left : task'.left = none ∨ task'.left = task.left) : Turn page page' task task'
  | admitted {page' : Page} {task : Task} (fetch : Fetch) (fetches : page'.fetches = page.fetches ++ [fetch])
      (sent : page'.sent = page.sent) (accounts : page.Accounts → page'.Accounts)
      (idle : task.serves = none) :
      Turn page page' task (.sendFrame page.fetches.length (fetch.frames (fetchID page.sequence)))
  | send {page' : Page} (n : ℕ) (frame : VisitorWebRTCDataMessage)
      (frames : List VisitorWebRTCDataMessage) (fetches : page'.fetches = page.fetches)
      (sent : page'.sent = page.sent ++ [frame]) (accounts : page.Accounts → page'.Accounts) :
      Turn page page' (.awaiting n frame frames) (.sendFrame n frames)

section Steps

variable {page page' : Page} {task task' : Task} {spawned : List Task} {choice : Choice}

theorem turn_of_forwardFetch (page : Page) (fetch : Fetch) :
    Turn page (page.forwardFetch fetch).1 (.forwardFetch fetch) (page.forwardFetch fetch).2 := by
  have accounts : page.Accounts → (page.forwardFetch fetch).1.Accounts :=
    fun accounts => accounts.forwardFetch fetch
  unfold Page.forwardFetch at accounts ⊢
  split
  · rename_i full
    rw [if_pos full] at accounts
    exact .kept rfl rfl (fun given _ => accounts given) (.inl rfl) (.inl rfl)
  · rename_i room
    rw [if_neg room] at accounts
    split
    · rename_i large
      rw [if_pos large] at accounts
      exact .kept rfl rfl (fun given _ => accounts given) (.inl rfl) (.inl rfl)
    · rename_i small
      rw [if_neg small] at accounts
      exact .admitted fetch rfl rfl accounts rfl

theorem kept_handleFrame (page : Page) (message : VisitorWebRTCDataMessage) :
    (page.handleFrame message).fetches = page.fetches ∧ (page.handleFrame message).sent = page.sent := by
  unfold Page.handleFrame
  split
  · exact ⟨rfl, rfl⟩
  · split <;> exact ⟨rfl, rfl⟩

theorem turn_of_step (stepped : page.step task choice = some (page', task', spawned)) :
    Turn page page' task task' ∧ spawned = [] := by
  cases task with
  | forwardFetch fetch =>
      cases choice with
      | go =>
          cases stepped
          exact ⟨turn_of_forwardFetch page fetch, rfl⟩
      | fail error => cases stepped
  | sendFrame n frames =>
      cases choice with
      | go =>
          cases frames with
          | nil =>
              cases stepped
              exact ⟨.kept rfl rfl (fun given _ => given) (.inl rfl) (.inl rfl), rfl⟩
          | cons frame rest =>
              cases stepped
              exact ⟨.kept rfl rfl (fun given _ => { given with }) (.inr rfl) (.inr rfl), rfl⟩
      | fail error => cases frames <;> cases stepped
  | awaiting n frame frames =>
      cases choice with
      | go =>
          obtain ⟨-, result⟩ := Option.ite_none_right_eq_some.mp stepped
          cases result
          exact ⟨.send n frame frames rfl rfl fun given => { given with }, rfl⟩
      | fail error =>
          obtain ⟨-, result⟩ := Option.ite_none_right_eq_some.mp stepped
          cases result
          exact ⟨.kept rfl rfl (fun given _ => { given with }) (.inr rfl) (.inl rfl), rfl⟩
  | caught n error =>
      cases choice with
      | go =>
          cases stepped
          exact ⟨.kept rfl rfl (fun given served => given.fail (served n rfl) error) (.inl rfl) (.inl rfl),
            rfl⟩
      | fail error => cases stepped
  | handleFrame message =>
      cases choice with
      | go =>
          cases stepped
          obtain ⟨fetches, sent⟩ := kept_handleFrame page message
          exact ⟨.kept fetches sent (fun given _ => given.handleFrame message) (.inl rfl) (.inl rfl), rfl⟩
      | fail error => cases stepped
  | onclose =>
      cases choice with
      | go =>
          cases stepped
          exact ⟨.kept rfl rfl (fun given _ => { given.failPending (by decide) with }) (.inl rfl) (.inl rfl),
            rfl⟩
      | fail error => cases stepped
  | onerror =>
      cases choice with
      | go =>
          cases stepped
          exact ⟨.kept rfl rfl (fun given _ => given.failPending (by decide)) (.inl rfl) (.inl rfl), rfl⟩
      | fail error => cases stepped
  | finished => cases choice <;> cases stepped

end Steps

/-! ## Runs -/

/-- What was sent for a fetch is a beginning of its frames, and its task has the others. -/
structure Framed (config : Config Page Task) : Prop where
  accounts : config.shared.Accounts
  served : ∀ task ∈ config.threads, ∀ n, task.serves = some n → n < config.shared.fetches.length
  once : ∀ n, config.total (Task.weight n) ≤ 1
  named : ∀ frame ∈ config.shared.sent, ∃ n < config.shared.fetches.length, frame.id = fetchID n
  begun : ∀ n fetch, config.shared.fetches[n]? = some fetch →
    config.shared.sentFor n <+: fetch.frames (fetchID n)
  left : ∀ task ∈ config.threads, ∀ n frames, task.left = some (n, frames) →
    ∃ fetch, config.shared.fetches[n]? = some fetch ∧
      fetch.frames (fetchID n) = config.shared.sentFor n ++ frames

section Runs

variable {config : Config Page Task}

/-- Nobody forwards a fetch that is not there yet. -/
theorem Framed.total_eq_zero (framed : Framed config) :
    config.total (Task.weight config.shared.fetches.length) = 0 := by
  unfold Config.total
  rw [List.sum_eq_zero_iff]
  intro weight listed
  obtain ⟨task, member, rfl⟩ := List.mem_map.mp listed
  exact if_neg fun serves => absurd (framed.served task member _ serves) (Nat.lt_irrefl _)

theorem sentFor_append (page : Page) (frame : VisitorWebRTCDataMessage) (n m : ℕ)
    (named : frame.id = fetchID n) : (page.sent ++ [frame]).filter (fun frame => frame.id = fetchID m) =
      page.sentFor m ++ if m = n then [frame] else [] := by
  rw [List.filter_append, List.filter_singleton, named]
  by_cases same : m = n
  · rw [same, if_pos rfl, decide_eq_true rfl]
    rfl
  · rw [if_neg same, decide_eq_false fun equal => same (fetchID_injective equal).symm]
    rfl

theorem framed_step {index : ℕ} {page' : Page} {task task' : Task} (framed : Framed config)
    (present : config.threads[index]? = some task) (turn : Turn config.shared page' task task') :
    Framed ⟨page', config.threads.set index task' ++ []⟩ := by
  have member : task ∈ config.threads := List.mem_of_getElem? present
  have traded (n : ℕ) := Machine.total_run (Task.weight n) page' task' [] present
  cases turn with
  | kept fetches sent accounts serves left =>
      have same (n : ℕ) : page'.sentFor n = config.shared.sentFor n := by
        unfold Page.sentFor
        rw [sent]
      refine ⟨accounts framed.accounts (framed.served task member), ?_, ?_, ?_, ?_, ?_⟩
      · intro other listed n own
        show n < page'.fetches.length
        rw [fetches]
        rcases Machine.mem_threads_of_step listed with rfl | none | old
        · rcases serves with idle | as_before
          · rw [idle] at own
            cases own
          · exact framed.served task member n (as_before ▸ own)
        · cases none
        · exact framed.served other old n own
      · intro n
        have lighter : task'.weight n ≤ task.weight n := by
          unfold Task.weight
          rcases serves with idle | as_before
          · rw [idle, if_neg (by simp)]
            exact Nat.zero_le _
          · rw [as_before]
        have moved := traded n
        rw [List.map_nil, List.sum_nil] at moved
        have before := framed.once n
        omega
      · intro frame listed
        show ∃ n < page'.fetches.length, _
        rw [fetches]
        exact framed.named frame (sent ▸ listed)
      · intro n fetch found
        show page'.sentFor n <+: _
        rw [same]
        exact framed.begun n fetch (fetches ▸ found)
      · intro other listed n frames rest
        show ∃ fetch, page'.fetches[n]? = some fetch ∧ _ = page'.sentFor n ++ frames
        rw [fetches, same]
        rcases Machine.mem_threads_of_step listed with rfl | none | old
        · rcases left with done | as_before
          · rw [done] at rest
            cases rest
          · exact framed.left task member n frames (as_before ▸ rest)
        · cases none
        · exact framed.left other old n frames rest
  | admitted fetch fetches sent accounts idle =>
      have same (n : ℕ) : page'.sentFor n = config.shared.sentFor n := by
        unfold Page.sentFor
        rw [sent]
      have unsent : config.shared.sentFor config.shared.fetches.length = [] := by
        unfold Page.sentFor
        rw [List.filter_eq_nil_iff]
        intro frame listed own
        obtain ⟨n, bound, named⟩ := framed.named frame listed
        rw [named] at own
        exact absurd (fetchID_injective (of_decide_eq_true own)) (Nat.ne_of_lt bound)
      have length : page'.fetches.length = config.shared.fetches.length + 1 := by
        rw [fetches, List.length_append, List.length_singleton]
      have older {n : ℕ} (bound : n < config.shared.fetches.length) :
          page'.fetches[n]? = config.shared.fetches[n]? := by
        rw [fetches, List.getElem?_append_left bound]
      have newest : page'.fetches[config.shared.fetches.length]? = some fetch := by
        rw [fetches, List.getElem?_concat_length]
      refine ⟨accounts framed.accounts, ?_, ?_, ?_, ?_, ?_⟩
      · intro other listed n own
        show n < page'.fetches.length
        rw [length]
        rcases Machine.mem_threads_of_step listed with rfl | none | old
        · cases own
          exact Nat.lt_succ_self _
        · cases none
        · exact Nat.lt_succ_of_lt (framed.served other old n own)
      · intro n
        have moved := traded n
        have before := framed.once n
        have none : task.weight n = 0 := if_neg (by rw [idle]; simp)
        rw [List.map_nil, List.sum_nil, none] at moved
        by_cases own : n = config.shared.fetches.length
        · subst own
          have one : Task.weight config.shared.fetches.length (.sendFrame config.shared.fetches.length
              (fetch.frames (fetchID config.shared.sequence))) = 1 := if_pos rfl
          rw [framed.total_eq_zero, one] at moved
          omega
        · have other : Task.weight n (.sendFrame config.shared.fetches.length
              (fetch.frames (fetchID config.shared.sequence))) = 0 :=
            if_neg fun serves => own (Option.some.inj serves).symm
          rw [other] at moved
          omega
      · intro frame listed
        obtain ⟨n, bound, named⟩ := framed.named frame (sent ▸ listed)
        exact ⟨n, by show n < page'.fetches.length; omega, named⟩
      · intro n other found
        show page'.sentFor n <+: _
        rw [same]
        by_cases old : n < config.shared.fetches.length
        · exact framed.begun n other (older old ▸ found)
        · have bound : n < page'.fetches.length := (List.getElem?_eq_some_iff.mp found).1
          have last : n = config.shared.fetches.length := by omega
          rw [last, unsent]
          exact List.nil_prefix
      · intro other listed n frames rest
        show ∃ fetch, page'.fetches[n]? = some fetch ∧ _ = page'.sentFor n ++ frames
        rw [same]
        rcases Machine.mem_threads_of_step listed with rfl | none | old
        · cases rest
          exact ⟨fetch, newest, by rw [unsent, List.nil_append, framed.accounts.sequence]⟩
        · cases none
        · rw [older (framed.served other old n (Task.serves_of_left rest))]
          exact framed.left other old n frames rest
  | send n frame frames fetches sent accounts =>
      obtain ⟨fetch, found, split⟩ := framed.left _ member n (frame :: frames) rfl
      have named : frame.id = fetchID n :=
        @id_of_mem_frames fetch _ _ (by rw [split]; simp)
      have more (m : ℕ) : page'.sentFor m =
          config.shared.sentFor m ++ if m = n then [frame] else [] := by
        unfold Page.sentFor
        rw [sent]
        exact sentFor_append config.shared frame n m named
      refine ⟨accounts framed.accounts, ?_, ?_, ?_, ?_, ?_⟩
      · intro other listed m own
        show m < page'.fetches.length
        rw [fetches]
        rcases Machine.mem_threads_of_step listed with rfl | none | old
        · exact framed.served _ member m own
        · cases none
        · exact framed.served other old m own
      · intro m
        have moved := traded m
        have before := framed.once m
        have same : Task.weight m (.sendFrame n frames) = Task.weight m (.awaiting n frame frames) := rfl
        rw [List.map_nil, List.sum_nil, same] at moved
        omega
      · intro other listed
        show ∃ n < page'.fetches.length, _
        rw [fetches]
        rcases List.mem_append.mp (sent ▸ listed) with old | new
        · exact framed.named other old
        · rw [List.mem_singleton.mp new]
          exact ⟨n, framed.served _ member n rfl, named⟩
      · intro m other found'
        show page'.sentFor m <+: _
        rw [more]
        rw [fetches] at found'
        by_cases same : m = n
        · subst same
          cases found.symm.trans found'
          rw [if_pos rfl, split]
          exact (List.prefix_append_right_inj _).mpr ⟨frames, rfl⟩
        · rw [if_neg same, List.append_nil]
          exact framed.begun m other found'
      · intro other listed m rest own
        show ∃ fetch, page'.fetches[m]? = some fetch ∧ _ = page'.sentFor m ++ rest
        rw [fetches, more]
        rcases Machine.mem_threads_beside (Task.weight m) present listed with rfl | none | ⟨old, both⟩
        · cases own
          exact ⟨fetch, found, by rw [if_pos rfl, split, List.append_assoc, List.singleton_append]⟩
        · cases none
        · -- two tasks do not forward one fetch
          have apart : m ≠ n := by
            rintro rfl
            have one : Task.weight m other = 1 := if_pos (Task.serves_of_left own)
            have own : Task.weight m (.awaiting m frame frames) = 1 := if_pos rfl
            have most := framed.once m
            omega
          rw [if_neg apart, List.append_nil]
          exact framed.left other old m rest own

theorem framed_of_reachable (reached : pageMachine.Reachable newPage config) : Framed config := by
  refine reached.reachable_invariant Framed ?_ ?_ ?_
  · exact ⟨Page.accounts_new, fun _ none => absurd none List.not_mem_nil, fun _ => Nat.zero_le _,
      fun _ none => absurd none List.not_mem_nil, nofun, fun _ none => absurd none List.not_mem_nil⟩
  · intro config task framed arrives
    have idle : task.serves = none ∧ task.left = none := by
      cases task <;> first | exact ⟨rfl, rfl⟩ | cases arrives
    refine { framed with served := ?_, once := ?_, left := ?_ }
    · intro other listed n own
      rcases List.mem_append.mp listed with old | new
      · exact framed.served other old n own
      · rw [List.mem_singleton.mp new, idle.1] at own
        cases own
    · intro n
      rw [Config.total_arrive, show task.weight n = 0 from if_neg (by rw [idle.1]; simp)]
      exact framed.once n
    · intro other listed n frames rest
      rcases List.mem_append.mp listed with old | new
      · exact framed.left other old n frames rest
      · rw [List.mem_singleton.mp new, idle.2] at rest
        cases rest
  · intro config index choice task page' task' spawned framed present stepped
    obtain ⟨turn, rfl⟩ := turn_of_step stepped
    exact framed_step framed present turn

/-- **Every fetch is answered once, in order.**  Whatever fetches the browser makes, whatever frames the
agent sends and whenever the channel fails: at most 256 fetches are pending.  The port of a pending fetch
has been given the frames of its ID since it was admitted, in their order.  Another fetch has been given a
beginning of them that stops with the frame that ends it, or with an error of the page. -/
theorem page_answers (reached : pageMachine.Reachable newPage config) :
    config.shared.pending.size ≤ maxPendingRequests ∧
      ∀ n < config.shared.fetches.length,
        (config.shared.pending.lookup (fetchID n) = some n ∧
          Going (config.shared.receivedFor n) (config.shared.postedTo n)) ∨
        (config.shared.pending.lookup (fetchID n) = none ∧
          Answered (config.shared.receivedFor n) (config.shared.postedTo n)) := by
  have accounts := (framed_of_reachable reached).accounts
  refine ⟨accounts.bound, fun n bound => ?_⟩
  cases found : config.shared.pending.lookup (fetchID n) with
  | none => exact .inr ⟨rfl, accounts.answered n bound found⟩
  | some port =>
      obtain ⟨-, same⟩ := accounts.ported _ _ found
      rw [fetchID_injective same] at found ⊢
      exact .inl ⟨rfl, accounts.going port (fetchID_injective same ▸ bound) (by rw [found]; simp)⟩

end Runs

/-! ## Two fetches -/

/-- An upload. -/
def uploadFetch : Fetch := ⟨"POST", "/upload", ∅, [0x68, 0x69, 0x21]⟩

/-- A page. -/
def pageFetch : Fetch := ⟨"GET", "/", ∅, []⟩

/-- The frames of the two fetches are sent in turn; the agent answers the second one, and then the channel
is closed. -/
def fetchMoves : List (Move Task Choice) :=
  [.arrive (.forwardFetch uploadFetch), .arrive (.forwardFetch pageFetch), .run 0 .go, .run 1 .go,
    .run 0 .go, .run 1 .go, .run 0 .go, .run 1 .go, .run 1 .go, .run 0 .go, .run 1 .go, .run 0 .go,
    .run 0 .go, .run 0 .go]

/-- The answer to the second fetch. -/
def pageAnswer : List VisitorWebRTCDataMessage :=
  [{ kind := "response_start", id := "2", status := 200 },
    { kind := "response_chunk", id := "2", body := "aGk=" }]

theorem page_answers_two :
    ∃ config, pageMachine.Reachable newPage config ∧ config.shared.fetches = [uploadFetch, pageFetch] ∧
      config.shared.pending.size ≤ maxPendingRequests ∧
      Answered (config.shared.receivedFor 1) (config.shared.postedTo 1) ∧
      config.shared.postedTo 1 = pageAnswer ++ [errorEnd "2" "P2P connection closed"] := by
  obtain ⟨config, reached, fetches, missing, posted⟩ :
      ∃ config, pageMachine.Reachable newPage config ∧ config.shared.fetches = [uploadFetch, pageFetch] ∧
        config.shared.pending.lookup (fetchID 1) = none ∧
        config.shared.postedTo 1 = pageAnswer ++ [errorEnd "2" "P2P connection closed"] := by
    refine Machine.exists_run_of_replay
      (fetchMoves ++ pageAnswer.map (fun frame => .arrive (.handleFrame frame)) ++
        [.arrive .onclose, .run 2 .go, .run 3 .go, .run 4 .go]) ?_
    decide +kernel
  obtain ⟨bound, answers⟩ := page_answers reached
  refine ⟨config, reached, fetches, bound, ?_, posted⟩
  rcases answers 1 (by rw [fetches]; decide) with ⟨present, -⟩ | ⟨-, answered⟩
  · rw [missing] at present
    cases present
  · exact answered

end NryNet.Visitor

import NryNet.RelayNode.Runtime

/-!
# Bindings and listeners (`relay/runtime/node.go`)

The map of a node and its open listeners always agree: the listener of a binding is open, and every other
listener that was ever opened is closed.  What a bind request makes of the map is another matter.  `bind`
opens a listener before it looks into the map, and then it looks only whether there is an entry.  So the
request by which a tunnel is bound fails when it is repeated, since its port is in use, and a request with
another port is answered with success and changes nothing.  `follows_iff` says that these two are the only
requests that go wrong.
-/

namespace NryNet.RelayNode

open GoText Agent

namespace Node

/-! ## What is always true -/

/-- The map agrees with what is open. -/
structure Sound (n : Node) : Prop where
  fresh : ∀ listener ∈ n.opened, listener.number < n.opened.length
  known : ∀ listener ∈ n.closed, listener ∈ n.opened
  current : ∀ listener, n.Open listener ↔
    n.bindings.lookup listener.request.tunnelID = some listener
  bound : ∀ tunnelID listener, n.bindings.lookup tunnelID = some listener →
    listener.request.tunnelID = tunnelID

/-- What `bind` can do. -/
theorem bind_cases (n : Node) (request : BindRequest) (refused : Option String) :
    (∃ reason, n.listen request refused = .error reason ∧ n.bind request refused = (n, .error reason)) ∨
      n.listen request refused = .ok ⟨n.opened.length, request⟩ ∧
        ((∃ listener, n.bindings.lookup request.tunnelID = some listener ∧
            n.bind request refused =
              ({ n with
                  opened := n.opened ++ [⟨n.opened.length, request⟩]
                  closed := n.closed ++ [⟨n.opened.length, request⟩] }, .ok ())) ∨
          n.bindings.lookup request.tunnelID = none ∧
            n.bind request refused =
              ({ n with
                  opened := n.opened ++ [⟨n.opened.length, request⟩]
                  bindings := n.bindings.insert request.tunnelID ⟨n.opened.length, request⟩ },
                .ok ())) := by
  unfold bind
  cases listening : n.listen request refused with
  | error reason => exact Or.inl ⟨reason, rfl, rfl⟩
  | ok listener =>
      have new : listener = ⟨n.opened.length, request⟩ := by
        unfold listen at listening
        simp only at listening
        split at listening
        · cases listening
        split at listening
        · cases listening
        split at listening
        · cases listening
        · exact (Except.ok.inj listening).symm
      subst new
      refine Or.inr ⟨rfl, ?_⟩
      simp only
      cases found : n.bindings.lookup request.tunnelID with
      | some listener => exact Or.inl ⟨listener, rfl, rfl⟩
      | none => exact Or.inr ⟨rfl, rfl⟩

/-- The port can be listened on. -/
def Free (n : Node) (port : ℤ) (refused : Option String) : Prop :=
  port ≤ 65535 ∧ (∀ listener, n.Open listener → listener.request.remotePort ≠ port) ∧ refused = none

theorem listen_ok_iff (n : Node) (request : BindRequest) (refused : Option String) :
    n.listen request refused = .ok ⟨n.opened.length, request⟩ ↔ n.Free request.remotePort refused := by
  unfold listen Free Open
  simp only
  constructor
  · intro listening
    split at listening
    · cases listening
    split at listening
    · cases listening
    rename_i small unused
    split at listening
    · cases listening
    · refine ⟨by omega, fun listener isOpen same => unused ⟨listener, isOpen.1, isOpen.2, same⟩, rfl⟩
  · rintro ⟨small, unused, rfl⟩
    rw [if_neg (by omega), if_neg]
    rintro ⟨listener, opened, notClosed, same⟩
    exact unused listener ⟨opened, notClosed⟩ same

variable {n : Node} {tunnelID : String} {request : BindRequest} {listener : Listener}

/-- A new listener. -/
theorem Sound.new_notMem (sound : n.Sound) :
    (⟨n.opened.length, request⟩ : Listener) ∉ n.opened := fun member =>
  Nat.lt_irrefl _ (sound.fresh _ member)

theorem Sound.fresh_append (sound : n.Sound) (request : BindRequest) :
    ∀ listener ∈ n.opened ++ [⟨n.opened.length, request⟩],
      listener.number < (n.opened ++ [(⟨n.opened.length, request⟩ : Listener)]).length := by
  intro listener member
  rw [List.length_append, List.length_singleton]
  rcases List.mem_append.mp member with old | new
  · exact Nat.lt_succ_of_lt (sound.fresh listener old)
  · rw [List.mem_singleton.mp new]
    exact Nat.lt_succ_self _

/-- The listener of a binding is open, on the port of its request. -/
theorem Sound.open_of_lookup (sound : n.Sound) (found : n.bindings.lookup tunnelID = some listener) :
    n.Open listener ∧ listener.request.tunnelID = tunnelID := by
  have named := sound.bound tunnelID listener found
  exact ⟨(sound.current listener).mpr (named ▸ found), named⟩

/-- A tunnel has one open listener at most. -/
theorem Sound.open_unique (sound : n.Sound) {other : Listener} (isOpen : n.Open listener)
    (alsoOpen : n.Open other) (same : other.request.tunnelID = listener.request.tunnelID) :
    other = listener := by
  have first := (sound.current listener).mp isOpen
  have second := (sound.current other).mp alsoOpen
  rw [same, first] at second
  exact (Option.some.inj second).symm

/-- A listener that is opened and closed again. -/
theorem Sound.discard (sound : n.Sound) (request : BindRequest) :
    ({ n with
        opened := n.opened ++ [⟨n.opened.length, request⟩]
        closed := n.closed ++ [⟨n.opened.length, request⟩] } : Node).Sound where
  fresh := sound.fresh_append request
  known := by
    intro listener member
    rcases List.mem_append.mp member with old | new
    · exact List.mem_append_left _ (sound.known listener old)
    · exact List.mem_append_right _ new
  current := by
    intro listener
    rw [← sound.current listener]
    constructor
    · rintro ⟨opened, notClosed⟩
      rcases List.mem_append.mp opened with old | new
      · exact ⟨old, fun closed => notClosed (List.mem_append_left _ closed)⟩
      · exact absurd (List.mem_append_right _ new) notClosed
    · rintro ⟨opened, notClosed⟩
      refine ⟨List.mem_append_left _ opened, fun closed => ?_⟩
      rcases List.mem_append.mp closed with old | new
      · exact notClosed old
      · exact sound.new_notMem (List.mem_singleton.mp new ▸ opened)
  bound := sound.bound

/-- A listener that is opened for a tunnel without one. -/
theorem Sound.enter (sound : n.Sound) (missing : n.bindings.lookup request.tunnelID = none) :
    ({ n with
        opened := n.opened ++ [⟨n.opened.length, request⟩]
        bindings := n.bindings.insert request.tunnelID ⟨n.opened.length, request⟩ } : Node).Sound where
  fresh := sound.fresh_append request
  known := fun listener member => List.mem_append_left _ (sound.known listener member)
  current := by
    intro listener
    simp only [GoMap.lookup_insert_if]
    by_cases new : listener = ⟨n.opened.length, request⟩
    · subst new
      rw [if_pos rfl]
      refine iff_of_true ⟨List.mem_append_right _ (List.mem_singleton_self _), fun closed => ?_⟩ rfl
      exact sound.new_notMem (sound.known _ closed)
    · have before : ({ n with
          opened := n.opened ++ [⟨n.opened.length, request⟩]
          bindings := n.bindings.insert request.tunnelID ⟨n.opened.length, request⟩ } : Node).Open
            listener ↔ n.Open listener := by
        unfold Open
        simp [new]
      rw [before, sound.current listener]
      split
      · rename_i same
        rw [same, missing]
        exact iff_of_false (fun none => nomatch none) fun other => new (Option.some.inj other).symm
      · exact Iff.rfl
  bound := by
    intro tunnelID listener found
    rw [GoMap.lookup_insert_if] at found
    split at found
    · rename_i same
      rw [← Option.some.inj found, same]
    · exact sound.bound tunnelID listener found

theorem sound_bind (sound : n.Sound) (request : BindRequest) (refused : Option String) :
    (n.bind request refused).1.Sound := by
  rcases n.bind_cases request refused with ⟨reason, -, failed⟩ | ⟨-, ⟨listener, found, bound⟩ |
    ⟨missing, bound⟩⟩
  · rw [failed]
    exact sound
  · rw [bound]
    exact sound.discard request
  · rw [bound]
    exact sound.enter missing

/-- Bindings that are taken out, and whose listeners are closed. -/
theorem Sound.release (sound : n.Sound) {bindings : GoMap String Listener} {gone : List Listener}
    (known : ∀ listener ∈ gone, listener ∈ n.opened)
    (left : ∀ tunnelID listener, bindings.lookup tunnelID = some listener ↔
      n.bindings.lookup tunnelID = some listener ∧ listener ∉ gone) :
    ({ n with bindings := bindings, closed := n.closed ++ gone } : Node).Sound where
  fresh := sound.fresh
  known := fun listener member => (List.mem_append.mp member).elim (sound.known listener) (known listener)
  current := by
    intro listener
    rw [left, ← sound.current listener]
    unfold Open
    simp only [List.mem_append, not_or, and_assoc]
  bound := fun tunnelID listener found => sound.bound tunnelID listener ((left tunnelID listener).mp found).1

theorem sound_unbind (sound : n.Sound) (tunnelID : String) : (n.unbind tunnelID).Sound := by
  have left (gone : List Listener) (all : ∀ listener, listener ∈ gone ↔
      n.bindings.lookup tunnelID = some listener) (other : String) (listener : Listener) :
      (n.bindings.erase tunnelID).lookup other = some listener ↔
        n.bindings.lookup other = some listener ∧ listener ∉ gone := by
    rw [GoMap.lookup_erase_if, all]
    split
    · rename_i same
      rw [same]
      exact iff_of_false (fun none => nomatch none) fun both => both.2 both.1
    · rename_i different
      refine ⟨fun found => ⟨found, fun here => different ?_⟩, And.left⟩
      rw [← sound.bound other listener found, sound.bound tunnelID listener here]
  unfold unbind
  cases found : n.bindings.lookup tunnelID with
  | none =>
      have released := sound.release (List.forall_mem_nil _) (left [] (by simp [found]))
      rw [List.append_nil] at released
      exact released
  | some listener =>
      refine sound.release ?_ (left [listener] (by simp [found, eq_comm]))
      intro other member
      rw [List.mem_singleton.mp member]
      exact (sound.open_of_lookup found).1.1

theorem sound_close (sound : n.Sound) : n.close.Sound := by
  have listed {listener : Listener} : listener ∈ n.bindings.valuesWhere (fun _ _ => true) ↔
      ∃ tunnelID, n.bindings.lookup tunnelID = some listener := by
    rw [GoMap.mem_valuesWhere]
    simp only [and_true]
  unfold close
  refine sound.release (fun listener member => ?_) fun tunnelID listener => ?_
  · obtain ⟨tunnelID, found⟩ := listed.mp member
    exact (sound.open_of_lookup found).1.1
  · rw [AList.lookup_empty]
    exact iff_of_false (fun none => nomatch none) fun both => both.2 (listed.mpr ⟨tunnelID, both.1⟩)

/-- A new node. -/
theorem sound_newNode [CaseTable] [URLTable] {config : Config} (created : newNode config = .ok n) :
    n.Sound := by
  rw [(newNode_ok created).1]
  refine ⟨List.forall_mem_nil _, List.forall_mem_nil _, fun listener => ?_, fun tunnelID listener found => ?_⟩
  · rw [AList.lookup_empty]
    exact iff_of_false (fun isOpen => nomatch isOpen.1) fun none => nomatch none
  · rw [AList.lookup_empty] at found
    cases found

/-! ## Requests -/

/-- The request gets to `bind`. -/
def Binds (n : Node) (r : ControlRequest) (request : BindRequest) : Prop :=
  r.token = n.config.token ∧ r.method = .post ∧ r.path = "/bindings/" ++ request.tunnelID ∧
    request.tunnelID ≠ "" ∧ r.body = some request ∧ 1 ≤ request.remotePort

/-- The request gets to `unbind`. -/
def Unbinds (n : Node) (r : ControlRequest) (tunnelID : String) : Prop :=
  r.token = n.config.token ∧ r.method = .delete ∧ r.path = "/bindings/" ++ tunnelID ∧ tunnelID ≠ ""

/-- A path of a binding has the name of a tunnel behind its head. -/
theorem path_cases (path : String) :
    (path.toList.length ≤ "/bindings/".toList.length ∨ ¬ startsWith path "/bindings/") ∧
        (∀ tunnelID, path = "/bindings/" ++ tunnelID → tunnelID = "") ∨
      ∃ tunnelID, tunnelID ≠ "" ∧ path = "/bindings/" ++ tunnelID ∧
        ¬ (path.toList.length ≤ "/bindings/".toList.length ∨ ¬ startsWith path "/bindings/") ∧
        String.ofList (path.toList.drop "/bindings/".toList.length) = tunnelID := by
  by_cases other : path.toList.length ≤ "/bindings/".toList.length ∨ ¬ startsWith path "/bindings/"
  · refine Or.inl ⟨other, ?_⟩
    rintro tunnelID rfl
    rw [String.toList_append] at other
    rcases other with short | apart
    · rw [List.length_append] at short
      have none : tunnelID.toList = [] := List.length_eq_zero_iff.mp (by omega)
      exact String.toList_injective none
    · refine absurd ?_ apart
      unfold startsWith
      rw [List.isPrefixOf_iff_prefix, String.toList_append]
      exact List.prefix_append _ _
  · obtain ⟨long, starts⟩ := not_or.mp other
    unfold startsWith at starts
    rw [not_not, List.isPrefixOf_iff_prefix] at starts
    obtain ⟨rest, split⟩ := starts
    have back : path.toList.drop "/bindings/".toList.length = rest := by
      rw [← split]
      exact List.drop_left
    refine Or.inr ⟨String.ofList rest, ?_, ?_, other, by rw [back]⟩
    · intro none
      have nothing : rest = [] := by
        rw [← String.toList_ofList (l := rest), none]
        rfl
      rw [← split, nothing, List.append_nil] at long
      exact long (Nat.le_refl _)
    · apply String.toList_injective
      rw [String.toList_append]
      exact split.symm.trans (congrArg _ (@String.toList_ofList rest).symm)

/-- What a control request can do. -/
theorem authenticate_cases (n : Node) (r : ControlRequest) (refused : Option String) :
    (∃ request, n.Binds r request ∧ n.authenticate r refused =
        match n.bind request refused with
        | (n, .error reason) => (n, 409, reason)
        | (n, .ok ()) => (n, 201, "")) ∨
      (∃ tunnelID, n.Unbinds r tunnelID ∧ n.authenticate r refused = (n.unbind tunnelID, 204, "")) ∨
      (∀ request, ¬ n.Binds r request) ∧ (∀ tunnelID, ¬ n.Unbinds r tunnelID) ∧
        (n.authenticate r refused).1 = n := by
  unfold authenticate
  by_cases token : r.token = n.config.token
  · rw [if_neg (not_not_intro token)]
    unfold handleBinding
    simp only
    rcases path_cases r.path with ⟨other, nameless⟩ | ⟨tunnelID, named, path, found, name⟩
    · rw [if_pos other]
      refine Or.inr (Or.inr ⟨?_, ?_, rfl⟩)
      · rintro request ⟨-, -, path, named, -⟩
        exact named (nameless _ path)
      · rintro tunnelID ⟨-, -, path, named⟩
        exact named (nameless _ path)
    · rw [if_neg found, name]
      cases method : r.method with
      | post =>
          have noUnbind (tunnelID : String) : ¬ n.Unbinds r tunnelID := by
            rintro ⟨-, same, -⟩
            rw [method] at same
            cases same
          cases body : r.body with
          | none =>
              refine Or.inr (Or.inr ⟨?_, noUnbind, rfl⟩)
              rintro request ⟨-, -, -, -, same, -⟩
              rw [body] at same
              cases same
          | some request =>
              simp only
              by_cases invalid : request.tunnelID ≠ tunnelID ∨ request.remotePort < 1
              · rw [if_pos invalid]
                refine Or.inr (Or.inr ⟨?_, noUnbind, rfl⟩)
                rintro other ⟨-, -, same, -, decoded, least⟩
                rw [body] at decoded
                obtain rfl := Option.some.inj decoded
                rcases invalid with different | negative
                · rw [path] at same
                  exact different (String.append_right_inj _ |>.mp same).symm
                · omega
              · obtain ⟨same, least⟩ := not_or.mp invalid
                obtain rfl := not_not.mp same
                rw [if_neg invalid]
                exact Or.inl ⟨request, ⟨token, method, path, named, body, by omega⟩, rfl⟩
      | delete => exact Or.inr (Or.inl ⟨tunnelID, ⟨token, method, path, named⟩, rfl⟩)
      | other =>
          refine Or.inr (Or.inr ⟨?_, ?_, rfl⟩)
          · rintro request ⟨-, same, -⟩
            rw [method] at same
            cases same
          · rintro tunnelID ⟨-, same, -⟩
            rw [method] at same
            cases same
  · rw [if_pos token]
    refine Or.inr (Or.inr ⟨?_, ?_, rfl⟩)
    · rintro request ⟨same, -⟩
      exact token same
    · rintro tunnelID ⟨same, -⟩
      exact token same

theorem Binds.unique {r : ControlRequest} {other : BindRequest} (binds : n.Binds r request)
    (also : n.Binds r other) : other = request := by
  obtain ⟨-, -, -, -, body, -⟩ := binds
  obtain ⟨-, -, -, -, same, -⟩ := also
  exact Option.some.inj (same.symm.trans body)

theorem Binds.not_unbinds {r : ControlRequest} (binds : n.Binds r request) : ¬ n.Unbinds r tunnelID := by
  obtain ⟨-, post, -⟩ := binds
  rintro ⟨-, delete, -⟩
  rw [post] at delete
  cases delete

theorem Unbinds.unique {r : ControlRequest} {other : String} (unbinds : n.Unbinds r tunnelID)
    (also : n.Unbinds r other) : tunnelID = other := by
  obtain ⟨-, -, path, -⟩ := unbinds
  obtain ⟨-, -, same, -⟩ := also
  rw [path] at same
  exact (String.append_right_inj _).mp same

/-- A bind request is answered with success when its port can be listened on, with a conflict
otherwise. -/
theorem authenticate_of_binds {r : ControlRequest} {refused : Option String} (binds : n.Binds r request) :
    n.Free request.remotePort refused ∧ (n.authenticate r refused).2.1 = 201 ∧
        (n.authenticate r refused).1 = (n.bind request refused).1 ∨
      ¬ n.Free request.remotePort refused ∧ (n.authenticate r refused).2.1 = 409 ∧
        (n.authenticate r refused).1 = n := by
  have answered : n.authenticate r refused =
      match n.bind request refused with
      | (n, .error reason) => (n, 409, reason)
      | (n, .ok ()) => (n, 201, "") := by
    rcases n.authenticate_cases r refused with ⟨other, alike, answered⟩ | ⟨tunnelID, unbinds, -⟩ |
      ⟨neither, -⟩
    · rw [binds.unique alike] at answered
      exact answered
    · exact absurd unbinds binds.not_unbinds
    · exact absurd binds (neither request)
  rw [← listen_ok_iff, answered]
  rcases n.bind_cases request refused with ⟨reason, listening, failed⟩ | ⟨listening, bound⟩
  · rw [failed, listening]
    exact Or.inr ⟨fun same => (nomatch same), rfl, rfl⟩
  · refine Or.inl ⟨listening, ?_⟩
    rcases bound with ⟨listener, -, bound⟩ | ⟨-, bound⟩
    · rw [bound]
      exact ⟨rfl, rfl⟩
    · rw [bound]
      exact ⟨rfl, rfl⟩

theorem sound_authenticate (sound : n.Sound) (r : ControlRequest) (refused : Option String) :
    (n.authenticate r refused).1.Sound := by
  rcases n.authenticate_cases r refused with ⟨request, binds, -⟩ | ⟨tunnelID, -, answered⟩ | ⟨-, -, same⟩
  · rcases @authenticate_of_binds n request r refused binds with ⟨-, -, after⟩ | ⟨-, -, after⟩
    · rw [after]
      exact sound_bind sound request refused
    · rw [after]
      exact sound
  · rw [answered]
    exact sound_unbind sound tunnelID
  · rw [same]
    exact sound

theorem sound_accept (sound : n.Sound) (listener : Listener) (visitorAddr : String) (dialing : Dialing) :
    (n.accept listener visitorAddr dialing).Sound := by
  unfold accept forward
  split
  · split
    · exact sound
    · exact ⟨sound.fresh, sound.known, sound.current, sound.bound⟩
  · exact sound

theorem sound_perform (sound : n.Sound) (event : Event) : (n.perform event).Sound := by
  cases event with
  | control r refused => exact sound_authenticate sound r refused
  | visitor listener visitorAddr dialing => exact sound_accept sound listener visitorAddr dialing
  | close => exact sound_close sound

/-- **The map and the open listeners agree** in every run. -/
theorem sound_runAll (sound : n.Sound) (events : List Event) : (n.runAll events).Sound :=
  List.foldlRecOn events perform sound fun _ holds event _ => sound_perform holds event

/-! ## The last request -/

/-- There is at most one open listener for a tunnel, and it is the one of its binding. -/
structure Agrees (n : Node) : Prop where
  one : ∀ first second, n.Open first → n.Open second →
    second.request.tunnelID = first.request.tunnelID → second = first
  others : ∀ listener ∈ n.opened,
    n.bindings.lookup listener.request.tunnelID ≠ some listener → listener ∈ n.closed

theorem Sound.agrees (sound : n.Sound) : n.Agrees where
  one := fun _ _ isOpen alsoOpen same => sound.open_unique isOpen alsoOpen same
  others := by
    intro listener opened replaced
    by_contra notClosed
    exact replaced ((sound.current listener).mp ⟨opened, notClosed⟩)

/-- The node listens for the tunnel on the port of the request. -/
def ListensFor (n : Node) (request : BindRequest) : Prop :=
  ∃ listener, n.bindings.lookup request.tunnelID = some listener ∧ n.Open listener ∧
    listener.request.remotePort = request.remotePort

/-- The node does as it is told. -/
def Follows (n : Node) : Event → Prop
  | .control r refused =>
      let after := (n.authenticate r refused).1
      let status := (n.authenticate r refused).2.1
      after.Agrees ∧
        (∀ request, n.Binds r request →
          (status = 201 → after.ListensFor request) ∧
          ∀ listener, n.bindings.lookup request.tunnelID = some listener → listener.request = request →
            status = 201) ∧
        ∀ tunnelID, n.Unbinds r tunnelID →
          ∀ listener, after.Open listener → listener.request.tunnelID ≠ tunnelID
  | .visitor listener visitorAddr dialing => (n.accept listener visitorAddr dialing).Agrees
  | .close => n.close.Agrees ∧ ∀ listener, ¬ n.close.Open listener

/-- A bind request for a tunnel that is bound is another one than the one it is bound by, and its port
cannot be listened on. -/
def Meets (n : Node) : Event → Prop
  | .control r refused => ∀ request listener, n.Binds r request →
      n.bindings.lookup request.tunnelID = some listener →
        listener.request ≠ request ∧ ¬ n.Free request.remotePort refused
  | .visitor _ _ _ => True
  | .close => True

/-- After `unbind` nothing is open for the tunnel. -/
theorem Sound.unbind_closed (sound : n.Sound) (tunnelID : String) (isOpen : (n.unbind tunnelID).Open listener) :
    listener.request.tunnelID ≠ tunnelID := by
  rintro rfl
  have found := ((sound_unbind sound _).current listener).mp isOpen
  have erased : (n.unbind listener.request.tunnelID).bindings = n.bindings.erase listener.request.tunnelID := by
    unfold unbind
    cases n.bindings.lookup listener.request.tunnelID <;> rfl
  rw [erased, AList.lookup_erase] at found
  cases found

/-- After `Close` nothing is open. -/
theorem Sound.close_closed (sound : n.Sound) (isOpen : n.close.Open listener) : False := by
  have found := ((sound_close sound).current listener).mp isOpen
  change (∅ : GoMap String Listener).lookup _ = _ at found
  rw [AList.lookup_empty] at found
  cases found

/-- A bind request of a tunnel that is bound. -/
theorem Sound.follows_bound (sound : n.Sound) {r : ControlRequest} {refused : Option String}
    (binds : n.Binds r request) (found : n.bindings.lookup request.tunnelID = some listener) :
    (((n.authenticate r refused).2.1 = 201 → (n.authenticate r refused).1.ListensFor request) ∧
        (listener.request = request → (n.authenticate r refused).2.1 = 201)) ↔
      listener.request ≠ request ∧ ¬ n.Free request.remotePort refused := by
  obtain ⟨isOpen, -⟩ := sound.open_of_lookup found
  rcases @authenticate_of_binds n request r refused binds with
    ⟨free, created, after⟩ | ⟨taken, conflict, -⟩
  · -- the request is answered with success, and the listener stays
    refine iff_of_false (fun follows => ?_) fun meets => meets.2 free
    obtain ⟨current, here, -, same⟩ := follows.1 created
    have kept : (n.bind request refused).1.bindings.lookup request.tunnelID = some listener := by
      rcases n.bind_cases request refused with ⟨reason, -, failed⟩ | ⟨-, ⟨other, -, bound⟩ |
        ⟨missing, -⟩⟩
      · rw [failed]
        exact found
      · rw [bound]
        exact found
      · rw [missing] at found
        cases found
    rw [after, kept] at here
    rw [← Option.some.inj here] at same
    exact free.2.1 listener isOpen same
  · rw [conflict]
    constructor
    · rintro ⟨-, repeated⟩
      exact ⟨fun same => absurd (repeated same) (by decide), taken⟩
    · rintro ⟨different, -⟩
      exact ⟨fun status => absurd status (by decide), fun same => absurd same different⟩

/-- A bind request of a tunnel that is not bound. -/
theorem Sound.follows_unbound (sound : n.Sound) {r : ControlRequest} {refused : Option String}
    (binds : n.Binds r request) (missing : n.bindings.lookup request.tunnelID = none)
    (created : (n.authenticate r refused).2.1 = 201) : (n.authenticate r refused).1.ListensFor request := by
  rcases @authenticate_of_binds n request r refused binds with ⟨free, -, after⟩ | ⟨-, conflict, -⟩
  · have later := sound_bind sound request refused
    have listed : (n.bind request refused).1.bindings.lookup request.tunnelID =
        some ⟨n.opened.length, request⟩ := by
      rcases n.bind_cases request refused with ⟨reason, listening, -⟩ | ⟨-, ⟨other, found, -⟩ | ⟨-, bound⟩⟩
      · rw [(n.listen_ok_iff request refused).mpr free] at listening
        cases listening
      · rw [missing] at found
        cases found
      · rw [bound]
        exact AList.lookup_insert _
    rw [after]
    exact ⟨_, listed, (later.open_of_lookup listed).1, rfl⟩
  · rw [conflict] at created
    cases created

/-- **A node does as it is told at the requests that meet the condition**, and at no others. -/
theorem Sound.follows_iff (sound : n.Sound) (event : Event) : n.Follows event ↔ n.Meets event := by
  cases event with
  | control r refused =>
      have agrees := (sound_authenticate sound r refused).agrees
      constructor
      · rintro ⟨-, follows, -⟩ request listener binds found
        obtain ⟨success, repeated⟩ := follows request binds
        exact (sound.follows_bound binds found).mp ⟨success, repeated listener found⟩
      · intro meets
        refine ⟨agrees, fun request binds => ?_, fun tunnelID unbinds listener isOpen => ?_⟩
        · cases found : n.bindings.lookup request.tunnelID with
          | none => exact ⟨sound.follows_unbound binds found, fun listener some => (nomatch some)⟩
          | some listener =>
              obtain ⟨success, repeated⟩ :=
                (sound.follows_bound binds found).mpr (meets request listener binds found)
              refine ⟨success, fun other same => ?_⟩
              rw [← Option.some.inj same]
              exact repeated
        · rcases n.authenticate_cases r refused with ⟨request, binds, -⟩ | ⟨other, alike, answered⟩ |
            ⟨-, neither, -⟩
          · exact absurd unbinds binds.not_unbinds
          · rw [answered] at isOpen
            rw [unbinds.unique alike]
            exact sound.unbind_closed other isOpen
          · exact absurd unbinds (neither tunnelID)
  | visitor listener visitorAddr dialing =>
      exact iff_of_true (sound_accept sound listener visitorAddr dialing).agrees trivial
  | close => exact iff_of_true ⟨(sound_close sound).agrees, fun _ => sound.close_closed⟩ trivial

end Node

/-- **A node does as it is told** in the runs whose requests all meet the condition, and in no others. -/
theorem bindings_follow [CaseTable] [URLTable] {config : Config} {n : Node}
    (created : newNode config = .ok n) (events : List Event) :
    (∀ before event, before ++ [event] <+: events → (n.runAll before).Follows event) ↔
      ∀ before event, before ++ [event] <+: events → (n.runAll before).Meets event := by
  have step (before : List Event) (event : Event) :
      (n.runAll before).Follows event ↔ (n.runAll before).Meets event :=
    (Node.sound_runAll (Node.sound_newNode created) before).follows_iff event
  simp only [step]

def webRequest (port : ℤ) : BindRequest := ⟨"web", port, "127.0.0.1:7001", false, ""⟩

theorem binds_webRequest {n : Node} (token : n.config.token = "secret") {port : ℤ} (least : 1 ≤ port) :
    n.Binds ⟨"secret", .post, "/bindings/" ++ "web", some (webRequest port)⟩ (webRequest port) :=
  ⟨token.symm, rfl, rfl, show "web" ≠ "" by decide, rfl, least⟩

/-- A property of the events of a list, each in the run up to it. -/
theorem forall_begun_cons {property : List Event → Event → Prop} {first : Event} {rest : List Event}
    (now : property [] first)
    (later : ∀ before event, before ++ [event] <+: rest → property (first :: before) event) :
    ∀ before event, before ++ [event] <+: first :: rest → property before event := by
  intro before event begun
  cases before with
  | nil =>
      obtain ⟨rfl, -⟩ := List.cons_prefix_cons.mp begun
      exact now
  | cons head before =>
      obtain ⟨rfl, further⟩ := List.cons_prefix_cons.mp begun
      exact later before event further

theorem Node.meets_of_bind {n : Node} {token : String} {request : BindRequest} {refused : Option String}
    (meets : ∀ listener, n.bindings.lookup request.tunnelID = some listener →
      listener.request ≠ request ∧ ¬ n.Free request.remotePort refused) :
    n.Meets (.control ⟨token, .post, "/bindings/" ++ request.tunnelID, some request⟩ refused) := by
  intro other listener binds found
  obtain rfl := Option.some.inj binds.2.2.2.2.1
  exact meets listener found

/-- A tunnel is bound; the port to which it is to move is in use; it is unbound, and bound to that port. -/
def movingEvents : List Event :=
  [bindEvent (webRequest 8080),
    .control ⟨"secret", .post, "/bindings/" ++ "web", some (webRequest 9090)⟩
      (some "bind: address already in use"),
    .control ⟨"secret", .delete, "/bindings/" ++ "web", none⟩ none,
    bindEvent (webRequest 9090)]

/-- The node does as it is told at each of these requests. -/
theorem bindings_follow_moving :
    (localNode.runAll (movingEvents.take 1)).ListensFor (webRequest 8080) ∧
      localNode.runAll (movingEvents.take 2) = localNode.runAll (movingEvents.take 1) ∧
      (∀ listener, (localNode.runAll (movingEvents.take 3)).Open listener →
        listener.request.tunnelID ≠ "web") ∧
      (localNode.runAll movingEvents).ListensFor (webRequest 9090) := by
  have bound : (localNode.runAll (movingEvents.take 1)).bindings.lookup "web" =
      some ⟨0, webRequest 8080⟩ := by
    decide +kernel
  have unbound : (localNode.runAll (movingEvents.take 3)).bindings.lookup "web" = none := by
    decide +kernel
  have follows := (@bindings_follow CaseTable.ascii URLTable.plain _ _ newNode_localConfig
    movingEvents).mpr ?_
  · have bound_first := (follows [] _ ⟨_, rfl⟩).2.1 (webRequest 8080) (binds_webRequest rfl (by decide))
    have unbinds := (follows (movingEvents.take 2) _ ⟨_, rfl⟩).2.2 "web" ⟨rfl, rfl, rfl, by decide⟩
    have bound_again := (follows (movingEvents.take 3) _ ⟨_, rfl⟩).2.1 (webRequest 9090)
      (binds_webRequest rfl (by decide))
    exact ⟨bound_first.1 (by decide +kernel), rfl, unbinds, bound_again.1 (by decide +kernel)⟩
  · refine forall_begun_cons ?_ (forall_begun_cons ?_ (forall_begun_cons ?_ (forall_begun_cons ?_ ?_)))
    · exact Node.meets_of_bind fun listener found => nomatch found
    · show Node.Meets _ (.control ⟨"secret", .post, "/bindings/" ++ (webRequest 9090).tunnelID,
        some (webRequest 9090)⟩ _)
      refine Node.meets_of_bind fun listener found => ?_
      obtain rfl := Option.some.inj (bound.symm.trans found)
      exact ⟨by decide, fun free => nomatch free.2.2⟩
    · exact fun request listener binds _ => nomatch binds.2.1
    · refine Node.meets_of_bind fun listener found => ?_
      cases unbound.symm.trans found
    · intro before event begun
      exact absurd begun.length_le (by simp)

/-- The same request fails when it is repeated, and a request with another port is answered with success
and changes nothing. -/
theorem bindings_follow_repeated :
    let _ := CaseTable.ascii
    let _ := URLTable.plain
    let after := localNode.runAll [bindEvent (webRequest 8080)]
    newNode localConfig = .ok localNode ∧ ¬ after.Follows (bindEvent (webRequest 8080)) ∧
      ¬ after.Follows (bindEvent (webRequest 9090)) := by
  intro _ _ after
  have bound : after.bindings.lookup "web" = some ⟨0, webRequest 8080⟩ := by decide +kernel
  refine ⟨newNode_localConfig, fun follows => ?_, fun follows => ?_⟩
  · have repeated := (follows.2.1 (webRequest 8080) (binds_webRequest rfl (by decide))).2 _ bound rfl
    have conflict : (after.authenticate
        ⟨"secret", .post, "/bindings/" ++ "web", some (webRequest 8080)⟩ none).2.1 = 409 := by
      decide +kernel
    rw [show (webRequest 8080).tunnelID = "web" from rfl, conflict] at repeated
    cases repeated
  · have success := (follows.2.1 (webRequest 9090) (binds_webRequest rfl (by decide))).1
    have created : (after.authenticate
        ⟨"secret", .post, "/bindings/" ++ "web", some (webRequest 9090)⟩ none).2.1 = 201 := by
      decide +kernel
    obtain ⟨listener, found, -, port⟩ := success created
    have kept : (after.authenticate
        ⟨"secret", .post, "/bindings/" ++ "web", some (webRequest 9090)⟩ none).1.bindings.lookup "web" =
          some ⟨0, webRequest 8080⟩ := by
      decide +kernel
    have same := found.symm.trans kept
    rw [Option.some.inj same] at port
    cases port

end NryNet.RelayNode

import Mathlib.Logic.Relation
import NryNet.Api.Handlers

/-!
# The server, one request after another

A `Server` is the database, the relay's cache and the clock.  It serves agents and administrators,
never two at a time: hellos, data handshakes, streams of authenticated sessions, administrative
requests, and the passing of time.  Inside a handshake the clock moves as well.

`uuid.NewString` never returns an identifier twice; `Server.issued` holds the token identifiers that
have been drawn, and a request that would draw one of them again does not happen.

`Runs allowed` relates two servers when the second is reached from the first by requests that all
meet `allowed`.  What a request can do to the authority of the database and to the cache is said by
`Effect` for the administrative ones, and by the three lemmas below for the others.
-/

namespace NryNet.Api

open Relay

/-- The database, the cache and the clock, and the token identifiers that have been drawn. -/
structure Server where
  auth : AuthState
  issued : List String

/-- What is asked of the server. -/
inductive Request where
  /-- nothing, for a while -/
  | wait (elapsed : ℕ)
  /-- an agent's hello: `UpsertClient`, with the client identifier that is drawn -/
  | hello (id tokenID : String) (hello : ClientHello)
  /-- a data or work-connection handshake -/
  | data (ticks : Ticks) (tokenValue deviceID : String)
  /-- a data stream of an authenticated session -/
  | stream (ticks : Ticks) (tokenID deviceID requestID : String)
  | admin (env : Env) (op : Admin)

namespace Server

/-- A server that has just started. -/
def start (store : Store) (now : Time) : Server :=
  ⟨⟨store, .newRelayAuthCache, now, 0⟩, store.authority.tokens.map TokenGrant.id⟩

/-- What the database of the server authorizes. -/
abbrev authority (s : Server) : Authority := s.auth.store.authority

/-- The server after a request. -/
def serve (s : Server) : Request → Option Server
  | .wait elapsed => some { s with auth := s.auth.advance elapsed }
  | .hello id tokenID hello =>
      some { s with auth :=
        s.auth.mutate (s.auth.store.upsertClient id tokenID hello s.auth.now).1 }
  | .data ticks tokenValue deviceID =>
      (authenticateDataClient ticks s.auth tokenValue deviceID).map fun outcome =>
        { s with auth := outcome.1 }
  | .stream ticks tokenID deviceID requestID =>
      (authorizeStream ticks s.auth tokenID deviceID requestID).map fun outcome =>
        { s with auth := outcome.1 }
  | .admin env op =>
      if ∀ id ∈ op.draws, id ∉ s.issued then
        some ⟨(op.handle env s.auth).1, op.draws.toList ++ s.issued⟩
      else none

/-- One request, if it is allowed. -/
def Serves (allowed : Server → Request → Prop) (s s' : Server) : Prop :=
  ∃ request, allowed s request ∧ s.serve request = some s'

/-- Any number of requests, all of them allowed. -/
abbrev Runs (allowed : Server → Request → Prop) : Server → Server → Prop :=
  Relation.ReflTransGen (Serves allowed)

/-- The server after a list of requests, if they are all allowed. -/
def serveAll (allowed : Server → Request → Prop) [∀ s request, Decidable (allowed s request)] :
    Server → List Request → Option Server
  | s, [] => some s
  | s, request :: rest =>
      if allowed s request then (s.serve request).bind fun s' => serveAll allowed s' rest else none

variable {allowed : Server → Request → Prop} {s s' : Server}

theorem Runs.of_serveAll [∀ s request, Decidable (allowed s request)] {requests : List Request} :
    ∀ {s : Server}, serveAll allowed s requests = some s' → Runs allowed s s' := by
  induction requests with
  | nil =>
      intro s served
      cases served
      exact .refl
  | cons request rest hypothesis =>
      intro s served
      rw [serveAll] at served
      by_cases permitted : allowed s request
      · rw [if_pos permitted, Option.bind_eq_some_iff] at served
        obtain ⟨middle, first, served⟩ := served
        exact .head ⟨request, permitted, first⟩ (hypothesis served)
      · rw [if_neg permitted] at served
        cases served

/-- A list of requests that can be served, and after which a decidable property holds, leads to a
server with that property. -/
theorem exists_runs_of_serveAll [∀ s request, Decidable (allowed s request)]
    (requests : List Request) {property : Server → Prop} [DecidablePred property]
    (served : (serveAll allowed s requests).any (fun s' => property s') = true) :
    ∃ s', Runs allowed s s' ∧ property s' := by
  obtain ⟨s', served, holds⟩ := (Option.any_eq_true _ _).mp served
  exact ⟨s', Runs.of_serveAll served, of_decide_eq_true holds⟩

/-- A predicate that survives every allowed request holds along every run. -/
theorem Runs.invariant {start : Server} (reached : Runs allowed start s) (property : Server → Prop)
    (initially : property start)
    (preserved : ∀ s s' request, property s → allowed s request → s.serve request = some s' →
      property s') : property s := by
  induction reached with
  | refl => exact initially
  | tail _ served hypothesis =>
      obtain ⟨request, permitted, served⟩ := served
      exact preserved _ _ request hypothesis permitted served

/-! ## What the requests do -/

/-- A hello does not show, or enrols a client. -/
theorem serve_hello {id tokenID : String} {hello : ClientHello}
    (served : s.serve (.hello id tokenID hello) = some s') :
    s'.issued = s.issued ∧ s'.auth.cache = s.auth.cache ∧ s'.auth.now = s.auth.now ∧
      (s'.authority = s.authority ∨
        (s.authority.Unused hello.deviceID ∧ hello.deviceID ∉ s.authority.revoked ∧
          ¬ s.authority.Unknown tokenID ∧
          s'.authority = s.authority.enrol ⟨id, hello.deviceID, tokenID, false⟩)) := by
  cases served
  refine ⟨rfl, rfl, rfl, ?_⟩
  show (s.auth.store.upsertClient id tokenID hello s.auth.now).1.authority = _ ∨ _
  unfold Store.upsertClient
  cases inserted : s.auth.store.insertClient id tokenID hello s.auth.now with
  | error message => exact Or.inl rfl
  | ok store =>
      exact Store.insertClient_authority inserted

/-- A data handshake leaves the authority alone, and the cache as sound as it was. -/
theorem serve_data {warrant : Warrant} {ticks : Ticks} {tokenValue deviceID : String}
    (idle : s.auth.Idle) (sound : warrant.Sound s.auth)
    (served : s.serve (.data ticks tokenValue deviceID) = some s') :
    s'.issued = s.issued ∧ warrant.Calm s.authority s.auth.now s'.auth := by
  have calm : warrant.Calm s.authority s.auth.now s.auth := ⟨idle, rfl, Nat.le_refl _, sound⟩
  obtain ⟨auth, result, ended, calm', -⟩ :=
    authenticateDataClient_spec ticks tokenValue deviceID calm
  simp only [serve, ended, Option.map_some, Option.some.injEq] at served
  subst served
  exact ⟨rfl, calm'⟩

/-- So does a stream. -/
theorem serve_stream {warrant : Warrant} {ticks : Ticks} {tokenID deviceID requestID : String}
    (idle : s.auth.Idle) (sound : warrant.Sound s.auth)
    (served : s.serve (.stream ticks tokenID deviceID requestID) = some s') :
    s'.issued = s.issued ∧ warrant.Calm s.authority s.auth.now s'.auth := by
  have calm : warrant.Calm s.authority s.auth.now s.auth := ⟨idle, rfl, Nat.le_refl _, sound⟩
  obtain ⟨auth, result, ended, calm', -⟩ :=
    authorizeStream_spec ticks tokenID deviceID requestID calm
  simp only [serve, ended, Option.map_some, Option.some.injEq] at served
  subst served
  exact ⟨rfl, calm'⟩

/-- An administrative request draws fresh identifiers only, and has one of the effects. -/
theorem serve_admin {env : Env} {op : Admin} (served : s.serve (.admin env op) = some s') :
    (∀ id ∈ op.draws, id ∉ s.issued) ∧ s'.issued = op.draws.toList ++ s.issued ∧
      s'.auth.now = s.auth.now ∧
      Effect env s.auth.store s.auth.cache op (op.handle env s.auth).2.isOk s'.authority
        s'.auth.cache := by
  rw [serve] at served
  by_cases fresh : ∀ id ∈ op.draws, id ∉ s.issued
  · rw [if_pos fresh] at served
    cases served
    obtain ⟨effect, now⟩ : Leaves env s.auth op _ _ := effect_of_handle op
    exact ⟨fresh, rfl, now, effect⟩
  · rw [if_neg fresh] at served
    cases served

end Server

/-- No request announces a load or takes one back. -/
theorem Effect.loading {env : Env} {store : Store} {c c' : RelayAuthCache} {op : Admin}
    {succeeded : Bool} {a : Authority} (effect : Effect env store c op succeeded a c') :
    c'.loading = c.loading := by
  cases effect <;> rfl

end NryNet.Api

import NryNet.Certbot.Request
import NryNet.Lib.ThreadPool

/-!
# Installed certificates (`server/certbothelper/runner.go`)

Two services run the helper: one when the server has left a request (`RunHelperWithOptions`), one on a
timer (`RunRenewWithOptions`).  A lock keeps them apart, but not from the beginning: on the timer the
helper reads whose certificate it manages before it takes the lock.

## The model

A file that is installed is known by the domain whose directory it was copied from.  A step of a process
is a call that reads or changes what processes share; `copyAtomic` and `writeAtomic` rename a new file into
its place, and may fail before that or afterwards, when the directory is written to the disk.  The state is
as `json.Marshal` writes it and `json.Unmarshal` reads it.

## The result

The files and the state agree whenever the lock is free, in every run in which no installation stops
halfway and no state that was read early is out of date (`installed_agree`).
-/

namespace NryNet.Certbot

open GoText ByteStream ThreadPool

/-! ## The model -/

/-- What the processes share. -/
structure Target where
  locked : Bool
  fullchain : Option String
  privateKey : Option String
  managed : Option ManagedState
  deriving DecidableEq

/-- A process of the helper, by what it does next.  `helper` tells the two services apart behind the
lock. -/
inductive Process where
  /-- `RunHelperWithOptions` -/
  | runHelper
  | readRequest
  | readManagedState
  /-- `RunRenewWithOptions` -/
  | runRenew
  | lockRequest (request : Request)
  | runCertbot (helper : Bool) (request : Request)
  | copyFullchain (helper : Bool) (request : Request)
  | copyPrivateKey (helper : Bool) (request : Request)
  | chownTargets (helper : Bool) (request : Request)
  | writeManagedState (request : Request)
  | unlock
  | ended
  deriving DecidableEq

/-- What a step meets with. -/
inductive Choice where
  | succeeds
  | fails
  /-- the file is in its place, but the directory cannot be written -/
  | failsLate
  /-- the content of the request file -/
  | finds (file : Except String Bytes)

section Machine

variable [CaseTable] [AddressTable] [Unmarshal]

/-- One step. -/
def Process.step (s : Target) : Process → Choice → Option (Target × Process × List Process)
  | .runHelper, .succeeds =>
      -- the lock is not waited for
      if s.locked then some (s, .ended, []) else some ({ s with locked := true }, .readRequest, [])
  | .runHelper, .fails => some (s, .ended, [])
  | .readRequest, .finds file =>
      match Certbot.readRequest file with
      | .error _ => some (s, .unlock, [])
      | .ok request =>
          match validateRequest request with
          | .error _ => some (s, .unlock, [])
          | .ok () =>
              if request.action = "renew" then some (s, .readManagedState, [])
              else some (s, .runCertbot true request, [])
  | .readManagedState, .succeeds =>
      match s.managed.map ManagedState.check with
      | some (.ok state) => some (s, .runCertbot true state.renewal, [])
      | _ => some (s, .unlock, [])
  | .readManagedState, .fails => some (s, .unlock, [])
  | .runRenew, .succeeds =>
      match s.managed.map ManagedState.check with
      | some (.ok state) => some (s, .lockRequest state.renewal, [])
      | _ => some (s, .ended, [])
  | .runRenew, .fails => some (s, .ended, [])
  | .lockRequest request, .succeeds =>
      if s.locked then some (s, .ended, [])
      else some ({ s with locked := true }, .runCertbot false request, [])
  | .lockRequest _, .fails => some (s, .ended, [])
  | .runCertbot helper request, .succeeds => some (s, .copyFullchain helper request, [])
  | .runCertbot _ _, .fails => some (s, .unlock, [])
  | .copyFullchain helper request, .succeeds =>
      some ({ s with fullchain := some request.domain }, .copyPrivateKey helper request, [])
  | .copyFullchain _ _, .fails => some (s, .unlock, [])
  | .copyFullchain _ request, .failsLate =>
      some ({ s with fullchain := some request.domain }, .unlock, [])
  | .copyPrivateKey helper request, .succeeds =>
      some ({ s with privateKey := some request.domain }, .chownTargets helper request, [])
  | .copyPrivateKey _ _, .fails => some (s, .unlock, [])
  | .copyPrivateKey _ request, .failsLate =>
      some ({ s with privateKey := some request.domain }, .unlock, [])
  | .chownTargets helper request, .succeeds =>
      some (s, if helper then .writeManagedState request else .unlock, [])
  | .chownTargets _ _, .fails => some (s, .unlock, [])
  | .writeManagedState _, .fails => some (s, .unlock, [])
  | .writeManagedState request, .succeeds =>
      some ({ s with managed := some { domain := request.domain, email := request.email } }, .unlock, [])
  | .writeManagedState request, .failsLate =>
      some ({ s with managed := some { domain := request.domain, email := request.email } }, .unlock, [])
  | .unlock, _ => some ({ s with locked := false }, .ended, [])
  | _, _ => none

/-- The services. -/
def machine : Machine Target Process Choice where
  entry
    | .runHelper => true
    | .runRenew => true
    | _ => false
  step := Process.step

end Machine

/-! ## Agreement -/

section Agreement

variable [CaseTable]

/-- The names are of one domain. -/
def SameDomain (name other : String) : Prop := normalizeDomain name = normalizeDomain other

instance (name other : String) : Decidable (SameDomain name other) :=
  inferInstanceAs (Decidable (_ = _))

namespace Target

/-- The private key, if it is installed, belongs to the domain. -/
def KeyOf (s : Target) (domain : String) : Prop := ∀ name ∈ s.privateKey, SameDomain name domain

/-- The state, if there is one, belongs to the domain. -/
def ManagedOf (s : Target) (domain : String) : Prop :=
  ∀ state ∈ s.managed, SameDomain state.domain domain

/-- The full chain, the private key and the state belong to one domain, those of them that there are. -/
structure Agree (s : Target) : Prop where
  files : ∀ name ∈ s.fullchain, s.KeyOf name
  chain : ∀ name ∈ s.fullchain, s.ManagedOf name
  key : ∀ name ∈ s.privateKey, s.ManagedOf name

instance (s : Target) (domain : String) : Decidable (s.KeyOf domain) :=
  inferInstanceAs (Decidable (∀ name ∈ s.privateKey, _))

instance (s : Target) (domain : String) : Decidable (s.ManagedOf domain) :=
  inferInstanceAs (Decidable (∀ state ∈ s.managed, _))

instance (s : Target) : Decidable s.Agree :=
  decidable_of_iff ((∀ name ∈ s.fullchain, s.KeyOf name) ∧ (∀ name ∈ s.fullchain, s.ManagedOf name) ∧
      ∀ name ∈ s.privateKey, s.ManagedOf name)
    ⟨fun ⟨files, chain, key⟩ => ⟨files, chain, key⟩, fun agree => ⟨agree.files, agree.chain, agree.key⟩⟩

end Target

/-- A step is in order, in the state before it: an installation that has begun fails only where what is
there belongs to its domain already, and a state that was read without the lock is still that of the
domain when the lock is taken. -/
def InOrder (s : Target) : Process → Choice → Prop
  | .lockRequest request, .succeeds => s.ManagedOf request.domain
  | .copyFullchain _ request, .failsLate => s.KeyOf request.domain ∧ s.ManagedOf request.domain
  | .copyPrivateKey _ request, .fails => s.KeyOf request.domain ∧ s.ManagedOf request.domain
  | .copyPrivateKey _ request, .failsLate => s.ManagedOf request.domain
  | .chownTargets _ request, .fails => s.ManagedOf request.domain
  | .writeManagedState request, .fails => s.ManagedOf request.domain
  | _, _ => True

/-- The steps of a run are in order. -/
def Orderly (config : Config Target Process) : Move Process Choice → Prop
  | .arrive _ => True
  | .run index choice => ∀ process ∈ config.threads[index]?, InOrder config.shared process choice

end Agreement

/-! ## The invariant -/

/-- Whether the process has the lock. -/
def Process.holds : Process → ℕ
  | .runHelper | .runRenew | .lockRequest _ | .ended => 0
  | _ => 1

section Invariant

variable [CaseTable] {s s' : Target} {process process' : Process} {choice : Choice}
variable {spawned : List Process} {domain : String}

/-- The full chain belongs to the domain. -/
def Target.ChainOf (s : Target) (domain : String) : Prop :=
  ∀ name ∈ s.fullchain, SameDomain name domain

/-- What `writeManagedState` writes was validated. -/
def Target.Sound (s : Target) : Prop := ∀ state ∈ s.managed, validateDomain state.domain = .ok ()

/-- The domain of the request was validated, and what has been done for it is in its place. -/
def Process.Inside (s : Target) : Process → Prop
  | .readRequest | .readManagedState | .unlock => s.Agree
  | .lockRequest request => validateDomain request.domain = .ok ()
  | .runCertbot helper request | .copyFullchain helper request =>
      validateDomain request.domain = .ok () ∧ s.Agree ∧
        (helper = false → s.ManagedOf request.domain)
  | .copyPrivateKey helper request =>
      validateDomain request.domain = .ok () ∧ s.ChainOf request.domain ∧
        (helper = false → s.ManagedOf request.domain)
  | .chownTargets helper request =>
      validateDomain request.domain = .ok () ∧ s.ChainOf request.domain ∧ s.KeyOf request.domain ∧
        (helper = false → s.ManagedOf request.domain)
  | .writeManagedState request =>
      validateDomain request.domain = .ok () ∧ s.ChainOf request.domain ∧ s.KeyOf request.domain
  | .runHelper | .runRenew | .ended => True

theorem Target.agree_of (chain : s.ChainOf domain) (key : s.KeyOf domain)
    (managed : s.ManagedOf domain) : s.Agree where
  files name present other installed := (key other installed).trans (chain name present).symm
  chain name present state stored := (managed state stored).trans (chain name present).symm
  key name installed state stored := (managed state stored).trans (key name installed).symm

/-- A state that was validated is read as a request for the same domain. -/
theorem managedOf_renewal [AddressTable] {state : ManagedState} (sound : s.Sound)
    (read : s.managed.map ManagedState.check = some (.ok state)) :
    validateDomain state.renewal.domain = .ok () ∧ s.ManagedOf state.renewal.domain := by
  obtain ⟨raw, stored, checked⟩ := Option.map_eq_some_iff.mp read
  obtain ⟨valid, same⟩ := ManagedState.check_ok checked
  refine ⟨valid, fun other found => ?_⟩
  rw [stored] at found
  obtain rfl := Option.some.inj found
  have canonical := canonical_of_validateDomain (sound raw stored)
  rw [ManagedState.renewal, SameDomain, same, canonical.normalizeDomain]

/-- A process without the lock leaves the files alone. -/
theorem Process.Inside.of_outside (outside : process.holds = 0) (inside : process.Inside s) :
    process.Inside s' := by
  cases process with
  | runHelper => trivial
  | runRenew => trivial
  | lockRequest request => exact inside
  | ended => trivial
  | _ => cases outside

theorem Process.Inside.of_locked (inside : process.Inside s) (locked : Bool) :
    process.Inside { s with locked := locked } := by
  have agree (agrees : s.Agree) : Target.Agree { s with locked := locked } :=
    ⟨agrees.files, agrees.chain, agrees.key⟩
  cases process with
  | readRequest => exact agree inside
  | readManagedState => exact agree inside
  | unlock => exact agree inside
  | runCertbot => exact ⟨inside.1, agree inside.2.1, inside.2.2⟩
  | copyFullchain => exact ⟨inside.1, agree inside.2.1, inside.2.2⟩
  | _ => exact inside

/-- What a step does: to the lock, to the files, and to what is known. -/
structure Stepped (s : Target) (process : Process) (s' : Target) (process' : Process) : Prop where
  lock :
    (process'.holds = process.holds ∧ s'.locked = s.locked) ∨
      (process.holds = 0 ∧ process'.holds = 1 ∧ s.locked = false ∧ s'.locked = true) ∨
      (process.holds = 1 ∧ process'.holds = 0 ∧ s'.locked = false)
  outside : process.holds = 0 → s' = { s with locked := s'.locked }
  sound : s'.Sound
  free : s'.locked = false → s'.Agree
  inside : process'.Inside s'

/-- A step between two points behind the lock. -/
theorem Stepped.behind (held : process.holds = 1) (still : process'.holds = 1)
    (locked : s.locked = true) (same : s'.locked = s.locked) (sound : s'.Sound)
    (inside : process'.Inside s') : Stepped s process s' process' := by
  refine ⟨Or.inl ⟨still.trans held.symm, same⟩, fun outside => ?_, sound, fun free => ?_, inside⟩
  · rw [held] at outside
    cases outside
  · rw [same, locked] at free
    cases free

/-- A step in front of the lock. -/
theorem Stepped.before (outside : process.holds = 0) (still : process'.holds = 0) (sound : s.Sound)
    (free : s.locked = false → s.Agree) (inside : process'.Inside s) : Stepped s process s process' :=
  ⟨Or.inl ⟨still.trans outside.symm, rfl⟩, fun _ => rfl, sound, free, inside⟩

/-- The lock is taken, if it is free. -/
theorem Stepped.acquire (outside : process.holds = 0) (held : process'.holds = 1) (sound : s.Sound)
    (unlocked : s.locked = false) (inside : process'.Inside s) :
    Stepped s process { s with locked := true } process' :=
  ⟨Or.inr (Or.inl ⟨outside, held, unlocked, rfl⟩), fun _ => rfl, sound, nofun, inside.of_locked true⟩

theorem Target.Sound.stored {state : ManagedState} (valid : validateDomain state.domain = .ok ()) :
    Target.Sound { s with managed := some state } := by
  intro other found
  rw [← Option.some.inj found]
  exact valid

variable [AddressTable] [Unmarshal]

/-- The steps in front of the lock. -/
theorem stepped_outside (stepped : process.step s choice = some (s', process', spawned))
    (order : InOrder s process choice) (sound : s.Sound) (free : s.locked = false → s.Agree)
    (inside : process.Inside s) (outside : process.holds = 0) :
    spawned = [] ∧ Stepped s process s' process' := by
  cases process with
  | runHelper =>
      cases choice with
      | succeeds =>
          simp only [Process.step] at stepped
          split at stepped <;> cases stepped
          · exact ⟨rfl, .before rfl rfl sound free trivial⟩
          · rename_i unlocked
            rw [Bool.not_eq_true] at unlocked
            exact ⟨rfl, .acquire rfl rfl sound unlocked (free unlocked)⟩
      | fails =>
          cases stepped
          exact ⟨rfl, .before rfl rfl sound free trivial⟩
      | failsLate => cases stepped
      | finds => cases stepped
  | runRenew =>
      cases choice with
      | succeeds =>
          simp only [Process.step] at stepped
          split at stepped <;> cases stepped
          · rename_i state read
            exact ⟨rfl, .before rfl rfl sound free (managedOf_renewal sound read).1⟩
          · exact ⟨rfl, .before rfl rfl sound free trivial⟩
      | fails =>
          cases stepped
          exact ⟨rfl, .before rfl rfl sound free trivial⟩
      | failsLate => cases stepped
      | finds => cases stepped
  | lockRequest request =>
      cases choice with
      | succeeds =>
          simp only [Process.step] at stepped
          split at stepped <;> cases stepped
          · exact ⟨rfl, .before rfl rfl sound free trivial⟩
          · rename_i unlocked
            rw [Bool.not_eq_true] at unlocked
            exact ⟨rfl, .acquire rfl rfl sound unlocked ⟨inside, free unlocked, fun _ => order⟩⟩
      | fails =>
          cases stepped
          exact ⟨rfl, .before rfl rfl sound free trivial⟩
      | failsLate => cases stepped
      | finds => cases stepped
  | ended => cases choice <;> cases stepped
  | _ => cases outside

/-- The steps behind it. -/
theorem stepped_inside (stepped : process.step s choice = some (s', process', spawned))
    (order : InOrder s process choice) (sound : s.Sound) (inside : process.Inside s)
    (locked : s.locked = true) (held : process.holds = 1) :
    spawned = [] ∧ Stepped s process s' process' := by
  cases process with
  | readRequest =>
      cases choice with
      | finds file =>
          simp only [Process.step] at stepped
          split at stepped
          · cases stepped
            exact ⟨rfl, .behind rfl rfl locked rfl sound inside⟩
          · split at stepped
            · cases stepped
              exact ⟨rfl, .behind rfl rfl locked rfl sound inside⟩
            · rename_i valid
              split at stepped <;> cases stepped
              · exact ⟨rfl, .behind rfl rfl locked rfl sound inside⟩
              · rename_i other
                have issue := validateDomain_of_validateRequest valid other
                exact ⟨rfl, .behind rfl rfl locked rfl sound ⟨issue, inside, nofun⟩⟩
      | succeeds => cases stepped
      | fails => cases stepped
      | failsLate => cases stepped
  | readManagedState =>
      cases choice with
      | succeeds =>
          simp only [Process.step] at stepped
          split at stepped <;> cases stepped
          · rename_i state read
            have renewal := managedOf_renewal sound read
            exact ⟨rfl, .behind rfl rfl locked rfl sound ⟨renewal.1, inside, fun _ => renewal.2⟩⟩
          · exact ⟨rfl, .behind rfl rfl locked rfl sound inside⟩
      | fails =>
          cases stepped
          exact ⟨rfl, .behind rfl rfl locked rfl sound inside⟩
      | failsLate => cases stepped
      | finds => cases stepped
  | runCertbot helper request =>
      cases choice with
      | succeeds =>
          cases stepped
          exact ⟨rfl, .behind rfl rfl locked rfl sound inside⟩
      | fails =>
          cases stepped
          exact ⟨rfl, .behind rfl rfl locked rfl sound inside.2.1⟩
      | failsLate => cases stepped
      | finds => cases stepped
  | copyFullchain helper request =>
      obtain ⟨valid, agree, managed⟩ := inside
      have chain : Target.ChainOf { s with fullchain := some request.domain } request.domain := by
        intro name installed
        rw [← Option.some.inj installed]
        exact rfl
      cases choice with
      | succeeds =>
          cases stepped
          exact ⟨rfl, .behind rfl rfl locked rfl sound ⟨valid, chain, managed⟩⟩
      | fails =>
          cases stepped
          exact ⟨rfl, .behind rfl rfl locked rfl sound agree⟩
      | failsLate =>
          cases stepped
          exact ⟨rfl, .behind rfl rfl locked rfl sound (Target.agree_of chain order.1 order.2)⟩
      | finds => cases stepped
  | copyPrivateKey helper request =>
      obtain ⟨valid, chain, managed⟩ := inside
      have key : Target.KeyOf { s with privateKey := some request.domain } request.domain := by
        intro name installed
        rw [← Option.some.inj installed]
        exact rfl
      cases choice with
      | succeeds =>
          cases stepped
          exact ⟨rfl, .behind rfl rfl locked rfl sound ⟨valid, chain, key, managed⟩⟩
      | fails =>
          cases stepped
          exact ⟨rfl, .behind rfl rfl locked rfl sound (Target.agree_of chain order.1 order.2)⟩
      | failsLate =>
          cases stepped
          exact ⟨rfl, .behind rfl rfl locked rfl sound (Target.agree_of chain key order)⟩
      | finds => cases stepped
  | chownTargets helper request =>
      obtain ⟨valid, chain, key, managed⟩ := inside
      cases choice with
      | succeeds =>
          cases helper with
          | true =>
              cases stepped
              exact ⟨rfl, .behind rfl rfl locked rfl sound ⟨valid, chain, key⟩⟩
          | false =>
              cases stepped
              exact ⟨rfl, .behind rfl rfl locked rfl sound (Target.agree_of chain key (managed rfl))⟩
      | fails =>
          cases stepped
          exact ⟨rfl, .behind rfl rfl locked rfl sound (Target.agree_of chain key order)⟩
      | failsLate => cases stepped
      | finds => cases stepped
  | writeManagedState request =>
      obtain ⟨valid, chain, key⟩ := inside
      let written : Target :=
        { s with managed := some { domain := request.domain, email := request.email } }
      have stored : written.Sound := Target.Sound.stored valid
      have managed : written.ManagedOf request.domain := by
        intro state found
        rw [← Option.some.inj found]
        exact rfl
      have agree : written.Agree := Target.agree_of chain key managed
      cases choice with
      | succeeds =>
          cases stepped
          exact ⟨rfl, .behind rfl rfl locked rfl stored agree⟩
      | fails =>
          cases stepped
          exact ⟨rfl, .behind rfl rfl locked rfl sound (Target.agree_of chain key order)⟩
      | failsLate =>
          cases stepped
          exact ⟨rfl, .behind rfl rfl locked rfl stored agree⟩
      | finds => cases stepped
  | unlock =>
      have released : some (({ s with locked := false } : Target), Process.ended, ([] : List Process)) =
          some (s', process', spawned) := by
        cases choice <;> exact stepped
      cases released
      have agree : Target.Agree { s with locked := false } := ⟨inside.files, inside.chain, inside.key⟩
      exact ⟨rfl, Or.inr (Or.inr ⟨rfl, rfl, rfl⟩), nofun, sound, fun _ => agree, trivial⟩
  | _ => cases held

end Invariant

/-! ## Runs -/

section Runs

variable [CaseTable] [AddressTable] [Unmarshal] {config : Config Target Process}

/-- One process has the lock, or none; and what is known in front of the lock and behind it. -/
structure Ordered (config : Config Target Process) : Prop where
  exclusive : config.total Process.holds = if config.shared.locked then 1 else 0
  free : config.shared.locked = false → config.shared.Agree
  sound : config.shared.Sound
  inside : ∀ process ∈ config.threads, process.Inside config.shared

omit [AddressTable] [Unmarshal] in
theorem Ordered.holds_le (ordered : Ordered config) : config.total Process.holds ≤ 1 := by
  rw [ordered.exclusive]
  split <;> omega

omit [AddressTable] [Unmarshal] in
theorem Ordered.locked (ordered : Ordered config) {process : Process}
    (member : process ∈ config.threads) (held : process.holds = 1) : config.shared.locked = true := by
  have counted : process.holds ≤ config.total Process.holds := Config.le_total member
  rw [held, ordered.exclusive] at counted
  by_contra unlocked
  rw [if_neg unlocked] at counted
  omega

omit [CaseTable] [AddressTable] [Unmarshal] in
theorem Process.holds_cases (process : Process) : process.holds = 0 ∨ process.holds = 1 := by
  cases process <;> simp only [holds, true_or, or_true]

theorem Ordered.run (ordered : Ordered config) {index : ℕ} {choice : Choice} {process process' : Process}
    {s' : Target} {spawned : List Process} (present : config.threads[index]? = some process)
    (order : InOrder config.shared process choice)
    (stepped : process.step config.shared choice = some (s', process', spawned)) :
    Ordered { shared := s', threads := config.threads.set index process' ++ spawned } := by
  have member := List.mem_of_getElem? present
  have inside := ordered.inside process member
  obtain ⟨rfl, after⟩ : spawned = [] ∧ Stepped config.shared process s' process' := by
    rcases process.holds_cases with outside | held
    · exact stepped_outside stepped order ordered.sound ordered.free inside outside
    · exact stepped_inside stepped order ordered.sound inside (ordered.locked member held) held
  refine ⟨?_, after.free, after.sound, fun other listed => ?_⟩
  · exact Machine.mutex_run Process.holds Target.locked s' process' [] present ordered.exclusive
      (List.forall_mem_nil _) after.lock
  · rcases Machine.mem_threads_beside Process.holds present listed with rfl | new | ⟨old, beside⟩
    · exact after.inside
    · cases new
    · have before := ordered.inside other old
      rcases process.holds_cases with outside | held
      · rw [after.outside outside]
        exact before.of_locked s'.locked
      · have elsewhere : other.holds = 0 := by
          have most := ordered.holds_le
          omega
        exact before.of_outside elsewhere

/-- **The installed files and the state agree whenever the lock is free**, in a run whose steps are in
order. -/
theorem installed_agree {start : Config Target Process}
    (idle : start.threads = [] ∧ start.shared.locked = false) (agree : start.shared.Agree)
    (sound : start.shared.Sound) (run : machine.Run Orderly start config)
    (free : config.shared.locked = false) : config.shared.Agree := by
  suffices ordered : Ordered config from ordered.free free
  refine run.invariant Ordered ⟨?_, fun _ => agree, sound, ?_⟩ ?_
  · rw [idle.2, Config.total, idle.1]
    rfl
  · rw [idle.1]
    exact List.forall_mem_nil _
  · rintro config next (process | ⟨index, choice⟩) ordered orderly moved
    · obtain ⟨admitted, rfl⟩ := Machine.exec_arrive moved
      have new : process.holds = 0 ∧ process.Inside config.shared := by
        cases process with
        | runHelper => exact ⟨rfl, trivial⟩
        | runRenew => exact ⟨rfl, trivial⟩
        | _ => cases admitted
      refine ⟨?_, ordered.free, ordered.sound, fun other member => ?_⟩
      · rw [Config.total_arrive, new.1]
        exact ordered.exclusive
      · rcases List.mem_append.mp member with old | fresh
        · exact ordered.inside other old
        · rw [List.mem_singleton.mp fresh]
          exact new.2
    · obtain ⟨process, s', process', spawned, present, stepped, rfl⟩ := Machine.exec_run moved
      exact ordered.run present (orderly process present) stepped

end Runs

/-! ## Two domains -/

/-- Nothing is installed. -/
def nothingInstalled : Config Target Process where
  shared := { locked := false, fullchain := none, privateKey := none, managed := none }
  threads := []

/-- Process number `index` takes the next steps, and they succeed. -/
def succeeding (index count : ℕ) : List (Move Process Choice) :=
  List.replicate count (.run index .succeeds)

section Decisions

variable [CaseTable]

instance (s : Target) : ∀ process choice, Decidable (InOrder s process choice)
  | .lockRequest request, .succeeds => inferInstanceAs (Decidable (s.ManagedOf request.domain))
  | .copyFullchain _ request, .failsLate =>
      inferInstanceAs (Decidable (s.KeyOf request.domain ∧ s.ManagedOf request.domain))
  | .copyPrivateKey _ request, .fails =>
      inferInstanceAs (Decidable (s.KeyOf request.domain ∧ s.ManagedOf request.domain))
  | .copyPrivateKey _ request, .failsLate => inferInstanceAs (Decidable (s.ManagedOf request.domain))
  | .chownTargets _ request, .fails => inferInstanceAs (Decidable (s.ManagedOf request.domain))
  | .writeManagedState request, .fails => inferInstanceAs (Decidable (s.ManagedOf request.domain))
  | process, choice => by
      unfold InOrder
      split <;> infer_instance

instance (config : Config Target Process) : ∀ move, Decidable (Orderly config move)
  | .arrive _ => .isTrue trivial
  | .run index choice =>
      inferInstanceAs (Decidable (∀ process ∈ config.threads[index]?, InOrder config.shared process choice))

end Decisions

/-! Any number of processes may have come before; the last one takes its steps. -/

section Last

variable [CaseTable] [AddressTable] [Unmarshal]
variable {allowed : Config Target Process → Move Process Choice → Prop} {start : Config Target Process}
variable {s s' : Target} {process process' : Process} {earlier : List Process} {request : Request}

theorem run_last (weaker : ∀ config move, Orderly config move → allowed config move)
    (reached : machine.Run allowed start ⟨s, earlier ++ [process]⟩) (choice : Choice)
    (order : InOrder s process choice)
    (stepped : process.step s choice = some (s', process', [])) :
    machine.Run allowed start ⟨s', earlier ++ [process']⟩ := by
  have located : (earlier ++ [process])[earlier.length]? = some process := by
    rw [List.getElem?_append_right (Nat.le_refl _), Nat.sub_self]
    rfl
  refine .step reached (weaker _ (.run earlier.length choice) ?_) ?_
  · intro other found
    cases located.symm.trans found
    exact order
  · unfold Machine.exec
    simp only
    rw [located, Option.bind_some]
    show (process.step s choice).map _ = _
    rw [stepped, Option.map_some, List.set_append_right _ _ (Nat.le_refl _), Nat.sub_self,
      List.append_nil]
    rfl

/-- A process that comes when the lock is free and finds a valid request, up to the copy of the private
key. -/
theorem run_issue (weaker : ∀ config move, Orderly config move → allowed config move)
    (reached : machine.Run allowed start ⟨s, earlier⟩) (free : s.locked = false) {file : Bytes}
    (read : readRequest (.ok file) = .ok request) (valid : validateRequest request = .ok ())
    (issue : request.action ≠ "renew") :
    machine.Run allowed start
      ⟨{ s with locked := true, fullchain := some request.domain },
        earlier ++ [.copyPrivateKey true request]⟩ := by
  have came : machine.Run allowed start ⟨s, earlier ++ [.runHelper]⟩ :=
    .step reached (weaker _ (.arrive .runHelper) trivial) rfl
  have locks : Process.step s .runHelper .succeeds = some ({ s with locked := true }, .readRequest, []) := by
    unfold Process.step
    rw [free]
    rfl
  have reads : Process.step { s with locked := true } .readRequest (.finds (.ok file)) =
      some ({ s with locked := true }, .runCertbot true request, []) := by
    simp only [Process.step, read, valid, if_neg issue]
  have locked := run_last weaker came .succeeds trivial locks
  have found := run_last weaker locked (.finds (.ok file)) trivial reads
  have called := run_last weaker found .succeeds trivial rfl
  exact run_last weaker called .succeeds trivial rfl

/-- The rest of the installation. -/
theorem run_install (weaker : ∀ config move, Orderly config move → allowed config move)
    (reached : machine.Run allowed start ⟨s, earlier ++ [.copyPrivateKey true request]⟩) :
    machine.Run allowed start
      ⟨{ s with
          locked := false
          privateKey := some request.domain
          managed := some { domain := request.domain, email := request.email } },
        earlier ++ [.ended]⟩ := by
  have copied := run_last weaker reached .succeeds trivial rfl
  have owned := run_last weaker copied .succeeds trivial rfl
  have written := run_last weaker owned .succeeds trivial rfl
  exact run_last weaker written .succeeds trivial rfl

end Last

/-- The request in `issueFile`. -/
def issueRequest (domain : String) : Request :=
  { action := "issue", domain := domain, email := "admin@example.com", staging := false }

/-- What is stored for it. -/
def issueState (domain : String) : ManagedState :=
  { domain := domain, email := "admin@example.com" }

theorem issueRequest_valid {domain : String}
    (known : domain = "nrynet.example.com" ∨ domain = "www.example.com") :
    let _ := CaseTable.ascii
    let _ := AddressTable.plain
    let _ := Unmarshal.issue
    readRequest (.ok (issueFile domain)) = .ok (issueRequest domain) ∧
      validateRequest (issueRequest domain) = .ok () := by
  intro _ _ _
  rcases known with rfl | rfl
  · exact ⟨by decide +kernel, by decide +kernel⟩
  · exact ⟨by decide +kernel, by decide +kernel⟩

theorem issueState_valid :
    let _ := CaseTable.ascii
    let _ := AddressTable.plain
    (issueState "nrynet.example.com").check = .ok (issueState "nrynet.example.com") := by
  decide +kernel

/-- The first certificate is installed. -/
def firstInstalled : Config Target Process where
  shared :=
    { locked := false
      fullchain := some "nrynet.example.com"
      privateKey := some "nrynet.example.com"
      managed := some (issueState "nrynet.example.com") }
  threads := [.ended]

theorem run_firstInstalled :
    let _ := CaseTable.ascii
    let _ := AddressTable.plain
    let _ := Unmarshal.issue
    machine.Run Orderly nothingInstalled firstInstalled := by
  intro _ _ _
  obtain ⟨read, valid⟩ := issueRequest_valid (Or.inl rfl)
  have came : machine.Run Orderly nothingInstalled ⟨nothingInstalled.shared, []⟩ := .refl
  exact run_install (fun _ _ orderly => orderly)
    (run_issue (fun _ _ orderly => orderly) came rfl read valid (by decide))

/-- A process on the timer has read the state. -/
theorem run_lockRequest :
    let _ := CaseTable.ascii
    let _ := AddressTable.plain
    let _ := Unmarshal.issue
    machine.Run Orderly nothingInstalled
      ⟨firstInstalled.shared, [.ended] ++ [.lockRequest (issueState "nrynet.example.com").renewal]⟩ := by
  intro _ _ _
  have ordered : Orderly firstInstalled (.arrive .runRenew) := trivial
  have arrives : machine.exec firstInstalled (.arrive .runRenew) =
      some ⟨firstInstalled.shared, [.ended] ++ [.runRenew]⟩ := rfl
  have came : machine.Run Orderly nothingInstalled ⟨firstInstalled.shared, [.ended] ++ [.runRenew]⟩ :=
    .step run_firstInstalled ordered arrives
  refine run_last (fun _ _ orderly => orderly) came .succeeds trivial ?_
  have checked : firstInstalled.shared.managed.map ManagedState.check =
      some (.ok (issueState "nrynet.example.com")) := congrArg some issueState_valid
  simp only [Process.step, checked]

/-- A certificate is issued, and a process on the timer renews it. -/
theorem installed_agree_renewed :
    let _ := CaseTable.ascii
    let _ := AddressTable.plain
    let _ := Unmarshal.issue
    ∃ config, machine.Run Orderly nothingInstalled config ∧ config.shared.locked = false ∧
      config.shared.fullchain = some "nrynet.example.com" ∧ config.shared.Agree := by
  intro _ _ _
  have own : firstInstalled.shared.ManagedOf "nrynet.example.com" := by
    intro state stored
    cases stored
    rfl
  have locked := run_last (fun _ _ orderly => orderly) run_lockRequest .succeeds own rfl
  have run := Machine.Run.of_replay locked
    (rfl : machine.replay Orderly _ (succeeding 1 5) = some _)
  have agree : nothingInstalled.shared.Agree := by decide +kernel
  have sound : nothingInstalled.shared.Sound := fun state found =>
    absurd found (Option.not_mem_none state)
  exact ⟨_, run, rfl, rfl, installed_agree ⟨rfl, rfl⟩ agree sound run rfl⟩

/-- A state that was read early is out of date when the lock is taken; or the second of two copies
fails. -/
theorem installed_disagree :
    let _ := CaseTable.ascii
    let _ := AddressTable.plain
    let _ := Unmarshal.issue
    (∃ config, machine.Reachable nothingInstalled config ∧ config.shared.locked = false ∧
        config.shared.fullchain = some "nrynet.example.com" ∧
        config.shared.managed.map ManagedState.domain = some "www.example.com" ∧
        ¬ config.shared.Agree) ∧
      ∃ config, machine.Reachable nothingInstalled config ∧ config.shared.locked = false ∧
        config.shared.fullchain = some "www.example.com" ∧
        config.shared.privateKey = some "nrynet.example.com" ∧ ¬ config.shared.Agree := by
  intro _ _ _
  obtain ⟨read, valid⟩ := issueRequest_valid (Or.inr rfl)
  have apart : ¬ SameDomain "nrynet.example.com" "www.example.com" := by decide +kernel
  constructor
  · have waits := run_lockRequest.mono fun _ _ _ => trivial
    have again := run_install (fun _ _ _ => trivial)
      (run_issue (fun _ _ _ => trivial) waits rfl read valid (by decide))
    have run := Machine.Run.of_replay again
      (rfl : machine.replay (fun _ _ => True) _ (succeeding 1 6) = some _)
    refine ⟨_, run, rfl, rfl, rfl, fun agree => ?_⟩
    exact apart (agree.chain "nrynet.example.com" rfl (issueState "www.example.com") rfl).symm
  · have first := run_firstInstalled.mono fun _ _ _ => trivial
    have copied := run_issue (fun _ _ _ => trivial) first rfl read valid (by decide)
    have run := Machine.Run.of_replay copied
      (rfl : machine.replay (fun _ _ => True) _ [.run 1 .fails, .run 1 .succeeds] = some _)
    refine ⟨_, run, rfl, rfl, rfl, fun agree => ?_⟩
    exact apart (agree.files "www.example.com" rfl "nrynet.example.com" rfl)

end NryNet.Certbot

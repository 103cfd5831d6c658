/-
**Discovery or start of the daemon under the start-up lock.**

Any number of `connect_or_start` calls run on one runtime root. A call takes the lock, looks for a
healthy daemon, spawns one if there is none, polls until it is healthy or the deadline has passed, and
reclaims what it has spawned if it has to give up. What `discover`, `is_healthy`, `spawn` and
`cleanup_failed_spawn` return or raise, and when a spawned daemon becomes healthy, is up to the run.

- `advance`: one step of a call, up to the next thing it waits for.
- `Steady`: a daemon that is healthy is found and stays healthy, and no other is.
- `Sound`: the call that has spawned and has not raised is one, and once it has what it returns, there
  is a healthy daemon from then on.
- `connect_or_start_serial`: so of two calls that have spawned one has raised, every call returns what
  it has found healthy under the lock, and a call that raises has reclaimed exactly what it has spawned.
- `spawns_twice`: a call that raises after spawning makes room for another spawn.
-/

import SerenaLight.Foundation.Run
import Mathlib.Tactic.Common

namespace SerenaLight.Daemon.Startup

open Foundation

/-! ### Calls -/

inductive Fault where
  | value (message : String)
  /-- `DaemonStartupError` -/
  | startup (message : String)
  /-- whatever a callback, a lock or a sleep has raised -/
  | raised
  deriving DecidableEq

/-- Where a call is, with its local variables. -/
inductive Phase (Candidate : Type) where
  | entering
  | opening (deadline : Rat)
  | locking (deadline lockDeadline : Rat)
  | lockSleep (deadline lockDeadline : Rat)
  | discovering (deadline : Rat) (spawned : Option Nat)
  | judging (deadline : Rat) (spawned : Option Nat) (candidate : Candidate)
  | spawning (deadline : Rat)
  | deciding (deadline : Rat) (spawned : Nat)
  | pollSleep (deadline : Rat) (spawned : Nat)
  | cleaning (spawned : Nat) (fault : Fault)
  | releasing (result : Except Fault Candidate)
  | returned (candidate : Candidate)
  | raised (fault : Fault)
  deriving DecidableEq

/-- A call with its arguments. The last three are its history: what it has spawned, what it has called
`cleanup_failed_spawn` on, and what `is_healthy` has told it is healthy, with the holder of the lock at
that moment. -/
structure Call (Candidate : Type) where
  timeoutSeconds : Rat
  pollSeconds : Rat
  cleanupFailedSpawn : Bool
  phase : Phase Candidate
  spawned : Option Nat
  cleaned : List Nat
  confirmed : List (Candidate × Option Nat)
  deriving DecidableEq

/-- What the function that a call waits for does. `caught` is an exception that
`_healthy_candidate` takes for an answer, `fault` any other. -/
inductive Outcome (Candidate : Type) where
  | done
  | found (candidate : Candidate)
  | verdict (healthy : Bool)
  | caught
  | fault

/-- The lock, the calls, and the daemons: `serving` are the healthy ones with what `discover` returns
for them, `reclaimed` those that a clean-up has ended, `handles` how many were spawned. `standing` is
the call that has spawned and has not raised. -/
structure State (Candidate : Type) where
  clock : Rat
  holder : Option Nat
  calls : List (Call Candidate)
  serving : List (Nat × Candidate)
  reclaimed : List Nat
  handles : Nat
  standing : Option Nat

variable {Candidate : Type}

namespace State

def initial : State Candidate := ⟨0, none, [], [], [], 0, none⟩

def put (state : State Candidate) (id : Nat) (call : Call Candidate) : State Candidate :=
  { state with calls := state.calls.set id call }

/-- Some healthy daemon is the candidate. -/
def Serves (state : State Candidate) (candidate : Candidate) : Prop :=
  candidate ∈ state.serving.map (·.2)

end State

namespace Call

def enter (timeoutSeconds pollSeconds : Rat) (cleanupFailedSpawn : Bool) : Call Candidate :=
  ⟨timeoutSeconds, pollSeconds, cleanupFailedSpawn, .entering, none, [], []⟩

def goto (call : Call Candidate) (phase : Phase Candidate) : Call Candidate :=
  { call with phase := phase }

/-- Nothing healthy was found: the call spawns, or looks at its deadline if it already has. -/
def unhealthy (call : Call Candidate) (deadline : Rat) : Option Nat → Call Candidate
  | none => call.goto (.spawning deadline)
  | some handle => call.goto (.deciding deadline handle)

/-- An exception in the `with` block, or inside the `try` after the spawn. -/
def fails (call : Call Candidate) (fault : Fault) : Option Nat → Call Candidate
  | none => call.goto (.releasing (.error fault))
  | some handle => call.goto (.cleaning handle fault)

end Call

/-! ### One step of a call -/

/-- `exclusive_startup_lock`, up to the moment the lock is held. -/
def acquire (state : State Candidate) (id : Nat) (call : Call Candidate) (deadline lockDeadline : Rat) :
    State Candidate :=
  if state.holder = none then
    { state.put id (call.goto (.discovering deadline none)) with holder := some id }
  else if lockDeadline - state.clock ≤ 0 then
    state.put id (call.goto (.raised (.startup "timed out waiting for daemon startup lock")))
  else state.put id (call.goto (.lockSleep deadline lockDeadline))

/-- The end of the `with` block: the lock is released, and the call returns or raises. -/
def release (state : State Candidate) (id : Nat) (call : Call Candidate) :
    Except Fault Candidate → State Candidate
  | .ok candidate =>
    { state.put id (call.goto (.returned candidate)) with holder := none }
  | .error fault =>
    { state.put id (call.goto (.raised fault)) with
      holder := none
      standing := if state.standing = some id then none else state.standing }

/-- `cleanup_failed_spawn(spawned)`, if there is one. It ends the daemon unless it raises itself. -/
def reclaim (state : State Candidate) (id : Nat) (call : Call Candidate) (handle : Nat)
    (fault : Fault) : Outcome Candidate → Option (State Candidate)
  | .done =>
    if call.cleanupFailedSpawn then
      some { state.put id { call.goto (.releasing (.error fault)) with
          cleaned := call.cleaned ++ [handle] } with
        serving := state.serving.filter (·.1 != handle)
        reclaimed := handle :: state.reclaimed }
    else some (state.put id (call.goto (.releasing (.error fault))))
  | .fault =>
    if call.cleanupFailedSpawn then
      some (state.put id { call.goto (.releasing (.error .raised)) with
        cleaned := call.cleaned ++ [handle] })
    else none
  | _ => none

/-- One step of a call: what it waits for has happened, and it goes on to the next such thing. -/
def advance (state : State Candidate) (id : Nat) (call : Call Candidate) (outcome : Outcome Candidate) :
    Option (State Candidate) :=
  match call.phase, outcome with
  | .entering, .done =>
    if call.timeoutSeconds ≤ 0 ∨ call.pollSeconds ≤ 0 then
      some (state.put id (call.goto
        (.raised (.value "startup timeout and poll interval must be positive"))))
    else some (state.put id (call.goto (.opening (state.clock + call.timeoutSeconds))))
  | .opening deadline, .done =>
    some (state.put id (call.goto (.locking deadline (state.clock + call.timeoutSeconds))))
  | .opening _, .fault => some (state.put id (call.goto (.raised .raised)))
  | .locking deadline lockDeadline, .done => some (acquire state id call deadline lockDeadline)
  | .locking _ _, .fault => some (state.put id (call.goto (.raised .raised)))
  | .lockSleep deadline lockDeadline, .done =>
    some (state.put id (call.goto (.locking deadline lockDeadline)))
  | .lockSleep _ _, .fault => some (state.put id (call.goto (.raised .raised)))
  | .discovering deadline spawned, .found candidate =>
    some (state.put id (call.goto (.judging deadline spawned candidate)))
  | .discovering deadline spawned, .caught =>
    some (state.put id (call.unhealthy deadline spawned))
  | .discovering _ spawned, .fault => some (state.put id (call.fails .raised spawned))
  | .judging _ _ candidate, .verdict true =>
    some (state.put id { call.goto (.releasing (.ok candidate)) with
      confirmed := (candidate, state.holder) :: call.confirmed })
  | .judging deadline spawned _, .verdict false =>
    some (state.put id (call.unhealthy deadline spawned))
  | .judging deadline spawned _, .caught =>
    some (state.put id (call.unhealthy deadline spawned))
  | .judging _ spawned _, .fault => some (state.put id (call.fails .raised spawned))
  | .spawning deadline, .done =>
    some { state.put id { call.goto (.discovering deadline (some state.handles)) with
        spawned := some state.handles } with
      handles := state.handles + 1
      standing := some id }
  | .spawning _, .fault => some (state.put id (call.goto (.releasing (.error .raised))))
  | .deciding deadline spawned, .done =>
    if deadline - state.clock ≤ 0 then
      some (state.put id (call.goto (.cleaning spawned
        (.startup "started daemon did not become healthy before timeout"))))
    else some (state.put id (call.goto (.pollSleep deadline spawned)))
  | .pollSleep deadline spawned, .done =>
    some (state.put id (call.goto (.discovering deadline (some spawned))))
  | .pollSleep _ spawned, .fault => some (state.put id (call.goto (.cleaning spawned .raised)))
  | .cleaning spawned fault, outcome => reclaim state id call spawned fault outcome
  | .releasing result, .done => some (release state id call result)
  | _, _ => none

/-- A new call, a step of a call, a daemon that becomes healthy, or time that passes. -/
inductive Label (Candidate : Type) where
  | call (timeoutSeconds pollSeconds : Rat) (cleanupFailedSpawn : Bool)
  | step (id : Nat) (outcome : Outcome Candidate)
  | ready (handle : Nat) (candidate : Candidate)
  | tick (clock : Rat)

def step (state : State Candidate) : Label Candidate → Option (State Candidate)
  | .call timeout poll cleanup =>
    some { state with calls := state.calls ++ [.enter timeout poll cleanup] }
  | .step id outcome =>
    match state.calls[id]? with
    | some call => advance state id call outcome
    | none => none
  | .ready handle candidate =>
    if handle < state.handles ∧ handle ∉ state.reclaimed then
      some { state with serving := (handle, candidate) :: state.serving }
    else none
  | .tick clock => if state.clock ≤ clock then some { state with clock := clock } else none

/-- What a healthy daemon is: once there is one, `discover` finds one, and `is_healthy` tells it. -/
def Answers (state : State Candidate) : Phase Candidate → Outcome Candidate → Prop
  | .discovering _ _, .found candidate => state.serving ≠ [] → state.Serves candidate
  | .discovering _ _, .caught => state.serving = []
  | .judging _ _ candidate, .verdict true => state.Serves candidate
  | .judging _ _ candidate, .verdict false => ¬state.Serves candidate
  | .judging _ _ candidate, .caught => ¬state.Serves candidate
  | _, _ => True

def Steady (state : State Candidate) : Label Candidate → Prop
  | .step id outcome => ∀ call, state.calls[id]? = some call → Answers state call.phase outcome
  | _ => True

/-! ### The invariant -/

/-- The phases inside the `with` block. -/
def Phase.locked : Phase Candidate → Bool
  | .entering | .opening _ | .locking _ _ | .lockSleep _ _ | .returned _ | .raised _ => false
  | _ => true

/-- The call has what it returns. -/
def Phase.succeeds : Phase Candidate → Bool
  | .releasing (.ok _) | .returned _ => true
  | _ => false

def Phase.hasRaised : Phase Candidate → Bool
  | .raised _ => true
  | _ => false

/-- The history of a call is what its phase says. -/
def Recorded (id : Nat) (call : Call Candidate) : Prop :=
  match call.phase with
  | .entering | .opening _ | .locking _ _ | .lockSleep _ _ | .spawning _ =>
    call.spawned = none ∧ call.cleaned = []
  | .discovering _ spawned | .judging _ spawned _ => call.spawned = spawned ∧ call.cleaned = []
  | .deciding _ spawned | .pollSleep _ spawned | .cleaning spawned _ =>
    call.spawned = some spawned ∧ call.cleaned = []
  | .releasing (.ok candidate) | .returned candidate => (candidate, some id) ∈ call.confirmed
  | .releasing (.error _) | .raised _ =>
    call.cleaned = if call.cleanupFailedSpawn then call.spawned.toList else []

/-- What holds of one call. -/
structure Fits (state : State Candidate) (id : Nat) (call : Call Candidate) : Prop where
  locked : call.phase.locked = true → state.holder = some id
  recorded : Recorded id call
  claimed : call.spawned ≠ none → call.phase.hasRaised = true ∨ state.standing = some id
  spawning : ∀ deadline, call.phase = .spawning deadline → state.standing = none
  judged : ∀ deadline candidate, call.phase = .judging deadline none candidate →
    state.standing ≠ none → state.Serves candidate

/-- What holds of the call that has spawned and has not raised. -/
structure Stands (state : State Candidate) (call : Call Candidate) : Prop where
  spawned : call.spawned ≠ none
  unraised : call.phase.hasRaised = false
  served : call.phase.succeeds = true → state.serving ≠ []

structure Sound (state : State Candidate) : Prop where
  calls : ∀ id call, state.calls[id]? = some call → Fits state id call
  standing : ∀ id, state.standing = some id → ∃ call, state.calls[id]? = some call ∧ Stands state call

variable {state after : State Candidate} {id : Nat} {call next : Call Candidate}

theorem Fits.unlocked (recorded : Recorded id call) (unlocked : call.phase.locked = false)
    (claimed : call.spawned ≠ none → call.phase.hasRaised = true ∨ state.standing = some id) :
    Fits state id call where
  locked isLocked := by
    rw [unlocked] at isLocked
    cases isLocked
  recorded := recorded
  claimed := claimed
  spawning deadline eq := by
    rw [eq] at unlocked
    cases unlocked
  judged deadline candidate eq := by
    rw [eq] at unlocked
    cases unlocked

/-- Only the holder of the lock is inside. -/
theorem Fits.outside (fits : Fits state id call) (different : state.holder ≠ some id) :
    call.phase.locked = false := by
  by_contra isLocked
  exact different (fits.locked (by simpa using isLocked))

theorem calls_set (found : state.calls[id]? = some call) {other : Nat} {known : Call Candidate}
    (there : (state.calls.set id next)[other]? = some known) :
    other = id ∧ known = next ∨ other ≠ id ∧ state.calls[other]? = some known := by
  by_cases same : other = id
  · subst same
    rw [List.getElem?_set_self (List.getElem?_eq_some_iff.mp found).1] at there
    exact .inl ⟨rfl, (Option.some.inj there).symm⟩
  · rw [List.getElem?_set_ne (Ne.symm same)] at there
    exact .inr ⟨same, there⟩

/-- **A step that changes nothing but the call.** -/
theorem Sound.put (sound : Sound state) (found : state.calls[id]? = some call)
    (fits : Fits state id next) (stands : state.standing = some id → Stands state next) :
    Sound (state.put id next) where
  calls other known there := by
    rcases calls_set found there with ⟨rfl, rfl⟩ | ⟨-, old⟩
    · exact { fits with }
    · have fits := sound.calls other known old
      exact { fits with }
  standing other isStanding := by
    by_cases same : other = id
    · subst same
      have stands := stands isStanding
      exact ⟨next, List.getElem?_set_self (List.getElem?_eq_some_iff.mp found).1,
        stands.spawned, stands.unraised, stands.served⟩
    · obtain ⟨known, old, stands⟩ := sound.standing other isStanding
      exact ⟨known, (List.getElem?_set_ne (Ne.symm same)).trans old, stands.spawned,
        stands.unraised, stands.served⟩

/-- **A step of the holder of the lock**: the others are outside, and the only thing they depend on is
which call is standing. -/
theorem Sound.update (sound : Sound state) (found : state.calls[id]? = some call)
    (holds : state.holder = some id) (calls : after.calls = state.calls.set id next)
    (fits : Fits after id next)
    (claims : ∀ other, other ≠ id → state.standing = some other → after.standing = some other)
    (standing : ∀ other, other ≠ id → after.standing = some other →
      state.standing = some other ∧ (state.serving ≠ [] → after.serving ≠ []))
    (stands : after.standing = some id → Stands after next) : Sound after where
  calls other known there := by
    rw [calls] at there
    rcases calls_set found there with ⟨rfl, rfl⟩ | ⟨different, old⟩
    · exact fits
    · have others := sound.calls other known old
      refine .unlocked others.recorded (others.outside fun held => different ?_) fun spawned => ?_
      · exact Option.mem_unique held holds
      · exact (others.claimed spawned).imp_right (claims other different)
  standing other isStanding := by
    rw [calls]
    by_cases same : other = id
    · subst same
      exact ⟨next, List.getElem?_set_self (List.getElem?_eq_some_iff.mp found).1, stands isStanding⟩
    · obtain ⟨before, serves⟩ := standing other same isStanding
      obtain ⟨known, old, stands⟩ := sound.standing other before
      exact ⟨known, (List.getElem?_set_ne (Ne.symm same)).trans old, stands.spawned,
        stands.unraised, fun succeeds => serves (stands.served succeeds)⟩

/-- A call that has spawned, has not raised and is not inside has returned. -/
theorem Fits.succeeds (fits : Fits state id call) (stands : Stands state call)
    (outside : call.phase.locked = false) : call.phase.succeeds = true := by
  have recorded := fits.recorded
  have unraised := stands.unraised
  have spawned := stands.spawned
  unfold Recorded at recorded
  cases phase : call.phase <;> rw [phase] at recorded outside unraised <;>
    simp_all [Phase.locked, Phase.hasRaised, Phase.succeeds]

section

variable (sound : Sound state) (found : state.calls[id]? = some call)
include sound found

/-- **Whoever holds the lock and has not spawned finds a healthy daemon, if another call stands.** -/
theorem Sound.serves (holds : state.holder = some id) (unspawned : call.spawned = none)
    (standing : state.standing ≠ none) : state.serving ≠ [] := by
  obtain ⟨other, isStanding⟩ := Option.ne_none_iff_exists'.mp standing
  obtain ⟨known, there, stands⟩ := sound.standing other isStanding
  have different : other ≠ id := by
    rintro rfl
    cases found.symm.trans there
    exact stands.spawned unspawned
  have fits := sound.calls other known there
  refine stands.served (fits.succeeds stands (fits.outside fun held => different ?_))
  exact Option.mem_unique held holds

/-! ### Steps -/

section

variable (unspawned : call.spawned = none)
include unspawned

/-- A call that has not spawned does not stand. -/
theorem Sound.notStanding :
    state.standing ≠ some id := by
  intro isStanding
  obtain ⟨known, there, stands⟩ := sound.standing id isStanding
  cases found.symm.trans there
  exact stands.spawned unspawned

/-- A step outside the lock. -/
theorem Sound.outside {phase : Phase Candidate} (recorded : Recorded id (call.goto phase))
    (unlocked : phase.locked = false) :
    Sound (state.put id (call.goto phase)) :=
  sound.put found (.unlocked recorded unlocked fun spawned => absurd unspawned spawned)
    fun isStanding => absurd isStanding (sound.notStanding found unspawned)

theorem Sound.acquires (uncleaned : call.cleaned = []) (free : state.holder = none)
    (deadline : Rat) :
    Sound { state.put id (call.goto (.discovering deadline none)) with holder := some id } where
  calls other known there := by
    rcases calls_set found there with ⟨rfl, rfl⟩ | ⟨-, old⟩
    · exact ⟨fun _ => rfl, ⟨unspawned, uncleaned⟩, fun spawned => absurd unspawned spawned, nofun,
        nofun⟩
    · have fits := sound.calls other known old
      refine .unlocked fits.recorded (fits.outside fun held => ?_) fits.claimed
      rw [free] at held
      cases held
  standing other isStanding := by
    obtain ⟨known, old, stands⟩ := sound.standing other isStanding
    have different : other ≠ id := fun same =>
      sound.notStanding found unspawned (same ▸ isStanding)
    exact ⟨known, (List.getElem?_set_ne (Ne.symm different)).trans old, stands.spawned,
      stands.unraised, stands.served⟩

end

/-- A step inside the lock that spawns and reclaims nothing. -/
theorem Sound.inside (isLocked : call.phase.locked = true) (recorded : Recorded id next)
    (same : next.spawned = call.spawned) (unraised : next.phase.hasRaised = false)
    (spawning : ∀ deadline, next.phase = .spawning deadline → state.standing = none)
    (judged : ∀ deadline candidate, next.phase = .judging deadline none candidate → state.standing ≠ none → state.Serves candidate)
    (served : next.phase.succeeds = true → state.serving ≠ []) : Sound (state.put id next) := by
  have fits := sound.calls id call found
  refine sound.put found
    ⟨fun _ => fits.locked isLocked, recorded, fun spawned => .inr ?_, spawning, judged⟩
    fun isStanding => ⟨?_, unraised, served⟩
  · rcases fits.claimed (same ▸ spawned) with raised | isStanding
    · cases phase : call.phase <;> rw [phase] at raised isLocked <;>
        simp [Phase.hasRaised, Phase.locked] at raised isLocked
    · exact isStanding
  · obtain ⟨known, there, stands⟩ := sound.standing id isStanding
    cases found.symm.trans there
    rw [same]
    exact stands.spawned

end

variable {spawned : Option Nat} {deadline : Rat} {candidate : Candidate}

section

variable (sound : Sound state) (found : state.calls[id]? = some call)

include sound found

/-- Nothing healthy was found, so nobody else stands. -/
theorem Sound.unhealthy
    (isLocked : call.phase.locked = true) (isSpawned : call.spawned = spawned)
    (uncleaned : call.cleaned = [])
    (nobody : spawned = none → state.standing = none) (deadline : Rat) :
    Sound (state.put id (call.unhealthy deadline spawned)) := by
  cases spawned with
  | none =>
    exact sound.inside found isLocked ⟨isSpawned, uncleaned⟩ rfl rfl (fun _ _ => nobody rfl) nofun
      nofun
  | some handle =>
    exact sound.inside found isLocked ⟨isSpawned, uncleaned⟩ rfl rfl nofun nofun nofun

theorem Sound.fails
    (isLocked : call.phase.locked = true) (isSpawned : call.spawned = spawned)
    (uncleaned : call.cleaned = []) (fault : Fault) :
    Sound (state.put id (call.fails fault spawned)) := by
  cases spawned with
  | none =>
    refine sound.inside found isLocked ?_ rfl rfl nofun nofun nofun
    show call.cleaned = if call.cleanupFailedSpawn then call.spawned.toList else []
    rw [uncleaned, isSpawned]
    exact (ite_self _).symm
  | some handle =>
    exact sound.inside found isLocked ⟨isSpawned, uncleaned⟩ rfl rfl nofun nofun nofun

theorem Sound.spawns
    (phase : call.phase = .spawning deadline) :
    Sound { state.put id { call.goto (.discovering deadline (some state.handles)) with
        spawned := some state.handles } with
      handles := state.handles + 1
      standing := some id } := by
  have fits := sound.calls id call found
  have recorded := fits.recorded
  rw [Recorded, phase] at recorded
  have holds := fits.locked (by rw [phase]; rfl)
  refine sound.update found holds rfl ⟨fun _ => holds, ⟨rfl, recorded.2⟩, fun _ => .inr rfl, nofun,
    nofun⟩ ?_ ?_ fun _ => ⟨nofun, rfl, nofun⟩
  · intro other _ isStanding
    rw [fits.spawning deadline phase] at isStanding
    cases isStanding
  · intro other different isStanding
    exact absurd (Option.some.inj isStanding).symm different

variable {fault : Fault}

/-- The standing call gives up: it is the only one that may take a daemon away. -/
theorem Sound.withdraws (isLocked : call.phase.locked = true)
    (isStanding : state.standing = some id) (calls : after.calls = state.calls.set id next)
    (holder : after.holder = state.holder) (standing : after.standing = state.standing)
    (recorded : Recorded id next) (spawned : next.spawned ≠ none)
    (phase : next.phase = .releasing (.error fault)) :
    Sound after := by
  have holds := (sound.calls id call found).locked isLocked
  have still : after.standing = some id := standing.trans isStanding
  refine sound.update found holds calls
    ⟨fun _ => holder.trans holds, recorded, fun _ => .inr still, ?_, ?_⟩ ?_ ?_
    fun _ => ⟨spawned, by rw [phase]; rfl, by rw [phase]; nofun⟩
  · intro deadline eq
    cases phase.symm.trans eq
  · intro deadline candidate eq
    cases phase.symm.trans eq
  · intro other _ before
    exact standing.trans before
  · intro other different now
    exact absurd (Option.mem_unique still now).symm different

/-- The clean-up is called on the handle of the call, and the call raises. -/
theorem Sound.reclaims {handle : Nat} (phase : call.phase = .cleaning handle fault)
    {outcome : Outcome Candidate}
    (taken : reclaim state id call handle fault outcome = some after) : Sound after := by
  have fits := sound.calls id call found
  have recorded := fits.recorded
  rw [Recorded, phase] at recorded
  have isLocked : call.phase.locked = true := by rw [phase]; rfl
  have spawned : call.spawned ≠ none := by rw [recorded.1]; nofun
  have isStanding : state.standing = some id := by
    rcases fits.claimed spawned with raised | isStanding
    · rw [phase] at raised
      cases raised
    · exact isStanding
  have logs (given : call.cleanupFailedSpawn = true) : call.cleaned ++ [handle] =
      if call.cleanupFailedSpawn then call.spawned.toList else [] := by
    rw [given, recorded.1, recorded.2]
    rfl
  unfold reclaim at taken
  split at taken
  · split at taken
    · rename_i given
      cases taken
      exact sound.withdraws found isLocked isStanding rfl rfl rfl (logs given) spawned rfl
    · rename_i given
      cases taken
      refine sound.withdraws found isLocked isStanding rfl rfl rfl ?_ spawned rfl
      show call.cleaned = if call.cleanupFailedSpawn then call.spawned.toList else []
      rw [if_neg given, recorded.2]
  · obtain ⟨given, ⟨⟩⟩ := Option.ite_none_right_eq_some.mp taken
    exact sound.withdraws found isLocked isStanding rfl rfl rfl (logs given) spawned rfl
  · cases taken

/-- The lock is released; a call that raises stands no more. -/
theorem Sound.releases
    {result : Except Fault Candidate} (phase : call.phase = .releasing result) :
    Sound (release state id call result) := by
  have fits := sound.calls id call found
  have recorded := fits.recorded
  have holds := fits.locked (by rw [phase]; rfl)
  have claimed (spawned : call.spawned ≠ none) : state.standing = some id := by
    rcases fits.claimed spawned with raised | isStanding
    · rw [phase] at raised
      cases raised
    · exact isStanding
  rw [Recorded, phase] at recorded
  cases result with
  | ok candidate =>
    refine sound.update found holds rfl (.unlocked recorded rfl fun spawned => .inr (claimed spawned))
      (fun _ _ before => before) (fun _ _ now => ⟨now, fun serving => serving⟩)
      fun isStanding => ?_
    obtain ⟨known, there, stands⟩ := sound.standing id isStanding
    cases found.symm.trans there
    exact ⟨stands.spawned, rfl, fun _ => stands.served (by rw [phase]; rfl)⟩
  | error fault =>
    refine sound.update found holds rfl (.unlocked recorded rfl fun _ => .inl rfl) ?_ ?_ ?_
    · intro other different before
      have notOurs : state.standing ≠ some id := fun ours =>
        different (Option.mem_unique before ours)
      exact (if_neg notOurs).trans before
    · intro other different now
      have now : (if state.standing = some id then none else state.standing) = some other := now
      obtain ⟨-, now⟩ := Option.ite_none_left_eq_some.mp now
      exact ⟨now, fun serving => serving⟩
    · intro now
      have now : (if state.standing = some id then none else state.standing) = some id := now
      obtain ⟨notOurs, now⟩ := Option.ite_none_left_eq_some.mp now
      exact absurd now notOurs

end

/-- A call that has spawned nothing has nothing to clean up. -/
theorem recorded_raised (unspawned : call.spawned = none) (uncleaned : call.cleaned = [])
    (fault : Fault) : Recorded id (call.goto (.raised fault)) := by
  show call.cleaned = if call.cleanupFailedSpawn then call.spawned.toList else []
  rw [uncleaned, unspawned]
  exact (ite_self _).symm

/-- The lock is taken, waited for, or given up. -/
theorem Sound.acquire (sound : Sound state) (found : state.calls[id]? = some call)
    (unspawned : call.spawned = none) (uncleaned : call.cleaned = []) (deadline lockDeadline : Rat) :
    Sound (acquire state id call deadline lockDeadline) := by
  unfold Startup.acquire
  split
  · rename_i free
    exact sound.acquires found unspawned uncleaned free deadline
  · split
    · exact sound.outside found unspawned (recorded_raised unspawned uncleaned _) rfl
    · exact sound.outside found unspawned ⟨unspawned, uncleaned⟩ rfl

theorem serving_of_serves (serves : state.Serves candidate) :
    state.serving ≠ [] := by
  intro empty
  rw [State.Serves, empty] at serves
  cases serves

section

variable (sound : Sound state)

include sound

section

variable (found : state.calls[id]? = some call)

include found

/-- What `discover` finds is healthy, if another call stands. -/
theorem Sound.discovers (phase : call.phase = .discovering deadline spawned)
    (answers : state.serving ≠ [] → state.Serves candidate) :
    Sound (state.put id (call.goto (.judging deadline spawned candidate))) := by
  have fits := sound.calls id call found
  have recorded := fits.recorded
  rw [Recorded, phase] at recorded
  have isLocked : call.phase.locked = true := by rw [phase]; rfl
  refine sound.inside found isLocked recorded rfl rfl nofun ?_ nofun
  intro later other eq standing
  cases eq
  exact answers (sound.serves found (fits.locked isLocked) recorded.1 standing)

theorem Sound.undiscovered (phase : call.phase = .discovering deadline spawned)
    (empty : state.serving = []) : Sound (state.put id (call.unhealthy deadline spawned)) := by
  have fits := sound.calls id call found
  have recorded := fits.recorded
  rw [Recorded, phase] at recorded
  have isLocked : call.phase.locked = true := by rw [phase]; rfl
  refine sound.unhealthy found isLocked recorded.1 recorded.2 (fun none => ?_) deadline
  by_contra standing
  exact sound.serves found (fits.locked isLocked) (recorded.1.trans none) standing empty

theorem Sound.rejects
    (phase : call.phase = .judging deadline spawned candidate)
    (answers : ¬state.Serves candidate) : Sound (state.put id (call.unhealthy deadline spawned)) := by
  have fits := sound.calls id call found
  have recorded := fits.recorded
  rw [Recorded, phase] at recorded
  have isLocked : call.phase.locked = true := by rw [phase]; rfl
  refine sound.unhealthy found isLocked recorded.1 recorded.2 (fun none => ?_) deadline
  by_contra standing
  exact answers (fits.judged deadline candidate (none ▸ phase) standing)

theorem Sound.confirms
    (phase : call.phase = .judging deadline spawned candidate)
    (answers : state.Serves candidate) :
    Sound (state.put id { call.goto (.releasing (.ok candidate)) with
      confirmed := (candidate, state.holder) :: call.confirmed }) := by
  have fits := sound.calls id call found
  have isLocked : call.phase.locked = true := by rw [phase]; rfl
  refine sound.inside found isLocked ?_ rfl rfl nofun nofun fun _ => serving_of_serves answers
  show (candidate, some id) ∈ (candidate, state.holder) :: call.confirmed
  rw [fits.locked isLocked]
  exact List.mem_cons_self

/-- **One step of a call.** -/
theorem Sound.advance
    {outcome : Outcome Candidate} (answers : Answers state call.phase outcome)
    (taken : Startup.advance state id call outcome = some after) : Sound after := by
  have fits := sound.calls id call found
  have recorded := fits.recorded
  unfold Recorded at recorded
  unfold Startup.advance at taken
  generalize phase : call.phase = place at recorded answers taken
  cases place with
  | entering =>
    cases outcome <;> simp only [reduceCtorEq] at taken
    split at taken <;> cases taken
    · exact sound.outside found recorded.1 (recorded_raised recorded.1 recorded.2 _) rfl
    · exact sound.outside found recorded.1 recorded rfl
  | opening deadline | lockSleep deadline lockDeadline =>
    cases outcome <;> simp only [reduceCtorEq, Option.some.injEq] at taken <;> subst taken
    case done => exact sound.outside found recorded.1 recorded rfl
    case fault =>
      exact sound.outside found recorded.1 (recorded_raised recorded.1 recorded.2 _) rfl
  | locking deadline lockDeadline =>
    cases outcome <;> simp only [reduceCtorEq, Option.some.injEq] at taken <;> subst taken
    case done => exact sound.acquire found recorded.1 recorded.2 deadline lockDeadline
    case fault =>
      exact sound.outside found recorded.1 (recorded_raised recorded.1 recorded.2 _) rfl
  | discovering deadline spawned =>
    cases outcome <;> simp only [reduceCtorEq, Option.some.injEq] at taken <;> subst taken
    case found candidate => exact sound.discovers found phase answers
    case caught => exact sound.undiscovered found phase answers
    case fault => exact sound.fails found (by rw [phase]; rfl) recorded.1 recorded.2 _
  | judging deadline spawned candidate =>
    cases outcome with
    | verdict healthy =>
      cases healthy <;> simp only [Option.some.injEq] at taken <;> subst taken
      case false => exact sound.rejects found phase answers
      case true => exact sound.confirms found phase answers
    | caught =>
      cases taken
      exact sound.rejects found phase answers
    | fault =>
      cases taken
      exact sound.fails found (by rw [phase]; rfl) recorded.1 recorded.2 _
    | done | found other => simp only [reduceCtorEq] at taken
  | spawning deadline =>
    cases outcome <;> simp only [reduceCtorEq, Option.some.injEq] at taken <;> subst taken
    case done => exact sound.spawns found phase
    case fault => exact sound.fails found (by rw [phase]; rfl) recorded.1 recorded.2 _
  | deciding deadline spawned =>
    cases outcome <;> simp only [reduceCtorEq] at taken
    split at taken <;> cases taken
    · exact sound.inside found (by rw [phase]; rfl) recorded rfl rfl nofun nofun nofun
    · exact sound.inside found (by rw [phase]; rfl) recorded rfl rfl nofun nofun nofun
  | pollSleep deadline spawned =>
    cases outcome <;> simp only [reduceCtorEq, Option.some.injEq] at taken <;> subst taken
    case done => exact sound.inside found (by rw [phase]; rfl) recorded rfl rfl nofun nofun nofun
    case fault => exact sound.inside found (by rw [phase]; rfl) recorded rfl rfl nofun nofun nofun
  | cleaning spawned fault =>
    exact sound.reclaims found phase taken
  | releasing result =>
    cases outcome <;> simp only [reduceCtorEq, Option.some.injEq] at taken
    subst taken
    exact sound.releases found phase
  | returned candidate | raised fault => cases outcome <;> simp only [reduceCtorEq] at taken

end

theorem sound_step {label : Label Candidate} (steady : Steady state label)
    (taken : step state label = some after) : Sound after := by
  cases label with
  | call timeout poll cleanup =>
    cases taken
    refine ⟨fun id call there => ?_, fun id isStanding => ?_⟩
    · have there : (state.calls ++ [.enter timeout poll cleanup])[id]? = some call := there
      by_cases known : id < state.calls.length
      · rw [List.getElem?_append_left known] at there
        have fits := sound.calls id call there
        exact { fits with }
      · rw [List.getElem?_append_right (by omega), List.getElem?_singleton] at there
        obtain ⟨-, ⟨⟩⟩ := Option.ite_none_right_eq_some.mp there
        exact .unlocked ⟨rfl, rfl⟩ rfl fun spawned => absurd rfl spawned
    · obtain ⟨call, there, stands⟩ := sound.standing id isStanding
      have bound := (List.getElem?_eq_some_iff.mp there).1
      exact ⟨call, (List.getElem?_append_left bound).trans there, stands.spawned,
        stands.unraised, stands.served⟩
  | step id outcome =>
    simp only [step] at taken
    split at taken
    · rename_i call found
      exact sound.advance found (steady call found) taken
    · cases taken
  | ready handle candidate =>
    obtain ⟨-, ⟨⟩⟩ := Option.ite_none_right_eq_some.mp taken
    refine ⟨fun id call there => ?_, fun id isStanding => ?_⟩
    · have fits := sound.calls id call there
      refine ⟨fits.locked, fits.recorded, fits.claimed, fits.spawning, fun deadline other eq standing => ?_⟩
      exact List.mem_cons_of_mem _ (fits.judged deadline other eq standing)
    · obtain ⟨call, there, stands⟩ := sound.standing id isStanding
      exact ⟨call, there, stands.spawned, stands.unraised, fun _ => List.cons_ne_nil _ _⟩
  | tick clock =>
    obtain ⟨-, ⟨⟩⟩ := Option.ite_none_right_eq_some.mp taken
    refine ⟨fun id call there => ?_, fun id isStanding => ?_⟩
    · have fits := sound.calls id call there
      exact { fits with }
    · obtain ⟨call, there, stands⟩ := sound.standing id isStanding
      exact ⟨call, there, stands.spawned, stands.unraised, stands.served⟩

end

theorem sound_initial : Sound (State.initial : State Candidate) :=
  ⟨nofun, nofun⟩

theorem sound_reached (reached : Reaches step Steady State.initial state) : Sound state :=
  reached.invariant sound_initial fun _ _ _ sound steady taken => sound_step sound steady taken

/-- **Concurrent calls of `connect_or_start`.** Of two calls that have spawned one has raised; a call
returns only what `is_healthy` has told it under the lock; and a call that has raised has called its
clean-up once on what it has spawned, and on nothing else. -/
theorem connect_or_start_serial (reached : Reaches step Steady State.initial state) :
    (∀ (first second : Nat) (one two : Call Candidate), first ≠ second →
      state.calls[first]? = some one → state.calls[second]? = some two → one.spawned ≠ none →
      two.spawned ≠ none → one.phase.hasRaised = true ∨ two.phase.hasRaised = true) ∧
    (∀ (id : Nat) (call : Call Candidate) (candidate : Candidate), state.calls[id]? = some call →
      call.phase = .returned candidate → (candidate, some id) ∈ call.confirmed) ∧
    (∀ (id : Nat) (call : Call Candidate) (fault : Fault), state.calls[id]? = some call →
      call.phase = .raised fault →
        call.cleaned = if call.cleanupFailedSpawn then call.spawned.toList else []) := by
  have sound := sound_reached reached
  refine ⟨?_, ?_, ?_⟩
  · intro first second one two different isFirst isSecond spawnsFirst spawnsSecond
    rcases (sound.calls first one isFirst).claimed spawnsFirst with raised | standsFirst
    · exact .inl raised
    · rcases (sound.calls second two isSecond).claimed spawnsSecond with raised | standsSecond
      · exact .inr raised
      · exact absurd (Option.mem_unique standsFirst standsSecond) different
  · intro id call candidate there phase
    have recorded := (sound.calls id call there).recorded
    rw [Recorded, phase] at recorded
    exact recorded
  · intro id call fault there phase
    have recorded := (sound.calls id call there).recorded
    rw [Recorded, phase] at recorded
    exact recorded

/-! ### Runs -/

/-- `Steady`, as a test. -/
def steadyStep (state : State Nat) : Label Nat → Bool
  | .step id outcome =>
    match state.calls[id]? with
    | some call =>
      match call.phase, outcome with
      | .discovering _ _, .found candidate =>
        state.serving.isEmpty || (state.serving.map (·.2)).contains candidate
      | .discovering _ _, .caught => state.serving.isEmpty
      | .judging _ _ candidate, .verdict true => (state.serving.map (·.2)).contains candidate
      | .judging _ _ candidate, .verdict false => !(state.serving.map (·.2)).contains candidate
      | .judging _ _ candidate, .caught => !(state.serving.map (·.2)).contains candidate
      | _, _ => true
    | none => true
  | _ => true

theorem steady_of_steadyStep {state : State Nat} {label : Label Nat}
    (checked : steadyStep state label = true) : Steady state label := by
  cases label with
  | step id outcome =>
    intro call found
    simp only [steadyStep, found] at checked
    cases phase : call.phase <;> rw [phase] at checked <;> cases outcome <;>
      simp_all [Answers, State.Serves]
    case judging.verdict healthy => cases healthy <;> simpa using checked
    case discovering.found => grind
  | call timeout poll cleanup | ready handle candidate | tick clock => trivial

def steps (id : Nat) (outcomes : List (Outcome Nat)) : List (Label Nat) :=
  outcomes.map (.step id)

/-- A call spawns while another one waits for the lock, and both return the daemon that was spawned. -/
theorem connect_or_start_serial_pair : ∃ (state : State Nat) (one two : Call Nat),
    Reaches step Steady State.initial state ∧ state.calls[0]? = some one ∧
      state.calls[1]? = some two ∧ one.phase = .returned 7 ∧ two.phase = .returned 7 ∧
        one.spawned = some 0 ∧ two.spawned = none ∧ (7, some 0) ∈ one.confirmed ∧
          (7, some 1) ∈ two.confirmed := by
  obtain ⟨state, reached, calls⟩ := Reaches.of_run step
    (fun state label => steadyStep state label = true) State.initial
    ([.call 1 1 true, .call 1 1 true] ++ steps 0 [.done, .done, .done, .caught] ++
      steps 1 [.done, .done, .done] ++ steps 0 [.done, .caught, .done] ++ [.ready 0 7] ++
      steps 0 [.done, .found 7, .verdict true, .done] ++
      steps 1 [.done, .done, .found 7, .verdict true, .done])
    (fun state => state.calls = [⟨1, 1, true, .returned 7, some 0, [], [(7, some 0)]⟩,
      ⟨1, 1, true, .returned 7, none, [], [(7, some 1)]⟩]) (by decide +kernel)
  have reached := reached.mono fun _ _ checked => steady_of_steadyStep checked
  have isOne := congrArg (fun calls : List (Call Nat) => calls[0]?) calls
  have isTwo := congrArg (fun calls : List (Call Nat) => calls[1]?) calls
  obtain ⟨-, confirmed, -⟩ := connect_or_start_serial reached
  exact ⟨state, _, _, reached, isOne, isTwo, rfl, rfl, rfl, rfl, confirmed 0 _ 7 isOne rfl,
    confirmed 1 _ 7 isTwo rfl⟩

/-- **Two calls spawn**: the first one is interrupted after its spawn and raises, its clean-up fails,
and the second one finds nothing healthy yet. Both daemons are healthy before any time has passed. -/
theorem spawns_twice : ∃ (state : State Nat) (one two : Call Nat),
    Reaches step Steady State.initial state ∧ state.calls[0]? = some one ∧
      state.calls[1]? = some two ∧ one.spawned = some 0 ∧ two.spawned = some 1 ∧
        state.serving = [(1, 8), (0, 7)] ∧ state.clock = 0 := by
  obtain ⟨state, reached, calls, serving, clock⟩ := Reaches.of_run step
    (fun state label => steadyStep state label = true) State.initial
    ([.call 1 1 true, .call 1 1 true] ++
      steps 0 [.done, .done, .done, .caught, .done, .fault, .fault, .done] ++
      steps 1 [.done, .done, .done, .caught, .done] ++ [.ready 0 7, .ready 1 8])
    (fun state => state.calls = [⟨1, 1, true, .raised .raised, some 0, [0], []⟩,
      ⟨1, 1, true, .discovering 1 (some 1), some 1, [], []⟩] ∧
        state.serving = [(1, 8), (0, 7)] ∧ state.clock = 0) (by decide +kernel)
  have isOne := congrArg (fun calls : List (Call Nat) => calls[0]?) calls
  have isTwo := congrArg (fun calls : List (Call Nat) => calls[1]?) calls
  exact ⟨state, _, _, reached.mono fun _ _ checked => steady_of_steadyStep checked, isOne, isTwo,
    rfl, rfl, serving, clock⟩

end SerenaLight.Daemon.Startup

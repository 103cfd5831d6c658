/-
**What one step of an adapter can do.**

* `Move`: the steps of the adapter, one constructor for a branch of the code, with what the branch
  knows about the state before.
* `move_of_step`: the steps are moves. The facts about whole runs use this and not the step function.
-/

import SerenaLight.Lsp.Adapter

namespace SerenaLight.Lsp.Adapter

open Foundation

variable {Time : Type} [LinearOrder Time] [Add Time] [Sub Time]

/-! ### What one step can do -/

/-- The steps, one constructor for a branch of the code. -/
inductive Move (policy : CrashPolicy Time) (before : System Time) : Label Time → System Time → Prop
  | tick {now : Time} (later : before.clock ≤ now) :
      Move policy before (.tick now) { before with clock := now }
  | submitted {work : Work} {direct : Bool} :
      Move policy before (.submit work direct) (before.enqueue (.ordinary work direct))
  | submittedForeign {cleanup : Bool} :
      Move policy before (.submitForeign cleanup) (before.enqueue (.foreign cleanup))
  | standing {admitted : Bool} {future : Nat} (found : before.standingStop = some future) :
      Move policy before (.requestStop admitted) before
  | stopRejected (absent : before.standingStop = none) :
      Move policy before (.requestStop false) before.sealAdmission
  | stopSubmitted (absent : before.standingStop = none) :
      Move policy before (.requestStop true) before.submitStop
  | cancelled {future : Nat} {status : Future Unit Unit}
      (found : before.futures[future]? = some status) :
      Move policy before (.cancel future) (before.cancelFuture future status)
  | closed : Move policy before .closeExecutor before.closeExecutor
  | dropped {entry : Entry} {future : Nat} {rest : List (Entry × Nat)} (at_ : before.worker = .idle)
      (head : before.queue = (entry, future) :: rest) :
      Move policy before .next { before with queue := rest }
  | taken {entry : Entry} {future : Nat} {rest : List (Entry × Nat)} (at_ : before.worker = .idle)
      (head : before.queue = (entry, future) :: rest)
      (pending : before.futures[future]? = some .pending) :
      Move policy before .next (before.take entry future rest)
  | notAdmitted {work : Work} (at_ : before.worker = .admitting work) :
      Move policy before .passSeal (before.finish false)
  | admitted {work : Work} (at_ : before.worker = .admitting work)
      (unsealed : before.adapter.admissionSealed = false) :
      Move policy before .passSeal (before.goto (.ensuring work))
  | refused {lost : Bool} {work : Work} (at_ : before.worker = .ensuring work) :
      Move policy before (.ensure lost) (before.finish false)
  | cooling {lost : Bool} {work : Work} (at_ : before.worker = .ensuring work) :
      Move policy before (.ensure lost)
        ((before.withAdapter (before.adapter.refreshCooldown before.clock)).finish false)
  | running {lost : Bool} {work : Work} (at_ : before.worker = .ensuring work)
      (unsealed : before.adapter.admissionSealed = false)
      (found : (before.adapter.refreshCooldown before.clock).runtime.isSome = true) :
      Move policy before (.ensure lost)
        ((before.withAdapter (before.adapter.refreshCooldown before.clock)).proceed work)
  | prepared {lost : Bool} {work : Work} (at_ : before.worker = .ensuring work)
      (unsealed : before.adapter.admissionSealed = false)
      (warm : (before.adapter.refreshCooldown before.clock).phase ≠ .cooldown) :
      Move policy before (.ensure lost)
        ((before.withAdapter (before.adapter.refreshCooldown before.clock).prepareLaunch).goto
          (Place.toLaunch work (before.adapter.refreshCooldown before.clock).runtime))
  | replaceRaised {old : Nat} {work : Work} (at_ : before.worker = .replacing old work) :
      Move policy before (.replaced true) (before.finish false)
  | replaced {old : Nat} {work : Work} (at_ : before.worker = .replacing old work) :
      Move policy before (.replaced false) ((before.bury old).goto (.launching work))
  | launched {work : Work} (at_ : before.worker = .launching work) :
      Move policy before .launch (before.callStart.goto (.booting work))
  | bootRaised {work : Work} (at_ : before.worker = .booting work) :
      Move policy before (.booted true) (before.goto .abandoning)
  | booted {work : Work} (at_ : before.worker = .booting work) :
      Move policy before (.booted false) (before.installRuntime.goto (.initializing work))
  | initializeRaised {work : Work} (at_ : before.worker = .initializing work) :
      Move policy before (.initialized true) (before.goto .abandoning)
  | initialized {work : Work} (at_ : before.worker = .initializing work) :
      Move policy before (.initialized false) (before.proceed work)
  | abandoned {failed : Nat} (at_ : before.worker = .abandoning)
      (found : before.adapter.runtime = some failed) :
      Move policy before .abandon
        ((before.withAdapter { before.adapter with runtime := none }).goto (.discarding failed))
  | abandonedNothing (at_ : before.worker = .abandoning) (found : before.adapter.runtime = none) :
      Move policy before .abandon
        ((before.withAdapter { before.adapter with runtime := none }).goto
          (.reporting before.clock))
  | discardRaised {failed : Nat} (at_ : before.worker = .discarding failed) :
      Move policy before (.discarded true) (before.finish false)
  | discarded {failed : Nat} (at_ : before.worker = .discarding failed) :
      Move policy before (.discarded false)
        ((before.bury failed).goto (.reporting before.clock))
  | reported {since now : Time} (at_ : before.worker = .reporting since)
      (read : now ≤ before.clock) :
      Move policy before (.report now)
        ((before.crash policy before.adapter.runtimeToken now).finish false)
  | operated {work : Work} {outcome : Outcome} {succeeded : Bool}
      (at_ : before.worker = .operating work) :
      Move policy before (.operated outcome) (before.finish succeeded)
  | transportLost {attempts : Nat} (at_ : before.worker = .operating (.execute attempts)) :
      Move policy before (.operated .transportClosed)
        (before.goto (.losing attempts before.clock))
  | touched {work : Work} {documents : List Nat} (at_ : before.worker = .operating work) :
      Move policy before (.touch documents)
        (before.withAdapter { before.adapter with openDocuments := documents })
  | lostLast {attempts : Nat} {since now : Time} (at_ : before.worker = .losing attempts since)
      (read : now ≤ before.clock) :
      Move policy before (.lose now)
        ((before.crash policy before.adapter.runtimeToken now).finish false)
  | lost {attempts : Nat} {since now : Time} (at_ : before.worker = .losing attempts since)
      (read : now ≤ before.clock) :
      Move policy before (.lose now)
        ((before.crash policy before.adapter.runtimeToken now).goto (.restarting (attempts - 1)))
  | restartCooling {attempts : Nat} (at_ : before.worker = .restarting attempts) :
      Move policy before .restart
        ((before.withAdapter (before.adapter.refreshCooldown before.clock)).finish false)
  | restarted {attempts : Nat} (at_ : before.worker = .restarting attempts)
      (warm : (before.adapter.refreshCooldown before.clock).phase ≠ .cooldown) :
      Move policy before .restart
        ((before.withAdapter { before.adapter.refreshCooldown before.clock with
          runtime := none
          phase := .starting }).goto
          (Place.toRetire attempts (before.adapter.refreshCooldown before.clock).runtime))
  | retireRaised {old attempts : Nat} (at_ : before.worker = .retiring old attempts) :
      Move policy before (.retired true) (before.finish false)
  | retired {old attempts : Nat} (at_ : before.worker = .retiring old attempts) :
      Move policy before (.retired false) ((before.bury old).goto (.ensuring (.retry attempts)))
  | warmBegun (at_ : before.worker = .warmGate) (warmable : before.adapter.warmable = true) :
      Move policy before .warm ((before.setPhase .globalWarming).goto .warming)
  | warmRefused (at_ : before.worker = .warmGate) : Move policy before .warm (before.finish false)
  | warmRaised (at_ : before.worker = .warming) :
      Move policy before (.warmed .raised) (before.finish false)
  | warmReported {report : WarmReport} {phase : Phase} {succeeded : Bool}
      (at_ : before.worker = .warming) (reports : report ≠ .raised)
      (other : phase ≠ .cooldown ∧ phase ≠ .cold) :
      Move policy before (.warmed report) ((before.setPhase phase).finish succeeded)
  | stopNothing (at_ : before.worker = .stopping) (absent : before.adapter.runtime = none)
      (cold : before.adapter.phase = .cold) :
      Move policy before .beginStop (before.finish true)
  | stopBegun (at_ : before.worker = .stopping)
      (something : ¬(before.adapter.runtime = none ∧ before.adapter.phase = .cold)) :
      Move policy before .beginStop
        ((before.withAdapter { before.adapter with phase := .stopping, openDocuments := [] }).goto
          (Place.toStop before.adapter.runtime))
  | terminateRaised {runtime : Nat} (at_ : before.worker = .terminating runtime) :
      Move policy before (.terminated true) (before.finish false)
  | terminated {runtime : Nat} (at_ : before.worker = .terminating runtime) :
      Move policy before (.terminated false) ((before.bury runtime).goto (.ending (some runtime)))
  | ended {runtime : Option Nat} (at_ : before.worker = .ending runtime) :
      Move policy before .endStop
        ((before.withAdapter (before.adapter.endStop runtime)).finish true)
  | foreignDone (at_ : before.worker = .foreign) :
      Move policy before .foreignDone (before.finish true)
  | terminal {token : Nat} :
      Move policy before (.terminal token)
        { before with callbacks := before.callbacks ++ [(token, before.clock)] }
  | recorded {token : Nat} {since now : Time} (read : now ≤ before.clock) :
      Move policy before (.record token since now)
        ({ before with callbacks := before.callbacks.erase (token, since) }.crash policy token now)
  | documentReady :
      Move policy before .documentReady (before.withAdapter before.adapter.markDocumentReady)
  | snapshot {stale : Bool} :
      Move policy before (.snapshot stale)
        (before.withAdapter (before.adapter.snapshot before.clock stale))
  | waitGlobal {result : LanguageAdapter.Readiness} :
      Move policy before (.waitGlobal result)
        (before.withAdapter (before.adapter.waitForGlobal result))

/-- **The steps are moves.** -/
theorem move_of_step {policy : CrashPolicy Time} {capacity : Nat} {before after : System Time}
    {label : Label Time} (taken : step policy capacity before label = some after) :
    Move policy before label after := by
  cases label with
  | ensure lost =>
    simp only [step] at taken
    split at taken
    · rename_i work at_
      unfold LanguageAdapter.ensureStarted at taken
      by_cases isSealed : before.adapter.admissionSealed = true
      · simp only [isSealed, if_true] at taken
        cases taken
        exact .refused at_
      · have unsealed := (Bool.not_eq_true _).mp isSealed
        simp only [unsealed, Bool.false_eq_true, if_false] at taken
        by_cases cool : (before.adapter.refreshCooldown before.clock).phase = .cooldown
        · simp only [cool, if_true] at taken
          cases taken
          exact .cooling at_
        · simp only [cool, if_false] at taken
          split_ifs at taken with found
          · cases taken
            exact .cooling at_
          · cases taken
            exact .running at_ unsealed found.1
          · cases taken
            exact .prepared at_ unsealed cool
    · cases taken
  | beginStop =>
    simp only [step] at taken
    split at taken
    · rename_i at_
      unfold LanguageAdapter.beginStop at taken
      by_cases nothing : before.adapter.runtime = none ∧ before.adapter.phase = .cold
      · simp only [nothing, and_self, if_true] at taken
        cases taken
        exact .stopNothing at_ nothing.1 nothing.2
      · simp only [nothing, if_false] at taken
        cases taken
        exact .stopBegun at_ nothing
    · cases taken
  | closeExecutor | documentReady | snapshot | waitGlobal =>
    cases taken
    constructor
  -- one check, of the clock, of the executor or of what has been started
  | tick | submit | submitForeign | cancel | terminal =>
    simp only [step] at taken
    split at taken
    · cases taken
      first | exact .tick ‹_› | exact .cancelled ‹_› | constructor
    · cases taken
  | requestStop admitted =>
    simp only [step] at taken
    split at taken
    · cases taken
      unfold System.requestStop
      cases standing : before.standingStop with
      | some future => exact .standing standing
      | none =>
        cases admitted with
        | true => exact .stopSubmitted standing
        | false => exact .stopRejected standing
    · cases taken
  | next =>
    simp only [step] at taken
    split at taken
    · rename_i at_ head
      split at taken
      · cases taken
        exact .taken at_ head ‹_›
      · cases taken
        exact .dropped at_ head
    · cases taken
  | passSeal =>
    simp only [step] at taken
    split at taken
    · rename_i at_
      split at taken
      · cases taken
        exact .notAdmitted at_
      · rename_i unsealed
        cases taken
        exact .admitted at_ ((Bool.not_eq_true _).mp unsealed)
    · cases taken
  -- the provider has returned or raised
  | replaced raised | booted raised | initialized raised | discarded raised | retired raised
    | terminated raised =>
      simp only [step] at taken
      split at taken
      · rename_i at_
        cases raised
        all_goals
          cases taken
          constructor
          exact at_
      · cases taken
  | launch | touch | endStop | foreignDone =>
    simp only [step] at taken
    split at taken
    · rename_i at_
      cases taken
      constructor
      exact at_
    · cases taken
  | abandon =>
    simp only [step] at taken
    split at taken
    · rename_i at_
      split at taken
      · cases taken
        exact .abandoned at_ ‹_›
      · cases taken
        exact .abandonedNothing at_ ‹_›
    · cases taken
  | report now =>
    simp only [step] at taken
    split at taken
    · rename_i at_
      split at taken
      · rename_i read
        cases taken
        exact .reported at_ read.2
      · cases taken
    · cases taken
  | operated outcome =>
    simp only [step] at taken
    split at taken
    · cases taken
      exact .operated ‹_›
    · cases taken
      exact .transportLost ‹_›
    · cases taken
      exact .operated ‹_›
    · cases taken
  | lose now =>
    simp only [step] at taken
    split at taken
    · rename_i at_
      split at taken
      · rename_i read
        split at taken
        · cases taken
          exact .lostLast at_ read.2
        · cases taken
          exact .lost at_ read.2
      · cases taken
    · cases taken
  | restart =>
    simp only [step] at taken
    split at taken
    · rename_i attempts at_
      unfold LanguageAdapter.beginRestart at taken
      by_cases cool : (before.adapter.refreshCooldown before.clock).phase = .cooldown
      · simp only [cool, if_true] at taken
        cases taken
        exact .restartCooling at_
      · simp only [cool, if_false] at taken
        cases taken
        exact .restarted at_ cool
    · cases taken
  | warm =>
    simp only [step] at taken
    split at taken
    · rename_i at_
      split at taken
      · cases taken
        exact .warmBegun at_ ‹_›
      · cases taken
        exact .warmRefused at_
    · cases taken
  | warmed report =>
    simp only [step] at taken
    split at taken
    · rename_i at_
      cases report with
      | raised =>
        cases taken
        exact .warmRaised at_
      | missing | current | stale =>
        cases taken
        exact .warmReported at_ nofun ⟨nofun, nofun⟩
    · cases taken
  | record token since now =>
    simp only [step] at taken
    split at taken
    · rename_i read
      cases taken
      exact .recorded read.2.2
    · cases taken

end SerenaLight.Lsp.Adapter

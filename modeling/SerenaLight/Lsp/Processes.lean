/-
**The processes of a language server, and how they are stopped** (`processes.py`, and
`SubprocessAdapterRuntimeProvider.stop` of `lsp/adapter.py`).

A server is launched as the leader of a session and of a process group of its own. Its descendants are
in that group until they leave it.

- `Scene`: the process table, the thread that observes the leader, and the place of `stop` in
  `terminate_process_tree_with_kill_fallback` and the functions that it calls.
- `step`: one step of `stop`, of the observer, or of a process. A process may react to a request or a
  signal as it likes, but for SIGKILL. A scan of the table lists the processes first and examines them
  one by one.
- `stop_leaves_none`: `stop` returns when no process of the group is alive, if the leader is still there
  when `stop` looks for it, and no process enters the group while the table is scanned.
- `descendants_survive`: otherwise processes of the group may survive.
-/

import SerenaLight.Foundation.Dict
import SerenaLight.Foundation.Run

namespace SerenaLight.Lsp.Processes

open Foundation

/-! ### Processes -/

inductive Status where
  | running
  | zombie
  deriving DecidableEq, Repr

/-- A process: whether it is in the group that the server was launched in, and whether a SIGKILL is on
its way to it. -/
structure Process where
  status : Status
  member : Bool
  doomed : Bool
  deriving DecidableEq, Repr

/-- The thread of `observe_process`. It holds the lock of `Popen` while it waits for the leader, and
until it has set `returncode`. -/
inductive Observer where
  | starting
  | waiting
  | reaped
  | done
  deriving DecidableEq, Repr

/-- The two rounds of `terminate_process_tree_with_kill_fallback`. -/
inductive Stage where
  | terminate
  | kill
  deriving DecidableEq, Repr

/-- Where `stop` is. `group` tells whether `process_group` is known. -/
inductive Place where
  /-- `client.shutdown` -/
  | shutdown
  /-- `process.poll()` of `stop` -/
  | check
  /-- the first `_owned_process_group` -/
  | ownedProcessGroup
  /-- `process.poll()` of the debug message -/
  | report (group : Bool)
  /-- `_signal_process_tree` -/
  | signalProcessTree (stage : Stage) (group : Bool)
  /-- the loop of `_wait_for_exit` -/
  | waitForExit (stage : Stage) (group : Bool)
  /-- `_process_group_has_live_members`, with the candidates that are left -/
  | scan (stage : Stage) (candidates : List Nat)
  /-- the candidate is no zombie; its group comes next -/
  | examine (stage : Stage) (candidate : Nat) (candidates : List Nat)
  /-- the group, or the leader, is still there -/
  | survived (stage : Stage) (group : Bool)
  /-- `process.wait(timeout=0.1)` -/
  | collect
  | returned
  | raised
  deriving DecidableEq, Repr

structure Scene where
  processes : Dict Nat Process
  observer : Observer
  /-- `process.returncode` is set -/
  returncode : Bool
  place : Place
  deriving DecidableEq

/-- A step of a process, of the observer, or of `stop`. -/
inductive Label where
  | fork (parent child : Nat)
  | exit (pid : Nat)
  | reap (pid : Nat)
  | leave (pid : Nat)
  | join (pid : Nat)
  | watch
  | observe
  | record
  /-- `client.shutdown` ends -/
  | answer
  | poll
  | ownedProcessGroup
  /-- `_signal_process_tree`, with the descendants that `psutil` finds -/
  | signalProcessTree (descendants : List Nat)
  | list
  | examine
  | getpgid
  | again
  | expire
  deriving DecidableEq, Repr

/-- The process is alive and in the group. -/
def Process.isLive (process : Process) : Bool :=
  process.member && process.status == .running

/-- SIGKILL. -/
def Process.doom (process : Process) : Process := { process with doomed := true }

namespace Scene

variable (scene : Scene) (leader : Nat)

def at_ (place : Place) : Scene := { scene with place := place }

/-- The leader has exited and was not reaped. -/
def hasExited : Bool :=
  (scene.processes.get leader).any fun process => process.status == .zombie

/-- No other thread is busy calling `waitpid`. -/
def isUnlocked : Bool := scene.observer == .starting || scene.observer == .done

/-- `process.poll() is not None`. -/
def polls : Bool := scene.returncode || (scene.isUnlocked && scene.hasExited leader)

/-- The effect of `process.poll()`: where it learns that the leader has exited, the leader is reaped. -/
def poll : Scene :=
  if scene.returncode then scene
  else if scene.isUnlocked && scene.hasExited leader then
    { scene with processes := scene.processes.erase leader, returncode := true }
  else scene

/-- `_owned_process_group(process) is not None`. -/
def ownsProcessGroup : Bool := (scene.processes.get leader).any Process.member

/-- SIGKILL for the processes of a list. -/
def doomAll (pids : List Nat) : Scene :=
  { scene with processes := pids.foldl (fun processes pid =>
      match processes.get pid with
      | some process => processes.set pid process.doom
      | none => processes) scene.processes }

/-- The processes of the group. -/
def members : List Nat :=
  scene.processes.keys.filter fun pid => (scene.processes.get pid).any Process.member

/-- The processes that a signal is for: the group, or the leader and its descendants. -/
def targets (group : Bool) (descendants : List Nat) : List Nat :=
  if group then scene.members
  else if scene.processes.contains leader then descendants ++ [leader]
  else []

/-- `_signal_process_tree`. A process may react to SIGTERM as it likes. -/
def signalProcessTree (stage : Stage) (group : Bool) (descendants : List Nat) : Scene :=
  match stage with
  | .terminate => scene
  | .kill => scene.doomAll (scene.targets leader group descendants)

end Scene

/-! ### Steps -/

section Steps

variable (leader : Nat)

/-- A step of `stop`. -/
def advance (scene : Scene) : Label → Option Scene
  | .answer =>
    match scene.place with
    | .shutdown => some (scene.at_ .check)
    | _ => none
  | .poll =>
    match scene.place with
    | .check =>
      some ((scene.poll leader).at_
        (if scene.polls leader then .returned else .ownedProcessGroup))
    | .report group => some ((scene.poll leader).at_ (.signalProcessTree .terminate group))
    | .waitForExit stage false =>
      some ((scene.poll leader).at_
        (if scene.polls leader then .collect else .survived stage false))
    | .collect => some ((scene.poll leader).at_ .returned)
    | _ => none
  | .ownedProcessGroup =>
    match scene.place with
    | .ownedProcessGroup => some (scene.at_ (.report (scene.ownsProcessGroup leader)))
    | _ => none
  | .signalProcessTree descendants =>
    match scene.place with
    | .signalProcessTree stage group =>
      let owned := group || scene.ownsProcessGroup leader
      -- only the first round keeps the group that it has found
      let known := match stage with
        | .terminate => owned
        | .kill => group
      some ((scene.signalProcessTree leader stage owned descendants).at_
        (.waitForExit stage known))
    | _ => none
  | .list =>
    match scene.place with
    | .waitForExit stage true => some (scene.at_ (.scan stage scene.processes.keys))
    | _ => none
  | .examine =>
    match scene.place with
    | .scan _ [] => some (scene.at_ .collect)
    | .scan stage (candidate :: candidates) =>
      match scene.processes.get candidate with
      | some ⟨.running, _, _⟩ => some (scene.at_ (.examine stage candidate candidates))
      | _ => some (scene.at_ (.scan stage candidates))
    | _ => none
  | .getpgid =>
    match scene.place with
    | .examine stage candidate candidates =>
      if (scene.processes.get candidate).any Process.member then
        some (scene.at_ (.survived stage true))
      else some (scene.at_ (.scan stage candidates))
    | _ => none
  | .again =>
    match scene.place with
    | .survived stage group => some (scene.at_ (.waitForExit stage group))
    | _ => none
  | .expire =>
    match scene.place with
    | .survived .terminate group => some (scene.at_ (.signalProcessTree .kill group))
    | .survived .kill _ => some (scene.at_ .raised)
    | _ => none
  | _ => none

/-- A step of a process or of the observer. The leader of a session can not leave its group. -/
def happen (scene : Scene) : Label → Option Scene
  | .fork parent child =>
    match scene.processes.get parent, scene.processes.get child with
    | some ⟨.running, member, false⟩, none =>
      some { scene with processes := scene.processes.set child ⟨.running, member, false⟩ }
    | _, _ => none
  | .exit pid =>
    match scene.processes.get pid with
    | some ⟨.running, member, doomed⟩ =>
      some { scene with processes := scene.processes.set pid ⟨.zombie, member, doomed⟩ }
    | _ => none
  | .reap pid =>
    match scene.processes.get pid with
    | some ⟨.zombie, _, _⟩ =>
      if pid = leader then none
      else some { scene with processes := scene.processes.erase pid }
    | _ => none
  | .leave pid =>
    match scene.processes.get pid with
    | some ⟨.running, true, false⟩ =>
      if pid = leader then none
      else some { scene with processes := scene.processes.set pid ⟨.running, false, false⟩ }
    | _ => none
  | .join pid =>
    match scene.processes.get pid with
    | some ⟨.running, false, false⟩ =>
      if scene.members = [] then none
      else some { scene with processes := scene.processes.set pid ⟨.running, true, false⟩ }
    | _ => none
  | .watch =>
    if scene.observer = .starting then
      some { scene with observer := if scene.returncode then .done else .waiting }
    else none
  | .observe =>
    if scene.observer = .waiting ∧ scene.hasExited leader = true then
      some { scene with processes := scene.processes.erase leader, observer := .reaped }
    else none
  | .record =>
    if scene.observer = .reaped then some { scene with observer := .done, returncode := true }
    else none
  | _ => none

def step (scene : Scene) (label : Label) : Option Scene :=
  match happen leader scene label with
  | some after => some after
  | none => advance leader scene label

end Steps

/-! ### What stays alive -/

namespace Scene

/-- The processes of the group that are alive. -/
def survivors (scene : Scene) : List Nat :=
  scene.processes.keys.filter fun pid => (scene.processes.get pid).any Process.isLive

variable {scene after : Scene} {pid : Nat}

theorem mem_survivors :
    pid ∈ scene.survivors ↔ (scene.processes.get pid).any Process.isLive = true := by
  unfold survivors
  rw [List.mem_filter]
  refine ⟨And.right, fun live => ⟨?_, live⟩⟩
  cases found : scene.processes.get pid with
  | none =>
    rw [found] at live
    cases live
  | some process => exact Dict.mem_keys.mpr ⟨process, found⟩

/-- A process is changed, and was alive if it is. -/
theorem survivors_set {process : Process}
    (changed : after.processes = scene.processes.set pid process)
    (lived : process.isLive = true → pid ∈ scene.survivors) :
    after.survivors ⊆ scene.survivors := by
  intro other alive
  rw [mem_survivors, changed, Dict.get_set] at alive
  split at alive
  · rename_i same
    subst same
    exact lived alive
  · exact mem_survivors.mpr alive

theorem survivors_erase (changed : after.processes = scene.processes.erase pid) :
    after.survivors ⊆ scene.survivors := by
  intro other alive
  rw [mem_survivors, changed, Dict.get_erase] at alive
  split at alive
  · cases alive
  · exact mem_survivors.mpr alive

theorem survivors_same (same : after.processes = scene.processes) :
    after.survivors ⊆ scene.survivors := by
  unfold survivors
  rw [same]
  exact fun _ => id

/-- A process that is killed is alive until it has exited. -/
theorem survivors_doomAll (scene : Scene) (pids : List Nat) :
    (scene.doomAll pids).survivors ⊆ scene.survivors := by
  induction pids generalizing scene with
  | nil => exact fun _ => id
  | cons first rest ih =>
    let doomed : Dict Nat Process :=
      match scene.processes.get first with
      | some process => scene.processes.set first process.doom
      | none => scene.processes
    have one : ({ scene with processes := doomed } : Scene).survivors ⊆ scene.survivors := by
      cases found : scene.processes.get first with
      | none =>
        refine survivors_same ?_
        simp only [doomed, found]
      | some process =>
        have changed : doomed = scene.processes.set first process.doom := by
          simp only [doomed, found]
        refine survivors_set changed fun live => mem_survivors.mpr ?_
        rw [found]
        exact live
    exact fun pid alive => one (ih { scene with processes := doomed } alive)

theorem survivors_signalProcessTree (scene : Scene) (leader : Nat) (stage : Stage) (group : Bool)
    (descendants : List Nat) :
    (scene.signalProcessTree leader stage group descendants).survivors ⊆ scene.survivors := by
  cases stage with
  | terminate => exact fun _ => id
  | kill => exact survivors_doomAll scene _

/-- `process.poll()` reaps no process that is alive. -/
theorem survivors_subset_poll (scene : Scene) (leader : Nat) :
    scene.survivors ⊆ (scene.poll leader).survivors := by
  unfold poll
  split
  · exact fun _ => id
  · split
    · rename_i exited
      intro pid alive
      obtain ⟨process, found, zombie⟩ :=
        (Option.any_eq_true _ _).mp (Bool.and_eq_true_iff.mp exited).2
      have other : pid ≠ leader := by
        rintro rfl
        rw [mem_survivors, found] at alive
        have running := (Bool.and_eq_true_iff.mp alive).2
        rw [beq_iff_eq] at running zombie
        cases running.symm.trans zombie
      rw [mem_survivors] at alive ⊢
      rw [Dict.get_erase_of_ne _ other]
      exact alive
    · exact fun _ => id

theorem survivors_poll (scene : Scene) (leader : Nat) :
    (scene.poll leader).survivors ⊆ scene.survivors := by
  unfold poll
  split
  · exact fun _ => id
  · split
    · exact survivors_erase rfl
    · exact fun _ => id

end Scene

/-- A process enters the group: a process of the group forks, or another one joins it. -/
def enters (scene : Scene) : Label → Bool
  | .fork parent _ => (scene.processes.get parent).any Process.member
  | .join _ => true
  | _ => false

section Steps

variable {leader : Nat} {scene after : Scene} {label : Label}

/-- **What happens around `stop`**: unless a process enters the group, only processes that were alive
are. -/
theorem survivors_happen (taken : happen leader scene label = some after)
    (quiet : enters scene label = false) :
    after.survivors ⊆ scene.survivors ∧ after.place = scene.place := by
  unfold happen at taken
  cases label with
  | fork parent child =>
    dsimp only at taken
    split at taken
    · rename_i member found free
      cases taken
      refine ⟨Scene.survivors_set rfl fun live => ?_, rfl⟩
      have foreign : member = false := by simpa [enters, found] using quiet
      subst foreign
      cases live
    · cases taken
  | exit pid =>
    dsimp only at taken
    split at taken
    · cases taken
      refine ⟨Scene.survivors_set rfl fun live => ?_, rfl⟩
      simp [Process.isLive] at live
    · cases taken
  | reap pid =>
    dsimp only at taken
    split at taken
    · obtain ⟨-, ⟨⟩⟩ := Option.ite_none_left_eq_some.mp taken
      exact ⟨Scene.survivors_erase rfl, rfl⟩
    · cases taken
  | leave pid =>
    dsimp only at taken
    split at taken
    · obtain ⟨-, ⟨⟩⟩ := Option.ite_none_left_eq_some.mp taken
      exact ⟨Scene.survivors_set rfl (fun live => by cases live), rfl⟩
    · cases taken
  | join pid => cases quiet
  | watch | record =>
    obtain ⟨-, ⟨⟩⟩ := Option.ite_none_right_eq_some.mp taken
    exact ⟨Scene.survivors_same rfl, rfl⟩
  | observe =>
    obtain ⟨-, ⟨⟩⟩ := Option.ite_none_right_eq_some.mp taken
    exact ⟨Scene.survivors_erase rfl, rfl⟩
  | _ => cases taken

/-- A process that enters the group does not move `stop`. -/
theorem place_happen (taken : happen leader scene label = some after) :
    after.place = scene.place := by
  cases label with
  | fork parent child =>
    simp only [happen] at taken
    split at taken <;> cases taken
    rfl
  | join pid =>
    simp only [happen] at taken
    split at taken
    · split at taken <;> cases taken
      rfl
    · cases taken
  | _ => exact (survivors_happen taken rfl).2

end Steps

/-! ### Runs -/

/-- Among which processes every one of the group that is alive is known to be: those that a scan has
still to examine, or none. -/
def Place.expects : Place → Option (List Nat)
  | .scan _ candidates => some candidates
  | .examine _ candidate candidates => some (candidate :: candidates)
  | .collect | .returned => some []
  | .report false | .signalProcessTree _ false | .waitForExit _ false | .survived _ false => some []
  | _ => none

/-- What a run keeps to: when `stop` asks for the status of the leader or for its group, the leader was
not reaped, or no process of the group is alive; and no process enters the group while `stop` relies on
what it has seen of it. -/
def Steady (leader : Nat) (scene : Scene) (label : Label) : Prop :=
  (label = .poll → scene.place = .check → scene.polls leader = false ∨ scene.survivors = []) ∧
  (label = .ownedProcessGroup → scene.ownsProcessGroup leader = true ∨ scene.survivors = []) ∧
  (enters scene label = true → scene.place.expects = none)

instance (leader : Nat) (scene : Scene) (label : Label) : Decidable (Steady leader scene label) :=
  inferInstanceAs (Decidable (_ ∧ _ ∧ _))

/-- Every process of the group that is alive is where `stop` still looks for it. -/
def Held (scene : Scene) : Prop :=
  ∀ candidates, scene.place.expects = some candidates → scene.survivors ⊆ candidates

section Runs

variable {leader : Nat} {scene after : Scene} {label : Label}

/-- `stop` moves on, and nothing comes to life. -/
theorem Held.moves (held : Held scene) {place : Place} (moved : after.place = place)
    (fewer : after.survivors ⊆ scene.survivors)
    (expects : ∀ candidates, place.expects = some candidates →
      scene.place.expects = some candidates ∨ scene.survivors ⊆ candidates) : Held after := by
  intro candidates expected
  rw [moved] at expected
  rcases expects candidates expected with same | among
  · exact fun pid alive => held candidates same (fewer alive)
  · exact fun pid alive => among (fewer alive)

theorem held_happen (held : Held scene) (steady : Steady leader scene label)
    (taken : happen leader scene label = some after) : Held after := by
  by_cases entered : enters scene label = true
  · have unknown := steady.2.2 entered
    intro candidates expected
    rw [place_happen taken, unknown] at expected
    cases expected
  · obtain ⟨fewer, same⟩ := survivors_happen taken ((Bool.not_eq_true _).mp entered)
    exact held.moves same fewer fun candidates expected => .inl expected

/-- A candidate that is no live process of the group is passed over. -/
theorem survivors_of_dead {candidate : Nat} {candidates : List Nat}
    (among : scene.survivors ⊆ candidate :: candidates) (dead : candidate ∉ scene.survivors) :
    scene.survivors ⊆ candidates := by
  intro pid alive
  rcases List.mem_cons.mp (among alive) with rfl | rest
  · exact absurd alive dead
  · exact rest

/-- A candidate that does not run is not alive. -/
theorem dead_of_not_running {candidate : Nat}
    (other : ∀ member doomed, scene.processes.get candidate = some ⟨.running, member, doomed⟩ → False) :
    candidate ∉ scene.survivors := by
  intro alive
  obtain ⟨process, found, live⟩ := (Option.any_eq_true _ _).mp (Scene.mem_survivors.mp alive)
  obtain ⟨status, member, doomed⟩ := process
  have running : status = .running := by
    simpa [Process.isLive] using (Bool.and_eq_true_iff.mp live).2
  subst running
  exact other member doomed found

/-- A candidate of another group is none of the group's. -/
theorem dead_of_foreign {candidate : Nat}
    (foreign : ¬(scene.processes.get candidate).any Process.member = true) :
    candidate ∉ scene.survivors := by
  intro alive
  obtain ⟨process, found, live⟩ := (Option.any_eq_true _ _).mp (Scene.mem_survivors.mp alive)
  exact foreign ((Option.any_eq_true _ _).mpr ⟨process, found, (Bool.and_eq_true_iff.mp live).1⟩)

/-- `stop` moves on and expects no process any more, or the group has none. -/
theorem Held.clears (held : Held scene) {place : Place} (moved : after.place = place)
    (fewer : after.survivors ⊆ scene.survivors)
    (clean : place.expects = none ∨ scene.survivors = []) : Held after := by
  refine held.moves moved fewer fun candidates expected => .inr ?_
  rcases clean with unexpected | empty
  · rw [unexpected] at expected
    cases expected
  · rw [empty]
    exact List.nil_subset _

theorem held_advance (held : Held scene) (steady : Steady leader scene label)
    (taken : advance leader scene label = some after) : Held after := by
  have polled := scene.survivors_poll leader
  cases label with
  | answer =>
    simp only [advance] at taken
    split at taken <;> cases taken
    exact held.clears rfl (Scene.survivors_same rfl) (.inl rfl)
  | poll =>
    simp only [advance] at taken
    split at taken
    · rename_i here
      cases taken
      refine held.clears rfl polled ((steady.1 rfl here).imp_left fun unknown => ?_)
      rw [unknown]
      rfl
    · rename_i group here
      cases taken
      refine held.moves rfl polled fun candidates expected => .inl ?_
      rw [here]
      cases group <;> exact expected
    · rename_i stage here
      cases taken
      refine held.moves rfl polled fun candidates expected => .inl ?_
      rw [here]
      split at expected <;> exact expected
    · rename_i here
      cases taken
      refine held.moves rfl polled fun candidates expected => .inl ?_
      rw [here]
      exact expected
    · cases taken
  | ownedProcessGroup =>
    simp only [advance] at taken
    split at taken
    · cases taken
      refine held.clears rfl (Scene.survivors_same rfl) ((steady.2.1 rfl).imp_left fun known => ?_)
      rw [known]
      rfl
    · cases taken
  | signalProcessTree descendants =>
    simp only [advance] at taken
    split at taken
    · rename_i stage group here
      cases taken
      refine held.moves rfl (scene.survivors_signalProcessTree leader stage _ descendants)
        fun candidates expected => .inl ?_
      rw [here]
      cases group with
      | true => cases stage <;> cases expected
      | false =>
        cases stage with
        | kill => exact expected
        | terminate =>
          cases owned : scene.ownsProcessGroup leader with
          | true =>
            rw [owned] at expected
            cases expected
          | false =>
            rw [owned] at expected
            exact expected
    · cases taken
  | list =>
    simp only [advance] at taken
    split at taken
    · cases taken
      refine held.moves rfl (Scene.survivors_same rfl) fun candidates expected => .inr ?_
      cases expected
      exact List.filter_subset_self _
    · cases taken
  | examine =>
    simp only [advance] at taken
    split at taken
    · rename_i stage here
      cases taken
      refine held.moves rfl (Scene.survivors_same rfl) fun candidates expected => .inl ?_
      rw [here]
      exact expected
    · rename_i stage candidate candidates here
      have among : scene.survivors ⊆ candidate :: candidates := held _ (by rw [here]; rfl)
      split at taken
      · cases taken
        refine held.moves rfl (Scene.survivors_same rfl) fun later expected => .inr ?_
        cases expected
        exact among
      · rename_i other
        cases taken
        refine held.moves rfl (Scene.survivors_same rfl) fun later expected => .inr ?_
        cases expected
        exact survivors_of_dead among (dead_of_not_running other)
    · cases taken
  | getpgid =>
    simp only [advance] at taken
    split at taken
    · rename_i stage candidate candidates here
      have among : scene.survivors ⊆ candidate :: candidates := held _ (by rw [here]; rfl)
      split at taken
      · cases taken
        exact held.clears rfl (Scene.survivors_same rfl) (.inl rfl)
      · rename_i foreign
        cases taken
        refine held.moves rfl (Scene.survivors_same rfl) fun later expected => .inr ?_
        cases expected
        exact survivors_of_dead among (dead_of_foreign foreign)
    · cases taken
  | again =>
    simp only [advance] at taken
    split at taken
    · rename_i stage group here
      cases taken
      refine held.moves rfl (Scene.survivors_same rfl) fun candidates expected => .inl ?_
      rw [here]
      cases group <;> exact expected
    · cases taken
  | expire =>
    simp only [advance] at taken
    split at taken
    · rename_i group here
      cases taken
      refine held.moves rfl (Scene.survivors_same rfl) fun candidates expected => .inl ?_
      rw [here]
      cases group <;> exact expected
    · cases taken
      exact held.clears rfl (Scene.survivors_same rfl) (.inl rfl)
    · cases taken
  | _ => cases taken

theorem held_step (held : Held scene) (steady : Steady leader scene label)
    (taken : step leader scene label = some after) : Held after := by
  unfold step at taken
  split at taken
  · rename_i happened
    cases taken
    exact held_happen held steady happened
  · exact held_advance held steady taken

/-- The first question of `stop` decides whether it looks any further. -/
theorem poll_exact (here : scene.place = .check) (taken : step leader scene .poll = some after) :
    (after.place = .returned → after.survivors = []) ↔ Steady leader scene .poll := by
  have moved : after = (scene.poll leader).at_
      (if scene.polls leader then .returned else .ownedProcessGroup) := by
    simp only [step, happen, advance, here] at taken
    exact (Option.some.inj taken).symm
  subst moved
  have same : ((scene.poll leader).at_
      (if scene.polls leader then .returned else .ownedProcessGroup)).survivors =
        (scene.poll leader).survivors := rfl
  rw [same]
  constructor
  · intro leaves
    refine ⟨fun _ _ => ?_, nofun, nofun⟩
    cases polls : scene.polls leader with
    | false => exact .inl rfl
    | true =>
      refine .inr (List.subset_nil.mp ?_)
      rw [← leaves (by rw [polls]; rfl)]
      exact scene.survivors_subset_poll leader
  · intro steady returned
    rcases steady.1 rfl here with unknown | clean
    · rw [unknown] at returned
      cases returned
    · refine List.subset_nil.mp ?_
      rw [← clean]
      exact scene.survivors_poll leader

/-- **Where `stop` has returned, no process of the group is alive**, in every steady run, whatever the
processes were when it was called. Its first question can not do with less. -/
theorem stop_leaves_none {start : Scene} (begins : start.place = .shutdown)
    (reached : Reaches (step leader) (Steady leader) start scene) :
    (scene.place = .returned → scene.survivors = []) ∧
    ∀ after, scene.place = .check → step leader scene .poll = some after →
      ((after.place = .returned → after.survivors = []) ↔ Steady leader scene .poll) := by
  have initial : Held start := by
    intro candidates expected
    rw [begins] at expected
    cases expected
  have held : Held scene :=
    reached.invariant initial fun _ _ _ held steady taken => held_step held steady taken
  refine ⟨fun returned => ?_, fun after here taken => poll_exact here taken⟩
  exact List.subset_nil.mp (held [] (by rw [returned]; rfl))

/-- A server with a descendant, both alive. -/
def launched : Scene where
  processes := (Dict.empty.set 10 ⟨.running, true, false⟩).set 11 ⟨.running, true, false⟩
  observer := .waiting
  returncode := false
  place := .shutdown

/-- The leader ends at SIGTERM, and its descendant at SIGKILL. -/
def killSteps : List Label :=
  [.answer, .poll, .ownedProcessGroup, .poll, .signalProcessTree [], .exit 10, .observe, .record,
    .list, .examine, .getpgid, .expire, .signalProcessTree [], .exit 11, .list, .examine, .examine,
    .poll]

theorem stop_leaves_none_killed :
    ∃ scene, Reaches (step 10) (Steady 10) launched scene ∧ scene.place = .returned ∧
      scene.processes.get 11 = some ⟨.zombie, true, true⟩ ∧ scene.survivors = [] := by
  obtain ⟨scene, run, returned, killed⟩ := Reaches.of_run (step 10) (Steady 10) launched killSteps
    (fun scene => scene.place = .returned ∧
      scene.processes.get 11 = some ⟨.zombie, true, true⟩) (by decide +kernel)
  exact ⟨scene, run, returned, killed, (stop_leaves_none rfl run).1 returned⟩

/-- The leader ends at the shutdown request, and is reaped. -/
def exitSteps : List Label := [.exit 10, .observe, .record, .answer, .poll]

/-- The leader ends, and is reaped, between the two questions of `stop`. -/
def reapSteps : List Label :=
  [.answer, .poll, .exit 10, .observe, .ownedProcessGroup, .poll, .signalProcessTree [], .record,
    .poll, .poll]

/-- The descendant forks and ends while the table is scanned. -/
def forkSteps : List Label :=
  [.answer, .poll, .ownedProcessGroup, .poll, .signalProcessTree [], .exit 10, .list, .fork 11 12,
    .exit 11, .examine, .examine, .examine, .poll]

/-- The steps lead to a return of `stop` with these processes of the group alive. -/
def Survive (labels : List Label) (survivors : List Nat) : Prop :=
  ∃ scene, follow (step 10) (fun _ _ => true) launched labels = some scene ∧
    scene.place = .returned ∧ scene.survivors = survivors

theorem survive_of_check {labels : List Label} {survivors : List Nat}
    (checked : (follow (step 10) (fun _ _ => true) launched labels).any (fun scene =>
      decide (scene.place = .returned ∧ scene.survivors = survivors)) = true) :
    Survive labels survivors := by
  obtain ⟨scene, followed, found⟩ := (Option.any_eq_true _ _).mp checked
  exact ⟨scene, followed, of_decide_eq_true found⟩

/-- **Descendants survive** a stop that has returned: where the leader was reaped before `stop` asks for
its status, where it was reaped before `stop` asks for its group, and where a process of the group forks
while the table is scanned. -/
theorem descendants_survive :
    Survive exitSteps [11] ∧ Survive reapSteps [11] ∧ Survive forkSteps [12] :=
  ⟨survive_of_check (by decide +kernel), survive_of_check (by decide +kernel),
    survive_of_check (by decide +kernel)⟩

end Runs

end SerenaLight.Lsp.Processes

/-
**What the commit of an edit tells about its rename.**

Along the log of every edit that was handed a running commit:

- the target is renamed onto at most once, and the marks are `installed` and then `done`, as far as
  they go (`Tally.marks`);
- a refusal comes without a rename, a success with one rename and one accepted notification;
- an edit that raises after its rename has marked it before (`Tally.raised`).
-/

import SerenaLight.Tools.RenamedBytes

namespace SerenaLight.Tools

open Foundation Lsp

def Event.isNotice : Event → Bool
  | .notified => true
  | _ => false

def Event.mark? : Event → Option EditCommitState
  | .marked state => some state
  | _ => none

/-- How often a log renames. -/
def renames (log : List Event) : Nat := log.countP Event.isRename

/-- How often a notification was accepted. -/
def notices (log : List Event) : Nat := log.countP Event.isNotice

/-- The marks of a log, in order. -/
def marks (log : List Event) : List EditCommitState := log.filterMap Event.mark?

/-- The commit after the marks of a log. -/
def committed (start : EditCommitState) (log : List Event) : EditCommitState :=
  (marks log).getLast?.getD start

/-- An edit's end: its answer, or how it stopped. -/
abbrev Ending := Except Stop EditAnswer

/-- The code of `find_symbol`'s error answers. -/
def FindError.code : FindError → String
  | .invalidBounds => "INVALID_INPUT"
  | .symbolNotFound _ => "SYMBOL_NOT_FOUND"
  | .ambiguousSymbol _ _ _ => "AMBIGUOUS_SYMBOL"
  | .incompleteBody _ _ => "UNSUPPORTED"
  | .answerTooLarge _ => "INVALID_INPUT"

/-- The code of an error answer; none for success. -/
def EditAnswer.code : EditAnswer → Option String
  | .invalidRequest => some "INVALID_INPUT"
  | .workspaceError code => some code
  | .unauthorized => some "INVALID_PATH"
  | .invalidPath _ => some "INVALID_PATH"
  | .staleHash _ _ => some "STALE_HASH"
  | .invalidInput _ => some "INVALID_INPUT"
  | .symbolError error => some error.code
  | .uncertain _ _ => some "UNCERTAIN"
  | .success _ _ _ _ => none

def EditAnswer.isSuccess : EditAnswer → Bool
  | .success _ _ _ _ => true
  | _ => false

/-- The answer is an error answer before any rename. -/
def Ending.isRefusal : Ending → Bool
  | .ok answer => answer.isRefusal
  | .error _ => false

def Ending.isSuccess : Ending → Bool
  | .ok answer => answer.isSuccess
  | .error _ => false

def Ending.isRaise : Ending → Bool
  | .ok _ => false
  | .error _ => true

/-- How an edit ended, with the log it left. -/
def ending : EStateM.Result Stop EditState EditAnswer → Ending × List Event
  | .ok answer state => (.ok answer, state.log)
  | .error stop state => (.error stop, state.log)

/-- **The account of an edit** that started with a running commit. -/
structure Tally (ending : Ending) (log : List Event) : Prop where
  once : renames log ≤ 1
  marks : marks log <+: [.installed, .done]
  refused : Ending.isRefusal ending = true → renames log = 0
  succeeded : Ending.isSuccess ending = true → renames log = 1 ∧ notices log = 1
  raised : Ending.isRaise ending = true → renames log = 0 ∨ committed .running log = .installed

/-! ### Counting in a log -/

theorem renames_append (first second : List Event) :
    renames (first ++ second) = renames first + renames second := List.countP_append ..

theorem notices_append (first second : List Event) :
    notices (first ++ second) = notices first + notices second := List.countP_append ..

theorem marks_append (first second : List Event) :
    marks (first ++ second) = marks first ++ marks second := List.filterMap_append ..

/-- The commit follows the marks one by one. -/
theorem committed_append (start : EditCommitState) (first second : List Event) :
    committed start (first ++ second) = committed (committed start first) second := by
  unfold committed
  rw [marks_append, List.getLast?_append]
  cases (marks second).getLast? <;> rfl

/-- Reads and unlinks do not count. -/
theorem countP_loud {test : Event → Bool} (spoken : ∀ event, test event = true → event.isQuiet = false)
    (log : List Event) : (loud log).countP test = log.countP test := by
  rw [loud, List.countP_filter]
  refine List.countP_congr fun event _ => ?_
  by_cases heard : test event = true
  · simp [heard, spoken event heard]
  · simp [heard]

theorem renames_loud (log : List Event) : renames (loud log) = renames log :=
  countP_loud (fun event heard => by cases event <;> first | rfl | cases heard) log

theorem notices_loud (log : List Event) : notices (loud log) = notices log :=
  countP_loud (fun event heard => by cases event <;> first | rfl | cases heard) log

theorem marks_loud (log : List Event) : marks (loud log) = marks log := by
  rw [marks, loud, List.filterMap_filter]
  refine List.filterMap_congr fun event _ => ?_
  cases event <;> rfl

variable {log : List Event}

theorem EditContext.Calm.renames (calm : EditContext.Calm log) :
    renames log = 0 :=
  List.countP_eq_zero.mpr fun event member =>
    Bool.not_eq_true _ ▸ EditContext.not_isRename_of_calm calm event member

theorem EditContext.Calm.marks (calm : EditContext.Calm log) :
    marks log = [] := by
  refine List.filterMap_eq_nil_iff.mpr fun event member => ?_
  rcases calm event member with quiet | ⟨directory, name, rfl⟩
  · cases event <;> first | rfl | cases quiet
  · rfl

/-- The counts of an installation, from what followed its rename. -/
theorem Installed.counts {guard : Prop} {temporary name : String} {raw content : Bytes}
    {after : List Event}
    (reached : Installed guard temporary name raw content [.observed raw, .observed raw] after
      log) :
    renames log = 1 + renames after ∧ notices log = notices after ∧ marks log = marks after := by
  obtain ⟨directory, bytes, rest, _, rfl, rfl⟩ := reached
  refine ⟨?_, ?_, ?_⟩
  · rw [renames_append, renames_loud]
    rfl
  · rw [notices_append, notices_loud]
    exact Nat.zero_add _
  · rw [marks_append, marks_loud]
    rfl

namespace EditContext

variable (self : EditContext) (request : EditRequest)

/-- A calm log, however the edit ended without success. -/
theorem Calm.tally {log : List Event} (calm : Calm log) {ending : Ending}
    (unsuccessful : Ending.isSuccess ending = false) : Tally ending log where
  once := calm.renames ▸ Nat.zero_le 1
  marks := calm.marks ▸ List.nil_prefix
  refused _ := calm.renames
  succeeded done := absurd (unsuccessful.symm.trans done) Bool.false_ne_true
  raised _ := .inl calm.renames

variable {answer : EditAnswer} {state : EditState}

theorem isSuccess_of_isRefusal (refusal : answer.isRefusal = true) :
    answer.isSuccess = false := by
  cases answer <;> first | rfl | cases refusal

theorem tally_of_answered (ended : self.Answered request False (some .running) answer state) :
    Tally (.ok answer) state.log := by
  cases ended with
  | declined refusal seen logged kept =>
    exact Calm.tally (logged ▸ calm_observed seen) (isSuccess_of_isRefusal refusal)
  | withdrawn refusal target granted directory first seen tail removed logged kept =>
    have calm : Calm state.log := logged ▸ calm_of_withdrawn (calm_observed first) removed
    exact calm.tally (isSuccess_of_isRefusal refusal)
  | uncertain stage hash same target granted raw content asked reached kept =>
    obtain ⟨renamed, _, followed⟩ := reached.counts
    subst same
    exact ⟨renamed.le, followed ▸ ⟨[.done], rfl⟩, nofun, nofun, nofun⟩
  | success done target granted raw content asked reached kept =>
    obtain ⟨renamed, noticed, followed⟩ := reached.counts
    obtain ⟨_, _, _, _, rfl⟩ := done
    exact ⟨renamed.le, followed ▸ ⟨[], rfl⟩, nofun, fun _ => ⟨renamed, noticed⟩, nofun⟩

theorem tally_of_raised {stop : Stop}
    (ended : self.Raised request False (some .running) stop state) :
    Tally (.error stop) state.log := by
  cases ended with
  | dropped calm kept => exact calm.tally rfl
  | installed target granted raw content asked after reached marked =>
    obtain ⟨renamed, _, followed⟩ := reached.counts
    obtain ⟨_, current, same, late⟩ | ⟨rfl, kept⟩ := marked
    · cases same
      exact absurd late (by decide)
    · refine ⟨renamed.le, followed ▸ ⟨[.done], rfl⟩, nofun, nofun, fun _ => .inr ?_⟩
      rw [committed, followed]
      rfl

/-- **Every edit with a running commit keeps its account.** -/
theorem tally_replaceSymbolBody (fs : FileSystem) (script : List Turn) :
    Tally (ending (self.replaceSymbolBody request ⟨fs, script, [], some .running⟩)).1
      (ending (self.replaceSymbolBody request ⟨fs, script, [], some .running⟩)).2 := by
  have run := self.triple_replaceSymbolBody request False (some .running)
    ⟨fs, script, [], some .running⟩ ⟨rfl, rfl, fun _ _ never => never.elim⟩
  cases done : self.replaceSymbolBody request ⟨fs, script, [], some .running⟩ with
  | ok answer state =>
    rw [done] at run
    exact self.tally_of_answered request run
  | error stop state =>
    rw [done] at run
    exact self.tally_of_raised request run

end EditContext

end SerenaLight.Tools

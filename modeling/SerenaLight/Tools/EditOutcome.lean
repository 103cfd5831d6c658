/-
**How a guarded edit ends.**

- `Rewrites`: the content that a request asks for in place of what the target holds.
- `Answered` and `Raised`: the ends of `replace_symbol_body`, each with the log it leaves and the
  place the commit has reached. The rename happens at most once, after three equal reads, and only
  `UNCERTAIN` and success follow it.
- `triple_replaceSymbolBody`: there is no other end.
-/

import SerenaLight.Tools.EditInstall

namespace SerenaLight.Tools

open Foundation Lsp

namespace EditContext

variable (self : EditContext) (request : EditRequest)

/-- **The requested content.** The target holds the bytes of the expected hash, the name path
resolves to one symbol in them, and the encoded body stands in the place of that symbol's bytes. -/
def Rewrites (target : AuthorizedEdit) (raw content : Bytes) : Prop :=
  self.library.sha256 raw = request.hash ∧
  ∃ snapshot supplied resolved newline encoded, FileSnapshot.fromBytes raw = .ok snapshot ∧
    self.provide target snapshot = .supplied supplied ∧
    resolveUniqueSymbol self.library target snapshot supplied request.namePath
      = .ok (.ok resolved) ∧
    newlineContract snapshot = some newline ∧
    encodeBody (normalizeBody newline request.body) = some encoded ∧
    content = raw.take resolved.startByte ++ encoded ++ raw.drop resolved.endByte

/-- The name of the edit's own temporary file. -/
def temporary (target : AuthorizedEdit) : String := temporaryName target self.token

/-- The mark at the end of a successful edit. -/
def doneMarks (commit : Option EditCommitState) : List Event :=
  (commit.map fun _ => .marked .done).toList

/-- The ends with an answer. -/
inductive Answered (guard : Prop) (commit : Option EditCommitState) (answer : EditAnswer)
    (state : EditState) : Prop
  | declined (refusal : answer.isRefusal = true) (seen : List Bytes)
      (logged : state.log = seen.map .observed) (kept : state.commit = commit)
  | withdrawn (refusal : answer.isRefusal = true) (target : AuthorizedEdit)
      (granted : self.authorize request.relativePath = .granted target)
      (directory : Nat) (first seen : List Bytes) (tail : List Event)
      (removed : tail = [] ∧ ¬guard ∨ tail = [.unlinked directory (self.temporary target)])
      (logged : state.log = first.map .observed ++ [.created directory (self.temporary target)] ++
        seen.map .observed ++ tail)
      (kept : state.commit = commit)
  | uncertain (stage : String) (hash : Option String) (same : answer = .uncertain stage hash)
      (target : AuthorizedEdit) (granted : self.authorize request.relativePath = .granted target)
      (raw content : Bytes) (asked : self.Rewrites request target raw content)
      (reached : Installed guard (self.temporary target) target.entryName raw content
        [.observed raw, .observed raw] (installMarks commit) state.log)
      (kept : state.commit = installedCommit commit)
  | success (done : ∃ oldHash newHash symbol notification,
        answer = .success oldHash newHash symbol notification)
      (target : AuthorizedEdit) (granted : self.authorize request.relativePath = .granted target)
      (raw content : Bytes) (asked : self.Rewrites request target raw content)
      (reached : Installed guard (self.temporary target) target.entryName raw content
        [.observed raw, .observed raw] (installMarks commit ++ .notified :: doneMarks commit)
        state.log)
      (kept : state.commit = commit.map fun _ => .done)

/-- Nothing but reads, unlinks and the creation of a file. -/
def Calm (log : List Event) : Prop :=
  ∀ event ∈ log, event.isQuiet = true ∨ ∃ directory name, event = .created directory name

/-- The ends without one. -/
inductive Raised (guard : Prop) (commit : Option EditCommitState) (stop : Stop)
    (state : EditState) : Prop
  | dropped (calm : Calm state.log) (kept : state.commit = commit)
  | installed (target : AuthorizedEdit)
      (granted : self.authorize request.relativePath = .granted target)
      (raw content : Bytes) (asked : self.Rewrites request target raw content) (after : List Event)
      (reached : Installed guard (self.temporary target) target.entryName raw content
        [.observed raw, .observed raw] after state.log)
      (marked : after = [] ∧ Overrun commit ∨
        after = installMarks commit ∧ state.commit = installedCommit commit)

theorem calm_observed (seen : List Bytes) : Calm (seen.map .observed) := by
  intro event member
  obtain ⟨bytes, _, rfl⟩ := List.mem_map.mp member
  exact .inl rfl

/-- The log of a withdrawn edit. -/
theorem calm_of_withdrawn {place : Nat} {name : String} {first : List Event} {seen : List Bytes}
    {tail : List Event} {guard : Prop} (calm : Calm first)
    (removed : tail = [] ∧ ¬guard ∨ tail = [.unlinked place name]) :
    Calm (first ++ [.created place name] ++ seen.map .observed ++ tail) := by
  intro event member
  simp only [List.mem_append, List.mem_singleton] at member
  rcases member with ((earlier | rfl) | later) | last
  · exact calm event earlier
  · exact .inr ⟨place, name, rfl⟩
  · exact calm_observed seen event later
  · rcases removed with ⟨rfl, _⟩ | rfl
    · cases last
    · exact .inl (List.mem_singleton.mp last ▸ rfl)

/-! ### The resolution -/

variable {target : AuthorizedEdit}

variable {current : Bytes} {plan : EditPlan}

/-- A resolved plan holds the bytes it was resolved in. -/
theorem resolve_eq_ok (done : self.resolve request target current = .ok (some plan)) :
    plan.target = target ∧ plan.snapshot.rawBytes = current ∧
      FileSnapshot.fromBytes current = .ok plan.snapshot ∧
      ∃ supplied, self.provide target plan.snapshot = .supplied supplied ∧
        resolveUniqueSymbol self.library target plan.snapshot supplied request.namePath
          = .ok (.ok plan.resolved) := by
  unfold resolve at done
  cases taken : FileSnapshot.fromBytes current with
  | error fault =>
    rw [taken] at done
    cases done
  | ok snapshot =>
    rw [taken] at done
    dsimp only at done
    cases provided : self.provide target snapshot with
    | refused code | invalid | raised =>
      rw [provided] at done
      cases done
    | supplied supplied =>
      rw [provided] at done
      dsimp only at done
      split at done
      · cases done
      · cases done
      · next resolved answered =>
          cases done
          exact ⟨rfl, FileSnapshot.rawBytes_of_fromBytes taken, rfl, supplied, provided, answered⟩

variable {answer : EditAnswer}

/-- An error answer of the resolution is a refusal. -/
theorem isRefusal_of_resolve (failed : self.resolve request target current = .error answer) :
    answer.isRefusal = true := by
  unfold resolve at failed
  split at failed
  · cases failed
    rfl
  · split at failed
    · cases failed
      rfl
    · cases failed
      rfl
    · cases failed
    · split at failed <;> cases failed <;> rfl

/-! ### After the replacement -/

variable {fails : Stop → EditState → Prop}

theorem triple_mark_done {commit : Option EditCommitState} (log : List Event) :
    Triple (At (fun _ _ => True) log (installedCommit commit)) (mark .done)
      (fun _ => At (fun _ _ => True) (log ++ doneMarks commit) (commit.map fun _ => .done)) fails := by
  rintro ⟨fs, script, log', commit'⟩ ⟨_, rfl, rfl⟩
  cases commit with
  | none => exact ⟨trivial, (List.append_nil log').symm, rfl⟩
  | some current => exact ⟨trivial, rfl, rfl⟩

section

variable {guard : Prop} {commit : Option EditCommitState} (plan : EditPlan) (replacement : Bytes)
  (granted : self.authorize request.relativePath = .granted plan.target)
  (asked : self.Rewrites request plan.target plan.snapshot.rawBytes replacement)

/-- The plan's replacement is in place and marked. -/
def Placed (guard : Prop) (commit : Option EditCommitState) (state : EditState) : Prop :=
  Installed guard (self.temporary plan.target) plan.target.entryName plan.snapshot.rawBytes
    replacement [.observed plan.snapshot.rawBytes, .observed plan.snapshot.rawBytes]
    (installMarks commit) state.log ∧ state.commit = installedCommit commit

include granted asked

theorem triple_uncertain_placed (stage : String) (fallback : Option String) :
    Triple (self.Placed plan replacement guard commit) (self.uncertain plan.target stage fallback)
      (self.Answered request guard commit) (self.Raised request guard commit) := by
  rintro state ⟨reached, kept⟩
  refine (@triple_uncertain (fun _ _ => True) state.log (installedCommit commit)
    (fun _ _ _ _ => trivial) self plan.target stage fallback).weaken (fun _ => id) ?_ ?_ state ⟨trivial, rfl, kept⟩
  · rintro answer after ⟨⟨hash, same⟩, watched⟩
    obtain ⟨reachedLater, keptLater⟩ := reached.watched watched
    exact .uncertain stage hash same plan.target granted _ _ asked reachedLater keptLater
  · rintro stop after ⟨_, watched⟩
    obtain ⟨reachedLater, keptLater⟩ := reached.watched watched
    exact .installed plan.target granted _ _ asked _ reachedLater (.inr ⟨rfl, keptLater⟩)

theorem triple_conclude (changedHash : String) :
    Triple (self.Placed plan replacement guard commit) (self.conclude plan replacement changedHash)
      (self.Answered request guard commit) (self.Raised request guard commit) := by
  unfold conclude
  dsimp only
  split
  · exact self.triple_uncertain_placed request plan replacement granted asked _ _
  · next notification accepted =>
      rintro state ⟨reached, kept⟩
      refine ((@triple_note (fun _ _ => True) state.log (installedCommit commit) .notified _).bind
        fun _ => (triple_mark_done _).bind fun _ => .pure fun after last => ?_) state ⟨trivial, rfl, kept⟩
      have appended := reached.append ([.notified] ++ doneMarks commit)
      have spoken : loud ([.notified] ++ doneMarks commit) = .notified :: doneMarks commit := by
        cases commit <;> rfl
      rw [spoken, ← List.append_assoc, ← last.2.1] at appended
      exact .success ⟨_, _, _, _, rfl⟩ plan.target granted _ _ asked appended last.2.2

/-- A failed replacement is answered, or raised further. -/
theorem triple_answerFailure (stop : Stop) :
    Triple
      (ReplaceFails guard (self.temporary plan.target) plan.target.entryName
        plan.snapshot.rawBytes replacement
        [.observed plan.snapshot.rawBytes, .observed plan.snapshot.rawBytes] commit stop)
      (self.answerFailure request plan.target stop)
      (fun answer state => ∃ refusal, answer = .error refusal ∧
        self.Answered request guard commit refusal state)
      (self.Raised request guard commit) := by
  intro state failed
  cases failed with
  | dropped delta system calm logged kept =>
    have dropped : self.Raised request guard commit stop state := by
      refine .dropped (fun event member => ?_) kept
      rw [logged] at member
      rcases List.mem_append.mp member with earlier | later
      · exact .inl (by rcases List.mem_pair.mp earlier with rfl | rfl <;> rfl)
      · exact (calm event later).imp_right fun ⟨place, same⟩ => ⟨place, _, same⟩
    cases stop <;> first | exact dropped | cases system
  | refused directory seen tail early removed logged kept =>
    have withdrawn : ∀ answer : EditAnswer, answer.isRefusal = true →
        self.Answered request guard commit answer state := fun answer refusal =>
      .withdrawn refusal plan.target granted directory
        [plan.snapshot.rawBytes, plan.snapshot.rawBytes] seen tail removed logged kept
    have dropped : self.Raised request guard commit stop state :=
      .dropped (logged ▸ calm_of_withdrawn (calm_observed [_, _]) removed) kept
    cases stop with
    | concurrentChange currentHash | invalidTarget => exact ⟨_, rfl, withdrawn _ rfl⟩
    | installedUncertain stage | raised => cases early
    | cut | osError | fileNotFound => exact dropped
  | unmarked abrupt overrun reached =>
    have installed : self.Raised request guard commit stop state :=
      .installed plan.target granted _ _ asked [] reached (.inl ⟨rfl, overrun⟩)
    cases stop <;> first | exact installed | cases abrupt
  | marked late reached kept =>
    have installed : self.Raised request guard commit stop state :=
      .installed plan.target granted _ _ asked _ reached (.inr ⟨rfl, kept⟩)
    cases stop with
    | installedUncertain stage =>
      exact ((self.triple_uncertain_placed request plan replacement granted asked stage
        none).bind fun answer => .pure fun _ answered => ⟨answer, rfl, answered⟩) state
        ⟨reached, kept⟩
    | concurrentChange currentHash | invalidTarget => cases late
    | raised | cut | osError | fileNotFound => exact installed

theorem triple_install (permissions : Nat) :
    Triple
      (At (Unshared guard (self.temporary plan.target))
        [.observed plan.snapshot.rawBytes, .observed plan.snapshot.rawBytes] commit)
      (self.install request plan replacement permissions)
      (self.Answered request guard commit) (self.Raised request guard commit) := by
  have replaces := triple_atomicReplace guard plan.snapshot.rawBytes replacement
    [.observed plan.snapshot.rawBytes, .observed plan.snapshot.rawBytes] commit self.library
    plan.target self.token permissions
  have installs : Triple _ (handle (do
        let changedHash ← atomicReplace self.library plan.target self.token replacement
          plan.snapshot.rawBytes permissions
        return .ok changedHash)
      (self.answerFailure request plan.target)) (fun installed state =>
        match installed with
        | .ok _ => self.Placed plan replacement guard commit state
        | .error answer => self.Answered request guard commit answer state)
      (self.Raised request guard commit) :=
    (replaces.bind fun changedHash => .pure fun _ placed => placed).handle fun stop =>
      (self.triple_answerFailure request plan replacement granted asked stop).weaken (fun _ => id)
        (fun answer state refused => by
          obtain ⟨refusal, rfl, answered⟩ := refused
          exact answered) fun _ _ => id
  refine installs.bind fun installed => ?_
  cases installed with
  | error answer => exact .pure fun _ answered => answered
  | ok changedHash => exact self.triple_conclude request plan replacement granted asked changedHash

end

/-! ### Before the replacement -/

section

variable {guard : Prop} {commit : Option EditCommitState}
  {holds : FileSystem → List Turn → Prop}

theorem Raised.of_watched {stop : Stop} {state : EditState} (seen : List Bytes)
    (watched : Watched holds (seen.map .observed) commit state) :
    self.Raised request guard commit stop state := by
  obtain ⟨more, _, logged, kept⟩ := watched
  refine .dropped (fun event member => .inl ?_) kept
  rw [logged, ← List.map_append] at member
  obtain ⟨bytes, _, rfl⟩ := List.mem_map.mp member
  rfl

theorem triple_declined (refusal : answer.isRefusal = true) (seen : List Bytes) :
    Triple (At holds (seen.map .observed) commit) (pure answer : Edit EditAnswer)
      (self.Answered request guard commit) fails :=
  .pure fun _ kept => .declined refusal seen kept.2.1 kept.2.2

/-- A read of the target before anything was changed. -/
theorem triple_read (stable : Stable holds) (target : AuthorizedEdit) (seen : List Bytes) :
    Triple (At holds (seen.map .observed) commit) (readTarget target)
      (fun found => At holds ((seen ++ (found.map (·.rawBytes)).toList).map .observed) commit)
      (self.Raised request guard commit) := by
  refine (triple_readTarget _ commit stable target).weaken (fun _ => id) (fun found state kept => ?_)
    fun stop state failed => .of_watched self request seen failed.2
  cases found with
  | none | some snapshot => exact ⟨kept.1, kept.2.1.trans (by simp), kept.2.2⟩

end

theorem triple_confirm (guard : Prop) (commit : Option EditCommitState) {raw : Bytes}
    (granted : self.authorize request.relativePath = .granted target)
    (expected : self.library.sha256 raw = request.hash)
    (resolved : self.resolve request target raw = .ok (some plan)) :
    Triple (At (Unshared guard (self.temporary target)) ([raw].map .observed) commit)
      (self.confirm request plan) (self.Answered request guard commit)
      (self.Raised request guard commit) := by
  obtain ⟨rfl, held, taken, supplied, provided, found⟩ := self.resolve_eq_ok request resolved
  refine (self.triple_read request (Unshared.stable guard _) plan.target [raw]).bind
    fun confirmed => ?_
  cases confirmed with
  | none => exact self.triple_declined request rfl _
  | some confirmed =>
    refine .ite (fun _ => self.triple_declined request rfl _) fun unchanged => ?_
    have same : confirmed.rawBytes = raw := (not_not.mp unchanged).trans held
    split
    · exact self.triple_declined request rfl _
    · next replacement built =>
        obtain ⟨newline, encoded, contract, encodes, shape⟩ := replacementBytes_eq_some built
        have asked : self.Rewrites request plan.target plan.snapshot.rawBytes replacement :=
          ⟨held ▸ expected, plan.snapshot, supplied, plan.resolved, newline, encoded,
            held ▸ taken, provided, found, contract, encodes, shape⟩
        refine (self.triple_install request plan replacement granted asked
          confirmed.permissions).weaken (fun state kept => ?_) (fun _ _ => id) fun _ _ => id
        rw [held]
        rw [show Option.map (fun snapshot : TargetSnapshot => snapshot.rawBytes) (some confirmed)
          = some confirmed.rawBytes from rfl, same] at kept
        exact kept

theorem triple_editTarget (guard : Prop) (commit : Option EditCommitState)
    (granted : self.authorize request.relativePath = .granted target) :
    Triple (At (Unshared guard (self.temporary target)) (([] : List Bytes).map .observed) commit)
      (self.editTarget request target) (self.Answered request guard commit)
      (self.Raised request guard commit) := by
  refine (self.triple_read request (Unshared.stable guard _) target []).bind fun current => ?_
  cases current with
  | none => exact self.triple_declined request rfl _
  | some current =>
    refine .ite (fun _ => self.triple_declined request rfl _) fun fresh => ?_
    split
    · next answer failed =>
        exact self.triple_declined request (self.isRefusal_of_resolve request failed) _
    · exact .throw fun state kept => .of_watched self request _ kept.watched
    · next plan resolved =>
        exact self.triple_confirm request guard commit granted (not_not.mp fresh) resolved

/-- **Every end of an edit.** -/
theorem triple_replaceSymbolBody (guard : Prop) (commit : Option EditCommitState) :
    Triple
      (fun state => state.log = [] ∧ state.commit = commit ∧ ∀ target,
        self.authorize request.relativePath = .granted target →
          guard → Untouched (self.temporary target) state.script)
      (self.replaceSymbolBody request) (self.Answered request guard commit)
      (self.Raised request guard commit) := by
  rintro state ⟨fresh, kept, alone⟩
  have start : At (fun _ _ => True) (([] : List Bytes).map .observed) commit state :=
    ⟨trivial, fresh, kept⟩
  unfold replaceSymbolBody
  by_cases invalid : (!request.valid) = true
  · rw [if_pos invalid]
    exact .declined rfl [] fresh kept
  · rw [if_neg invalid]
    cases granted : self.authorize request.relativePath with
    | refused code | invalid => exact .declined rfl [] fresh kept
    | raised => exact .of_watched self request [] start.watched
    | granted target =>
      dsimp only
      by_cases other : target.relativePath ≠ request.relativePath
      · rw [if_pos other]
        exact .declined rfl [] fresh kept
      · rw [if_neg other]
        exact self.triple_editTarget request guard commit granted state
          ⟨alone target granted, fresh, kept⟩

end EditContext

end SerenaLight.Tools

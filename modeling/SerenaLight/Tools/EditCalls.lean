/-
**What the calls of an edit leave alone.**

- `Stable` assertions survive whatever other processes do at a turn; `At` fixes the log and the
  commit besides.
- `Looks`: a program that keeps every stable assertion, the log and the commit. The checks of the
  lexical parent and the parts of a read are such programs.
- `triple_readTarget`, `triple_uncertain`: a finished read adds what it observed, and nothing else.
-/

import SerenaLight.Tools.GuardedEdit

namespace SerenaLight.Tools

open Foundation Lsp

variable {Value Next : Type}

/-! ### Assertions -/

/-- What other processes do not destroy. -/
def Stable (holds : FileSystem → List Turn → Prop) : Prop :=
  ∀ turn rest fs, holds fs (turn :: rest) → holds (turn.interfere fs) rest

/-- An assertion on the file system and the turns to come, at a log and a commit. -/
def At (holds : FileSystem → List Turn → Prop) (log : List Event)
    (commit : Option EditCommitState) (state : EditState) : Prop :=
  holds state.fs state.script ∧ state.log = log ∧ state.commit = commit

/-- The stops of a call that neither found a changed file nor renamed. -/
def Stop.isPlain : Stop → Bool
  | .cut => true
  | .osError => true
  | .fileNotFound => true
  | .invalidTarget => true
  | _ => false

variable {holds : FileSystem → List Turn → Prop} {log : List Event}
  {commit : Option EditCommitState}

/-- **One call.** The assertion is there when the call acts. -/
theorem triple_call (stable : Stable holds)
    {action : Turn → FileSystem → Except Stop (Value × FileSystem × List Event)}
    {post : Value → EditState → Prop} {fails : Stop → EditState → Prop}
    (cut : ∀ state, At holds log commit state → fails .cut state)
    (fault : ∀ fs rest, holds fs rest → fails .osError ⟨fs, rest, log, commit⟩)
    (refuses : ∀ turn fs rest stop, holds fs rest → action turn fs = .error stop →
      fails stop ⟨fs, rest, log, commit⟩)
    (acts : ∀ turn fs rest value after events, holds fs rest →
      action turn fs = .ok (value, after, events) →
      post value ⟨after, rest, log ++ events, commit⟩) :
    Triple (At holds log commit) (call action) post fails := by
  rintro ⟨fs, script, log', commit'⟩ ⟨start, rfl, rfl⟩
  cases script with
  | nil => exact cut _ ⟨start, rfl, rfl⟩
  | cons turn rest =>
    have turned := stable turn rest fs start
    unfold call
    by_cases broken : turn.fault = true
    · simp only [if_pos broken]
      exact fault _ _ turned
    · simp only [if_neg broken]
      cases answer : action turn (turn.interfere fs) with
      | error stop => exact refuses turn _ _ _ turned answer
      | ok result => exact acts turn _ _ _ _ _ turned answer

/-- A call that only looks keeps what it found, however it ends. -/
theorem triple_look (stable : Stable holds) {answer : Turn → FileSystem → Except Stop Value}
    {allowed : Stop → Prop} (cut : allowed .cut) (fault : allowed .osError)
    (others : ∀ turn fs stop, answer turn fs = .error stop → allowed stop) :
    Triple (At holds log commit) (look answer) (fun _ => At holds log commit)
      (fun stop state => allowed stop ∧ At holds log commit state) := by
  refine triple_call stable (fun state start => ⟨cut, start⟩)
    (fun fs rest kept => ⟨fault, kept, rfl, rfl⟩) (fun turn fs rest stop kept failed => ?_)
    (fun turn fs rest value after events kept done => ?_)
  · cases answered : answer turn fs with
    | error stop' =>
      rw [answered] at failed
      cases failed
      exact ⟨others turn fs _ answered, kept, rfl, rfl⟩
    | ok value =>
      rw [answered] at failed
      cases failed
  · cases answered : answer turn fs with
    | error stop' =>
      rw [answered] at done
      cases done
    | ok value' =>
      rw [answered] at done
      cases done
      exact ⟨kept, List.append_nil log, rfl⟩

/-! ### Programs that only look -/

/-- A program that changes nothing an edit knows. -/
def Looks (program : Edit Value) : Prop :=
  ∀ holds, Stable holds → ∀ log commit,
    Triple (At holds log commit) program (fun _ => At holds log commit)
      fun stop state => stop.isPlain = true ∧ At holds log commit state

namespace Looks

theorem of_look {answer : Turn → FileSystem → Except Stop Value}
    (plain : ∀ turn fs stop, answer turn fs = .error stop → stop.isPlain = true) :
    Looks (look answer) :=
  fun _ stable _ _ => triple_look stable rfl rfl plain

theorem pure (value : Value) : Looks (Pure.pure value : Edit Value) :=
  fun _ _ _ _ => Triple.pure fun _ => id

theorem throw {stop : Stop} (plain : stop.isPlain = true) :
    Looks (MonadExcept.throw stop : Edit Value) :=
  fun _ _ _ _ => Triple.throw fun _ start => ⟨plain, start⟩

theorem get : Looks (MonadState.get : Edit EditState) := fun _ _ _ _ _ => id

variable {program : Edit Value}

theorem bind {next : Value → Edit Next} (first : Looks program)
    (second : ∀ value, Looks (next value)) : Looks (program >>= next) :=
  fun holds stable log commit =>
    (first holds stable log commit).bind fun value => second value holds stable log commit

theorem handle {handler : Stop → Edit Value} (first : Looks program)
    (second : ∀ stop, stop.isPlain = true → Looks (handler stop)) :
    Looks (Foundation.handle program handler) := by
  intro holds stable log commit
  refine (first holds stable log commit).handle fun stop => ?_
  rintro state ⟨plain, start⟩
  exact second stop plain holds stable log commit state start

theorem ensuring {cleanup : Edit Unit} (first : Looks program)
    (second : Looks cleanup) : Looks (Foundation.ensuring program cleanup) := by
  intro holds stable log commit
  refine (first holds stable log commit).ensuring
    (fun _ => second holds stable log commit) fun stop => ?_
  rintro state ⟨plain, start⟩
  exact (second holds stable log commit).weaken (fun _ => id) (fun _ _ kept => ⟨plain, kept⟩)
    (fun _ _ failed => failed) state start

theorem ite {condition : Prop} [Decidable condition] {program other : Edit Value}
    (yes : Looks program) (no : Looks other) : Looks (if condition then program else other) :=
  fun holds stable log commit =>
    Triple.ite (fun _ => yes holds stable log commit) fun _ => no holds stable log commit

theorem onOsError {replacement : Stop} (first : Looks program)
    (plain : replacement.isPlain = true) : Looks (Tools.onOsError program replacement) :=
  first.handle fun _ plainStop => .ite (.throw plain) (.throw plainStop)

end Looks

/-! ### The reads and the checks -/

/-- A call that looks something up fails in one way only. -/
theorem stop_of_missing {found : Option Nat} {answer : Nat → Value} {missing stop : Stop}
    (failed : (match found with
      | some file => Except.ok (answer file)
      | none => .error missing) = .error stop) : stop = missing := by
  cases found with
  | some file => cases failed
  | none =>
    cases failed
    rfl

theorem looks_openTargetDirectory : Looks openTargetDirectory :=
  .of_look fun _ _ _ failed => stop_of_missing failed ▸ rfl

theorem looks_openEntry (directory : Nat) (name : String) : Looks (openEntry directory name) :=
  .of_look fun _ _ _ failed => stop_of_missing failed ▸ rfl

theorem looks_statEntry (directory : Nat) (name : String) : Looks (statEntry directory name) :=
  .of_look fun _ _ _ failed => stop_of_missing failed ▸ rfl

theorem looks_fstat (file : Nat) : Looks (fstat file) := .of_look nofun

theorem looks_readChunk (file offset : Nat) : Looks (readChunk file offset) :=
  .of_look nofun

theorem looks_plainCall : Looks plainCall := .of_look nofun

theorem looks_readFrom (file : Nat) : ∀ (bound : Nat) (soFar : Bytes),
    Looks (readFrom file bound soFar) := by
  intro bound
  induction bound with
  | zero => exact fun _ => .throw rfl
  | succ bound ih =>
    intro soFar
    exact (looks_readChunk file soFar.length).bind fun chunk => .ite (.pure _) (ih _)

theorem looks_readAll (file : Nat) : Looks (readAll file) :=
  Looks.get.bind fun state => looks_readFrom file (state.script.length + 1) []

theorem looks_readOpened (directory : Nat) (name : String) (file : Nat) :
    Looks (readOpened directory name file) := by
  unfold readOpened
  have refuse : ∀ {rest : Unit → Edit TargetSnapshot},
      Looks ((throw .invalidTarget : Edit Unit) >>= rest) :=
    fun _ _ _ _ => .throw fun _ kept => ⟨rfl, kept⟩
  refine (looks_fstat file).bind fun before => .ite refuse ?_
  refine (looks_readAll file).bind fun bytes => (looks_fstat file).bind fun after => .ite refuse ?_
  exact (looks_statEntry directory name).bind fun entry => .ite refuse (.pure _)

theorem looks_requireCurrentLexicalParent (pinned : Nat) :
    Looks (requireCurrentLexicalParent pinned) := by
  unfold requireCurrentLexicalParent
  refine (looks_openTargetDirectory.onOsError rfl).bind fun current => .ensuring ?_ looks_plainCall
  refine Looks.bind (.onOsError ?_ rfl) fun stats => .ite (.throw rfl) (.pure _)
  exact (looks_fstat pinned).bind fun first => (looks_fstat current).bind fun second => .pure _

section Reads

variable {holds : FileSystem → List Turn → Prop} (log : List Event)
  (commit : Option EditCommitState)

theorem triple_note (event : Event) {fails : Stop → EditState → Prop} :
    Triple (At holds log commit) (note event) (fun _ => At holds (log ++ [event]) commit) fails := by
  rintro state ⟨kept, logged, committed⟩
  exact ⟨kept, congrArg (· ++ [event]) logged, committed⟩

/-- Some reads were finished since. -/
def Watched (holds : FileSystem → List Turn → Prop) (log : List Event)
    (commit : Option EditCommitState) (state : EditState) : Prop :=
  ∃ seen : List Bytes, At holds (log ++ seen.map .observed) commit state

theorem At.watched {state : EditState} (here : At holds log commit state) :
    Watched holds log commit state :=
  ⟨[], here.1, here.2.1.trans (List.append_nil log).symm, here.2.2⟩

theorem triple_readTargetInDirectory (stable : Stable holds) (target : AuthorizedEdit) (directory : Nat) :
    Triple (At holds log commit) (readTargetInDirectory target directory)
      (fun snapshot => At holds (log ++ [.observed snapshot.rawBytes]) commit)
      (fun stop state => stop.isPlain = true ∧ At holds log commit state) := by
  have opens := (looks_openEntry directory target.entryName).onOsError
    (show Stop.invalidTarget.isPlain = true from rfl)
  have reads := fun file => ((looks_readOpened directory target.entryName file).onOsError
    (show Stop.invalidTarget.isPlain = true from rfl)).ensuring looks_plainCall
  refine (opens holds stable log commit).bind fun file =>
    (reads file holds stable log commit).bind fun snapshot => ?_
  exact (triple_note log commit _).bind fun _ => .pure fun _ => id

/-- **The read of the target**: a finished one is the only trace it leaves. -/
theorem triple_readTarget (stable : Stable holds) (target : AuthorizedEdit) :
    Triple (At holds log commit) (readTarget target)
      (fun found => At holds
        (log ++ (found.map fun snapshot => .observed snapshot.rawBytes).toList) commit)
      (fun stop state => stop.isPlain = true ∧ Watched holds log commit state) := by
  have opens : Looks (handle (some <$> openTargetDirectory) fun stop =>
      if stop.isOs then pure none else throw stop) :=
    Looks.handle (looks_openTargetDirectory.bind fun _ => .pure _)
      fun _ plain => .ite (.pure _) (.throw plain)
  refine ((opens holds stable log commit).weaken (fun _ => id) (fun _ _ => id)
    fun _ state kept => ⟨kept.1, kept.2.watched⟩).bind fun opened => ?_
  cases opened with
  | none => exact .pure fun _ kept => ⟨kept.1, kept.2.1.trans (List.append_nil log).symm, kept.2.2⟩
  | some directory =>
    have closes := fun log => looks_plainCall holds stable log commit
    have body : Triple (At holds log commit)
        (handle (some <$> readTargetInDirectory target directory) fun stop =>
          if stop = .invalidTarget then pure none else throw stop)
        (fun found => At holds
          (log ++ (found.map fun snapshot => .observed snapshot.rawBytes).toList) commit)
        (fun stop state => stop.isPlain = true ∧ At holds log commit state) := by
      refine Triple.handle ((triple_readTargetInDirectory log commit stable target directory).bind
        fun snapshot => .pure fun _ kept => kept) fun stop => ?_
      refine .ite (fun _ => .pure ?_) fun _ => .throw fun _ kept => kept
      rintro state ⟨_, kept⟩
      exact ⟨kept.1, kept.2.1.trans (List.append_nil log).symm, kept.2.2⟩
    refine body.ensuring (fun found => (closes _).weaken (fun _ => id) (fun _ _ => id) ?_)
      fun stop => ?_
    · rintro stop state ⟨plain, kept⟩
      refine ⟨plain, (found.map (·.rawBytes)).toList, kept.1, kept.2.1.trans ?_, kept.2.2⟩
      cases found <;> rfl
    · rintro state ⟨plain, kept⟩
      exact (closes log).weaken (fun _ => id) (fun _ _ after => ⟨plain, after.watched⟩)
        (fun _ _ failed => ⟨failed.1, failed.2.watched⟩) state kept

/-- The reread behind an `UNCERTAIN` answer. -/
theorem triple_uncertain (stable : Stable holds) (context : EditContext) (target : AuthorizedEdit)
    (stage : String) (fallback : Option String) :
    Triple (At holds log commit) (context.uncertain target stage fallback)
      (fun answer state => (∃ hash, answer = .uncertain stage hash) ∧ Watched holds log commit state)
      (fun stop state => stop.isPlain = true ∧ Watched holds log commit state) := by
  have hashes : Triple (At holds log commit) (safeCurrentHash context.library target)
      (fun _ => Watched holds log commit)
      (fun stop state => stop.isPlain = true ∧ Watched holds log commit state) := by
    have read : Triple (At holds log commit) (readTarget target) (fun _ => Watched holds log commit)
        (fun stop state => stop.isPlain = true ∧ Watched holds log commit state) := by
      refine (triple_readTarget log commit stable target).weaken (fun _ => id) ?_ fun _ _ => id
      intro found state kept
      refine ⟨(found.map (·.rawBytes)).toList, kept.1, kept.2.1.trans ?_, kept.2.2⟩
      cases found <;> rfl
    refine Triple.bind (read.handle fun stop => .ite (fun _ => .pure fun _ kept => kept.2)
      fun _ => .throw fun _ kept => kept) fun found => .pure fun _ kept => kept
  exact hashes.bind fun observed => .pure fun state kept => ⟨⟨_, rfl⟩, kept⟩

end Reads

end SerenaLight.Tools

/-
**The replacement, up to and after its rename.**

`_atomic_replace` from any state, against any other processes:

- `Held`: the temporary file is there with known bytes, as long as nobody else touches it
  (`Untouched`). The guard of `Held` makes the same specifications serve the runs in which others do
  touch it.
- `Installed`: the log once the rename is reached. It names the read before it and the bytes that
  were renamed, and what followed up to reads and unlinks.
- `triple_atomicReplace`: every way in which the replacement ends.
-/

import SerenaLight.Tools.EditCalls

namespace SerenaLight.Tools

open Foundation Lsp

/-- Other processes leave the entry of a name, and the bytes of the file it names, alone. -/
def Untouched (temporary : String) (script : List Turn) : Prop :=
  ∀ turn ∈ script, ∀ fs directory,
    (turn.interfere fs).entries directory temporary = fs.entries directory temporary ∧
    ∀ file, fs.entries directory temporary = some file →
      (turn.interfere fs).content file = fs.content file

theorem Untouched.tail {temporary : String} {turn : Turn} {rest : List Turn}
    (alone : Untouched temporary (turn :: rest)) : Untouched temporary rest :=
  fun other member => alone other (List.mem_cons_of_mem turn member)

/-- The stops of a call that the system refused. -/
def Stop.isSystem : Stop → Bool
  | .cut => true
  | .osError => true
  | .fileNotFound => true
  | _ => false

section Temporary

variable (guard : Prop) (temporary : String) (directory file : Nat)

/-- Under the guard, the temporary stays untouched. -/
def Unshared (_ : FileSystem) (script : List Turn) : Prop := guard → Untouched temporary script

theorem Unshared.stable : Stable (Unshared guard temporary) :=
  fun _ _ _ alone guarded => (alone guarded).tail

/-- Under the guard, the temporary names a file with these bytes and stays untouched. -/
def Held (bytes : Bytes) (fs : FileSystem) (script : List Turn) : Prop :=
  guard → Untouched temporary script ∧ fs.entries directory temporary = some file ∧
    fs.content file = bytes

theorem Held.stable (bytes : Bytes) : Stable (Held guard temporary directory file bytes) := by
  intro turn rest fs held guarded
  obtain ⟨alone, named, filled⟩ := held guarded
  have kept := alone turn (List.mem_cons_self) fs directory
  refine ⟨alone.tail, kept.1.trans named, ?_⟩
  exact (kept.2 file named).trans filled

/-- The temporary is the edit's own from here on, whatever it holds. -/
def Owned (log : List Event) (commit : Option EditCommitState) (state : EditState) : Prop :=
  ∃ bytes, At (Held guard temporary directory file bytes) log commit state

/-! ### Filling the temporary -/

theorem FileSystem.write_at_end {fs : FileSystem} {soFar : Bytes} (chunk : Bytes)
    (filled : fs.content file = soFar) :
    (fs.write file soFar.length chunk).content file = soFar ++ chunk := by
  subst filled
  simp [FileSystem.write, FileSystem.setContent]

theorem triple_writeCall (log : List Event) (commit : Option EditCommitState)
    (soFar remaining : Bytes) :
    Triple (At (Held guard temporary directory file soFar) log commit)
      (writeCall file soFar.length remaining)
      (fun written => At (Held guard temporary directory file
        (soFar ++ remaining.take written.toNat)) log commit)
      (fun stop state => stop.isPlain = true ∧
        Owned guard temporary directory file log commit state) := by
  refine triple_call (Held.stable guard temporary directory file soFar)
    (fun state kept => ⟨rfl, soFar, kept⟩) (fun fs rest kept => ⟨rfl, soFar, kept, rfl, rfl⟩)
    nofun
    (fun turn fs rest value after events kept done => ?_)
  cases done
  refine ⟨fun guarded => ?_, List.append_nil log, rfl⟩
  obtain ⟨alone, named, filled⟩ := kept guarded
  exact ⟨alone, named, FileSystem.write_at_end file _ filled⟩

/-- **The write loop**: whatever the short writes, all of the content is there at its end. -/
theorem triple_writeAll (log : List Event) (commit : Option EditCommitState) :
    ∀ (bound : Nat) (soFar remaining : Bytes), remaining.length ≤ bound →
      Triple (At (Held guard temporary directory file soFar) log commit)
        (writeAll file soFar.length bound remaining)
        (fun _ => At (Held guard temporary directory file (soFar ++ remaining)) log commit)
        (fun stop state => stop.isPlain = true ∧
          Owned guard temporary directory file log commit state) := by
  intro bound
  induction bound with
  | zero =>
    intro soFar remaining short
    obtain rfl := List.eq_nil_of_length_eq_zero (Nat.le_zero.mp short)
    rw [List.append_nil]
    exact .pure fun _ => id
  | succ bound ih =>
    intro soFar remaining short
    refine .ite (fun empty => ?_) fun nonempty => ?_
    · rw [empty, List.append_nil]
      exact .pure fun _ => id
    · refine (triple_writeCall guard temporary directory file log commit soFar remaining).bind
        fun written => .ite (fun _ => .throw fun _ kept => ⟨rfl, _, kept⟩) fun progress => ?_
      have advanced : (soFar ++ remaining.take written.toNat).length
          = soFar.length + written.toNat := by
        rw [List.length_append, List.length_take]
        omega
      have less : (remaining.drop written.toNat).length ≤ bound := by
        rw [List.length_drop]
        omega
      have rest := ih (soFar ++ remaining.take written.toNat) (remaining.drop written.toNat) less
      rw [advanced, List.append_assoc, List.take_append_drop] at rest
      exact rest

theorem triple_fchmod (log : List Event) (commit : Option EditCommitState) (bytes : Bytes)
    (permissions : Nat) :
    Triple (At (Held guard temporary directory file bytes) log commit) (fchmod file permissions)
      (fun _ => At (Held guard temporary directory file bytes) log commit)
      (fun stop state => stop.isPlain = true ∧
        Owned guard temporary directory file log commit state) := by
  refine triple_call (Held.stable guard temporary directory file bytes)
    (fun state kept => ⟨rfl, bytes, kept⟩) (fun fs rest kept => ⟨rfl, bytes, kept, rfl, rfl⟩)
    nofun
    (fun turn fs rest value after events kept done => ?_)
  cases done
  exact ⟨kept, List.append_nil log, rfl⟩

/-- A program that only looks, while the temporary is owned. -/
theorem Looks.owned {Value : Type} {program : Edit Value} (looks : Looks program)
    (log : List Event) (commit : Option EditCommitState) :
    Triple (Owned guard temporary directory file log commit) program
      (fun _ => Owned guard temporary directory file log commit)
      (fun stop state => stop.isPlain = true ∧
        Owned guard temporary directory file log commit state) := by
  rintro state ⟨bytes, kept⟩
  exact (looks _ (Held.stable guard temporary directory file bytes) log commit).weaken
    (fun _ => id) (fun _ _ after => ⟨bytes, after⟩)
    (fun _ _ failed => ⟨failed.1, bytes, failed.2⟩) state kept

theorem triple_fillTemporary (log : List Event) (commit : Option EditCommitState)
    (content : Bytes) (permissions : Nat) :
    Triple (At (Held guard temporary directory file []) log commit)
      (fillTemporary file content permissions)
      (fun _ => At (Held guard temporary directory file content) log commit)
      (fun stop state => stop.isPlain = true ∧
        Owned guard temporary directory file log commit state) := by
  have closes : Triple (At (Held guard temporary directory file content) log commit) plainCall
      (fun _ => At (Held guard temporary directory file content) log commit)
      (fun stop state => stop.isPlain = true ∧
        Owned guard temporary directory file log commit state) :=
    (looks_plainCall _ (Held.stable guard temporary directory file content) log commit).weaken
      (fun _ => id) (fun _ _ => id) fun _ _ failed => ⟨failed.1, content, failed.2⟩
  have writes := triple_writeAll guard temporary directory file log commit content.length [] content
    le_rfl
  refine Triple.handle (writes.bind fun _ => (triple_fchmod guard temporary directory file log
    commit content permissions).bind fun _ => closes.bind fun _ => closes) fun stop => ?_
  rintro state ⟨plain, owned⟩
  have quiet : Looks (suppress Stop.isOs plainCall) :=
    looks_plainCall.handle fun _ plainStop => .ite (.pure _) (.throw plainStop)
  exact ((quiet.owned guard temporary directory file log commit).bind fun _ =>
    .throw fun _ kept => ⟨plain, kept⟩) state owned

theorem triple_createExclusive (before : List Event) (commit : Option EditCommitState) :
    Triple (At (Unshared guard temporary) before commit)
      (createExclusive directory temporary)
      (fun file => At (Held guard temporary directory file [])
        (before ++ [.created directory temporary]) commit)
      (fun stop state => stop.isSystem = true ∧
        At (Unshared guard temporary) before commit state) := by
  refine triple_call (Unshared.stable guard temporary)
    (fun state kept => ⟨rfl, kept⟩) (fun fs rest kept => ⟨rfl, kept, rfl, rfl⟩)
    (fun turn fs rest stop kept failed => ?_) (fun turn fs rest value after events kept done => ?_)
  · cases found : fs.entries directory temporary with
    | none =>
      rw [found] at failed
      cases failed
    | some file =>
      rw [found] at failed
      cases failed
      exact ⟨rfl, kept, rfl, rfl⟩
  · cases found : fs.entries directory temporary with
    | some file =>
      rw [found] at done
      cases done
    | none =>
      rw [found] at done
      cases done
      refine ⟨fun guarded => ⟨kept guarded, ?_, ?_⟩, rfl, rfl⟩
      · simp [FileSystem.create, FileSystem.setEntry, FileSystem.setContent]
      · simp [FileSystem.create, FileSystem.setContent]

/-! ### The rename and what follows it -/

theorem triple_replaceEntry (name : String) (log : List Event) (commit : Option EditCommitState)
    (content : Bytes) :
    Triple (At (Held guard temporary directory file content) log commit)
      (replaceEntry directory temporary name)
      (fun _ state => ∃ bytes, (guard → bytes = content) ∧
        At (fun _ _ => True) (log ++ [.renamed directory temporary name bytes]) commit state)
      (fun stop state => stop.isPlain = true ∧
        Owned guard temporary directory file log commit state) := by
  refine triple_call (Held.stable guard temporary directory file content)
    (fun state kept => ⟨rfl, content, kept⟩) (fun fs rest kept => ⟨rfl, content, kept, rfl, rfl⟩)
    (fun turn fs rest stop kept failed => ?_) (fun turn fs rest value after events kept done => ?_)
  · cases found : fs.entries directory temporary with
    | some other =>
      rw [found] at failed
      cases failed
    | none =>
      rw [found] at failed
      cases failed
      exact ⟨rfl, content, kept, rfl, rfl⟩
  · cases found : fs.entries directory temporary with
    | none =>
      rw [found] at done
      cases done
    | some other =>
      rw [found] at done
      cases done
      refine ⟨fs.content other, fun guarded => ?_, trivial, rfl, rfl⟩
      obtain ⟨_, named, filled⟩ := kept guarded
      rw [found] at named
      cases named
      exact filled

end Temporary

/-- Reads and unlinks: the events that neither write the target nor tell anyone about it. -/
def Event.isQuiet : Event → Bool
  | .observed _ => true
  | .unlinked _ _ => true
  | _ => false

/-- What follows the rename, apart from reads and unlinks. -/
def loud (events : List Event) : List Event := events.filter fun event => !event.isQuiet

theorem loud_append (first second : List Event) : loud (first ++ second) = loud first ++ loud second :=
  List.filter_append ..

theorem loud_observed (seen : List Bytes) : loud (seen.map .observed) = [] := by
  refine List.filter_eq_nil_iff.mpr fun event member => ?_
  obtain ⟨bytes, _, rfl⟩ := List.mem_map.mp member
  simp [Event.isQuiet]

/-- The mark that follows the rename, if the caller gave a commit. -/
def installMarks (commit : Option EditCommitState) : List Event :=
  (commit.map fun _ => .marked .installed).toList

/-- The commit after that mark. -/
def installedCommit (commit : Option EditCommitState) : Option EditCommitState :=
  commit.map fun _ => .installed

section Replacement

variable (guard : Prop) (temporary name : String) (raw content : Bytes) (before : List Event)
  (commit : Option EditCommitState)

/-- **The log once the rename is reached**, with what followed it. -/
def Installed (after log : List Event) : Prop :=
  ∃ directory bytes rest, (guard → bytes = content) ∧
    log = before ++ [.created directory temporary, .observed raw,
      .renamed directory temporary name bytes] ++ rest ∧ loud rest = after

theorem Installed.append {guard : Prop} {temporary name : String} {raw content : Bytes}
    {before after log : List Event}
    (reached : Installed guard temporary name raw content before after log) (more : List Event) :
    Installed guard temporary name raw content before (after ++ loud more) (log ++ more) := by
  obtain ⟨directory, bytes, rest, same, rfl, rfl⟩ := reached
  exact ⟨directory, bytes, rest ++ more, same, List.append_assoc .., loud_append rest more⟩

/-- The commit was beyond the rename before it: only then does the mark raise. -/
def Overrun : Prop := ∃ state, commit = some state ∧ 2 ≤ state.index

theorem triple_mark_installed (log : List Event) :
    Triple (At (fun _ _ => True) log commit) (mark .installed)
      (fun _ => At (fun _ _ => True) (log ++ installMarks commit) (installedCommit commit))
      (fun stop state => stop = .raised ∧ Overrun commit ∧ At (fun _ _ => True) log commit state) := by
  rintro ⟨fs, script, log', commit'⟩ ⟨_, rfl, rfl⟩
  cases commit' with
  | none => exact ⟨trivial, (List.append_nil log').symm, rfl⟩
  | some current =>
    unfold mark
    by_cases back : EditCommitState.installed.index ≤ current.index
    · simp only [EditCommitState.advance, if_pos back]
      exact ⟨trivial, ⟨current, rfl, back⟩, trivial, rfl, rfl⟩
    · simp only [EditCommitState.advance, if_neg back]
      exact ⟨trivial, rfl, rfl⟩

/-- Nothing after the rename is reported as an invalid or a changed target. -/
def Stop.isLate : Stop → Bool
  | .invalidTarget => false
  | .concurrentChange _ => false
  | _ => true

/-- The stops that the edit does not answer. -/
def Stop.isAbrupt : Stop → Bool
  | .raised => true
  | stop => stop.isSystem

variable {stop : Stop}

theorem isAbrupt_of_isSystem (system : stop.isSystem = true) :
    stop.isAbrupt = true := by
  cases stop <;> first | rfl | cases system

theorem isLate_of_isSystem (system : stop.isSystem = true) : stop.isLate = true := by
  cases stop <;> first | rfl | cases system

variable {holds : FileSystem → List Turn → Prop}

theorem triple_plainCall (stable : Stable holds) (log : List Event) :
    Triple (At holds log commit) plainCall (fun _ => At holds log commit)
      (fun stop state => stop.isSystem = true ∧ At holds log commit state) :=
  triple_look stable rfl rfl nofun

theorem triple_confirmInstalled (directory : Nat) (log : List Event) :
    Triple (At (fun _ _ => True) log commit) (confirmInstalled directory)
      (fun _ => At (fun _ _ => True) log commit)
      (fun stop state => stop.isLate = true ∧ At (fun _ _ => True) log commit state) := by
  have anything : Stable fun _ _ => True := fun _ _ _ _ => trivial
  refine Triple.bind ((looks_requireCurrentLexicalParent directory _ anything log commit).handle
    fun stop => .ite (fun _ => .throw fun _ kept => ⟨rfl, kept.2⟩) fun other => .throw ?_) fun _ =>
      (triple_plainCall commit anything log).handle fun stop =>
        .ite (fun _ => .throw fun _ kept => ⟨rfl, kept.2⟩)
          fun _ => .throw fun _ kept => ⟨isLate_of_isSystem kept.1, kept.2⟩
  rintro state ⟨plain, kept⟩
  refine ⟨?_, kept⟩
  cases stop <;> first | rfl | exact absurd rfl other | cases plain

/-! ### The whole replacement -/

/-- The stops before the rename. -/
def Stop.isEarly : Stop → Bool
  | .concurrentChange _ => true
  | stop => stop.isPlain

theorem isEarly_of_isPlain (plain : stop.isPlain = true) : stop.isEarly = true := by
  cases stop <;> first | rfl | cases plain

/-- How the body of the replacement fails in a directory: without a temporary, with one and before
the rename, or after it. -/
inductive InstallFails (directory : Nat) (stop : Stop) (state : EditState) : Prop
  | unbegun (system : stop.isSystem = true)
      (kept : At (Unshared guard temporary) before commit state)
  | begun (file : Nat) (seen : List Bytes) (early : stop.isEarly = true)
      (kept : Owned guard temporary directory file
        (before ++ [.created directory temporary] ++ seen.map .observed) commit state)
  | unmarked (abrupt : stop.isAbrupt = true) (overrun : Overrun commit) (log : List Event)
      (reached : Installed guard temporary name raw content before [] log)
      (kept : At (fun _ _ => True) log commit state)
  | marked (late : stop.isLate = true) (log : List Event)
      (reached : Installed guard temporary name raw content before (installMarks commit) log)
      (kept : At (fun _ _ => True) log (installedCommit commit) state)

theorem loud_installMarks : loud (installMarks commit) = installMarks commit := by
  cases commit <;> rfl

/-- The mark and the checks behind the rename. -/
theorem triple_afterRename (directory : Nat) (log : List Event) (newHash : String)
    (reached : Installed guard temporary name raw content before [] log) :
    Triple (At (fun _ _ => True) log commit)
      (do
        mark .installed
        confirmInstalled directory
        return newHash)
      (fun _ state => ∃ log,
        Installed guard temporary name raw content before (installMarks commit) log ∧
        At (fun _ _ => True) log (installedCommit commit) state)
      (InstallFails guard temporary name raw content before commit directory) := by
  have reachedMark : Installed guard temporary name raw content before (installMarks commit)
      (log ++ installMarks commit) := by
    have appended := reached.append (installMarks commit)
    rwa [loud_installMarks, List.nil_append] at appended
  refine ((triple_mark_installed commit log).weaken (fun _ => id) (fun _ _ => id) ?_).bind fun _ =>
    ((triple_confirmInstalled (installedCommit commit) directory _).weaken (fun _ => id)
      (fun _ _ => id) fun stop state failed => .marked failed.1 _ reachedMark failed.2).bind
      fun _ => .pure fun state kept => ⟨_, reachedMark, kept⟩
  rintro stop state ⟨rfl, overrun, kept⟩
  exact .unmarked rfl overrun log reached kept

theorem triple_installThrough (library : Library) (target : AuthorizedEdit) (directory : Nat)
    (permissions : Nat) :
    Triple (At (Unshared guard temporary) before commit)
      (installThrough library target directory temporary content raw permissions)
      (fun _ state => ∃ log,
        Installed guard temporary target.entryName raw content before (installMarks commit) log ∧
        At (fun _ _ => True) log (installedCommit commit) state)
      (InstallFails guard temporary target.entryName raw content before commit directory) := by
  refine ((triple_createExclusive guard temporary directory before commit).weaken (fun _ => id)
    (fun _ _ => id) fun stop state failed => .unbegun failed.1 failed.2).bind fun file => ?_
  have stable := Held.stable guard temporary directory file content
  -- until the read through the pinned directory nothing is logged but the temporary
  have unread : ∀ stop state, (stop.isPlain = true ∧ Owned guard temporary directory file
      (before ++ [.created directory temporary]) commit state) →
      InstallFails guard temporary target.entryName raw content before commit directory stop state :=
    fun stop state failed => .begun file [] (isEarly_of_isPlain failed.1)
      (by rw [List.map_nil, List.append_nil]; exact failed.2)
  have read : ∀ bytes stop state, (stop.isEarly = true ∧ Owned guard temporary directory file
      (before ++ [.created directory temporary] ++ [.observed bytes]) commit state) →
      InstallFails guard temporary target.entryName raw content before commit directory stop state :=
    fun bytes stop state failed => .begun file [bytes] failed.1 failed.2
  refine ((triple_fillTemporary guard temporary directory file _ commit content permissions).weaken
    (fun _ => id) (fun _ _ => id) unread).bind fun _ => ?_
  refine ((looks_requireCurrentLexicalParent directory _ stable _ commit).weaken (fun _ => id)
    (fun _ _ => id) fun stop state failed => unread stop state ⟨failed.1, _, failed.2⟩).bind
    fun _ => ?_
  refine ((triple_readTargetInDirectory _ commit stable target directory).weaken (fun _ => id)
    (fun _ _ => id) fun stop state failed => unread stop state ⟨failed.1, _, failed.2⟩).bind
    fun current => .ite (fun changed => ?_) fun unchanged => ?_
  · exact .throw fun state kept => read current.rawBytes _ state ⟨rfl, _, kept⟩
  · have same : current.rawBytes = raw := not_not.mp unchanged
    rw [same]
    refine ((looks_requireCurrentLexicalParent directory _ stable _ commit).weaken (fun _ => id)
      (fun _ _ => id) fun stop state failed =>
        read raw stop state ⟨isEarly_of_isPlain failed.1, _, failed.2⟩).bind fun _ => ?_
    refine ((triple_replaceEntry guard temporary directory file target.entryName _ commit
      content).weaken (fun _ => id) (fun _ _ => id) fun stop state failed =>
        read raw stop state ⟨isEarly_of_isPlain failed.1, failed.2⟩).bind fun _ => ?_
    rintro state ⟨bytes, equal, kept⟩
    refine triple_afterRename guard temporary target.entryName raw content before commit directory
      _ _ ⟨directory, bytes, [], equal, ?_, rfl⟩ state kept
    simp

/-- The clean-up of the temporary: it unlinks the entry, unless there is none. -/
theorem triple_cleanup (directory : Nat) (stable : Stable holds) (sure : Prop) (log : List Event)
    (present : ∀ fs script, holds fs script → sure → fs.entries directory temporary ≠ none) :
    Triple (At holds log commit)
      (do
        suppress (· = .fileNotFound) (unlinkEntry directory temporary)
        plainCall)
      (fun _ state => ∃ tail, (tail = [] ∧ ¬sure ∨ tail = [.unlinked directory temporary]) ∧
        At (fun _ _ => True) (log ++ tail) commit state)
      (fun stop state => stop.isSystem = true ∧ ∃ tail,
        (tail = [] ∨ tail = [.unlinked directory temporary]) ∧
        At (fun _ _ => True) (log ++ tail) commit state) := by
  have anything : Stable fun _ _ => True := fun _ _ _ _ => trivial
  have unlinks : Triple (At holds log commit) (unlinkEntry directory temporary)
      (fun _ => At (fun _ _ => True) (log ++ [.unlinked directory temporary]) commit)
      (fun stop state => stop.isSystem = true ∧ (stop = .fileNotFound → ¬sure) ∧
        At (fun _ _ => True) log commit state) := by
    refine triple_call stable (fun state kept => ⟨rfl, (nomatch ·), trivial, kept.2⟩)
      (fun fs rest kept => ⟨rfl, (nomatch ·), trivial, rfl, rfl⟩)
      (fun turn fs rest stop kept failed => ?_) (fun turn fs rest value after events kept done => ?_)
    · cases found : fs.entries directory temporary with
      | some file =>
        rw [found] at failed
        cases failed
      | none =>
        rw [found] at failed
        cases failed
        exact ⟨rfl, fun _ certain => present fs rest kept certain found, trivial, rfl, rfl⟩
    · cases found : fs.entries directory temporary with
      | none =>
        rw [found] at done
        cases done
      | some file =>
        rw [found] at done
        cases done
        exact ⟨trivial, rfl, rfl⟩
  have removes : Triple (At holds log commit)
      (suppress (· = .fileNotFound) (unlinkEntry directory temporary))
      (fun _ state => ∃ tail, (tail = [] ∧ ¬sure ∨ tail = [.unlinked directory temporary]) ∧
        At (fun _ _ => True) (log ++ tail) commit state)
      (fun stop state => stop.isSystem = true ∧ ∃ tail,
        (tail = [] ∨ tail = [.unlinked directory temporary]) ∧
        At (fun _ _ => True) (log ++ tail) commit state) := by
    refine (unlinks.weaken (fun _ => id) (fun _ _ kept => ⟨_, .inr rfl, kept⟩)
      fun _ _ => id).handle fun stop => .ite (fun missing => .pure ?_) fun _ => .throw ?_
    · rintro state ⟨_, unsure, kept⟩
      exact ⟨[], .inl ⟨rfl, unsure (of_decide_eq_true missing)⟩, (List.append_nil log).symm ▸ kept⟩
    · rintro state ⟨system, _, kept⟩
      exact ⟨system, [], .inl rfl, (List.append_nil log).symm ▸ kept⟩
  refine removes.bind fun _ => ?_
  rintro state ⟨tail, shape, kept⟩
  exact (triple_plainCall commit anything _).weaken (fun _ => id)
    (fun _ _ after => ⟨tail, shape, after⟩)
    (fun _ _ failed => ⟨failed.1, tail, shape.imp_left And.left, failed.2⟩) state kept

/-- How the replacement as a whole fails. -/
inductive ReplaceFails (stop : Stop) (state : EditState) : Prop
  | dropped (delta : List Event) (system : stop.isSystem = true)
      (calm : ∀ event ∈ delta, event.isQuiet = true ∨ ∃ directory, event = .created directory temporary)
      (logged : state.log = before ++ delta) (kept : state.commit = commit)
  | refused (directory : Nat) (seen : List Bytes) (tail : List Event)
      (early : stop.isEarly = true)
      (removed : tail = [] ∧ ¬guard ∨ tail = [.unlinked directory temporary])
      (logged : state.log = before ++ [.created directory temporary] ++ seen.map .observed ++ tail)
      (kept : state.commit = commit)
  | unmarked (abrupt : stop.isAbrupt = true) (overrun : Overrun commit)
      (reached : Installed guard temporary name raw content before [] state.log)
  | marked (late : stop.isLate = true)
      (reached : Installed guard temporary name raw content before (installMarks commit) state.log)
      (kept : state.commit = installedCommit commit)

theorem Installed.removed {guard : Prop} {temporary name : String} {raw content : Bytes}
    {before after log tail : List Event} {directory : Nat}
    (reached : Installed guard temporary name raw content before after log)
    (shape : tail = [] ∨ tail = [.unlinked directory temporary]) :
    Installed guard temporary name raw content before after (log ++ tail) := by
  have appended := reached.append tail
  have silent : loud tail = [] := by rcases shape with rfl | rfl <;> rfl
  rwa [silent, List.append_nil] at appended

theorem Installed.watched {guard : Prop} {temporary name : String} {raw content : Bytes}
    {before after log : List Event} {commit : Option EditCommitState} {state : EditState}
    (reached : Installed guard temporary name raw content before after log)
    (later : Watched holds log commit state) :
    Installed guard temporary name raw content before after state.log ∧ state.commit = commit := by
  obtain ⟨seen, _, logged, kept⟩ := later
  have appended := reached.append (seen.map .observed)
  rw [loud_observed, List.append_nil] at appended
  exact ⟨logged ▸ appended, kept⟩

/-- The clean-up after a failed replacement keeps the failure, or puts its own in its place. -/
theorem triple_cleanup_failed (directory : Nat) (stop : Stop) :
    Triple (InstallFails guard temporary name raw content before commit directory stop)
      (do
        suppress (· = .fileNotFound) (unlinkEntry directory temporary)
        plainCall)
      (fun _ => ReplaceFails guard temporary name raw content before commit stop)
      (ReplaceFails guard temporary name raw content before commit) := by
  have anything : Stable fun _ _ => True := fun _ _ _ _ => trivial
  have unsure : ∀ (fs : FileSystem) (script : List Turn), True → False →
      fs.entries directory temporary ≠ none := fun _ _ _ never => never.elim
  have calm : ∀ {tail : List Event}, (tail = [] ∨ tail = [.unlinked directory temporary]) →
      ∀ event ∈ tail, event.isQuiet = true ∨ ∃ place, event = .created place temporary := by
    intro tail shape event member
    rcases shape with rfl | rfl
    · cases member
    · exact .inl (List.mem_singleton.mp member ▸ rfl)
  have calmReads : ∀ (seen : List Bytes) {tail : List Event},
      (tail = [] ∨ tail = [.unlinked directory temporary]) →
      ∀ event ∈ [.created directory temporary] ++ seen.map .observed ++ tail,
        event.isQuiet = true ∨ ∃ place, event = .created place temporary := by
    intro seen tail shape event member
    rcases List.mem_append.mp member with earlier | last
    · rcases List.mem_append.mp earlier with first | middle
      · exact .inr ⟨directory, List.mem_singleton.mp first⟩
      · obtain ⟨bytes, _, rfl⟩ := List.mem_map.mp middle
        exact .inl rfl
    · exact calm shape event last
  intro state failed
  cases failed with
  | unbegun system kept =>
    refine (triple_cleanup temporary commit directory (Unshared.stable guard temporary) False before
      fun _ _ _ never => never.elim).weaken (fun _ => id) ?_ ?_ state kept
    · rintro _ after ⟨tail, shape, last⟩
      exact .dropped tail system (calm (shape.imp_left And.left)) last.2.1 last.2.2
    · rintro later after ⟨laterSystem, tail, shape, last⟩
      exact .dropped tail laterSystem (calm shape) last.2.1 last.2.2
  | begun file seen early owned =>
    obtain ⟨bytes, kept⟩ := owned
    refine (triple_cleanup temporary commit directory
      (Held.stable guard temporary directory file bytes) guard _ fun fs script held guarded => ?_).weaken
      (fun _ => id) ?_ ?_ state kept
    · rw [(held guarded).2.1]
      exact Option.some_ne_none file
    · rintro _ after ⟨tail, shape, last⟩
      exact .refused directory seen tail early shape last.2.1 last.2.2
    · rintro later after ⟨system, tail, shape, last⟩
      refine .dropped _ system (calmReads seen shape) (last.2.1.trans ?_) last.2.2
      simp
  | unmarked abrupt overrun log reached kept =>
    refine (triple_cleanup temporary commit directory anything False log unsure).weaken
      (fun _ => id) ?_ ?_ state kept
    · rintro _ after ⟨tail, shape, last⟩
      exact .unmarked abrupt overrun (last.2.1 ▸ reached.removed (shape.imp_left And.left))
    · rintro later after ⟨system, tail, shape, last⟩
      exact .unmarked (isAbrupt_of_isSystem system) overrun (last.2.1 ▸ reached.removed shape)
  | marked late log reached kept =>
    refine (triple_cleanup temporary (installedCommit commit) directory anything False log
      unsure).weaken (fun _ => id) ?_ ?_ state kept
    · rintro _ after ⟨tail, shape, last⟩
      exact .marked late (last.2.1 ▸ reached.removed (shape.imp_left And.left)) last.2.2
    · rintro later after ⟨system, tail, shape, last⟩
      exact .marked (isLate_of_isSystem system) (last.2.1 ▸ reached.removed shape) last.2.2

/-- **The replacement**: from any log and commit, in every way it ends. -/
theorem triple_atomicReplace (library : Library) (target : AuthorizedEdit) (token : String)
    (permissions : Nat) :
    Triple (At (Unshared guard (temporaryName target token)) before commit)
      (atomicReplace library target token content raw permissions)
      (fun _ state => Installed guard (temporaryName target token) target.entryName raw content
        before (installMarks commit) state.log ∧ state.commit = installedCommit commit)
      (ReplaceFails guard (temporaryName target token) target.entryName raw content before
        commit) := by
  have opens : Triple (At (Unshared guard (temporaryName target token)) before commit)
      openTargetDirectory (fun _ => At (Unshared guard (temporaryName target token)) before commit)
      (fun stop state => stop.isSystem = true ∧
        At (Unshared guard (temporaryName target token)) before commit state) :=
    triple_look (Unshared.stable _ _) rfl rfl fun _ _ _ failed => stop_of_missing failed ▸ rfl
  refine (opens.weaken (fun _ => id) (fun _ _ => id) ?_).bind fun directory => ?_
  · rintro stop state ⟨system, kept⟩
    exact .dropped [] system nofun (kept.2.1.trans (List.append_nil before).symm) kept.2.2
  refine (triple_installThrough guard (temporaryName target token) raw content before commit library
    target directory permissions).ensuring (fun newHash => ?_) fun stop =>
      triple_cleanup_failed guard _ target.entryName raw content before commit directory stop
  rintro state ⟨log, reached, kept⟩
  refine (triple_cleanup (temporaryName target token) (installedCommit commit) directory
    (fun _ _ _ _ => trivial) False log fun _ _ _ never => never.elim).weaken (fun _ => id) ?_ ?_
    state kept
  · rintro _ after ⟨tail, shape, last⟩
    exact ⟨last.2.1 ▸ reached.removed (shape.imp_left And.left), last.2.2⟩
  · rintro stop after ⟨system, tail, shape, last⟩
    exact .marked (isLate_of_isSystem system) (last.2.1 ▸ reached.removed shape) last.2.2

end Replacement

end SerenaLight.Tools

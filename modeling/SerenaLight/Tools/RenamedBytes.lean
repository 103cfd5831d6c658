/-
**The bytes an edit renames onto its target.**

Whatever other processes do between its system calls, as long as they leave the edit's temporary
file alone: the renamed bytes are the requested rewrite of bytes that three reads returned, and a
refused edit leaves no trace in any directory (`renamed_bytes`). A process that does touch the
temporary between its flush and the rename decides what is renamed (`renames_foreign_bytes`).
-/

import SerenaLight.Tools.EditOutcome

namespace SerenaLight.Tools

open Foundation Lsp

/-- What a finished read returned. -/
def Event.observed? : Event → Option Bytes
  | .observed bytes => some bytes
  | _ => none

/-- The events that change a directory. -/
def Event.isChange : Event → Bool
  | .created _ _ => true
  | .renamed _ _ _ _ => true
  | .unlinked _ _ => true
  | _ => false

def Event.isRename : Event → Bool
  | .renamed _ _ _ _ => true
  | _ => false

/-- The state in which a run ends. -/
def finalState {Value : Type} : EStateM.Result Stop EditState Value → EditState
  | .ok _ state => state
  | .error _ state => state

variable {log : List Event} {directory : Nat}

/-- A log of an installation holds one rename, behind three reads of the same bytes. -/
theorem Installed.split_at_rename {guard : Prop} {temporary name source destination : String}
    {raw content bytes : Bytes} {after before later : List Event}
    (reached : Installed guard temporary name raw content [.observed raw, .observed raw] after log)
    (unrenamed : ∀ event ∈ after, event.isRename = false)
    (split : log = before ++ .renamed directory source destination bytes :: later) :
    (guard → bytes = content) ∧ destination = name ∧
      before.filterMap Event.observed? = [raw, raw, raw] := by
  obtain ⟨place, written, rest, same, shape, spoken⟩ := reached
  have notBefore : Event.renamed directory source destination bytes ∉
      [.observed raw, .observed raw, .created place temporary, .observed raw] := by simp
  have notAfter : Event.renamed directory source destination bytes ∉ rest := fun member => by
    have heard : Event.renamed directory source destination bytes ∈ loud rest :=
      List.mem_filter.mpr ⟨member, rfl⟩
    rw [spoken] at heard
    cases unrenamed _ heard
  have aligned : [.observed raw, .observed raw, .created place temporary, .observed raw] ++
      Event.renamed place temporary name written :: rest =
      before ++ .renamed directory source destination bytes :: later := by
    rw [← split, shape]
    simp
  obtain ⟨rfl, event, _⟩ := (List.append_cons_inj_of_notMem notBefore notAfter).mp aligned
  cases event
  exact ⟨same, rfl, rfl⟩

variable {commit : Option EditCommitState}

theorem not_isRename_of_marks :
    ∀ event ∈ installMarks commit ++ .notified :: EditContext.doneMarks commit,
      event.isRename = false := by
  intro event member
  cases commit with
  | none =>
    rw [List.mem_singleton.mp member]
    rfl
  | some state =>
    simp only [installMarks, EditContext.doneMarks, Option.map_some, Option.toList_some,
      List.cons_append, List.nil_append, List.mem_cons, List.not_mem_nil, or_false] at member
    rcases member with rfl | rfl | rfl <;> rfl

theorem not_isRename_of_installMarks :
    ∀ event ∈ installMarks commit, event.isRename = false :=
  fun event member => not_isRename_of_marks event (List.mem_append_left _ member)

namespace EditContext

variable (self : EditContext) (request : EditRequest)

/-- A log without a rename cannot be split at one. -/
theorem unsplit {before later : List Event} {source destination : String} {bytes : Bytes}
    (calm : ∀ event ∈ log, event.isRename = false)
    (split : log = before ++ .renamed directory source destination bytes :: later) : False := by
  have found := calm (.renamed directory source destination bytes)
    (split ▸ List.mem_append_right before List.mem_cons_self)
  cases found

theorem not_isRename_of_calm (calm : Calm log) :
    ∀ event ∈ log, event.isRename = false := by
  intro event member
  rcases calm event member with quiet | ⟨directory, name, rfl⟩
  · cases event <;> first | rfl | cases quiet
  · rfl

/-- What the log of an edit tells about a rename in it. -/
def RenameIsRequested (log : List Event) : Prop :=
  ∀ before directory source destination bytes later,
    log = before ++ .renamed directory source destination bytes :: later →
    ∃ target raw, self.authorize request.relativePath = .granted target ∧
      destination = target.entryName ∧ self.Rewrites request target raw bytes ∧
      before.filterMap Event.observed? = [raw, raw, raw]

/-- The directories are as the edit found them, but for a temporary that came and went. -/
def LeavesNoTrace (log : List Event) : Prop :=
  log.filter Event.isChange = [] ∨ ∃ target directory,
    self.authorize request.relativePath = .granted target ∧
    log.filter Event.isChange =
      [.created directory (self.temporary target), .unlinked directory (self.temporary target)]

theorem renameIsRequested_of_installed {target : AuthorizedEdit} {raw content : Bytes}
    {after : List Event} (granted : self.authorize request.relativePath = .granted target)
    (asked : self.Rewrites request target raw content)
    (reached : Installed True (self.temporary target) target.entryName raw content [.observed raw, .observed raw] after log)
    (unrenamed : ∀ event ∈ after, event.isRename = false) :
    self.RenameIsRequested request log := by
  intro before directory source destination bytes later split
  obtain ⟨same, named, reads⟩ := reached.split_at_rename unrenamed split
  exact ⟨target, raw, granted, named, same trivial ▸ asked, reads⟩

variable {commit : Option EditCommitState} {state : EditState}

variable {answer : EditAnswer}

theorem renameIsRequested_of_answered (ended : self.Answered request True commit answer state) :
    self.RenameIsRequested request state.log := by
  cases ended with
  | declined refusal seen logged kept =>
    intro before directory source destination bytes later split
    exact (unsplit (not_isRename_of_calm (logged ▸ calm_observed seen)) split).elim
  | withdrawn refusal target granted place first seen tail removed logged kept =>
    intro before directory source destination bytes later split
    have calm : Calm state.log := logged ▸ calm_of_withdrawn (calm_observed first) removed
    exact (unsplit (not_isRename_of_calm calm) split).elim
  | uncertain stage hash same target granted raw content asked reached kept =>
    exact self.renameIsRequested_of_installed request granted asked reached
      not_isRename_of_installMarks
  | success done target granted raw content asked reached kept =>
    exact self.renameIsRequested_of_installed request granted asked reached not_isRename_of_marks

theorem renameIsRequested_of_raised {stop : Stop} (ended : self.Raised request True commit stop state) :
    self.RenameIsRequested request state.log := by
  cases ended with
  | dropped calm kept =>
    intro before directory source destination bytes later split
    exact (unsplit (not_isRename_of_calm calm) split).elim
  | installed target granted raw content asked after reached marked =>
    refine self.renameIsRequested_of_installed request granted asked reached fun event member => ?_
    rcases marked with ⟨rfl, _⟩ | ⟨rfl, _⟩
    · cases member
    · exact not_isRename_of_installMarks event member

theorem filter_isChange_observed (seen : List Bytes) :
    (seen.map Event.observed).filter Event.isChange = [] := by
  refine List.filter_eq_nil_iff.mpr fun event member => ?_
  obtain ⟨bytes, _, rfl⟩ := List.mem_map.mp member
  exact nofun

theorem leavesNoTrace_of_answered (ended : self.Answered request True commit answer state)
    (refusal : answer.isRefusal = true) : self.LeavesNoTrace request state.log := by
  cases ended with
  | declined _ seen logged kept =>
    exact .inl (logged ▸ filter_isChange_observed seen)
  | withdrawn _ target granted place first seen tail removed logged kept =>
    obtain ⟨_, unguarded⟩ | rfl := removed
    · exact absurd trivial unguarded
    · refine .inr ⟨target, place, granted, ?_⟩
      rw [logged, List.filter_append, List.filter_append, List.filter_append,
        filter_isChange_observed, filter_isChange_observed]
      rfl
  | uncertain stage hash same => cases same ▸ refusal
  | success done =>
    obtain ⟨_, _, _, _, rfl⟩ := done
    cases refusal

/-- **The renamed bytes are the requested ones.** In every run of an edit whose temporary file other
processes leave alone, whatever else they do between its system calls and however short its writes
are. -/
theorem renamed_bytes (state : EditState) (fresh : state.log = [])
    (alone : ∀ target, self.authorize request.relativePath = .granted target →
      Untouched (self.temporary target) state.script) :
    self.RenameIsRequested request (finalState (self.replaceSymbolBody request state)).log ∧
      ∀ answer final, self.replaceSymbolBody request state = .ok answer final →
        answer.isRefusal = true → self.LeavesNoTrace request final.log := by
  have run := self.triple_replaceSymbolBody request True state.commit state
    ⟨fresh, rfl, fun target granted _ => alone target granted⟩
  cases done : self.replaceSymbolBody request state with
  | ok answer final =>
    rw [done] at run
    refine ⟨self.renameIsRequested_of_answered request run, fun answer' final' same refusal => ?_⟩
    cases same
    exact self.leavesNoTrace_of_answered request run refusal
  | error stop final =>
    rw [done] at run
    exact ⟨self.renameIsRequested_of_raised request run, nofun⟩

/-! ### A file of one variable -/

/-- The first character of the first line. -/
def firstCharacter : Json :=
  .object [("start", .object [("line", .int 0), ("character", .int 0)]),
    ("end", .object [("line", .int 0), ("character", .int 1)])]

/-- The SHA-256 of the file, as far as the sample needs it. -/
def sampleHash : String := "0000000000000000000000000000000000000000000000000000000000000000"

/-- The file of the variable. -/
def sampleTarget : AuthorizedEdit := ⟨"a.py", "file:///a.py", "a.py", by decide +kernel⟩

/-- An authorized file whose server reports the one variable `x`. -/
def sample : EditContext where
  library := ⟨fun _ => .ok none, fun _ => "",
    fun bytes => if bytes = encode ['x'] then sampleHash else ""⟩
  authorize _ := .granted sampleTarget
  provide target snapshot :=
    match DocumentSymbolInput.make target.relativePath target.uri snapshot
        (some [[("name", .str "x"), ("kind", .int 13), ("range", firstCharacter),
          ("selectionRange", firstCharacter)]]) .utf16 fun _ => none with
    | some supplied => .supplied supplied
    | none => .invalid
  notify _ := some ⟨"accepted", 1⟩
  token := "t"

/-- The request to replace `x` by `y`. -/
def sampleRequest : EditRequest := ⟨.text "x", "a.py", [some 'y'], sampleHash⟩

/-- One directory with the file in it. -/
def sampleFiles : FileSystem where
  entries directory name := if directory = 0 ∧ name = "a.py" then some 1 else none
  content file := if file = 1 then encode ['x'] else []
  stat _ := ⟨1, 1, 1, 0, 0, 0x8000⟩
  parent := some 0
  next := 2

/-- A turn at which nobody interferes and one byte is granted. -/
def quietTurn : Turn := ⟨id, false, 1⟩

/-- An edit nobody interferes with renames `y` over `x`, as requested. -/
theorem sample_renames_requested :
    .renamed 0 ".a.py.serena-light-t.tmp" "a.py" (encode ['y']) ∈
        (finalState (sample.replaceSymbolBody sampleRequest
          ⟨sampleFiles, List.replicate 47 quietTurn, [], none⟩)).log ∧
      sample.RenameIsRequested sampleRequest (finalState (sample.replaceSymbolBody sampleRequest
        ⟨sampleFiles, List.replicate 47 quietTurn, [], none⟩)).log := by
  refine ⟨by decide +kernel, (sample.renamed_bytes sampleRequest _ rfl ?_).1⟩
  intro target _ turn member fs directory
  rw [List.eq_of_mem_replicate member]
  exact ⟨rfl, fun _ _ => rfl⟩

/-- A process empties the temporary file right before the rename. -/
def emptiedBeforeRename : EditState :=
  ⟨sampleFiles, List.replicate 39 quietTurn ++
    ⟨fun fs => fs.setContent 2 [], false, 1⟩ :: List.replicate 7 quietTurn, [], none⟩

/-- **A touched temporary**: the edit renames an empty file, which no rewrite of the target is. -/
theorem renames_foreign_bytes :
    ∃ before later, (finalState (sample.replaceSymbolBody sampleRequest emptiedBeforeRename)).log
        = before ++ .renamed 0 ".a.py.serena-light-t.tmp" "a.py" [] :: later ∧
      ∀ target raw, ¬sample.Rewrites sampleRequest target raw [] := by
  refine ⟨[.observed (encode ['x']), .observed (encode ['x']),
    .created 0 ".a.py.serena-light-t.tmp", .observed (encode ['x'])], [.notified],
    by decide +kernel, ?_⟩
  rintro target raw ⟨_, snapshot, supplied, resolved, newline, encoded, _, _, _, _, encodes, shape⟩
  have written : encoded = encode ['y'] := (Option.some.inj encodes).symm
  rw [written] at shape
  exact absurd shape.symm (by simp [encode])

end EditContext

end SerenaLight.Tools

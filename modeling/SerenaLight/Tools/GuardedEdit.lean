/-
**The guarded edit** (`replace_symbol_body` of `tools/editing.py`).

The edit as a program over the system calls of `FileCalls`: it reads the target, resolves the symbol,
reads the target again, and `atomicReplace` builds the new content in a temporary file of the pinned
parent directory, reads the target a third time through that directory and renames. The parts that
are not the edit's own (authorizer, symbol provider, notifier, the random name) are parameters.
-/

import SerenaLight.Tools.Editing
import SerenaLight.Tools.FileCalls

namespace SerenaLight.Tools

open Foundation Lsp

/-- `_TargetSnapshot`. -/
structure TargetSnapshot where
  rawBytes : Bytes
  permissions : Nat
  deriving DecidableEq, Repr

/-! ### Reads -/

/-- The loop over `os.read`. Every pass takes a turn of the script, so a bound beyond the length of
the script is never met. -/
def readFrom (file : Nat) : Nat → Bytes → Edit Bytes
  | 0, _ => throw .cut
  | bound + 1, soFar => do
    let chunk ← readChunk file soFar.length
    if chunk = [] then return soFar else readFrom file bound (soFar ++ chunk)

def readAll (file : Nat) : Edit Bytes := do
  let state ← get
  readFrom file (state.script.length + 1) []

/-- The guarded part of `_read_target_in_directory`. -/
def readOpened (directory : Nat) (name : String) (file : Nat) : Edit TargetSnapshot := do
  let before ← fstat file
  if !before.isRegular then throw .invalidTarget
  let bytes ← readAll file
  let after ← fstat file
  if before ≠ after then throw .invalidTarget
  let entry ← statEntry directory name
  if after ≠ entry then throw .invalidTarget
  return ⟨bytes, after.permissions⟩

/-- `_read_target_in_directory`; the log records what it returned. -/
def readTargetInDirectory (target : AuthorizedEdit) (directory : Nat) : Edit TargetSnapshot := do
  let file ← onOsError (openEntry directory target.entryName) .invalidTarget
  let snapshot ← ensuring
    (onOsError (readOpened directory target.entryName file) .invalidTarget) plainCall
  note (.observed snapshot.rawBytes)
  return snapshot

/-- `_read_target`; none stands for the `INVALID_PATH` answer. -/
def readTarget (target : AuthorizedEdit) : Edit (Option TargetSnapshot) := do
  let opened ← handle (some <$> openTargetDirectory) fun stop =>
    if stop.isOs then pure none else throw stop
  match opened with
  | none => return none
  | some directory =>
    ensuring
      (handle (some <$> readTargetInDirectory target directory) fun stop =>
        if stop = .invalidTarget then pure none else throw stop)
      plainCall

/-- `safe_current_hash`. -/
def safeCurrentHash (library : Library) (target : AuthorizedEdit) : Edit (Option String) := do
  let observed ← handle (readTarget target) fun stop =>
    if stop.isOs then pure none else throw stop
  return observed.map fun snapshot => library.sha256 snapshot.rawBytes

/-- `_require_current_lexical_parent`. -/
def requireCurrentLexicalParent (pinned : Nat) : Edit Unit := do
  let current ← onOsError openTargetDirectory .invalidTarget
  ensuring
    (do
      let stats ← onOsError (do return (← fstat pinned, ← fstat current)) .invalidTarget
      if stats.1.identity ≠ stats.2.identity then throw .invalidTarget)
    plainCall

/-! ### The replacement -/

/-- `_write_all`; a write that makes no valid progress raises. -/
def writeAll (file offset : Nat) : Nat → Bytes → Edit Unit
  | 0, _ => return
  | bound + 1, remaining =>
    if remaining = [] then return
    else do
      let written ← writeCall file offset remaining
      if written ≤ 0 ∨ written > remaining.length then throw .osError
      else writeAll file (offset + written.toNat) bound (remaining.drop written.toNat)

/-- The temporary file is filled, flushed and closed; it is closed too when that fails. -/
def fillTemporary (file : Nat) (content : Bytes) (permissions : Nat) : Edit Unit :=
  handle
    (do
      writeAll file 0 content.length content
      fchmod file permissions
      plainCall
      plainCall)
    fun stop => do
      suppress Stop.isOs plainCall
      throw stop

/-- The checks after the rename; what fails here is uncertain, never invalid. -/
def confirmInstalled (directory : Nat) : Edit Unit := do
  handle (requireCurrentLexicalParent directory) fun stop =>
    if stop = .invalidTarget then throw (.installedUncertain "post_install_path_validation")
    else throw stop
  onOsError plainCall (.installedUncertain "directory_fsync")

/-- The name of the temporary file. -/
def temporaryName (target : AuthorizedEdit) (token : String) : String :=
  "." ++ target.entryName ++ ".serena-light-" ++ token ++ ".tmp"

/-- The body of the `try` of `_atomic_replace`. -/
def installThrough (library : Library) (target : AuthorizedEdit) (directory : Nat)
    (temporary : String) (content expectedRaw : Bytes) (permissions : Nat) : Edit String := do
  let file ← createExclusive directory temporary
  fillTemporary file content permissions
  requireCurrentLexicalParent directory
  let current ← readTargetInDirectory target directory
  if current.rawBytes ≠ expectedRaw then
    throw (.concurrentChange (library.sha256 current.rawBytes))
  requireCurrentLexicalParent directory
  replaceEntry directory temporary target.entryName
  mark .installed
  confirmInstalled directory
  return library.sha256 content

/-- `_atomic_replace`. -/
def atomicReplace (library : Library) (target : AuthorizedEdit) (token : String)
    (content expectedRaw : Bytes) (permissions : Nat) : Edit String := do
  let directory ← openTargetDirectory
  ensuring
    (installThrough library target directory (temporaryName target token) content expectedRaw
      permissions)
    (do
      suppress (· = .fileNotFound) (unlinkEntry directory (temporaryName target token))
      plainCall)

/-! ### The edit -/

/-- What a caller asks for. -/
structure EditRequest where
  namePath : NamePath
  relativePath : String
  body : Body
  expectedHash : String

/-- `_valid_hash`. -/
def validHash (value : String) : Bool :=
  value.length == 64 && value.toList.all "0123456789abcdefABCDEF".toList.contains

/-- The first check of `replace_symbol_body`; `_valid_name_path` is the check of the parser. -/
def EditRequest.valid (self : EditRequest) : Bool :=
  (NamePathPattern.parse self.namePath).isSome && self.relativePath ≠ "" &&
    !self.relativePath.toList.contains '\x00' && validHash self.expectedHash

/-- `expected_hash.lower()`. -/
def EditRequest.hash (self : EditRequest) : String := self.expectedHash.toLower

/-- How the authorizer answers. -/
inductive Authorization where
  | granted (target : AuthorizedEdit)
  | refused (code : String)
  | invalid
  | raised

/-- How the symbol provider answers. -/
inductive Provision where
  | supplied (input : DocumentSymbolInput)
  | refused (code : String)
  | invalid
  | raised

/-- `ReplacementNotification`. -/
structure ReplacementNotification where
  relativePath : String
  uri : String
  text : Text
  oldHash : String
  newHash : String
  symbolNamePath : String

/-- `NotificationResult`. -/
structure NotificationResult where
  state : String
  fileGeneration : Nat
  deriving DecidableEq, Repr

/-- What surrounds one edit: the seams of its caller, the standard library, and the random part of
the temporary name. A notifier without an answer has raised. -/
structure EditContext where
  library : Library
  authorize : String → Authorization
  provide : AuthorizedEdit → FileSnapshot → Provision
  notify : ReplacementNotification → Option NotificationResult
  token : String

/-- The envelopes that an edit answers with. -/
inductive EditAnswer where
  | invalidRequest
  | workspaceError (code : String)
  | unauthorized
  | invalidPath (stage : String)
  | staleHash (expectedHash currentHash : String)
  | invalidInput (stage : String)
  | symbolError (error : FindError)
  | uncertain (stage : String) (currentHash : Option String)
  | success (oldHash newHash : String) (symbol : SymbolIdentity) (notification : NotificationResult)
  deriving DecidableEq, Repr

/-- An error answer whose code is not `UNCERTAIN`. -/
def EditAnswer.isRefusal : EditAnswer → Bool
  | .uncertain _ _ => false
  | .success _ _ _ _ => false
  | _ => true

/-- The bytes around which an edit is built, once the symbol is resolved. -/
structure EditPlan where
  target : AuthorizedEdit
  snapshot : FileSnapshot
  resolved : ResolvedSymbol

namespace EditContext

variable (self : EditContext) (request : EditRequest)

/-- The resolution of the symbol in the bytes that were read, with its own error answers. -/
def resolve (target : AuthorizedEdit) (current : Bytes) :
    Except EditAnswer (Option EditPlan) :=
  match FileSnapshot.fromBytes current with
  | .error _ => .error (.invalidInput "symbol_resolution")
  | .ok snapshot =>
    match self.provide target snapshot with
    | .refused code => .error (.workspaceError code)
    | .invalid => .error (.invalidInput "symbol_resolution")
    | .raised => .ok none
    | .supplied supplied =>
      match resolveUniqueSymbol self.library target snapshot supplied request.namePath with
      | .error _ => .error (.invalidInput "symbol_resolution")
      | .ok (.error error) => .error (.symbolError error)
      | .ok (.ok resolved) => .ok (some ⟨target, snapshot, resolved⟩)

/-- `_uncertain`. -/
def uncertain (target : AuthorizedEdit) (stage : String) (fallback : Option String) :
    Edit EditAnswer := do
  let observed ← safeCurrentHash self.library target
  return .uncertain stage (observed.or fallback)

/-- The notification after the rename, and the final answer. -/
def conclude (plan : EditPlan) (replacement : Bytes) (changedHash : String) : Edit EditAnswer := do
  let oldHash := self.library.sha256 plan.snapshot.rawBytes
  let newHash := self.library.sha256 replacement
  let accepted :=
    match FileSnapshot.fromBytes replacement with
    | .error _ => none
    | .ok written => self.notify ⟨plan.target.relativePath, plan.resolved.document.uri, written.text,
        oldHash, newHash, plan.resolved.identity.namePath⟩
  match accepted with
  | none => self.uncertain plan.target "notification" (some changedHash)
  | some notification => do
    note .notified
    mark .done
    return .success oldHash newHash plan.resolved.identity notification

/-- The answers to the failures of `_atomic_replace`; any other one propagates. -/
def answerFailure (target : AuthorizedEdit) (stop : Stop) : Edit (Except EditAnswer String) :=
  match stop with
  | .concurrentChange currentHash => return .error (.staleHash request.hash currentHash)
  | .invalidTarget => return .error (.invalidPath "pre_install_validation")
  | .installedUncertain stage => do
    let answer ← self.uncertain target stage none
    return .error answer
  | other => throw other

/-- The installation of the new content. -/
def install (plan : EditPlan) (replacement : Bytes) (permissions : Nat) : Edit EditAnswer := do
  let installed ← handle
    (do
      let changedHash ← atomicReplace self.library plan.target self.token replacement
        plan.snapshot.rawBytes permissions
      return .ok changedHash)
    (self.answerFailure request plan.target)
  match installed with
  | .error answer => return answer
  | .ok changedHash => self.conclude plan replacement changedHash

/-- The second read, before any temporary file, and what follows it. -/
def confirm (plan : EditPlan) : Edit EditAnswer := do
  match ← readTarget plan.target with
  | none => return .invalidPath "current_file_reread"
  | some confirmed =>
    if confirmed.rawBytes ≠ plan.snapshot.rawBytes then
      return .staleHash request.hash (self.library.sha256 confirmed.rawBytes)
    else
      match replacementBytes plan.snapshot request.body plan.resolved.startByte
          plan.resolved.endByte with
      | none => return .invalidInput "replacement_body"
      | some replacement => self.install request plan replacement confirmed.permissions

/-- The first read and the resolution. -/
def editTarget (target : AuthorizedEdit) : Edit EditAnswer := do
  match ← readTarget target with
  | none => return .invalidPath "current_file_reread"
  | some current =>
    if self.library.sha256 current.rawBytes ≠ request.hash then
      return .staleHash request.hash (self.library.sha256 current.rawBytes)
    else
      match self.resolve request target current.rawBytes with
      | .error answer => return answer
      | .ok none => throw .raised
      | .ok (some plan) => self.confirm request plan

/-- `replace_symbol_body`. -/
def replaceSymbolBody : Edit EditAnswer :=
  if !request.valid then return .invalidRequest
  else
    match self.authorize request.relativePath with
    | .refused code => return .workspaceError code
    | .invalid => return .unauthorized
    | .raised => throw .raised
    | .granted target =>
      if target.relativePath ≠ request.relativePath then return .unauthorized
      else self.editTarget request target

end EditContext

end SerenaLight.Tools

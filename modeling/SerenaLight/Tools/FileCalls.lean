/-
**The system calls of a guarded edit, and the processes around it.**

- `FileSystem` is the part of the file system that an edit meets: directory entries, file contents,
  and the directory that the guarded walk to the target's parent finds at the moment.
- `Turn` is what happens at one system call: first other processes do what they like, then the call
  fails, or succeeds with the amount the kernel grants it.
- `Edit` is the monad of the edit: it takes the turns of a script one by one, and logs what it did to
  the file system. A script that is used up cuts the run.
-/

import SerenaLight.Foundation.Hoare
import SerenaLight.Lsp.Executor
import SerenaLight.Lsp.Positions

namespace SerenaLight.Tools

open Foundation Lsp

/-- The fields of a `stat` result that the edit compares. -/
structure Stat where
  device : Nat
  inode : Nat
  size : Nat
  modified : Nat
  changed : Nat
  mode : Nat
  deriving DecidableEq, Repr

/-- `stat.S_ISREG`. -/
def Stat.isRegular (self : Stat) : Bool := self.mode / 0x1000 % 16 == 8

/-- `stat.S_IMODE`. -/
def Stat.permissions (self : Stat) : Nat := self.mode % 0x1000

/-- `_inode_identity`. -/
def Stat.identity (self : Stat) : Nat × Nat := (self.device, self.inode)

/-- Files and directories by number. `parent` is the directory that opening the target's parent
finds, without following links; none when that fails. -/
structure FileSystem where
  entries : Nat → String → Option Nat
  content : Nat → Bytes
  stat : Nat → Stat
  parent : Option Nat
  next : Nat

namespace FileSystem

def setEntry (self : FileSystem) (directory : Nat) (name : String) (file : Option Nat) :
    FileSystem :=
  { self with entries := fun place entry =>
      if place = directory ∧ entry = name then file else self.entries place entry }

def setContent (self : FileSystem) (file : Nat) (bytes : Bytes) : FileSystem :=
  { self with content := fun other => if other = file then bytes else self.content other }

/-- A new empty file under a name. -/
def create (self : FileSystem) (directory : Nat) (name : String) : FileSystem :=
  { (self.setEntry directory name (some self.next)).setContent self.next [] with
    next := self.next + 1 }

/-- The bytes of a file overwritten from an offset on. -/
def write (self : FileSystem) (file offset : Nat) (bytes : Bytes) : FileSystem :=
  let old := self.content file
  self.setContent file
    (old.take offset ++ List.replicate (offset - old.length) 0 ++ bytes ++
      old.drop (offset + bytes.length))

def chmod (self : FileSystem) (file permissions : Nat) : FileSystem :=
  { self with stat := fun other =>
      if other = file then
        { self.stat file with mode := (self.stat file).mode / 0x1000 * 0x1000 + permissions }
      else self.stat other }

/-- An entry renamed onto another of the same directory; two names of one file stay as they are. -/
def rename (self : FileSystem) (directory : Nat) (source destination : String) (file : Nat) :
    FileSystem :=
  if self.entries directory destination = some file then self
  else (self.setEntry directory destination (some file)).setEntry directory source none

end FileSystem

/-! ### Runs -/

/-- One system call's turn. -/
structure Turn where
  interfere : FileSystem → FileSystem
  fault : Bool
  amount : Int

/-- What the edit did, in order. -/
inductive Event where
  | observed (bytes : Bytes)
  | created (directory : Nat) (name : String)
  | renamed (directory : Nat) (source destination : String) (bytes : Bytes)
  | unlinked (directory : Nat) (name : String)
  | marked (state : EditCommitState)
  | notified
  deriving DecidableEq, Repr

/-- How a run ends without a value. `cut`: the script is used up. -/
inductive Stop where
  | cut
  | osError
  | fileNotFound
  | invalidTarget
  | concurrentChange (currentHash : String)
  | installedUncertain (stage : String)
  | raised
  deriving DecidableEq, Repr

/-- `except OSError`. -/
def Stop.isOs : Stop → Bool
  | .osError => true
  | .fileNotFound => true
  | _ => false

structure EditState where
  fs : FileSystem
  script : List Turn
  log : List Event
  commit : Option EditCommitState

abbrev Edit := EStateM Stop EditState

/-- One system call: other processes act, then the call fails or has its effect. -/
def call {Value : Type} (action : Turn → FileSystem → Except Stop (Value × FileSystem × List Event)) :
    Edit Value :=
  fun state =>
    match state.script with
    | [] => .error .cut state
    | turn :: rest =>
      let fs := turn.interfere state.fs
      if turn.fault then .error .osError { state with fs := fs, script := rest }
      else
        match action turn fs with
        | .error stop => .error stop { state with fs := fs, script := rest }
        | .ok (value, after, events) =>
          .ok value { state with fs := after, script := rest, log := state.log ++ events }

/-- A system call that only looks. -/
def look {Value : Type} (answer : Turn → FileSystem → Except Stop Value) : Edit Value :=
  call fun turn fs => (answer turn fs).map fun value => (value, fs, [])

/-- `_open_target_directory`: the walk to the parent is one step. -/
def openTargetDirectory : Edit Nat :=
  look fun _ fs => match fs.parent with
    | some directory => .ok directory
    | none => .error .osError

/-- `os.open` of an entry for reading. -/
def openEntry (directory : Nat) (name : String) : Edit Nat :=
  look fun _ fs => match fs.entries directory name with
    | some file => .ok file
    | none => .error .fileNotFound

def fstat (file : Nat) : Edit Stat := look fun _ fs => .ok (fs.stat file)

/-- `os.stat` of an entry. -/
def statEntry (directory : Nat) (name : String) : Edit Stat :=
  look fun _ fs => match fs.entries directory name with
    | some file => .ok (fs.stat file)
    | none => .error .fileNotFound

/-- `os.read`: at least one byte unless the end is reached, and at most a mebibyte. -/
def readChunk (file offset : Nat) : Edit Bytes :=
  look fun turn fs => .ok (((fs.content file).drop offset).take
    (max 1 (min turn.amount.toNat 0x100000)))

/-- `os.close`, `os.fsync`: calls without a result. -/
def plainCall : Edit Unit := look fun _ _ => .ok ()

/-- `os.open` of a new file. -/
def createExclusive (directory : Nat) (name : String) : Edit Nat :=
  call fun _ fs => match fs.entries directory name with
    | some _ => .error .osError
    | none => .ok (fs.next, fs.create directory name, [.created directory name])

/-- `os.write`: the granted amount, of which the first bytes are written if it is a valid one. -/
def writeCall (file offset : Nat) (bytes : Bytes) : Edit Int :=
  call fun turn fs => .ok (turn.amount, fs.write file offset (bytes.take turn.amount.toNat), [])

def fchmod (file permissions : Nat) : Edit Unit :=
  call fun _ fs => .ok ((), fs.chmod file permissions, [])

/-- `os.replace` within one directory; it raises exactly when it does not rename. -/
def replaceEntry (directory : Nat) (source destination : String) : Edit Unit :=
  call fun _ fs => match fs.entries directory source with
    | some file => .ok ((), fs.rename directory source destination file,
        [.renamed directory source destination (fs.content file)])
    | none => .error .fileNotFound

/-- `os.unlink`. -/
def unlinkEntry (directory : Nat) (name : String) : Edit Unit :=
  call fun _ fs => match fs.entries directory name with
    | some _ => .ok ((), fs.setEntry directory name none, [.unlinked directory name])
    | none => .error .fileNotFound

/-- An event without a system call. -/
def note (event : Event) : Edit Unit :=
  fun state => .ok () { state with log := state.log ++ [event] }

/-- A mark on the commit, if the caller gave one. -/
def mark (next : EditCommitState) : Edit Unit :=
  fun state =>
    match state.commit with
    | none => .ok () state
    | some current =>
      match current.advance next with
      | some moved =>
        .ok () { state with commit := some moved, log := state.log ++ [.marked moved] }
      | none => .error .raised state

/-- `with suppress(...)`. -/
def suppress (caught : Stop → Bool) (program : Edit Unit) : Edit Unit :=
  handle program fun stop => if caught stop then pure () else throw stop

/-- `except OSError: raise …`. -/
def onOsError {Value : Type} (program : Edit Value) (replacement : Stop) : Edit Value :=
  handle program fun stop => if stop.isOs then throw replacement else throw stop

end SerenaLight.Tools

/-
**The runtime root of the daemon.**

One directory holds the discovery metadata, the bearer secret and the start-up nonce. Connectors write
the nonce that authorizes a start, a daemon removes a stale discovery, writes its bearer, publishes its
metadata and removes its files when it stops, and a discovery reader reads the metadata and then the
bearer. Any number of these processes run at the same time, and each of their file operations is
atomic.

- `validateMetadata`, `DiscoveryMetadata.ofPayload`: what a discovery file must hold.
- `readDiscoveryMetadata`, `readBearerSecret`, `consumeStartupNonce`, `atomicPrivateWrite`: the file
  operations, with their faults.
- `readDaemon`, `runDaemon`, `removeOwnedRuntimeArtifacts`: the processes.
- `runtimeRoot`: all their interleavings.

A process waits before each operation, for the system call `Op` to be carried out; what the call does to
the files is the first thing the process does after that.
-/

import SerenaLight.Foundation.Coroutine
import SerenaLight.Foundation.Json

namespace SerenaLight.Daemon.RuntimeFiles

open Foundation

/-! ### Files and faults -/

/-- The files of the runtime root. -/
inductive Name where
  | discovery
  | bearer
  | startupNonce
  deriving DecidableEq

def Name.text : Name → String
  | .discovery => "daemon.json"
  | .bearer => "bearer"
  | .startupNonce => "startup-nonce"

inductive Fault where
  /-- `RuntimeFileError` -/
  | runtimeFile (message : String)
  | fileNotFound
  /-- any other `OSError` -/
  | os
  | value
  /-- whatever else ends a daemon -/
  | failure
  deriving DecidableEq

/-- `PRIVATE_FILE_MODE`. -/
def privateFileMode : Nat := 0o600

/-- A directory entry. `writer` is the process that has put it there. -/
structure File (Bytes : Type) where
  regular : Bool
  uid : Nat
  mode : Nat
  content : Bytes
  writer : Nat

/-! ### Discovery metadata -/

/-- The fields of the metadata, as they were decoded. -/
structure DiscoveryMetadata where
  schemaVersion : Json
  daemonId : Json
  pid : Json
  processStartTime : Json
  endpoint : Json
  protocolVersion : Json
  serverVersion : Json
  createdAt : Json
  buildIdentity : Json

/-- `DiscoveryMetadata.__dataclass_fields__`. -/
def DiscoveryMetadata.fieldNames : List String :=
  ["schema_version", "daemon_id", "pid", "process_start_time", "endpoint", "protocol_version",
    "server_version", "created_at", "build_identity"]

/-- `asdict(metadata)`, with sorted keys. -/
def DiscoveryMetadata.asdict (metadata : DiscoveryMetadata) : Object :=
  [("build_identity", metadata.buildIdentity), ("created_at", metadata.createdAt),
    ("daemon_id", metadata.daemonId), ("endpoint", metadata.endpoint), ("pid", metadata.pid),
    ("process_start_time", metadata.processStartTime),
    ("protocol_version", metadata.protocolVersion), ("schema_version", metadata.schemaVersion),
    ("server_version", metadata.serverVersion)]

/-- The parts of a parsed URL. `port` is an error where reading it raises `ValueError`. -/
structure ParsedUrl where
  scheme : String
  hostname : Option String
  port : Except Unit (Option Nat)
  path : String
  username : Option String
  password : Option String
  query : String
  fragment : String

/-- What the processes get from their libraries and their account. A discovery file and an ASCII text
decode to what was encoded. -/
structure Machine (Bytes : Type) where
  uid : Nat
  /-- whether `UUID(text)` succeeds -/
  uuid : String → Bool
  /-- `urlparse`, or none where it raises `ValueError` -/
  urlparse : String → Option ParsedUrl
  /-- `json.dumps(…, sort_keys=True, separators=(",", ":")).encode() + b"\n"` -/
  dumps : Object → Bytes
  /-- `json.loads`, or none where it cannot decode -/
  loads : Bytes → Option Json
  encode : List Char → Bytes
  /-- `raw.decode("ascii")`, or none where it raises `UnicodeDecodeError` -/
  decode : Bytes → Option (List Char)
  size : Bytes → Nat
  loads_dumps : ∀ metadata : DiscoveryMetadata,
    loads (dumps metadata.asdict) = some (.object metadata.asdict)
  decode_encode : ∀ text : List Char, (∀ character ∈ text, character.toNat < 128) →
    decode (encode text) = some text

variable {Bytes : Type} (machine : Machine Bytes)

def require (holds : Bool) (message : String) : Except Fault Unit :=
  if holds then .ok () else .error (.runtimeFile message)

/-- `_HEX_DIGEST.fullmatch(value)`: a lowercase SHA-256 digest. -/
def isBuildIdentity : Json → Bool
  | .str value => value.length == 64 && value.toList.all fun character =>
    ('0' ≤ character && character ≤ '9') || ('a' ≤ character && character ≤ 'f')
  | _ => false

def isPositiveInt : Json → Bool
  | .int value => decide (0 < value)
  | _ => false

/-- A positive number that is not a `bool`. -/
def isPositiveNumber : Json → Bool
  | .int value => decide (0 < value)
  | .float value _ => decide (0 < value)
  | _ => false

def isNonEmpty : Json → Bool
  | .str value => !value.isEmpty
  | _ => false

def isTruthy : Option String → Bool
  | some value => !value.isEmpty
  | none => false

def validateEndpoint (endpoint : Json) : Except Fault Unit :=
  match endpoint with
  | .str text =>
    match machine.urlparse text with
    | none => .error .value
    | some url =>
      match url.port with
      | .error _ => .error (.runtimeFile "discovery endpoint has an invalid port")
      | .ok port => do
        require (url.scheme == "http" && url.hostname == some "127.0.0.1" && port.isSome &&
          url.path == "/mcp") "discovery endpoint must be loopback-only HTTP"
        require (!(isTruthy url.username || isTruthy url.password || !url.query.isEmpty ||
          !url.fragment.isEmpty)) "discovery endpoint contains forbidden components"
  | _ => .error (.runtimeFile "discovery endpoint must be loopback-only HTTP")

def isUuid : Json → Bool
  | .str text => machine.uuid text
  | _ => false

/-- `_validate_metadata`. -/
def validateMetadata (metadata : DiscoveryMetadata) : Except Fault Unit := do
  require (metadata.schemaVersion.pyEq (.int 2)) "unsupported discovery schema version"
  require (isUuid machine metadata.daemonId) "daemon identity must be a UUID"
  require (isPositiveInt metadata.pid) "daemon pid must be positive"
  require (isPositiveNumber metadata.processStartTime) "process_start_time must be positive"
  require (isPositiveNumber metadata.createdAt) "created_at must be positive"
  validateEndpoint machine metadata.endpoint
  require (isNonEmpty metadata.protocolVersion && isNonEmpty metadata.serverVersion)
    "discovery versions must be non-empty"
  require (isBuildIdentity metadata.buildIdentity) "discovery build identity is invalid"

/-- `DiscoveryMetadata(**payload)`, for a payload with exactly its fields. -/
def DiscoveryMetadata.ofPayload (payload : Json) : Except Fault DiscoveryMetadata :=
  match payload with
  | .object fields => do
    require (fieldNames.all (fields.map (·.1)).contains &&
      (fields.map (·.1)).all fieldNames.contains) "discovery metadata has an invalid schema"
    pure
      { schemaVersion := Object.get fields "schema_version"
        daemonId := Object.get fields "daemon_id"
        pid := Object.get fields "pid"
        processStartTime := Object.get fields "process_start_time"
        endpoint := Object.get fields "endpoint"
        protocolVersion := Object.get fields "protocol_version"
        serverVersion := Object.get fields "server_version"
        createdAt := Object.get fields "created_at"
        buildIdentity := Object.get fields "build_identity" }
  | _ => .error (.runtimeFile "discovery metadata must be an object")

/-- What a discovery file says, before the liveness of its process is asked for. -/
def decodeMetadata (content : Bytes) : Except Fault DiscoveryMetadata :=
  match machine.loads content with
  | none => .error (.runtimeFile "discovery metadata is malformed JSON")
  | some payload => do
    let metadata ← DiscoveryMetadata.ofPayload payload
    validateMetadata machine metadata
    pure metadata

/-- **What is read from a published file is what was published.** -/
theorem eq_of_decodeMetadata {metadata decoded : DiscoveryMetadata}
    (reads : decodeMetadata machine (machine.dumps metadata.asdict) = .ok decoded) :
    decoded = metadata := by
  unfold decodeMetadata at reads
  rw [machine.loads_dumps] at reads
  have reads : (validateMetadata machine metadata >>= fun _ => pure metadata) = .ok decoded := reads
  cases valid : validateMetadata machine metadata with
  | error fault =>
    rw [valid] at reads
    cases reads
  | ok =>
    rw [valid] at reads
    cases reads
    rfl

/-! ### Secrets -/

/-- `string.ascii_letters + string.digits + "-_"`. -/
def isUrlSafe (character : Char) : Bool :=
  ('a' ≤ character && character ≤ 'z') || ('A' ≤ character && character ≤ 'Z') ||
    ('0' ≤ character && character ≤ '9') || character == '-' || character == '_'

/-- A value of `secrets.token_urlsafe(48)`. -/
structure Token where
  value : List Char
  urlSafe : value.all isUrlSafe = true
  length : value.length = 64

theorem toNat_of_isUrlSafe {character : Char} (safe : isUrlSafe character = true) :
    character.toNat < 128 := by
  unfold isUrlSafe at safe
  simp only [Bool.or_eq_true, Bool.and_eq_true, decide_eq_true_eq, beq_iff_eq, Char.le_def,
    UInt32.le_iff_toNat_le] at safe
  show character.val.toNat < 128
  rcases safe with (((below | below) | below) | dash) | underscore
  · exact Nat.lt_of_le_of_lt below.2 (by decide)
  · exact Nat.lt_of_le_of_lt below.2 (by decide)
  · exact Nat.lt_of_le_of_lt below.2 (by decide)
  · rw [dash]; decide
  · rw [underscore]; decide

/-- The bearer in a text read from its file. -/
def decodeBearer (content : Bytes) : Except Fault (List Char) :=
  match machine.decode content with
  | none => .error (.runtimeFile "bearer secret is not ASCII")
  | some rendered => do
    require (rendered.getLast? == some '\n' && !rendered.dropLast.contains '\n')
      "bearer secret is malformed"
    require (32 ≤ rendered.dropLast.length && rendered.dropLast.all isUrlSafe)
      "bearer secret is malformed"
    pure rendered.dropLast

/-- The text of a secret in its file. -/
def Token.rendered (token : Token) : List Char := token.value ++ ['\n']

theorem decode_rendered (token : Token) :
    machine.decode (machine.encode token.rendered) = some token.rendered := by
  refine machine.decode_encode _ fun character member => ?_
  rcases List.mem_append.mp member with inside | last
  · exact toNat_of_isUrlSafe (List.all_eq_true.mp token.urlSafe character inside)
  · rw [List.mem_singleton.mp last]
    decide

/-- **What is read from a bearer file is the secret that was written.** -/
theorem eq_of_decodeBearer {token : Token} {bearer : List Char}
    (reads : decodeBearer machine (machine.encode token.rendered) = .ok bearer) :
    bearer = token.value := by
  have kept : token.rendered.dropLast = token.value := List.dropLast_concat
  unfold decodeBearer at reads
  rw [decode_rendered] at reads
  simp only [kept, require] at reads
  split at reads
  · split at reads
    · cases reads
      rfl
    · cases reads
  · cases reads

/-! ### The runtime root -/

/-- What a daemon chooses when it starts. -/
structure Identity where
  daemonId : String
  metadata : DiscoveryMetadata
  named : metadata.daemonId = .str daemonId
  bearer : Token
  nonce : Token

/-- A file that a daemon has removed on its way out. -/
structure Removal where
  remover : Nat
  name : Name
  writer : Nat
  deriving DecidableEq

/-- The directory and the process table. The last four are the history of the processes: the daemons
that have started, the readers that have a discovery in hand, the daemons that are removing their
files, and what these have removed. -/
structure Root (Bytes : Type) where
  files : Name → Option (File Bytes)
  processes : List (Nat × Json × Json)
  killed : Nat → Bool
  daemons : List (Nat × Identity)
  pairing : List Nat
  clearing : List Nat
  removed : List Removal

namespace Root

def initial : Root Bytes := ⟨fun _ => none, [], fun _ => false, [], [], [], []⟩

/-- What the process has started as, if it is a daemon. -/
def daemon (root : Root Bytes) (id : Nat) : Option Identity := root.daemons.lookup id

def write (root : Root Bytes) (id : Nat) (name : Name) (content : Bytes) : Root Bytes :=
  { root with files := fun other =>
      if other = name then some ⟨true, machine.uid, privateFileMode, content, id⟩
      else root.files other }

def unlink (root : Root Bytes) (name : Name) : Root Bytes :=
  { root with files := fun other => if other = name then none else root.files other }

def starts (root : Root Bytes) (id : Nat) (identity : Identity) : Root Bytes :=
  { root with
    processes := (id, identity.metadata.pid, identity.metadata.processStartTime) :: root.processes
    daemons := (id, identity) :: root.daemons }

/-- The process is gone. -/
def exits (root : Root Bytes) (id : Nat) : Root Bytes :=
  { root with processes := root.processes.filter (·.1 != id) }

def kill (root : Root Bytes) (id : Nat) : Root Bytes :=
  { root.exits id with killed := fun other => if other = id then true else root.killed other }

/-- The process has read a discovery. -/
def pairs (root : Root Bytes) (id : Nat) : Root Bytes :=
  { root with pairing := id :: root.pairing }

def unpairs (root : Root Bytes) (id : Nat) : Root Bytes :=
  { root with pairing := root.pairing.filter (· != id) }

/-- The process has found its own name in the discovery. -/
def clears (root : Root Bytes) (id : Nat) : Root Bytes :=
  { root with clearing := id :: root.clearing }

def unclears (root : Root Bytes) (id : Nat) : Root Bytes :=
  { root with clearing := root.clearing.filter (· != id) }

def removes (root : Root Bytes) (id : Nat) (name : Name) (writer : Nat) : Root Bytes :=
  { root with removed := root.removed ++ [⟨id, name, writer⟩] }

/-- `is_process_identity_live`. -/
def live (root : Root Bytes) (pid created : Json) : Bool :=
  isPositiveInt pid && (created.int?.isSome || created.number?.isSome && !isBool created) &&
    root.processes.any fun process => process.2.1.pyEq pid && process.2.2.pyEq created
where
  isBool : Json → Bool
    | .bool _ => true
    | _ => false

end Root

/-! ### File operations -/

/-- The system calls that a process waits for. `work` is everything else a daemon does. -/
inductive Op where
  | openFile (name : Name)
  | replace (name : Name)
  | unlink (name : Name)
  | sync
  | probe
  | work
  deriving DecidableEq

inductive Kind where
  /-- a connector that authorizes a start -/
  | connector (nonce : Token)
  | daemon (identity : Identity)
  | reader

inductive Value where
  | none
  | found (metadata : DiscoveryMetadata) (bearer : List Char)

abbrev Task (Bytes : Type) := Coro (Root Bytes) Op Unit Fault Kind

def raises {Result : Type} : Except Fault Result → Task Bytes Result
  | .ok value => pure value
  | .error fault => .fail fault

/-- `os.open(name, O_RDONLY | O_NOFOLLOW)`, with what can be read through the descriptor. -/
def openFile (name : Name) : Task Bytes (File Bytes) := do
  Coro.wait (.openFile name)
  let root ← Coro.get
  match root.files name with
  | some file => pure file
  | none => .fail .fileNotFound

/-- The checks on an opened file. -/
def checkPrivateFile (name : Name) (file : File Bytes) : Except Fault Unit := do
  require file.regular ("runtime artifact is not a regular file: " ++ name.text)
  require (file.uid == machine.uid) ("runtime artifact has wrong owner: " ++ name.text)
  require (file.mode == privateFileMode) ("runtime artifact mode must be 0600: " ++ name.text)
  require (machine.size file.content ≤ 64 * 1024) "runtime artifact exceeds the bounded size"

/-- `_read_private_file`. -/
def readPrivateFile (name : Name) : Task Bytes Bytes := do
  let file ← (openFile name).handle fun _ =>
    .fail (.runtimeFile ("runtime file is unavailable or symlinked: " ++ name.text))
  raises (checkPrivateFile machine name file)
  pure file.content

/-- `_atomic_private_write`. -/
def atomicPrivateWrite (id : Nat) (name : Name) (content : Bytes) : Task Bytes Unit := do
  Coro.wait (.replace name)
  Coro.modify fun root => root.write machine id name content
  Coro.wait .sync

/-- `os.unlink(name)`, with the writer of the file that is gone. -/
def unlinkFile (name : Name) : Task Bytes Nat := do
  Coro.wait (.unlink name)
  let root ← Coro.get
  match root.files name with
  | some file => do
    Coro.modify fun root => root.unlink name
    pure file.writer
  | none => .fail .fileNotFound

/-- `suppress(FileNotFoundError)`. -/
def suppressMissing (task : Task Bytes Unit) : Task Bytes Unit :=
  task.handle fun
    | .fileNotFound => pure ()
    | fault => .fail fault

def readDiscoveryMetadata (isLive : Json → Json → Task Bytes Bool) :
    Task Bytes DiscoveryMetadata := do
  let content ← readPrivateFile machine .discovery
  let metadata ← raises (decodeMetadata machine content)
  let alive ← isLive metadata.pid metadata.processStartTime
  raises (require alive "discovery metadata refers to a stale daemon")
  pure metadata

def readBearerSecret : Task Bytes (List Char) := do
  let content ← readPrivateFile machine .bearer
  raises (decodeBearer machine content)

def createStartupNonce (id : Nat) (nonce : Token) : Task Bytes Unit :=
  atomicPrivateWrite machine id .startupNonce (machine.encode nonce.rendered)

def createBearerSecret (id : Nat) (bearer : Token) : Task Bytes Unit :=
  atomicPrivateWrite machine id .bearer (machine.encode bearer.rendered)

def writeDiscoveryMetadata (id : Nat) (metadata : DiscoveryMetadata) : Task Bytes Unit := do
  raises (validateMetadata machine metadata)
  atomicPrivateWrite machine id .discovery (machine.dumps metadata.asdict)

/-- Whether the text of the nonce file is the nonce that was handed over. -/
def checkStartupNonce (content : Bytes) (expected : Token) : Except Fault Unit :=
  match machine.decode content with
  | none => .error (.runtimeFile "startup nonce is malformed")
  | some observed =>
    require (observed.getLast? == some '\n' && observed.dropLast == expected.value)
      "startup nonce does not match connector authorization"

def consumeStartupNonce (expected : Token) : Task Bytes Unit := do
  let content ← readPrivateFile machine .startupNonce
  raises (checkStartupNonce machine content expected)
  let removal : Task Bytes Unit := do
    discard (unlinkFile .startupNonce)
    Coro.wait .sync
  removal.handle fun _ => .fail (.runtimeFile "startup nonce could not be consumed")

/-! ### The processes -/

/-- `is_process_identity_live`, asked of the process table. -/
def isProcessIdentityLive (pid created : Json) : Task Bytes Bool := do
  Coro.wait .probe
  let root ← Coro.get
  pure (root.live pid created)

/-- `_read_daemon`: the metadata, and then the bearer. The process is `pairing` from the reading of the
metadata on. -/
def readPair (id : Nat) : Task Bytes (DiscoveryMetadata × List Char) := do
  let metadata ← readDiscoveryMetadata machine fun pid created => do
    Coro.modify fun root => root.pairs id
    isProcessIdentityLive pid created
  let bearer ← readBearerSecret machine
  pure (metadata, bearer)

def readDaemon (id : Nat) : Task Bytes (DiscoveryMetadata × List Char) :=
  (readPair machine id).ensuring fun root => root.unpairs id

/-- One name of the loop in `_remove_owned_runtime_artifacts`. -/
def removeArtifact (id : Nat) (name : Name) : Task Bytes Unit :=
  suppressMissing do
    let writer ← unlinkFile name
    Coro.modify fun root => root.removes id name writer

/-- The loop, and the `os.fsync` after it. -/
def removeNames (id : Nat) : List Name → Task Bytes Unit
  | [] => Coro.wait .sync
  | name :: rest => do
    removeArtifact id name
    removeNames id rest

/-- The part of `_remove_owned_runtime_artifacts` after its check. -/
def removeArtifacts (id : Nat) : Task Bytes Unit := do
  Coro.modify fun root => root.clears id
  (removeNames id [.discovery, .bearer]).ensuring fun root => root.unclears id

/-- The daemon that the discovery file names, if the file can be read. -/
def publishedDaemon : Task Bytes (Option Json) := do
  let published : Task Bytes (Option Json) := do
    let metadata ← readDiscoveryMetadata machine fun _ _ => pure true
    pure (some metadata.daemonId)
  published.handle fun
    | .runtimeFile _ => pure none
    | fault => .fail fault

/-- `_remove_owned_runtime_artifacts`. -/
def removeOwnedRuntimeArtifacts (id : Nat) (daemonId : String) : Task Bytes Unit := do
  let published ← publishedDaemon machine
  match published with
  | some name => if name.pyEq (.str daemonId) then removeArtifacts id else pure ()
  | none => pure ()

/-- `_remove_stale_discovery`. -/
def removeStaleDiscovery : Task Bytes Unit := do
  suppressMissing (discard (unlinkFile .discovery))
  Coro.wait .sync

/-- `try … finally`, with a clean-up that itself suspends. -/
def finally' (task cleanup : Task Bytes Unit) : Task Bytes Unit := do
  task.handle fun fault => do
    cleanup
    .fail fault
  cleanup

/-- `_serve_with_lifecycle`: the metadata is published once the server has started, and the clean-up
runs however the daemon stops. -/
def serveWithLifecycle (onStarted onStopping : Task Bytes Unit) : Task Bytes Unit :=
  finally' (do
    Coro.wait .work
    onStarted
    Coro.wait .work) onStopping

/-- The `cleanup` of `_run_daemon`. -/
def cleanup (id : Nat) (daemonId : String) : Task Bytes Unit := do
  removeOwnedRuntimeArtifacts machine id daemonId
  Coro.wait .work

/-- `_run_daemon`. -/
def runDaemon (identity : Identity) (id : Nat) : Task Bytes Unit := do
  Coro.modify fun root => root.starts id identity
  consumeStartupNonce machine identity.nonce
  removeStaleDiscovery
  createBearerSecret machine id identity.bearer
  Coro.wait .work
  raises (validateMetadata machine identity.metadata)
  serveWithLifecycle (writeDiscoveryMetadata machine id identity.metadata)
    (cleanup machine id identity.daemonId)

/-! ### The system -/

def body (kind : Kind) (id : Nat) : Task Bytes Value :=
  match kind with
  | .connector nonce => do
    createStartupNonce machine id nonce
    pure .none
  | .daemon identity => do
    runDaemon machine identity id
    pure .none
  | .reader => do
    let found ← readDaemon machine id
    pure (.found found.1 found.2)

/-- A system call is carried out, or it fails; a killed process makes no more of them. -/
def answers (root : Root Bytes) (id : Nat) (op : Op) (answer : Except Fault Unit) :
    Option (Root Bytes) :=
  if root.killed id then none
  else match op, answer with
    | _, .ok () => some root
    | .work, .error .failure => some root
    | .work, .error _ => none
    | .probe, .error _ => none
    | _, .error .os => some root
    | _, .error _ => none

/-- **The processes of one runtime root.** The environment kills processes. -/
def runtimeRoot : Model (Root Bytes) Op Unit Fault Kind Value Nat where
  body := body machine
  rest _ := none
  birth := .work
  admits _ := true
  answers _ id root op answer := answers root id op answer
  ends _ id root := root.exits id
  environment id root := some (root.kill id)

end SerenaLight.Daemon.RuntimeFiles

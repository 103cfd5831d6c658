/-
**Which daemon a file of the runtime root belongs to.**

A reader pairs the discovery it has read with the bearer it reads next, and a daemon on its way out
removes the two files once it has read its own name in the first. Neither holds the files while it goes
from one to the other, so both rest on what the other processes do in between.

- `sound`: every process keeps to the terms of `DiscoveryTerms`.
- `readDaemon_pairs`: then a reader returns metadata and a bearer of one daemon;
  `readDaemon_mixes` is a run in which it does not.
- `removes_own`: then a daemon removes only its own files; `removes_successor` is a run in which it
  removes its successor's.
-/

import SerenaLight.Daemon.DiscoveryTerms

namespace SerenaLight.Daemon.RuntimeFiles

open Foundation Discipline

variable {Bytes : Type} {machine : Machine Bytes} {readers cleanups : Bool} {id : Nat}
  {start now : Root Bytes}

/-! ### A reader -/

section Reader

variable {mine : Option Identity} {kind : Kind}

variable (readers id) in
/-- The reader has the metadata of a daemon in hand, and no bearer is there but this daemon's. -/
def Pairing (metadata : DiscoveryMetadata) (root : Root Bytes) : Prop :=
  readers = true → id ∈ root.pairing ∧ ∃ daemon identity,
    root.daemon daemon = some identity ∧ identity.metadata = metadata ∧
      ∀ file, root.files .bearer = some file → file.writer = daemon

theorem stable_pairing (metadata : DiscoveryMetadata) :
    Stable readers cleanups id fun root : Root Bytes => Pairing readers id metadata root := by
  intro start now relied alive holds guarded
  obtain ⟨reading, daemon, identity, known, published, own⟩ := holds guarded
  refine ⟨relied.pairing reading, daemon, identity, relied.daemons _ _ known, published, ?_⟩
  intro file found
  exact own file (relied.bearer guarded reading alive file found)

theorem stable_true : Stable readers cleanups id fun _ : Root Bytes => True :=
  fun _ _ _ _ _ => trivial

variable {metadata : DiscoveryMetadata}

variable {file : File Bytes}

/-- The published metadata is its writer's, and so is the bearer. -/
theorem Consistent.pairing (inv : Consistent machine cleanups now)
    (found : now.files .discovery = some file)
    (decoded : decodeMetadata machine file.content = .ok metadata) :
    Pairing readers id metadata (now.pairs id) := by
  obtain ⟨identity, known, content⟩ := inv.discovery file found
  rw [content] at decoded
  exact fun _ => ⟨List.mem_cons_self, file.writer, identity, known,
    (eq_of_decodeMetadata machine decoded).symm, fun secret isSecret =>
      inv.paired file secret found isSecret⟩

/-- The bearer that is read next is the same daemon's. -/
theorem Consistent.answered (inv : Consistent machine cleanups now) {bearer : List Char}
    (holds : Pairing readers id metadata now) (found : now.files .bearer = some file)
    (decoded : decodeBearer machine file.content = .ok bearer) (guarded : readers = true) :
    Answered now .reader (.ok (.found metadata bearer)) := by
  obtain ⟨-, daemon, identity, known, published, own⟩ := holds guarded
  obtain ⟨writer, wrote, content⟩ := inv.bearer file found
  rw [own file found, known] at wrote
  cases wrote
  rw [content] at decoded
  exact ⟨daemon, identity, known, published, (eq_of_decodeBearer machine decoded).symm⟩

variable (base : Base machine readers cleanups id mine start now)

include base

theorem Base.pairs : Base machine readers cleanups id mine start (now.pairs id) :=
  base.update ⟨base.inv.discovery, base.inv.bearer, base.inv.paired, base.inv.unique,
    base.inv.removed⟩ rfl fun _ _ => relies_pairs

theorem Base.unpairs : Base machine readers cleanups id mine start (now.unpairs id) :=
  base.update ⟨base.inv.discovery, base.inv.bearer, base.inv.paired, base.inv.unique,
    base.inv.removed⟩ rfl fun _ different => relies_unpairs different

/-- The reader's two reads, with the question for the process in between. -/
theorem verified_readPublished :
    Verified machine readers cleanups id kind mine (fun _ => True)
      (fun root metadata => Pairing readers id metadata root)
      (readDiscoveryMetadata machine fun pid created => do
        Coro.modify fun root => root.pairs id
        isProcessIdentityLive pid created) start now := by
  refine verified_readDiscoveryMetadata stable_true base trivial ?_
  intro start now metadata file base _ found decoded
  refine safe_modify_bind ?_
  have asks : Verified machine readers cleanups id kind mine (Pairing readers id metadata)
      (fun _ _ => True) (isProcessIdentityLive metadata.pid metadata.processStartTime) start
      (now.pairs id) := by
    refine verified_bind (verified_call (stable_pairing metadata) base.pairs
      (base.inv.pairing found decoded)) fun start _ now base holds _ => ?_
    exact safe_get_bind (verified_pure base holds trivial)
  exact Safe.mono asks fun _ _ _ reached => ⟨reached.base, trivial, fun _ _ => reached.kept⟩

theorem verified_readSecret (holds : Pairing readers id metadata now) :
    Verified machine readers cleanups id kind mine (fun _ => True)
      (fun root bearer => readers = true → Answered root .reader (.ok (.found metadata bearer)))
      (readBearerSecret machine) start now := by
  have reads : Verified machine readers cleanups id kind mine (Pairing readers id metadata)
      (fun root bearer => readers = true → Answered root .reader (.ok (.found metadata bearer)))
      (readBearerSecret machine) start now := by
    refine verified_bind (verified_readPrivateFile (stable_pairing metadata) base holds) ?_
    rintro start content now base holds ⟨file, found, rfl⟩
    exact verified_raises base holds fun _ decoded => base.inv.answered holds found decoded
  exact Safe.mono reads fun _ _ _ reached => ⟨reached.base, trivial, reached.found⟩

theorem verified_readPair :
    Verified machine readers cleanups id kind mine (fun _ => True)
      (fun root found => readers = true → Answered root .reader (.ok (.found found.1 found.2)))
      (readPair machine id) start now := by
  refine verified_bind (verified_readPublished base) fun start metadata now base _ holds => ?_
  refine verified_bind (verified_readSecret base holds) fun start bearer now base _ answered => ?_
  exact verified_pure base trivial answered

/-- **A reader returns what one daemon has written**, if nobody writes a bearer between its reads. -/
theorem verified_readDaemon :
    Verified machine readers cleanups id kind mine (fun _ => True)
      (fun root found => readers = true → Answered root .reader (.ok (.found found.1 found.2)))
      (readDaemon machine id) start now :=
  Safe.ensuring (Safe.mono (verified_readPair base) fun _ _ _ reached =>
    ⟨reached.base.unpairs, trivial, reached.found⟩)

end Reader

/-! ### A daemon -/

section Daemon

variable {identity : Identity} {kind : Kind} {mine : Option Identity}

variable (cleanups id) in
/-- The daemon is removing its files, and no others are there. -/
def Clearing (root : Root Bytes) : Prop :=
  cleanups = true → id ∈ root.clearing ∧
    ∀ name file, name ≠ .startupNonce → root.files name = some file → file.writer = id

theorem stable_clearing : Stable readers cleanups id fun root : Root Bytes =>
    Clearing cleanups id root := by
  intro start now relied alive holds guarded
  obtain ⟨removing, own⟩ := holds guarded
  refine ⟨relied.clearing removing, fun name file notNonce found => ?_⟩
  exact own name file notNonce (relied.files guarded removing alive name file notNonce found)

theorem Clearing.unlink (holds : Clearing cleanups id now) (name : Name) :
    Clearing cleanups id (now.unlink name) := by
  intro guarded
  obtain ⟨removing, own⟩ := holds guarded
  exact ⟨removing, fun other file notNonce found =>
    own other file notNonce (files_of_unlink found)⟩

variable {name : Name}

theorem verified_removeArtifact (notNonce : name ≠ .startupNonce)
    (base : Base machine readers cleanups id mine start now) (holds : Clearing cleanups id now) :
    Verified machine readers cleanups id kind mine (Clearing cleanups id) (fun _ _ => True)
      (removeArtifact id name) start now := by
  refine verified_suppressMissing ?_
  have unlinks : Verified machine readers cleanups id kind mine (Clearing cleanups id)
      (fun _ writer => cleanups = true → writer = id) (unlinkFile name) start now :=
    verified_unlinkFile stable_clearing base holds (fun _ holds => holds.unlink name)
      fun root file holds found guarded => (holds guarded).2 name file notNonce found
  refine verified_bind unlinks fun start writer now base holds own => ?_
  exact ⟨base.update (base.inv.removes own) rfl fun _ _ => relies_removes, holds,
    fun _ _ => trivial⟩

theorem verified_removeNames {names : List Name}
    (notNonce : .startupNonce ∉ names) (base : Base machine readers cleanups id mine start now)
    (holds : Clearing cleanups id now) :
    Verified machine readers cleanups id kind mine (Clearing cleanups id) (fun _ _ => True)
      (removeNames id names) start now := by
  induction names generalizing start now with
  | nil => exact (verified_call stable_clearing base holds).forget
  | cons name rest ih =>
    have different : name ≠ .startupNonce := fun same => notNonce (same ▸ List.mem_cons_self)
    refine verified_bind (verified_removeArtifact different base holds)
      fun start _ now base holds _ => ?_
    exact ih (fun member => notNonce (List.mem_cons_of_mem _ member)) base holds

theorem pyEq_str {value : Json} {text : String} (same : value.pyEq (.str text) = true) :
    value = .str text := by
  cases value <;> simp_all [Json.pyEq, Json.number?]

/-- A discovery that names the daemon is its own, and so are both files. -/
theorem Consistent.own (inv : Consistent machine cleanups now) {file : File Bytes}
    {metadata : DiscoveryMetadata} (mine : now.daemon id = some identity)
    (found : now.files .discovery = some file)
    (decoded : decodeMetadata machine file.content = .ok metadata)
    (named : metadata.daemonId = .str identity.daemonId) (guarded : cleanups = true) :
    ∀ name file, name ≠ .startupNonce → now.files name = some file → file.writer = id := by
  obtain ⟨writer, known, content⟩ := inv.discovery file found
  rw [content] at decoded
  cases eq_of_decodeMetadata machine decoded
  have same : writer.daemonId = identity.daemonId := Json.str.inj (writer.named.symm.trans named)
  have isMine : file.writer = id := inv.unique guarded _ _ _ _ known mine same
  intro name other notNonce there
  cases name with
  | discovery =>
    cases found.symm.trans there
    exact isMine
  | bearer => exact (inv.paired file other found there).trans isMine
  | startupNonce => exact absurd rfl notNonce

section Tasks

variable (base : Base machine readers cleanups id mine start now)

include base

theorem Base.clears : Base machine readers cleanups id mine start (now.clears id) :=
  base.update ⟨base.inv.discovery, base.inv.bearer, base.inv.paired, base.inv.unique,
    base.inv.removed⟩ rfl fun _ _ => relies_clears

theorem Base.unclears : Base machine readers cleanups id mine start (now.unclears id) :=
  base.update ⟨base.inv.discovery, base.inv.bearer, base.inv.paired, base.inv.unique,
    base.inv.removed⟩ rfl fun _ different => relies_unclears different

theorem verified_removeArtifacts
    (own : cleanups = true → ∀ name file, name ≠ .startupNonce → now.files name = some file →
      file.writer = id) :
    Verified machine readers cleanups id kind mine (fun _ => True) (fun _ _ => True)
      (removeArtifacts id) start now := by
  refine safe_modify_bind (Safe.ensuring ?_)
  have removes : Verified machine readers cleanups id kind mine (Clearing cleanups id)
      (fun _ _ => True) (removeNames id [.discovery, .bearer]) start (now.clears id) :=
    verified_removeNames (by decide) base.clears fun guarded => ⟨List.mem_cons_self, own guarded⟩
  exact Safe.mono removes fun _ _ _ reached =>
    ⟨reached.base.unclears, trivial, reached.found⟩

theorem verified_publishedDaemon :
    Verified machine readers cleanups id kind mine (fun _ => True)
      (fun root published => ∀ name, published = some name → ∃ file metadata,
        root.files .discovery = some file ∧ decodeMetadata machine file.content = .ok metadata ∧
          metadata.daemonId = name)
      (publishedDaemon machine) start now := by
  refine verified_handle ?_ fun start fault now base _ => ?_
  · have reads : Verified machine readers cleanups id kind mine (fun _ => True)
        (fun root metadata => ∃ file, root.files .discovery = some file ∧
          decodeMetadata machine file.content = .ok metadata)
        (readDiscoveryMetadata machine fun _ _ => pure true) start now :=
      verified_readDiscoveryMetadata stable_true base trivial
        fun start now metadata file base _ found decoded =>
          verified_pure base trivial ⟨file, found, decoded⟩
    refine verified_bind reads ?_
    rintro start metadata now base - ⟨file, found, decoded⟩
    refine verified_pure base trivial fun name same => ?_
    cases same
    exact ⟨file, metadata, found, decoded, rfl⟩
  · cases fault with
    | runtimeFile message => exact verified_pure base trivial nofun
    | _ => exact verified_fail base trivial

end Tasks

variable (machine readers cleanups id kind) in
/-- A task of a process that knows nothing of the files. -/
def Passes (mine : Option Identity) (task : Task Bytes Unit) : Prop :=
  ∀ {start now : Root Bytes}, Base machine readers cleanups id mine start now →
    Verified machine readers cleanups id kind mine (fun _ => True) (fun _ _ => True) task start now

theorem verified_removeOwnedRuntimeArtifacts :
    Passes machine readers cleanups id kind (some identity)
      (removeOwnedRuntimeArtifacts machine id identity.daemonId) := by
  intro start now base
  refine verified_bind (verified_publishedDaemon base) fun start published now base _ tells => ?_
  cases published with
  | none => exact verified_pure base trivial trivial
  | some name =>
    obtain ⟨file, metadata, found, decoded, named⟩ := tells name rfl
    show Verified machine readers cleanups id kind (some identity) _ _
      (if name.pyEq (.str identity.daemonId) then removeArtifacts id else pure ()) start now
    split
    · rename_i same
      exact verified_removeArtifacts base
        (base.inv.own base.mine found decoded (named.trans (pyEq_str same)))
    · exact verified_pure base trivial trivial

/-- A system call whose outcome does not matter. -/
theorem verified_work {op : Op} : Passes machine readers cleanups id kind mine (Coro.wait op) :=
  fun base => (verified_call stable_true base trivial).forget

theorem verified_unlink :
    Passes machine readers cleanups id kind mine (discard (unlinkFile name)) := by
  intro start now base
  refine verified_bind (verified_unlinkFile stable_true base trivial (fun _ _ => trivial)
    fun _ _ _ _ => trivial) fun start _ now base _ (_ : True) => ?_
  exact verified_pure base trivial trivial

variable {nonce : Token}

theorem verified_consumeStartupNonce :
    Passes machine readers cleanups id kind mine (consumeStartupNonce machine nonce) := by
  intro start now base
  refine verified_bind (verified_readPrivateFile stable_true base trivial)
    fun start content now base _ _ => ?_
  refine verified_check base trivial fun _ => ?_
  refine verified_handle ?_ fun start fault now base _ => verified_fail base trivial
  exact verified_bind (verified_unlink base) fun start _ now base _ _ => verified_work base

theorem verified_removeStaleDiscovery :
    Passes machine readers cleanups id kind mine removeStaleDiscovery := fun base =>
  verified_bind (verified_suppressMissing (verified_unlink base))
    fun _ _ _ base _ _ => verified_work base

theorem verified_createBearerSecret :
    Passes machine readers cleanups id kind (some identity)
      (createBearerSecret machine id identity.bearer) := fun base =>
  verified_atomicPrivateWrite stable_true base trivial
    (fun _ inv mine undisturbed => inv.writeBearer mine undisturbed.1) fun _ _ => trivial

theorem verified_writeDiscoveryMetadata :
    Passes machine readers cleanups id kind (some identity)
      (writeDiscoveryMetadata machine id identity.metadata) := by
  intro start now base
  refine verified_check base trivial fun _ => ?_
  exact verified_atomicPrivateWrite stable_true base trivial
    (fun _ inv mine undisturbed => inv.writeDiscovery mine undisturbed.1) fun _ _ => trivial

theorem verified_createStartupNonce :
    Passes machine readers cleanups id kind mine (createStartupNonce machine id nonce) := fun base =>
  verified_atomicPrivateWrite stable_true base trivial
    (fun _ inv _ _ => inv.writeNonce _) fun _ _ => trivial

theorem verified_cleanup :
    Passes machine readers cleanups id kind (some identity)
      (cleanup machine id identity.daemonId) := fun base =>
  verified_bind (verified_removeOwnedRuntimeArtifacts base) fun _ _ _ base _ _ => verified_work base

theorem verified_serveWithLifecycle :
    Passes machine readers cleanups id kind (some identity)
      (serveWithLifecycle (writeDiscoveryMetadata machine id identity.metadata)
        (cleanup machine id identity.daemonId)) := by
  intro start now base
  refine verified_bind (verified_handle ?_ fun start fault now base _ => ?_)
    fun start _ now base _ (_ : True) => verified_cleanup base
  · refine verified_bind (verified_work base) fun start _ now base _ _ => ?_
    exact verified_bind (verified_writeDiscoveryMetadata base)
      fun start _ now base _ _ => verified_work base
  · exact verified_bind (verified_cleanup base) fun _ _ _ base _ _ => verified_fail base trivial

/-- **A daemon from its start to its end.** -/
theorem verified_runDaemon (inv : Consistent machine cleanups now) (fresh : now.daemon id = none)
    (unrepeated : cleanups = true → Unrepeated now (.daemon identity)) :
    Verified machine readers cleanups id kind (some identity) (fun _ => True) (fun _ _ => True)
      (runDaemon machine identity id) now now := by
  refine safe_modify_bind ?_
  have base : Base machine readers cleanups id (some identity) now (now.starts id identity) :=
    ⟨inv.starts fresh unrepeated, fun _ different => relies_starts fresh different,
      daemon_starts_self _ _ _⟩
  refine verified_bind (verified_consumeStartupNonce base) fun start _ now base _ _ => ?_
  refine verified_bind (verified_removeStaleDiscovery base) fun start _ now base _ _ => ?_
  refine verified_bind (verified_createBearerSecret base) fun start _ now base _ _ => ?_
  refine verified_bind (verified_work base) fun start _ now base _ _ => ?_
  exact verified_check base trivial fun _ => verified_serveWithLifecycle base

end Daemon

/-! ### Every run -/

variable {result : Except Fault Value} {mine : Option Identity}

variable {kind : Kind}

theorem Answered.stable
    (daemons : ∀ other identity, start.daemon other = some identity → now.daemon other = some identity)
    (answered : Answered start kind result) :
    Answered now kind result := by
  unfold Answered at answered ⊢
  split at answered
  · obtain ⟨daemon, identity, known, rest⟩ := answered
    exact ⟨daemon, identity, daemons daemon identity known, rest⟩
  · trivial

theorem Base.exits (base : Base machine readers cleanups id mine start now) :
    Base machine readers cleanups id mine start (now.exits id) :=
  base.update ⟨base.inv.discovery, base.inv.bearer, base.inv.paired, base.inv.unique,
    base.inv.removed⟩ rfl fun _ _ => relies_exits now

/-- A process that has reached its end. -/
theorem goal_of_base (base : Base machine readers cleanups id mine start now)
    (answered : readers = true → Answered now kind result) :
    Goal (runtimeRoot machine) (terms machine readers cleanups) kind id start result now := by
  have goal := (⟨base.exits.inv, base.exits.guarantees, answered⟩ :
    Consistent machine cleanups (now.exits id) ∧
      Guarantees (terms machine readers cleanups) id start (now.exits id) ∧
        (readers = true → Answered now kind result))
  cases result with
  | ok value => exact goal
  | error fault => exact goal

theorem safe_body (kind : Kind) (inv : Consistent machine cleanups now)
    (fresh : now.daemon id = none)
    (unrepeated : cleanups = true → Unrepeated now kind) :
    Safe (runtimeRoot machine) (terms machine readers cleanups) kind id
      (Goal (runtimeRoot machine) (terms machine readers cleanups) kind id)
      (body machine kind id) now now := by
  have base : Base machine readers cleanups id none now now :=
    ⟨inv, fun _ _ => Relies.refl _ _, fresh⟩
  cases kind with
  | connector nonce =>
    exact safe_bind (verified_createStartupNonce base)
      (fun _ _ _ reached => goal_of_base reached.base fun _ => trivial)
      fun _ _ _ reached => goal_of_base reached.base fun _ => trivial
  | daemon identity =>
    exact safe_bind (verified_runDaemon inv fresh unrepeated)
      (fun _ _ _ reached => goal_of_base reached.base fun _ => trivial)
      fun _ _ _ reached => goal_of_base reached.base fun _ => trivial
  | reader =>
    exact safe_bind (verified_readDaemon base)
      (fun _ _ _ reached => goal_of_base reached.base (reached.found _ rfl))
      fun _ _ _ reached => goal_of_base reached.base fun _ => trivial

/-- **The processes of the runtime root keep to the terms.** -/
theorem sound : Sound (runtimeRoot machine) (terms machine readers cleanups) where
  rely_refl := Relies.refl
  rely_trans _ _ _ _ := Relies.trans
  environment_inv id start now killed inv := by
    cases killed
    exact { inv with }
  environment_rely id start now other killed _ := by
    cases killed
    exact relies_kill start
  post_stable _ _ _ _ _ relied post guarded := (post guarded).stable relied.daemons
  holdsAt_stable _ _ _ _ _ _ _ := trivial
  fresh_stable _ _ _ relied fresh := relied.mine.trans fresh
  begins kind _ _ _ unrepeated inv fresh := safe_body kind inv fresh unrepeated
  bears := nofun
  rounds := nofun

/-- The whole system: the files, and all processes that were ever started. -/
abbrev System (Bytes : Type) := World (Root Bytes) Op Unit Fault Kind Value

abbrev Label := WorldLabel Unit Fault Kind Nat

/-- The steps of the runs in question. -/
def UndisturbedStep (readers cleanups : Bool) (system : System Bytes) : Label → Prop
  | .spawn kind => cleanups = true → Unrepeated system.state kind
  | .resume id (.ok _) =>
    match system.tasks[id]? with
    | some (_, .waits op _) => Undisturbed readers cleanups system.state id op
    | _ => True
  | _ => True

variable {system : System Bytes}

theorem allows_of_undisturbedStep {label : Label}
    (undisturbed : UndisturbedStep readers cleanups system label) :
    Allows (terms machine readers cleanups) system label := by
  cases label with
  | spawn kind => exact undisturbed
  | environment env => trivial
  | resume id answer =>
    rintro kind op next waits rfl
    simp only [UndisturbedStep, waits] at undisturbed
    exact undisturbed

theorem consistent_initial : Consistent machine cleanups (Root.initial : Root Bytes) where
  discovery := nofun
  bearer := nofun
  paired := nofun
  unique := nofun
  removed := nofun

theorem ordered (reached : Reaches (runtimeRoot machine).step (UndisturbedStep readers cleanups)
      ⟨Root.initial, []⟩ system) :
    Ordered (runtimeRoot machine) (terms machine readers cleanups) system :=
  sound.reached consistent_initial (fun _ => rfl)
    (reached.mono fun _ _ undisturbed => allows_of_undisturbedStep undisturbed)

/-- **The two files have one writer** wherever such a run has come. -/
theorem files_paired {published secret : File Bytes}
    (reached : Reaches (runtimeRoot machine).step (UndisturbedStep readers cleanups)
      ⟨Root.initial, []⟩ system)
    (isPublished : system.state.files .discovery = some published)
    (isSecret : system.state.files .bearer = some secret) : secret.writer = published.writer :=
  (ordered reached).inv.paired published secret isPublished isSecret

instance (root : Root Bytes) (id : Nat) (op : Op) :
    Decidable (Undisturbed readers cleanups root id op) :=
  match op with
  | .replace .bearer =>
    have : Decidable (root.files .discovery = none) :=
      decidable_of_iff ((root.files .discovery).isNone = true) Option.isNone_iff_eq_none
    inferInstanceAs (Decidable (_ ∧ _ ∧ _))
  | .replace .discovery => inferInstanceAs (Decidable (_ ∧ _))
  | .replace .startupNonce => isTrue trivial
  | .openFile _ => isTrue trivial
  | .unlink _ => isTrue trivial
  | .sync => isTrue trivial
  | .probe => isTrue trivial
  | .work => isTrue trivial

instance (root : Root Bytes) (kind : Kind) : Decidable (Unrepeated root kind) :=
  match kind with
  | .daemon identity => inferInstanceAs
      (Decidable (∀ known ∈ root.daemons, known.2.daemonId ≠ identity.daemonId))
  | .connector _ => isTrue trivial
  | .reader => isTrue trivial

instance (system : System Bytes) (label : Label) :
    Decidable (UndisturbedStep readers cleanups system label) :=
  match label with
  | .spawn kind => inferInstanceAs (Decidable (_ → _))
  | .resume id (.ok _) =>
    match found : system.tasks[id]? with
    | some (_, .waits op _) =>
      decidable_of_iff (Undisturbed readers cleanups system.state id op)
        (by simp [UndisturbedStep, found])
    | some (_, .ended _) => isTrue (by simp [UndisturbedStep, found])
    | none => isTrue (by simp [UndisturbedStep, found])
  | .resume _ (.error _) => isTrue trivial
  | .environment _ => isTrue trivial

/-- A machine whose encodings are the values themselves. -/
def plain : Machine (Object ⊕ List Char) where
  uid := 1000
  uuid _ := true
  urlparse _ := some ⟨"http", some "127.0.0.1", .ok (some 8000), "/mcp", none, none, "", ""⟩
  dumps := .inl
  loads
    | .inl fields => some (.object fields)
    | .inr _ => none
  encode := .inr
  decode
    | .inr text => some text
    | .inl _ => none
  size _ := 0
  loads_dumps _ := rfl
  decode_encode _ _ := rfl

def repeated (letter : Char) (safe : isUrlSafe letter = true) : Token :=
  ⟨List.replicate 64 letter, by simp [safe], by simp⟩

/-- A daemon by its name, its process and its secret. -/
def numbered (daemonId : String) (pid : Int) (secret : Token) : Identity where
  daemonId := daemonId
  metadata :=
    { schemaVersion := .int 2
      daemonId := .str daemonId
      pid := .int pid
      processStartTime := .float 1 "1.0"
      endpoint := .str "http://127.0.0.1:8000/mcp"
      protocolVersion := .str "2025-06-18"
      serverVersion := .str "0.1.0"
      createdAt := .float 1 "1.0"
      buildIdentity := .str "0000000000000000000000000000000000000000000000000000000000000000" }
  named := rfl
  bearer := secret
  nonce := secret

def older : Identity :=
  numbered "00000000-0000-4000-8000-00000000000a" 100 (repeated 'a' (by decide))

def newer : Identity :=
  numbered "00000000-0000-4000-8000-00000000000b" 200 (repeated 'b' (by decide))

def resumes (id count : Nat) : List Label := List.replicate count (.resume id (.ok ()))

/-- A connector writes the nonce of a daemon. -/
def authorizes (id : Nat) (identity : Identity) : List Label :=
  .spawn (.connector identity.nonce) :: resumes id 2

/-- A daemon is authorized, and runs until it serves. -/
def publishes (id : Nat) (identity : Identity) : List Label :=
  authorizes id identity ++ .spawn (.daemon identity) :: resumes (id + 1) 11

/-- **A reader pairs what one daemon has written**, in every run in which no daemon writes its bearer
beside a discovery or while a reader has one in hand, and none publishes beside another's bearer. -/
theorem readDaemon_pairs {system : System Bytes} {reader : Nat} {metadata : DiscoveryMetadata}
    {bearer : List Char}
    (reached : Reaches (runtimeRoot machine).step (UndisturbedStep true false)
      ⟨Root.initial, []⟩ system)
    (returned : system.tasks[reader]? = some (.reader, .ended (.ok (.found metadata bearer)))) :
    ∃ daemon identity, system.state.daemon daemon = some identity ∧
      identity.metadata = metadata ∧ identity.bearer.value = bearer :=
  (ordered reached).stands reader .reader _ returned rfl

/-- The process has returned a pair. -/
def answered (reader : Nat) (system : System Bytes) : Bool :=
  match system.tasks[reader]? with
  | some (.reader, .ended (.ok (.found _ _))) => true
  | _ => false

variable {reader : Nat}

theorem returned_of_answered (found : answered reader system = true) : ∃ metadata bearer,
      system.tasks[reader]? = some (.reader, .ended (.ok (.found metadata bearer))) := by
  unfold answered at found
  split at found
  · rename_i metadata bearer returned
    exact ⟨metadata, bearer, returned⟩
  · cases found

/-- A reader beside a daemon that has published. -/
theorem readDaemon_pairs_alone : ∃ (system : System (Object ⊕ List Char)) (metadata : _) (bearer : _),
    Reaches (runtimeRoot plain).step (UndisturbedStep true false) ⟨Root.initial, []⟩ system ∧
      system.tasks[2]? = some (.reader, .ended (.ok (.found metadata bearer))) ∧
        ∃ daemon identity, system.state.daemon daemon = some identity ∧
          identity.metadata = metadata ∧ identity.bearer.value = bearer := by
  obtain ⟨system, reached, found⟩ := Reaches.of_run (runtimeRoot plain).step
    (UndisturbedStep true false) ⟨Root.initial, []⟩
    (publishes 0 older ++ .spawn .reader :: resumes 2 3) (fun system => answered 2 system = true)
    (by decide +kernel)
  obtain ⟨metadata, bearer, returned⟩ := returned_of_answered found
  exact ⟨system, metadata, bearer, reached, returned, readDaemon_pairs reached returned⟩

/-- The pair that the process `reader` has returned is no daemon's. -/
def mixed (reader : Nat) (system : System Bytes) : Bool :=
  match system.tasks[reader]? with
  | some (.reader, .ended (.ok (.found metadata bearer))) =>
    system.state.daemons.all fun known =>
      !(metadata.daemonId.pyEq (.str known.2.daemonId) && bearer == known.2.bearer.value)
  | _ => false

theorem not_answered_of_mixed (isMixed : mixed reader system = true) : ∃ metadata bearer,
      system.tasks[reader]? = some (.reader, .ended (.ok (.found metadata bearer))) ∧
        ¬∃ daemon identity, system.state.daemon daemon = some identity ∧
          identity.metadata = metadata ∧ identity.bearer.value = bearer := by
  unfold mixed at isMixed
  split at isMixed
  · rename_i metadata bearer returned
    refine ⟨metadata, bearer, returned, ?_⟩
    rintro ⟨daemon, identity, known, rfl, rfl⟩
    have differs := List.all_eq_true.mp isMixed _ (mem_of_daemon known)
    rw [identity.named] at differs
    simp [Json.pyEq] at differs
  · cases isMixed

/-- **The stale discovery is removed too late for a reader that has already read it**: the reader finds
the older daemon alive, the newer one removes the discovery and writes its bearer, and the reader
returns the metadata of the one with the bearer of the other. -/
theorem readDaemon_mixes : ∃ system : System (Object ⊕ List Char),
    Reaches (runtimeRoot plain).step (fun _ _ => True) ⟨Root.initial, []⟩ system ∧
      ∃ metadata bearer,
        system.tasks[2]? = some (.reader, .ended (.ok (.found metadata bearer))) ∧
          ¬∃ daemon identity, system.state.daemon daemon = some identity ∧
            identity.metadata = metadata ∧ identity.bearer.value = bearer := by
  obtain ⟨system, reached, isMixed⟩ := Reaches.of_run (runtimeRoot plain).step (fun _ _ => True)
    ⟨Root.initial, []⟩ (publishes 0 older ++ .spawn .reader :: resumes 2 2 ++ authorizes 3 newer ++
      .spawn (.daemon newer) :: resumes 4 6 ++ resumes 2 1) (fun system => mixed 2 system = true)
    (by decide +kernel)
  exact ⟨system, reached, not_answered_of_mixed isMixed⟩

/-- **A daemon removes only its own files**, in every run in which no daemon writes its bearer beside a
discovery, none publishes beside another's bearer, and none does either while another one removes its
files. -/
theorem removes_own {system : System Bytes}
    (reached : Reaches (runtimeRoot machine).step (UndisturbedStep false true)
      ⟨Root.initial, []⟩ system) :
    ∀ removal ∈ system.state.removed, removal.writer = removal.remover :=
  (ordered reached).inv.removed rfl

/-- A daemon that stops, with no other one about. -/
theorem removes_own_alone : ∃ system : System (Object ⊕ List Char),
    Reaches (runtimeRoot plain).step (UndisturbedStep false true) ⟨Root.initial, []⟩ system ∧
      system.state.removed.length = 2 ∧
        ∀ removal ∈ system.state.removed, removal.writer = removal.remover := by
  obtain ⟨system, reached, both⟩ := Reaches.of_run (runtimeRoot plain).step
    (UndisturbedStep false true) ⟨Root.initial, []⟩ (publishes 0 older ++ resumes 1 5)
    (fun system => system.state.removed.length = 2) (by decide +kernel)
  exact ⟨system, reached, both, removes_own reached⟩

/-- **A daemon that has read its own name removes what is there by then**: its successor removes the
discovery, writes its bearer and publishes, and the stopping daemon removes both. -/
theorem removes_successor : ∃ system : System (Object ⊕ List Char),
    Reaches (runtimeRoot plain).step (fun _ _ => True) ⟨Root.initial, []⟩ system ∧
      system.state.removed = [⟨1, .discovery, 3⟩, ⟨1, .bearer, 3⟩] :=
  Reaches.of_run _ _ _ (publishes 0 older ++ resumes 1 2 ++ publishes 2 newer ++ resumes 1 2) _
    (by decide +kernel)

end SerenaLight.Daemon.RuntimeFiles

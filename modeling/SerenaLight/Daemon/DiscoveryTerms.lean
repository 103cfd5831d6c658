/-
**The terms on which processes share the runtime root.**

- `Undisturbed`: a daemon writes its bearer only while no discovery is there, and publishes its metadata
  only while the bearer is not another's. `readers` and `cleanups` add that it does so only while no
  reader, or no other daemon's removal, is on its way from one file to the other.
- `Consistent`: each file was written by a daemon that has started, and the two have one writer.
- `Relies`: what a process may rely on while it waits. A reader with a discovery in hand sees no new
  bearer, and a daemon that removes its files sees no new file.
- `Verified`: the verification condition of a task under these terms, with one rule for each file
  operation.
-/

import SerenaLight.Daemon.RuntimeFiles

namespace SerenaLight.Daemon.RuntimeFiles

open Foundation Discipline

variable {Bytes : Type}

/-! ### The terms -/

section Terms

variable (machine : Machine Bytes) (readers cleanups : Bool)

/-- Where a process may write. A failed call writes nothing, and every other call is harmless. -/
def Undisturbed (root : Root Bytes) (id : Nat) : Op → Prop
  | .replace .bearer => root.files .discovery = none ∧
      (readers = true → ∀ reader ∈ root.pairing, root.killed reader = true) ∧
      (cleanups = true → ∀ other ∈ root.clearing, other ≠ id → root.killed other = true)
  | .replace .discovery => (∀ file ∈ root.files .bearer, file.writer = id) ∧
      (cleanups = true → ∀ other ∈ root.clearing, other ≠ id → root.killed other = true)
  | _ => True

/-- `uuid4` does not repeat a name. -/
def Unrepeated (root : Root Bytes) : Kind → Prop
  | .daemon identity => ∀ known ∈ root.daemons, known.2.daemonId ≠ identity.daemonId
  | _ => True

/-- What holds of the files between any two operations. -/
structure Consistent (root : Root Bytes) : Prop where
  discovery : ∀ file, root.files .discovery = some file → ∃ identity,
    root.daemon file.writer = some identity ∧ file.content = machine.dumps identity.metadata.asdict
  bearer : ∀ file, root.files .bearer = some file → ∃ identity,
    root.daemon file.writer = some identity ∧
      file.content = machine.encode identity.bearer.rendered
  paired : ∀ published secret, root.files .discovery = some published →
    root.files .bearer = some secret → secret.writer = published.writer
  unique : cleanups = true → ∀ first second one two, root.daemon first = some one →
    root.daemon second = some two → one.daemonId = two.daemonId → first = second
  removed : cleanups = true → ∀ removal ∈ root.removed, removal.writer = removal.remover

/-- What a process may rely on while it waits. -/
structure Relies (id : Nat) (start now : Root Bytes) : Prop where
  daemons : ∀ other identity, start.daemon other = some identity →
    now.daemon other = some identity
  mine : now.daemon id = start.daemon id
  pairing : id ∈ start.pairing → id ∈ now.pairing
  clearing : id ∈ start.clearing → id ∈ now.clearing
  killed : start.killed id = true → now.killed id = true
  bearer : readers = true → id ∈ start.pairing → now.killed id = false →
    ∀ file, now.files .bearer = some file → start.files .bearer = some file
  files : cleanups = true → id ∈ start.clearing → now.killed id = false →
    ∀ name file, name ≠ .startupNonce → now.files name = some file → start.files name = some file

/-- A reader's answer belongs to one daemon. -/
def Answered (root : Root Bytes) : Kind → Except Fault Value → Prop
  | .reader, .ok (.found metadata bearer) => ∃ daemon identity,
      root.daemon daemon = some identity ∧ identity.metadata = metadata ∧
        identity.bearer.value = bearer
  | _, _ => True

def terms : Discipline (Root Bytes) Op Unit Fault Kind Value where
  starts kind root := cleanups = true → Unrepeated root kind
  permits _ id root op answer := answer = .ok () → Undisturbed readers cleanups root id op
  inv := Consistent machine cleanups
  rely := Relies readers cleanups
  holdsAt _ _ _ _ := True
  post kind _ result root := readers = true → Answered root kind result
  fresh id root := root.daemon id = none

end Terms

variable {machine : Machine Bytes} {readers cleanups : Bool} {id : Nat} {start now : Root Bytes}

theorem Relies.refl (id : Nat) (root : Root Bytes) : Relies readers cleanups id root root where
  daemons _ _ known := known
  mine := rfl
  pairing reading := reading
  clearing removing := removing
  killed dead := dead
  bearer _ _ _ _ found := found
  files _ _ _ _ _ _ found := found

theorem Relies.trans {middle : Root Bytes} (first : Relies readers cleanups id start middle)
    (second : Relies readers cleanups id middle now) : Relies readers cleanups id start now where
  daemons other identity known := second.daemons other identity (first.daemons other identity known)
  mine := second.mine.trans first.mine
  pairing reading := second.pairing (first.pairing reading)
  clearing removing := second.clearing (first.clearing removing)
  killed dead := second.killed (first.killed dead)
  bearer guarded reading alive file found := by
    have before : middle.killed id = false := by
      by_contra dead
      have := second.killed (by simpa using dead)
      rw [alive] at this
      cases this
    refine first.bearer guarded reading before file ?_
    exact second.bearer guarded (first.pairing reading) alive file found
  files guarded removing alive name file kept found := by
    have before : middle.killed id = false := by
      by_contra dead
      have := second.killed (by simpa using dead)
      rw [alive] at this
      cases this
    refine first.files guarded removing before name file kept ?_
    exact second.files guarded (first.clearing removing) alive name file kept found

/-! ### What each update does -/

variable {other : Nat} {identity : Identity} {root : Root Bytes} {name : Name} {content : Bytes}

/-- An update of the task `id` that leaves the files and everyone else's history alone. -/
theorem relies_of_frame {root after : Root Bytes}
    (daemons : ∀ daemon identity, root.daemon daemon = some identity →
      after.daemon daemon = some identity)
    (mine : after.daemon other = root.daemon other)
    (pairing : other ∈ root.pairing → other ∈ after.pairing)
    (clearing : other ∈ root.clearing → other ∈ after.clearing)
    (killed : root.killed other = true → after.killed other = true)
    (files : ∀ name file, after.files name = some file → root.files name = some file) :
    Relies readers cleanups other root after where
  daemons := daemons
  mine := mine
  pairing := pairing
  clearing := clearing
  killed := killed
  bearer _ _ _ file found := files .bearer file found
  files _ _ _ name file _ found := files name file found

theorem daemon_starts_self (root : Root Bytes) (id : Nat) (identity : Identity) :
    (root.starts id identity).daemon id = some identity := by
  show List.lookup id ((id, identity) :: root.daemons) = some identity
  rw [List.lookup_cons, beq_self_eq_true]

variable {daemon : Nat}

theorem daemon_starts_of_ne (different : daemon ≠ id) :
    (root.starts id identity).daemon daemon = root.daemon daemon := by
  show List.lookup daemon ((id, identity) :: root.daemons) = List.lookup daemon root.daemons
  rw [List.lookup_cons, beq_eq_false_iff_ne.mpr different]

/-- A process that starts as a daemon was none before. -/
theorem daemon_starts {identity known : Identity} (fresh : root.daemon id = none)
    (found : root.daemon daemon = some known) :
    (root.starts id identity).daemon daemon = some known := by
  have elsewhere : daemon ≠ id := by
    rintro rfl
    rw [fresh] at found
    cases found
  exact (daemon_starts_of_ne elsewhere).trans found

theorem mem_of_daemon (known : root.daemon id = some identity) :
    (id, identity) ∈ root.daemons := by
  obtain ⟨before, after, eq, -⟩ := List.lookup_eq_some_iff.mp known
  rw [eq]
  simp

theorem relies_starts (fresh : root.daemon id = none) (different : other ≠ id) :
    Relies readers cleanups other root (root.starts id identity) :=
  relies_of_frame (fun _ _ found => daemon_starts fresh found) (daemon_starts_of_ne different)
    (fun reading => reading) (fun removing => removing) (fun dead => dead) fun _ _ found => found

/-- An update of the history of `id` alone. -/
theorem relies_of_history {root after : Root Bytes}
    (daemons : after.daemons = root.daemons)
    (pairing : other ∈ root.pairing → other ∈ after.pairing)
    (clearing : other ∈ root.clearing → other ∈ after.clearing)
    (killed : root.killed other = true → after.killed other = true)
    (files : after.files = root.files) : Relies readers cleanups other root after :=
  relies_of_frame (fun daemon identity known => by rw [Root.daemon, daemons]; exact known)
    (by rw [Root.daemon, daemons, Root.daemon]) pairing clearing killed
    fun name file found => by rw [← files]; exact found

theorem relies_exits (root : Root Bytes) :
    Relies readers cleanups other root (root.exits id) :=
  relies_of_history rfl (fun reading => reading) (fun removing => removing) (fun dead => dead) rfl

theorem relies_kill (root : Root Bytes) :
    Relies readers cleanups other root (root.kill id) := by
  refine relies_of_history rfl (fun reading => reading) (fun removing => removing) (fun dead => ?_) rfl
  show (if other = id then true else root.killed other) = true
  rw [dead]
  exact ite_self _

theorem relies_pairs :
    Relies readers cleanups other root (root.pairs id) :=
  relies_of_history rfl (List.mem_cons_of_mem _) (fun removing => removing) (fun dead => dead) rfl

theorem relies_unpairs (different : other ≠ id) :
    Relies readers cleanups other root (root.unpairs id) :=
  relies_of_history rfl (fun reading => List.mem_filter.mpr ⟨reading, by simpa using different⟩)
    (fun removing => removing) (fun dead => dead) rfl

theorem relies_clears :
    Relies readers cleanups other root (root.clears id) :=
  relies_of_history rfl (fun reading => reading) (List.mem_cons_of_mem _) (fun dead => dead) rfl

theorem relies_unclears (different : other ≠ id) :
    Relies readers cleanups other root (root.unclears id) :=
  relies_of_history rfl (fun reading => reading)
    (fun removing => List.mem_filter.mpr ⟨removing, by simpa using different⟩) (fun dead => dead) rfl

variable {writer : Nat}

theorem relies_removes :
    Relies readers cleanups other root (root.removes id name writer) :=
  relies_of_history rfl (fun reading => reading) (fun removing => removing) (fun dead => dead) rfl

/-- What is still there after `unlink` was there before. -/
theorem files_of_unlink {name other : Name} {file : File Bytes}
    (found : (root.unlink name).files other = some file) : root.files other = some file := by
  have found : (if other = name then none else root.files other) = some file := found
  split at found
  · cases found
  · exact found

theorem relies_unlink :
    Relies readers cleanups other root (root.unlink name) :=
  relies_of_frame (fun _ _ known => known) rfl (fun reading => reading) (fun removing => removing)
    (fun dead => dead) fun _ _ found => files_of_unlink found

theorem files_write :
    (root.write machine id name content).files name =
      some ⟨true, machine.uid, privateFileMode, content, id⟩ := if_pos rfl

theorem files_write_of_ne {name other : Name}
    (different : other ≠ name) :
    (root.write machine id name content).files other = root.files other := if_neg different

/-- Nobody who relies on a file is there when it is replaced. -/
theorem relies_write
    (undisturbed : Undisturbed readers cleanups root id (.replace name)) (different : other ≠ id) :
    Relies readers cleanups other root (root.write machine id name content) where
  daemons _ _ known := known
  mine := rfl
  pairing reading := reading
  clearing removing := removing
  killed dead := dead
  bearer guarded reading alive file found := by
    cases name with
    | bearer =>
      have dead := undisturbed.2.1 guarded other reading
      have alive : root.killed other = false := alive
      rw [alive] at dead
      cases dead
    | discovery | startupNonce => exact (files_write_of_ne (by decide)).symm.trans found
  files guarded removing alive kept file notNonce found := by
    cases name with
    | bearer =>
      have dead := undisturbed.2.2 guarded other removing different
      have alive : root.killed other = false := alive
      rw [alive] at dead
      cases dead
    | discovery =>
      have dead := undisturbed.2 guarded other removing different
      have alive : root.killed other = false := alive
      rw [alive] at dead
      cases dead
    | startupNonce => exact (files_write_of_ne notNonce).symm.trans found

namespace Consistent

variable {root : Root Bytes} (inv : Consistent machine cleanups root)

include inv

variable {identity : Identity}

theorem starts (fresh : root.daemon id = none)
    (unrepeated : cleanups = true → Unrepeated root (.daemon identity)) :
    Consistent machine cleanups (root.starts id identity) := by
  refine ⟨fun file found => ?_, fun file found => ?_, inv.paired, ?_, inv.removed⟩
  · obtain ⟨other, started, content⟩ := inv.discovery file found
    exact ⟨other, daemon_starts fresh started, content⟩
  · obtain ⟨other, started, content⟩ := inv.bearer file found
    exact ⟨other, daemon_starts fresh started, content⟩
  · intro guarded first second one two isFirst isSecond same
    by_cases atFirst : first = id <;> by_cases atSecond : second = id
    · exact atFirst.trans atSecond.symm
    · rw [atFirst, daemon_starts_self] at isFirst
      rw [daemon_starts_of_ne atSecond] at isSecond
      cases isFirst
      exact absurd same.symm (unrepeated guarded _ (mem_of_daemon isSecond))
    · rw [atSecond, daemon_starts_self] at isSecond
      rw [daemon_starts_of_ne atFirst] at isFirst
      cases isSecond
      exact absurd same (unrepeated guarded _ (mem_of_daemon isFirst))
    · rw [daemon_starts_of_ne atFirst] at isFirst
      rw [daemon_starts_of_ne atSecond] at isSecond
      exact inv.unique guarded first second one two isFirst isSecond same

theorem unlink (name : Name) : Consistent machine cleanups (root.unlink name) where
  discovery file found := inv.discovery file (files_of_unlink found)
  bearer file found := inv.bearer file (files_of_unlink found)
  paired published secret isPublished isSecret :=
    inv.paired published secret (files_of_unlink isPublished) (files_of_unlink isSecret)
  unique := inv.unique
  removed := inv.removed

theorem removes {name : Name} (own : cleanups = true → writer = id) :
    Consistent machine cleanups (root.removes id name writer) where
  discovery := inv.discovery
  bearer := inv.bearer
  paired := inv.paired
  unique := inv.unique
  removed guarded removal member := by
    rcases List.mem_append.mp member with old | new
    · exact inv.removed guarded removal old
    · rw [List.mem_singleton.mp new]
      exact own guarded

theorem writeNonce (content : Bytes) :
    Consistent machine cleanups (root.write machine id .startupNonce content) where
  discovery file found := inv.discovery file ((files_write_of_ne (by decide)).symm.trans found)
  bearer file found := inv.bearer file ((files_write_of_ne (by decide)).symm.trans found)
  paired published secret isPublished isSecret :=
    inv.paired published secret ((files_write_of_ne (by decide)).symm.trans isPublished)
      ((files_write_of_ne (by decide)).symm.trans isSecret)
  unique := inv.unique
  removed := inv.removed

theorem writeBearer (mine : root.daemon id = some identity)
    (absent : root.files .discovery = none) :
    Consistent machine cleanups
      (root.write machine id .bearer (machine.encode identity.bearer.rendered)) where
  discovery file found := by
    have found : root.files .discovery = some file :=
      (files_write_of_ne (by decide)).symm.trans found
    rw [absent] at found
    cases found
  bearer file found := by
    cases files_write.symm.trans found
    exact ⟨identity, mine, rfl⟩
  paired published secret isPublished isSecret := by
    have isPublished : root.files .discovery = some published :=
      (files_write_of_ne (by decide)).symm.trans isPublished
    rw [absent] at isPublished
    cases isPublished
  unique := inv.unique
  removed := inv.removed

theorem writeDiscovery (mine : root.daemon id = some identity)
    (own : ∀ file, root.files .bearer = some file → file.writer = id) :
    Consistent machine cleanups
      (root.write machine id .discovery (machine.dumps identity.metadata.asdict)) where
  discovery file found := by
    cases files_write.symm.trans found
    exact ⟨identity, mine, rfl⟩
  bearer file found := inv.bearer file ((files_write_of_ne (by decide)).symm.trans found)
  paired published secret isPublished isSecret := by
    cases files_write.symm.trans isPublished
    exact own secret ((files_write_of_ne (by decide)).symm.trans isSecret)
  unique := inv.unique
  removed := inv.removed

end Consistent

/-! ### Operations -/

section Operations

variable (machine readers cleanups id)

/-- What a process knows in the middle of a segment; `mine` is what it has started as. -/
structure Base (mine : Option Identity) (start now : Root Bytes) : Prop where
  inv : Consistent machine cleanups now
  guarantees : Guarantees (terms machine readers cleanups) id start now
  mine : now.daemon id = mine

/-- The process has kept `kept`, and what it returns is as `found` tells. -/
structure Reached {Result : Type} (mine : Option Identity) (kept : Root Bytes → Prop)
    (found : Root Bytes → Result → Prop) (start : Root Bytes) (result : Except Fault Result)
    (now : Root Bytes) : Prop where
  base : Base machine readers cleanups id mine start now
  kept : kept now
  found : ∀ value, result = .ok value → found now value

/-- What the others leave as it is, as long as the process is not killed. -/
def Stable (kept : Root Bytes → Prop) : Prop :=
  ∀ start now, Relies readers cleanups id start now → now.killed id = false → kept start → kept now

end Operations

variable {op : Op}

theorem eq_of_answers {root resumed : Root Bytes} {answer : Except Fault Unit}
    (answered : answers root id op answer = some resumed) :
    resumed = root ∧ root.killed id = false := by
  unfold answers at answered
  split at answered
  · cases answered
  · rename_i alive
    refine ⟨?_, by simpa using alive⟩
    split at answered <;> first
      | exact (Option.some.inj answered).symm
      | cases answered

section Rules

variable {kind : Kind} {mine : Option Identity} {kept : Root Bytes → Prop} {First Second : Type}
  {found : Root Bytes → First → Prop} {after : Root Bytes → Second → Prop}
  {first : Task Bytes First}

variable (machine readers cleanups kind id mine kept found) in
/-- The task is safe, and reaches what is asked of it. -/
def Verified (task : Task Bytes First) (start now : Root Bytes) : Prop :=
  Safe (runtimeRoot machine) (terms machine readers cleanups) kind id
    (Reached machine readers cleanups id mine kept found) task start now

/-- An update that everyone else may rely on. -/
theorem Base.update (base : Base machine readers cleanups id mine start now) {next : Root Bytes}
    (inv : Consistent machine cleanups next) (same : next.daemon id = now.daemon id)
    (relies : ∀ other, other ≠ id → Relies readers cleanups other now next) :
    Base machine readers cleanups id mine start next where
  inv := inv
  guarantees other different := (base.guarantees other different).trans (relies other different)
  mine := same.trans base.mine

section

variable (verified : Verified machine readers cleanups id kind mine kept found first start now)

include verified

theorem verified_bind {rest : First → Task Bytes Second}
    (goes : ∀ start value now, Base machine readers cleanups id mine start now → kept now →
      found now value →
      Verified machine readers cleanups id kind mine kept after (rest value) start now) :
    Verified machine readers cleanups id kind mine kept after (first >>= rest) start now :=
  safe_bind verified (fun start value now reached => goes start value now reached.base reached.kept
      (reached.found value rfl))
    fun _ _ _ reached => ⟨reached.base, reached.kept, nofun⟩

theorem verified_handle {handler : Fault → Task Bytes First}
    (handles : ∀ start fault now, Base machine readers cleanups id mine start now → kept now →
      Verified machine readers cleanups id kind mine kept found (handler fault) start now) :
    Verified machine readers cleanups id kind mine kept found (first.handle handler) start now :=
  safe_handle verified (fun _ _ _ reached => reached)
    fun start fault now reached => handles start fault now reached.base reached.kept

/-- A result about which less is told. -/
theorem Verified.forget :
    Verified machine readers cleanups id kind mine kept (fun _ _ => True) first start now :=
  Safe.mono verified fun _ _ _ reached => ⟨reached.base, reached.kept, fun _ _ => trivial⟩

end

variable (stable : Stable readers cleanups id kept)
  (base : Base machine readers cleanups id mine start now) (holds : kept now)

include base holds

theorem verified_pure {value : First} (finds : found now value) :
    Verified machine readers cleanups id kind mine kept found (pure value) start now :=
  ⟨base, holds, fun _ same => by cases same; exact finds⟩

theorem verified_fail {fault : Fault} :
    Verified machine readers cleanups id kind mine kept found (.fail fault) start now :=
  ⟨base, holds, nofun⟩

theorem verified_raises {result : Except Fault First}
    (finds : ∀ value, result = .ok value → found now value) :
    Verified machine readers cleanups id kind mine kept found (raises result) start now := by
  cases result with
  | ok value => exact verified_pure base holds (finds value rfl)
  | error fault => exact verified_fail base holds

/-- A check has no result but that it passed. -/
theorem verified_check {result : Except Fault Unit} {rest : Unit → Task Bytes Second}
    (goes : result = .ok () →
      Verified machine readers cleanups id kind mine kept after (rest ()) start now) :
    Verified machine readers cleanups id kind mine kept after (raises result >>= rest) start now := by
  cases result with
  | ok => exact goes rfl
  | error fault => exact verified_fail base holds

omit base holds in
theorem verified_suppressMissing {task : Task Bytes Unit}
    (verified : Verified machine readers cleanups id kind mine kept (fun _ _ => True) task start now) :
    Verified machine readers cleanups id kind mine kept (fun _ _ => True) (suppressMissing task)
      start now := by
  refine verified_handle verified fun start fault now base holds => ?_
  cases fault with
  | fileNotFound => exact verified_pure base holds trivial
  | _ => exact verified_fail base holds

include stable

/-- **One system call**: the files are as the others have left them, and the call is permitted. -/
theorem verified_call :
    Verified machine readers cleanups id kind mine kept
      (fun root (_ : Unit) => Undisturbed readers cleanups root id op) (Coro.wait op) start now := by
  refine safe_wait ⟨base.inv, base.guarantees, trivial⟩ ?_
  intro later resumed answer relied inv permitted answered
  obtain ⟨rfl, alive⟩ := eq_of_answers answered
  refine ⟨⟨inv, fun _ _ => Relies.refl _ _, relied.mine.trans base.mine⟩,
    stable _ _ relied alive holds, ?_⟩
  rintro value rfl
  exact permitted rfl

variable {name : Name}

theorem verified_openFile :
    Verified machine readers cleanups id kind mine kept
      (fun root file => root.files name = some file) (openFile name) start now := by
  refine verified_bind (verified_call stable base holds) fun start _ now base holds _ => ?_
  refine safe_get_bind ?_
  cases opened : now.files name with
  | some file => exact verified_pure base holds opened
  | none => exact verified_fail base holds

/-- What is read from a file is in it at that moment. -/
theorem verified_readPrivateFile :
    Verified machine readers cleanups id kind mine kept
      (fun root content => ∃ file, root.files name = some file ∧ file.content = content)
      (readPrivateFile machine name) start now := by
  refine verified_bind (verified_handle (verified_openFile stable base holds)
    fun _ _ _ base holds => verified_fail base holds) fun start file now base holds opened => ?_
  exact verified_check base holds fun _ => verified_pure base holds ⟨file, opened, rfl⟩

/-- A file is replaced where it may be. -/
theorem verified_atomicPrivateWrite {content : Bytes}
    (writes : ∀ root, Consistent machine cleanups root → root.daemon id = mine →
      Undisturbed readers cleanups root id (.replace name) →
      Consistent machine cleanups (root.write machine id name content))
    (keeps : ∀ root, kept root → kept (root.write machine id name content)) :
    Verified machine readers cleanups id kind mine kept (fun _ _ => True)
      (atomicPrivateWrite machine id name content) start now := by
  refine verified_bind (verified_call stable base holds)
    fun start _ now base holds undisturbed => ?_
  refine safe_modify_bind ?_
  have written := base.update (writes now base.inv base.mine undisturbed) rfl
    fun other different => relies_write undisturbed different
  exact (verified_call stable written (keeps now holds)).forget

/-- What is told of every writer of a file is told of the writer of the file that is gone. -/
theorem verified_unlinkFile {told : Nat → Prop}
    (keeps : ∀ root, kept root → kept (root.unlink name))
    (tells : ∀ root file, kept root → root.files name = some file → told file.writer) :
    Verified machine readers cleanups id kind mine kept (fun _ writer => told writer)
      (unlinkFile name) start now := by
  refine verified_bind (verified_call stable base holds) fun start _ now base holds _ => ?_
  refine safe_get_bind ?_
  cases opened : now.files name with
  | none => exact verified_fail base holds
  | some file =>
    refine safe_modify_bind ?_
    have unlinked := base.update (base.inv.unlink name) rfl fun _ _ => relies_unlink
    exact verified_pure unlinked (keeps now holds) (tells now file holds opened)

/-- What a discovery file says is told at the moment it is read, and has to last through the question
for the process. -/
theorem verified_readDiscoveryMetadata {isLive : Json → Json → Task Bytes Bool}
    {told : Root Bytes → DiscoveryMetadata → Prop}
    (asks : ∀ start now metadata file, Base machine readers cleanups id mine start now → kept now →
      now.files .discovery = some file → decodeMetadata machine file.content = .ok metadata →
      Verified machine readers cleanups id kind mine kept (fun root _ => told root metadata)
        (isLive metadata.pid metadata.processStartTime) start now) :
    Verified machine readers cleanups id kind mine kept told (readDiscoveryMetadata machine isLive)
      start now := by
  refine verified_bind (verified_readPrivateFile stable base holds) ?_
  rintro start content now base holds ⟨file, opened, rfl⟩
  have decodes : Verified machine readers cleanups id kind mine kept
      (fun root metadata => root.files .discovery = some file ∧
        decodeMetadata machine file.content = .ok metadata)
      (raises (decodeMetadata machine file.content)) start now :=
    verified_raises base holds fun _ decoded => ⟨opened, decoded⟩
  refine verified_bind decodes fun start metadata now base holds decoded => ?_
  refine verified_bind (asks start now metadata file base holds decoded.1 decoded.2)
    fun start alive now base holds tells => ?_
  exact verified_check base holds fun _ => verified_pure base holds tells

end Rules

end SerenaLight.Daemon.RuntimeFiles

/-
**The start-up nonce is consumed once.**

Connectors put nonces into the runtime root, each in place of the one before, and daemons consume
them. `consume_startup_nonce` reads and checks the file, and later unlinks whatever stands under its
name.

* `Move`: what one system call of these processes does.
* `Kept`: which connector has written the nonce file, and which daemons have removed theirs.
* `nonces_consumed_once`: each nonce is consumed at most once, and each daemon removes the file that
  it has read, as long as no nonce is put in place between the reading and the removal of another.
-/

import SerenaLight.Daemon.DiscoveryPairs

namespace SerenaLight.Daemon.RuntimeFiles

open Foundation

variable {Bytes : Type} (machine : Machine Bytes)

/-! ### The calls -/

/-- The calls of `create_startup_nonce` by connectors and of `consume_startup_nonce` by daemons. -/
def nonceRoot : Model (Root Bytes) Op Unit Fault Kind Unit Nat where
  body kind id := match kind with
    | .connector nonce => createStartupNonce machine id nonce
    | .daemon identity => consumeStartupNonce machine identity.nonce
    | .reader => pure ()
  rest _ := none
  birth := .work
  admits kind := match kind with
    | .reader => false
    | _ => true
  answers _ id root op answer := answers root id op answer
  ends _ id root := root.exits id
  environment id root := some (root.kill id)

abbrev Nonces (Bytes : Type) := World (Root Bytes) Op Unit Fault Kind Unit

abbrev NonceLabel := WorldLabel Unit Fault Kind Nat

abbrev Next (Bytes : Type) := Except Fault Unit → Task Bytes Unit

/-- The end of `consume_startup_nonce`, from the unlinking on. -/
def removeStartupNonce : Task Bytes Unit :=
  let removal : Task Bytes Unit := do
    discard (unlinkFile .startupNonce)
    Coro.wait .sync
  removal.handle fun _ => .fail (.runtimeFile "startup nonce could not be consumed")

def syncRemoval : Task Bytes Unit :=
  (Coro.wait .sync).handle fun _ => .fail (.runtimeFile "startup nonce could not be consumed")

/-- What a waiting call goes on with. -/
def Follows (id : Nat) (next : Next Bytes) : Kind → Op → Prop
  | .connector nonce, .replace .startupNonce =>
    createStartupNonce machine id nonce = .await (.replace .startupNonce) next
  | .connector _, .sync => Coro.wait .sync = Coro.await .sync next
  | .daemon identity, .openFile .startupNonce =>
    consumeStartupNonce machine identity.nonce = .await (.openFile .startupNonce) next
  | .daemon _, .unlink .startupNonce => removeStartupNonce = .await (.unlink .startupNonce) next
  | .daemon _, .sync => syncRemoval = .await .sync next
  | _, _ => False

/-- One step, for calls that are where `Follows` says. -/
inductive Move (before : Nonces Bytes) : NonceLabel → Nonces Bytes → Prop
  | connects {nonce : Token} {next : Next Bytes}
      (follows : Follows machine before.tasks.length next (.connector nonce)
        (.replace .startupNonce)) :
      Move before (.spawn (.connector nonce)) ⟨before.state,
        before.tasks ++ [(.connector nonce, .waits (.replace .startupNonce) next)]⟩
  | starts {identity : Identity} {next : Next Bytes}
      (follows : Follows machine before.tasks.length next (.daemon identity)
        (.openFile .startupNonce)) :
      Move before (.spawn (.daemon identity)) ⟨before.state,
        before.tasks ++ [(.daemon identity, .waits (.openFile .startupNonce) next)]⟩
  | kills {id : Nat} : Move before (.environment id) ⟨before.state.kill id, before.tasks⟩
  | creates {id : Nat} {nonce : Token} {next sync : Next Bytes}
      (at_ : before.tasks[id]? = some (.connector nonce, .waits (.replace .startupNonce) next))
      (follows : Follows machine id sync (.connector nonce) .sync) :
      Move before (.resume id (.ok ()))
        ⟨before.state.write machine id .startupNonce (machine.encode nonce.rendered),
          before.tasks.set id (.connector nonce, .waits .sync sync)⟩
  | validates {id : Nat} {identity : Identity} {file : File Bytes} {next unlink : Next Bytes}
      (at_ : before.tasks[id]? = some (.daemon identity, .waits (.openFile .startupNonce) next))
      (found : before.state.files .startupNonce = some file)
      (valid : checkStartupNonce machine file.content identity.nonce = .ok ())
      (follows : Follows machine id unlink (.daemon identity) (.unlink .startupNonce)) :
      Move before (.resume id (.ok ())) ⟨before.state,
        before.tasks.set id (.daemon identity, .waits (.unlink .startupNonce) unlink)⟩
  | removes {id : Nat} {identity : Identity} {file : File Bytes} {next sync : Next Bytes}
      (alive : before.state.killed id = false)
      (at_ : before.tasks[id]? = some (.daemon identity, .waits (.unlink .startupNonce) next))
      (found : before.state.files .startupNonce = some file)
      (follows : Follows machine id sync (.daemon identity) .sync) :
      Move before (.resume id (.ok ())) ⟨before.state.unlink .startupNonce,
        before.tasks.set id (.daemon identity, .waits .sync sync)⟩
  | ends {id : Nat} {kind : Kind} {op : Op} {next : Next Bytes} {answer : Except Fault Unit}
      {result : Except Fault Unit} (at_ : before.tasks[id]? = some (kind, .waits op next))
      (done : result = .ok () → op = .sync)
      (answered : answer = .ok () → ∀ name, op ≠ .replace name) :
      Move before (.resume id answer)
        ⟨before.state.exits id, before.tasks.set id (kind, .ended result)⟩

variable {machine} {before after system : Nonces Bytes} {label : NonceLabel}

/-- A call that goes on finds the root as it is. -/
theorem state_of_answers {root resumed : Root Bytes} {id : Nat} {op : Op}
    {answer : Except Fault Unit}
    (answered : answers root id op answer = some resumed) :
    resumed = root ∧ root.killed id = false := by
  unfold answers at answered
  split at answered
  · cases answered
  · rename_i alive
    refine ⟨?_, (Bool.not_eq_true _).mp alive⟩
    split at answered <;> cases answered <;> rfl

/-- The world after a segment that creates no task. -/
theorem settled {model : Model (Root Bytes) Op Unit Fault Kind Unit Nat} {count : Nat}
    {segment : Coro.Segment (Root Bytes) Op Unit Fault Kind Unit}
    {tasks : List (Kind × Coro.Pause (Root Bytes) Op Unit Fault Kind Unit)}
    (alone : segment.created = [])
    (taken : some (⟨segment.state, tasks ++ model.children count segment.created⟩ : Nonces Bytes) =
      some after) : after = ⟨segment.state, tasks⟩ := by
  rw [alone] at taken
  cases taken
  show (⟨segment.state, tasks ++ []⟩ : Nonces Bytes) = _
  rw [List.append_nil]

/-- What the reading of the nonce file comes to. -/
theorem advance_consume {nonce : Token} {next : Next Bytes} (root : Root Bytes) (count : Nat)
    (follows : consumeStartupNonce machine nonce = .await (.openFile .startupNonce) next) :
    (∃ fault, (next (.ok ())).advance count root = ⟨.ended (.error fault), root, []⟩) ∨
    ∃ file, root.files .startupNonce = some file ∧
      checkStartupNonce machine file.content nonce = .ok () ∧
      (next (.ok ())).advance count root = removeStartupNonce.advance count root := by
  cases follows
  cases found : root.files .startupNonce with
  | none =>
    refine .inl ⟨.runtimeFile
      ("runtime file is unavailable or symlinked: " ++ Name.text .startupNonce), ?_⟩
    simp [Coro.bind, Coro.handle, Coro.advance, Bind.bind, Coro.get, found]
  | some file =>
    cases private_ : checkPrivateFile machine .startupNonce file with
    | error fault =>
      refine .inl ⟨fault, ?_⟩
      simp [Coro.bind, Coro.handle, Coro.advance, Bind.bind, Coro.get, found, pure, raises,
        private_]
    | ok =>
      cases valid : checkStartupNonce machine file.content nonce with
      | error fault =>
        refine .inl ⟨fault, ?_⟩
        simp [Coro.bind, Coro.handle, Coro.advance, Bind.bind, Coro.get, found, pure, raises,
          private_, valid]
      | ok =>
        refine .inr ⟨file, rfl, valid, ?_⟩
        simp [Coro.bind, Coro.handle, Coro.advance, Bind.bind, Coro.get, found, pure, raises,
          private_, valid, removeStartupNonce]

theorem nonces_move (follows : ∀ (id : Nat) (kind : Kind) (op : Op) (next : Next Bytes),
      before.tasks[id]? = some (kind, .waits op next) → Follows machine id next kind op)
    (taken : (nonceRoot machine).step before label = some after) :
    Move machine before label after := by
  cases label with
  | spawn kind =>
    cases kind with
    | connector nonce =>
      obtain rfl := settled rfl taken
      exact .connects rfl
    | daemon identity =>
      obtain rfl := settled rfl taken
      exact .starts rfl
    | reader => cases taken
  | environment id => cases taken; exact .kills
  | resume id answer =>
    simp only [Model.step] at taken
    split at taken
    · rename_i kind op next at_
      have place := follows id kind op next at_
      split at taken
      · rename_i resumed answered
        obtain ⟨rfl, alive⟩ := state_of_answers answered
        unfold Follows at place
        split at place
        · cases place
          cases answer <;> obtain rfl := settled rfl taken
          · exact .ends at_ (by simp) (by simp)
          · exact .creates at_ rfl
        · cases place
          cases answer <;> obtain rfl := settled rfl taken <;> exact .ends at_ (fun _ => rfl) (by simp)
        · cases answer with
          | error fault =>
            cases place
            obtain rfl := settled rfl taken
            exact .ends at_ (by simp) (by simp)
          | ok value =>
            obtain ⟨fault, failed⟩ | ⟨file, found, valid, same⟩ :=
              advance_consume before.state before.tasks.length place
            · rw [failed] at taken
              obtain rfl := settled rfl taken
              exact .ends at_ (by simp) (by simp)
            · rw [same] at taken
              obtain rfl := settled rfl taken
              exact .validates at_ found valid rfl
        · cases answer with
          | error fault =>
            cases place
            obtain rfl := settled rfl taken
            exact .ends at_ (by simp) (by simp)
          | ok value =>
            cases found : before.state.files .startupNonce with
            | none =>
              have failed : (next (.ok value)).advance before.tasks.length before.state =
                  ⟨.ended (.error (.runtimeFile "startup nonce could not be consumed")),
                    before.state, []⟩ := by
                cases place
                simp [Coro.bind, Coro.handle, Coro.advance, Bind.bind, Coro.get, found]
              rw [failed] at taken
              obtain rfl := settled rfl taken
              exact .ends at_ (by simp) (by simp)
            | some file =>
              have same : (next (.ok value)).advance before.tasks.length before.state =
                  syncRemoval.advance before.tasks.length (before.state.unlink .startupNonce) := by
                cases place
                simp [Coro.bind, Coro.handle, Coro.advance, Bind.bind, Coro.get, found, pure,
                  Coro.modify, syncRemoval]
              rw [same] at taken
              obtain rfl := settled rfl taken
              exact .removes alive at_ found rfl
        · cases place
          cases answer <;> obtain rfl := settled rfl taken <;> exact .ends at_ (fun _ => rfl) (by simp)
        · cases place
      · cases taken
    · cases taken

/-! ### What the nonce file is -/

/-- How far a call has come. -/
inductive Stage where
  | creating (nonce : Token)
  /-- the nonce has been put in place, or never will be -/
  | created (nonce : Token)
  | checking (nonce : Token)
  /-- the file has passed the check and is about to be unlinked -/
  | removing (nonce : Token)
  /-- the file is unlinked, and nothing has failed since -/
  | removed (nonce : Token)
  | failed

def stageOf : Kind × Coro.Pause (Root Bytes) Op Unit Fault Kind Unit → Stage
  | (.connector nonce, .waits (.replace _) _) => .creating nonce
  | (.connector nonce, _) => .created nonce
  | (.daemon identity, .waits (.openFile _) _) => .checking identity.nonce
  | (.daemon identity, .waits (.unlink _) _) => .removing identity.nonce
  | (.daemon identity, .waits .sync _) => .removed identity.nonce
  | (.daemon identity, .ended (.ok _)) => .removed identity.nonce
  | _ => .failed

def Nonces.stage (system : Nonces Bytes) (id : Nat) : Option Stage :=
  system.tasks[id]?.map stageOf

/-- `consume_startup_nonce` has returned. -/
def Nonces.consumed (system : Nonces Bytes) (id : Nat) (nonce : Token) : Prop :=
  ∃ identity, system.tasks[id]? = some (.daemon identity, .ended (.ok ())) ∧ identity.nonce = nonce

/-- **Each nonce is consumed once, by the removal of its own file.** A daemon that is about to
unlink the nonce file would unlink the one that the connector of its nonce has written. -/
structure Nonces.Exact (system : Nonces Bytes) : Prop where
  once : ∀ first second nonce, system.consumed first nonce → system.consumed second nonce →
    first = second
  own : ∀ id nonce file, system.stage id = some (.removing nonce) → system.state.killed id = false →
    system.state.files .startupNonce = some file → system.stage file.writer = some (.created nonce)

/-- Nonce values are distinct. -/
def Distinct (system : Nonces Bytes) : NonceLabel → Prop
  | .spawn (.connector nonce) => ∀ id, system.stage id ≠ some (.creating nonce) ∧
    system.stage id ≠ some (.created nonce)
  | _ => True

/-- **The condition on a step**: no nonce is put in place while a daemon has checked another one and
not yet removed it. -/
def Unreplaced (system : Nonces Bytes) : NonceLabel → Prop
  | .resume id (.ok _) => ∀ nonce, system.stage id = some (.creating nonce) →
    ∀ other checked, system.stage other = some (.removing checked) →
      system.state.killed other = true
  | _ => True

variable (machine) in
/-- What holds of the files and the calls in such a run. -/
@[grind cases eager]
structure Kept (system : Nonces Bytes) : Prop where
  one : ∀ first second nonce, system.stage first = some (.creating nonce) →
    system.stage second = some (.creating nonce) → first = second
  fresh : ∀ first second nonce, system.stage first = some (.creating nonce) →
    system.stage second ≠ some (.created nonce)
  written : ∀ file, system.state.files .startupNonce = some file →
    ∃ nonce, system.stage file.writer = some (.created nonce) ∧
      file.content = machine.encode nonce.rendered
  checked : ∀ id nonce, system.stage id = some (.removing nonce) →
    ∃ writer, system.stage writer = some (.created nonce)
  spent : ∀ id nonce, system.stage id = some (.removed nonce) →
    ∃ writer, system.stage writer = some (.created nonce)
  gone : ∀ id nonce file, system.stage id = some (.removed nonce) →
    system.state.files .startupNonce = some file → system.stage file.writer ≠ some (.created nonce)
  unique : ∀ first second nonce, system.stage first = some (.removed nonce) →
    system.stage second = some (.removed nonce) → first = second
  own : ∀ id nonce file, system.stage id = some (.removing nonce) → system.state.killed id = false →
    system.state.files .startupNonce = some file → system.stage file.writer = some (.created nonce)

theorem Token.eq_of_value {first second : Token} (same : first.value = second.value) :
    first = second := by
  cases first; cases second; cases same; rfl

/-- A nonce file that passes the check holds the nonce that was asked for. -/
theorem eq_of_checkStartupNonce {nonce expected : Token}
    (valid : checkStartupNonce machine (machine.encode nonce.rendered) expected = .ok ()) :
    nonce = expected := by
  have kept : nonce.rendered.dropLast = nonce.value := List.dropLast_concat
  unfold checkStartupNonce at valid
  rw [decode_rendered] at valid
  simp only [kept, require] at valid
  split at valid
  · rename_i same
    exact Token.eq_of_value (eq_of_beq (Bool.and_eq_true_iff.mp same).2)
  · cases valid

attribute [grind =] Distinct Unreplaced Root.write Root.unlink Root.kill Root.exits

variable {state : Root Bytes} {task : Kind × Coro.Pause (Root Bytes) Op Unit Fault Kind Unit}

theorem stage_append (id : Nat) :
    Nonces.stage ⟨state, before.tasks ++ [task]⟩ id =
      if id = before.tasks.length then some (stageOf task) else before.stage id := by
  unfold Nonces.stage
  grind

theorem stage_set {id : Nat} {old : Kind × Coro.Pause (Root Bytes) Op Unit Fault Kind Unit}
    (at_ : before.tasks[id]? = some old) (other : Nat) :
    Nonces.stage ⟨state, before.tasks.set id task⟩ other =
      if other = id then some (stageOf task) else before.stage other := by
  unfold Nonces.stage
  grind

theorem stage_of_task {id : Nat} (at_ : before.tasks[id]? = some task) :
    before.stage id = some (stageOf task) := by
  unfold Nonces.stage
  rw [at_]
  rfl

/-- A connector that has put its nonce in place never puts it there again. -/
theorem Move.created (move : Move machine before label after) {id : Nat} {nonce : Token}
    (created : before.stage id = some (.created nonce)) :
    after.stage id = some (.created nonce) := by
  have fresh : before.stage before.tasks.length = none := by simp [Nonces.stage]
  cases move with
  | connects | starts => grind [stage_append]
  | kills => exact created
  | creates at_ | validates at_ | removes _ at_ | ends at_ =>
    have here := stage_of_task at_
    grind [stage_set, stageOf.eq_def]

/-- A call that ends leaves the file alone. -/
theorem Kept.ends (kept : Kept machine before) {id : Nat} {kind : Kind} {op : Op}
    {next : Next Bytes} {result : Except Fault Unit}
    (at_ : before.tasks[id]? = some (kind, .waits op next)) (done : result = .ok () → op = .sync)
    (stays : ∀ {other : Nat} {nonce : Token}, before.stage other = some (.created nonce) →
      Nonces.stage ⟨before.state.exits id, before.tasks.set id (kind, .ended result)⟩ other =
        some (.created nonce)) :
    Kept machine ⟨before.state.exits id, before.tasks.set id (kind, .ended result)⟩ := by
  have here := stage_of_task at_
  cases kind with
  | connector nonce =>
    have place : before.stage id = some (.creating nonce) ∨
        before.stage id = some (.created nonce) := by
      rw [here]
      cases op <;> simp [stageOf]
    clear here
    constructor <;> grind [stageOf, stage_set]
  | daemon identity =>
    cases result with
    | ok value =>
      obtain rfl := done rfl
      constructor <;> grind [stageOf, stage_set]
    | error fault => constructor <;> grind [stageOf, stage_set]
  | reader => constructor <;> grind [stageOf, stage_set]

theorem Kept.step (kept : Kept machine before) (distinct : Distinct before label)
    (unreplaced : Unreplaced before label) (move : Move machine before label after) :
    Kept machine after := by
  have fresh : before.stage before.tasks.length = none := by simp [Nonces.stage]
  have stays := @move.created
  cases move
  case connects | starts => constructor <;> grind [stageOf, stage_append]
  case kills =>
    obtain ⟨one, fresh, written, checked, spent, gone, unique, own⟩ := kept
    refine ⟨one, fresh, written, checked, spent, gone, unique,
      fun id nonce file removing alive => ?_⟩
    exact own id nonce file removing (by grind)
  case creates nonce _ _ at_ _ =>
    have here : before.stage _ = some (.creating nonce) := stage_of_task at_
    constructor <;> grind [stageOf, stage_set]
  case validates identity file _ _ at_ found valid _ =>
    have here : before.stage _ = some (.checking identity.nonce) := stage_of_task at_
    obtain ⟨nonce, created, content⟩ := kept.written file found
    have same : nonce = identity.nonce := by
      rw [content] at valid
      exact eq_of_checkStartupNonce valid
    constructor <;> grind [stageOf, stage_set]
  case removes identity file _ _ alive at_ found _ =>
    have here : before.stage _ = some (.removing identity.nonce) := stage_of_task at_
    have own := kept.own _ _ _ here alive found
    constructor <;> grind [stageOf, stage_set]
  case ends at_ done _ => exact kept.ends at_ done stays

theorem follows_step (follows : ∀ (id : Nat) (kind : Kind) (op : Op) (next : Next Bytes),
      before.tasks[id]? = some (kind, .waits op next) → Follows machine id next kind op)
    (move : Move machine before label after) (id : Nat) (kind : Kind) (op : Op) (next : Next Bytes)
    (waits : after.tasks[id]? = some (kind, .waits op next)) : Follows machine id next kind op := by
  cases move <;> grind

/-! ### Runs -/

/-- A nonce that is put in place too early is removed by a daemon that never read it. -/
theorem unreplaced_of_exact (kept : Kept machine before) (move : Move machine before label after)
    (exact_ : after.Exact) : Unreplaced before label := by
  cases label with
  | spawn | environment => trivial
  | resume id answer =>
    cases answer with
    | error => trivial
    | ok value =>
      intro nonce creating other checked removing
      refine (Bool.not_eq_false _).mp fun alive => ?_
      cases move with
      | @creates _ fresh _ _ at_ =>
        have here : before.stage id = some (.creating fresh) := stage_of_task at_
        have own := exact_.own other checked ⟨true, machine.uid, privateFileMode, _, id⟩
          (by grind [stage_set]) alive rfl
        obtain ⟨writer, created⟩ := kept.checked other checked removing
        have unused := kept.fresh id writer fresh here
        grind [stage_set, stageOf]
      | validates at_ | removes _ at_ | ends at_ =>
        have here := stage_of_task at_
        grind [stageOf.eq_def]

theorem Kept.exact_ (kept : Kept machine system) : system.Exact where
  once first second nonce one other := by
    obtain ⟨identity, here, rfl⟩ := one
    obtain ⟨twin, there, same⟩ := other
    refine kept.unique first second identity.nonce (stage_of_task here) ?_
    rw [← same]
    exact stage_of_task there
  own := kept.own

/-- **A nonce is consumed once, and with its own file.** In every run with distinct nonces in which
no nonce is put in place between another daemon's check and its removal, each nonce is consumed at
most once, and every daemon that is about to unlink the nonce file will unlink the one it has
checked. The first step that breaks this is exactly one that puts a nonce in place too early. -/
theorem nonces_consumed_once (machine : Machine Bytes) (system : Nonces Bytes)
    (reached : Reaches (nonceRoot machine).step
      (fun state label => Distinct state label ∧ Unreplaced state label) ⟨Root.initial, []⟩
      system) :
    system.Exact ∧ ∀ label (after : Nonces Bytes),
      (nonceRoot machine).step system label = some after → Distinct system label →
      (after.Exact ↔ Unreplaced system label) := by
  let Invariant : Nonces Bytes → Prop := fun state => Kept machine state ∧
    ∀ (id : Nat) (kind : Kind) (op : Op) (next : Next Bytes),
      state.tasks[id]? = some (kind, .waits op next) → Follows machine id next kind op
  have initial : Invariant ⟨Root.initial, []⟩ := by
    refine ⟨?_, by simp⟩
    constructor <;> simp [Nonces.stage, Root.initial]
  have advance : ∀ before label after, Invariant before → Distinct before label →
      Unreplaced before label → (nonceRoot machine).step before label = some after →
      Invariant after := by
    rintro before label after ⟨kept, follows⟩ distinct unreplaced taken
    have move := nonces_move follows taken
    exact ⟨kept.step distinct unreplaced move, follows_step follows move⟩
  have invariant : Invariant system := reached.invariant initial
    fun before label after holds allowed taken =>
      advance before label after holds allowed.1 allowed.2 taken
  refine ⟨invariant.1.exact_, fun label after taken distinct =>
    ⟨fun exact_ => ?_, fun unreplaced => ?_⟩⟩
  · exact unreplaced_of_exact invariant.1 (nonces_move invariant.2 taken) exact_
  · exact (advance system label after invariant distinct unreplaced taken).1.exact_

/-- A check of `Distinct`, and of `Unreplaced` where `calm` asks for it. -/
def orderly (calm : Bool) (system : Nonces Bytes) : NonceLabel → Bool
  | .spawn (.connector nonce) => system.tasks.all fun task => match stageOf task with
    | .creating other => other.value != nonce.value
    | .created other => other.value != nonce.value
    | _ => true
  | .resume id _ => match system.stage id with
    | some (.creating _) => !calm || system.tasks.all fun task => match stageOf task with
      | .removing _ => false
      | _ => true
    | _ => true
  | _ => true

theorem of_orderly {calm : Bool} (checked : orderly calm system label = true) :
    Distinct system label ∧ (calm = true → Unreplaced system label) := by
  have member : ∀ id stage, system.stage id = some stage →
      ∃ task ∈ system.tasks, stageOf task = stage := by
    intro id stage found
    obtain ⟨task, at_, same⟩ := Option.map_eq_some_iff.mp found
    exact ⟨task, List.mem_of_getElem? at_, same⟩
  cases label with
  | environment => exact ⟨trivial, fun _ => trivial⟩
  | spawn kind =>
    cases kind with
    | daemon | reader => exact ⟨trivial, fun _ => trivial⟩
    | connector nonce =>
      refine ⟨fun id => ⟨fun found => ?_, fun found => ?_⟩, fun _ => trivial⟩ <;>
      · obtain ⟨task, inside, same⟩ := member _ _ found
        have differs := List.all_eq_true.mp checked task inside
        simp [same] at differs
  | resume id answer =>
    cases answer with
    | error => exact ⟨trivial, fun _ => trivial⟩
    | ok value =>
      refine ⟨trivial, ?_⟩
      rintro rfl nonce creating other nonce' removing
      obtain ⟨task, inside, same⟩ := member _ _ removing
      simp only [orderly, creating] at checked
      have quiet := List.all_eq_true.mp checked task inside
      simp [same] at quiet

/-- The call `id` has consumed this nonce. -/
def consumes (id : Nat) (nonce : Token) (system : Nonces Bytes) : Bool :=
  match system.tasks[id]? with
  | some (.daemon identity, .ended (.ok ())) => identity.nonce.value == nonce.value
  | _ => false

/-- The connector `id` has created this nonce. -/
def creates (id : Nat) (nonce : Token) (system : Nonces Bytes) : Bool :=
  match system.stage id with
  | some (.created created) => created.value == nonce.value
  | _ => false

theorem consumed_of_consumes {id : Nat} {nonce : Token} (found : consumes id nonce system = true) :
    system.consumed id nonce := by
  unfold consumes at found
  split at found
  · rename_i identity at_
    exact ⟨identity, at_, Token.eq_of_value (eq_of_beq found)⟩
  · cases found

/-- Two daemons, each of which consumes its nonce before the next one is put in place. -/
theorem nonces_consumed_once_each : ∃ system : Nonces (Object ⊕ List Char),
    system.consumed 1 older.nonce ∧ system.consumed 3 newer.nonce ∧ system.Exact ∧
    ∀ label (after : Nonces (Object ⊕ List Char)),
      (nonceRoot plain).step system label = some after → Distinct system label →
      (after.Exact ↔ Unreplaced system label) := by
  obtain ⟨system, run, first, second⟩ := Reaches.of_run (nonceRoot plain).step
    (fun system label => orderly true system label = true) ⟨Root.initial, []⟩
    (authorizes 0 older ++ .spawn (.daemon older) :: resumes 1 3 ++ authorizes 2 newer ++
      .spawn (.daemon newer) :: resumes 3 3)
    (fun system => consumes 1 older.nonce system = true ∧ consumes 3 newer.nonce system = true)
    (by decide +kernel)
  exact ⟨system, consumed_of_consumes first, consumed_of_consumes second,
    nonces_consumed_once plain system (run.mono fun _ _ allowed =>
      ⟨(of_orderly allowed).1, (of_orderly allowed).2 rfl⟩)⟩

/-- **One nonce consumed twice.** Two daemons check the same nonce; the first one removes it, a
connector puts its own in place, and the second daemon removes that one and returns. -/
theorem nonce_consumed_twice : ∃ system : Nonces (Object ⊕ List Char),
    Reaches (nonceRoot plain).step Distinct ⟨Root.initial, []⟩ system ∧
      system.consumed 1 older.nonce ∧ system.consumed 2 older.nonce ∧
      system.stage 3 = some (.created newer.nonce) ∧ system.state.files .startupNonce = none := by
  obtain ⟨system, run, first, second, third, gone⟩ := Reaches.of_run (nonceRoot plain).step
    (fun system label => orderly false system label = true) ⟨Root.initial, []⟩
    (authorizes 0 older ++ .spawn (.daemon older) :: .spawn (.daemon older) :: resumes 1 1 ++
      resumes 2 1 ++ resumes 1 2 ++ authorizes 3 newer ++ resumes 2 2)
    (fun system : Nonces _ =>
      consumes 1 older.nonce system = true ∧ consumes 2 older.nonce system = true ∧
      creates 3 newer.nonce system = true ∧ system.state.files .startupNonce = none)
    (by decide +kernel)
  refine ⟨system, run.mono fun _ _ allowed => (of_orderly allowed).1, consumed_of_consumes first,
    consumed_of_consumes second, ?_, gone⟩
  unfold creates at third
  split at third
  · rename_i nonce stage
    rw [stage, Token.eq_of_value (eq_of_beq third)]
  · cases third

end SerenaLight.Daemon.RuntimeFiles

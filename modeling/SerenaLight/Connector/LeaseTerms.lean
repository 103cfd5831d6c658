/-
**The terms on which a connector's tasks account for its leases.**

A lease is acquired in one method and released in three others, under suppressed exceptions and
cancellations. The record of a run tells which leases were granted and how often each was released.

- `ledger`: the record. `audited` is the connector that keeps it.
- `Accounts`: every lease is installed, in the hands of the holder of the lifecycle lock, or released
  once. The holder owns the ledger: `Inside` is what it knows, `Outside` what any other task knows.
- `terms`: what the tasks keep to. Among the tasks below `count` none that raises has changed what is
  installed.
-/

import SerenaLight.Connector.Steps
import SerenaLight.Foundation.Observed

namespace SerenaLight.Connector.Leases

open Foundation Coro Discipline

variable {Path : Type}

/-! ### The ledger -/

/-- What a run has seen of the leases. -/
structure Ledger where
  /-- the sessions whose `acquire_lease` has returned a lease -/
  granted : List Nat
  /-- the sessions whose `release_lease` has ended, once for each attempt -/
  released : List Nat
  /-- the tasks that changed what is installed, or held the lifecycle lock while it was changed -/
  changed : Nat → Bool

def Ledger.empty : Ledger := ⟨[], [], fun _ => false⟩

/-- What is installed: the endpoint, the session with its lease, and their generation. -/
def installation (connector : Attributes Path) : Option Nat × Option Nat × Nat :=
  (connector.endpoint, connector.session, connector.generation)

def ledger : Observer (Scene Path) (Op Path) Answer Fault Ledger where
  writes := fun id before after ledger =>
    if installation after.connector = installation before.connector then ledger
    else
      { ledger with
        changed := fun task => ledger.changed task || task == id ||
          before.connector.lifecycleLock.holder == some task }
  answers := fun _ _ op answer ledger =>
    match op, answer with
    | .acquireLease session, .ok _ => { ledger with granted := session :: ledger.granted }
    | .releaseLease session, _ => { ledger with released := session :: ledger.released }
    | _, _ => ledger
  ends := fun _ _ ledger => ledger

/-- The connector with its ledger. -/
abbrev Books (Path : Type) := Scene Path × Ledger

abbrev audited : Model (Books Path) (Op Path) Answer Fault (Kind Path) (Option Reply) Empty :=
  connector.observe ledger

abbrev AuditTerms (Path : Type) :=
  Discipline (Books Path) (Op Path) Answer Fault (Kind Path) (Option Reply)

namespace Books

def holder (books : Books Path) : Option Nat := books.1.connector.lifecycleLock.holder

def session (books : Books Path) : Option Nat := books.1.connector.session

end Books

/-! ### Terms -/

/-- The leases and their releases belong to sessions that were opened. -/
structure Numbered (books : Books Path) : Prop where
  granted : ∀ session ∈ books.2.granted, session < books.1.nextSession
  released : ∀ session ∈ books.2.released, session ∈ books.2.granted

/-- **Every lease is accounted for**: it is installed, or it is in hand, or it was released once. -/
structure Accounts (hand : Option Nat) (books : Books Path) : Prop where
  installed : ∀ session, Books.session books = some session →
    session ∈ books.2.granted ∧ books.2.released.count session = 0
  held : ∀ session, hand = some session →
    session ∈ books.2.granted ∧ books.2.released.count session = 0 ∧
      Books.session books ≠ some session
  others : ∀ session ∈ books.2.granted, Books.session books ≠ some session →
    hand ≠ some session → books.2.released.count session = 1

/-- What the holder of the lifecycle lock owns. -/
structure Owned (before after : Books Path) : Prop where
  holder : Books.holder after = Books.holder before
  session : Books.session after = Books.session before
  granted : after.2.granted = before.2.granted
  released : after.2.released = before.2.released

/-- What a suspended task relies on. -/
structure Relies (id : Nat) (before after : Books Path) : Prop where
  held : Books.holder before = some id → Owned before after
  handed : Books.holder before ≠ some id → Books.holder after = some id → Accounts none after
  numbers : before.1.nextSession ≤ after.1.nextSession
  changed : after.2.changed id = before.2.changed id

/-- A task that is given the lock finds everything accounted for. -/
def Ready (id : Nat) (books : Books Path) : Prop :=
  Books.holder books = some id → Accounts none books

def terms (count : Nat) : AuditTerms Path where
  starts := fun _ _ => True
  permits := fun _ _ _ _ _ => True
  inv := fun books => Numbered books ∧ (Books.holder books = none → Accounts none books)
  rely := Relies
  holdsAt := fun kind id op books =>
    (op = .birth ∨ op = .sleep → Ready id books ∧ (kind.isHeartbeat = true → count ≤ id)) ∧
    ∀ session, op = .releaseLease session → Books.holder books = some id
  post := fun _ id result books =>
    ∀ fault, result = .error fault → id < count → books.2.changed id = false
  fresh := fun id books => Ready id books ∧ count ≤ id

section Stable

variable {id : Nat} {hand : Option Nat} {before middle after : Books Path}

theorem Owned.refl (books : Books Path) : Owned books books := ⟨rfl, rfl, rfl, rfl⟩

theorem Accounts.owned (accounts : Accounts hand before) (owned : Owned before after) :
    Accounts hand after := by
  refine ⟨?_, ?_, ?_⟩
  · rw [owned.session, owned.granted, owned.released]
    exact accounts.installed
  · rw [owned.session, owned.granted, owned.released]
    exact accounts.held
  · rw [owned.session, owned.granted, owned.released]
    exact accounts.others

theorem Ready.relies (ready : Ready id before) (relied : Relies id before after) :
    Ready id after := by
  intro holds
  by_cases held : Books.holder before = some id
  · exact (ready held).owned (relied.held held)
  · exact relied.handed held holds

theorem Relies.refl (books : Books Path) : Relies id books books where
  held _ := .refl books
  handed free holds := absurd holds free
  numbers := Nat.le_refl _
  changed := rfl

theorem Relies.trans (first : Relies id before middle) (second : Relies id middle after) :
    Relies id before after where
  held holds := by
    have one := first.held holds
    have two := second.held (one.holder.trans holds)
    exact ⟨two.holder.trans one.holder, two.session.trans one.session,
      two.granted.trans one.granted, two.released.trans one.released⟩
  handed free holds := by
    have ready : Ready id middle := fun held => first.handed free held
    exact ready.relies second holds
  numbers := Nat.le_trans first.numbers second.numbers
  changed := second.changed.trans first.changed

variable {count : Nat}

theorem guarantees_refl : Guarantees (terms count) id before before :=
  fun _ _ => .refl before

theorem guarantees_trans (first : Guarantees (terms count) id before middle)
    (second : Guarantees (terms count) id middle after) :
    Guarantees (terms count) id before after :=
  fun other different => (first other different).trans (second other different)

end Stable

/-! ### What a task knows -/

section Knows

variable {count id : Nat} {start now after : Books Path}

/-- A task that does not hold the lifecycle lock. -/
structure Outside (count id : Nat) (start now : Books Path) : Prop where
  numbered : Numbered now
  free : Books.holder now = none → Accounts none now
  ready : Ready id now
  guarantees : Guarantees (terms count) id start now

/-- What the holder of the lock keeps in mind: the session that is installed, the lease that it has in
its hands, and whether it has changed what is installed. -/
structure Mind where
  current : Option Nat
  hand : Option Nat
  changed : Bool

/-- A task that holds the lifecycle lock. -/
structure Inside (count id : Nat) (mind : Mind) (start now : Books Path) : Prop where
  numbered : Numbered now
  holds : Books.holder now = some id
  session : Books.session now = mind.current
  accounts : Accounts mind.hand now
  changed : now.2.changed id = mind.changed
  guarantees : Guarantees (terms count) id start now

/-- A change that neither the ledger nor the lock shows. -/
structure Neutral (before after : Scene Path) : Prop where
  installation : installation after.connector = installation before.connector
  holder : after.connector.lifecycleLock.holder = before.connector.lifecycleLock.holder
  numbers : before.nextSession ≤ after.nextSession

theorem Neutral.refl (scene : Scene Path) : Neutral scene scene := ⟨rfl, rfl, Nat.le_refl _⟩

/-- The same for a connector with its ledger. -/
structure Same (before after : Books Path) : Prop where
  scene : Neutral before.1 after.1
  ledger : after.2 = before.2

theorem Same.owned (same : Same now after) : Owned now after where
  holder := same.scene.holder
  session := congrArg (·.2.1) same.scene.installation
  granted := by rw [same.ledger]
  released := by rw [same.ledger]

theorem Same.guarantees (same : Same now after) : Guarantees (terms count) id now after := by
  intro other _
  refine ⟨fun _ => same.owned, fun free holds => ?_, same.scene.numbers, by rw [same.ledger]⟩
  exact absurd (same.owned.holder.symm.trans holds) free

theorem Same.numbered (same : Same now after) (numbered : Numbered now) : Numbered after := by
  refine ⟨?_, ?_⟩
  · rw [same.ledger]
    exact fun session member => Nat.lt_of_lt_of_le (numbered.granted session member)
      same.scene.numbers
  · rw [same.ledger]
    exact numbered.released

theorem Outside.same (outside : Outside count id start now) (same : Same now after) :
    Outside count id start after where
  numbered := same.numbered outside.numbered
  free holder := (outside.free (same.owned.holder.symm.trans holder)).owned same.owned
  ready holder := (outside.ready (same.owned.holder.symm.trans holder)).owned same.owned
  guarantees := guarantees_trans outside.guarantees same.guarantees

variable {mind : Mind} {op : Op Path}

theorem Inside.same (inside : Inside count id mind start now)
    (same : Same now after) : Inside count id mind start after where
  numbered := same.numbered inside.numbered
  holds := same.owned.holder.trans inside.holds
  session := same.owned.session.trans inside.session
  accounts := inside.accounts.owned same.owned
  changed := by
    rw [same.ledger]
    exact inside.changed
  guarantees := guarantees_trans inside.guarantees same.guarantees

/-- A neutral write leaves the ledger alone. -/
theorem same_noted {update : Scene Path → Scene Path} (neutral : Neutral now.1 (update now.1)) :
    Same now (noted ledger id update now) :=
  ⟨neutral, if_pos neutral.installation⟩

/-- The others have gone on. -/
theorem Outside.later {later : Books Path} (outside : Outside count id start now)
    (relied : (terms count).rely id now later) (inv : (terms count).inv later) :
    Outside count id later later :=
  ⟨inv.1, inv.2, outside.ready.relies relied, guarantees_refl⟩

theorem Inside.later {later : Books Path} (inside : Inside count id mind start now)
    (relied : (terms count).rely id now later) (inv : (terms count).inv later) :
    Inside count id mind later later :=
  have owned := relied.held inside.holds
  ⟨inv.1, owned.holder.trans inside.holds, owned.session.trans inside.session,
    inside.accounts.owned owned, relied.changed.trans inside.changed, guarantees_refl⟩

variable {kind : Kind Path}

theorem Outside.suspends (outside : Outside count id start now)
    (awake : op ≠ .birth ∧ op ≠ .sleep ∧ ∀ session, op ≠ .releaseLease session) :
    (terms count).inv now ∧ Guarantees (terms count) id start now ∧
      (terms count).holdsAt kind id op now :=
  ⟨⟨outside.numbered, outside.free⟩, outside.guarantees,
    fun rests => absurd rests (by simp [awake.1, awake.2.1]),
    fun session eq => absurd eq (awake.2.2 session)⟩

theorem Inside.suspends (inside : Inside count id mind start now)
    (awake : op ≠ .birth ∧ op ≠ .sleep) :
    (terms count).inv now ∧ Guarantees (terms count) id start now ∧
      (terms count).holdsAt kind id op now := by
  refine ⟨⟨inside.numbered, fun free => ?_⟩, inside.guarantees,
    fun rests => absurd rests (by simp [awake]), fun _ _ => inside.holds⟩
  cases free.symm.trans inside.holds

/-! ### Answers -/

/-- The operations that the ledger does not record. -/
def isPlain : Op Path → Bool
  | .acquireLease _ | .releaseLease _ => false
  | _ => true

theorem ledger_plain (plain : isPlain op = true) (answer : Except Fault Answer) (scene : Scene Path)
    (books : Ledger) : ledger.answers id scene op answer books = books := by
  cases op <;> first | rfl | cases plain

variable {kind : Kind Path} {op : Op Path} {answer : Except Fault Answer}
  {later resumed : Books Path}

theorem neutral_of_answers (ended : audited.answers kind id later op answer = some resumed) :
    Neutral later.1 resumed.1 := by
  have answered := answered_of_answers (Model.answers_of_observe ended).1
  exact ⟨by rw [answered.connector], by rw [answered.connector], answered.numbers⟩

theorem same_of_answers (plain : isPlain op = true)
    (ended : audited.answers kind id later op answer = some resumed) : Same later resumed :=
  ⟨neutral_of_answers ended,
    (Model.answers_of_observe ended).2.trans (ledger_plain plain answer later.1 later.2)⟩

theorem Outside.answered (outside : Outside count id start now) (plain : isPlain op = true)
    (relied : (terms count).rely id now later) (inv : (terms count).inv later)
    (ended : audited.answers kind id later op answer = some resumed) :
    Outside count id later resumed :=
  (outside.later relied inv).same (same_of_answers plain ended)

theorem Inside.answered (inside : Inside count id mind start now)
    (plain : isPlain op = true) (relied : (terms count).rely id now later)
    (inv : (terms count).inv later)
    (ended : audited.answers kind id later op answer = some resumed) :
    Inside count id mind later resumed :=
  (inside.later relied inv).same (same_of_answers plain ended)

end Knows

end SerenaLight.Connector.Leases

/-
**Leases under the lifecycle lock**: sessions are opened, installed and given up.

- `safe_openSession`: a lease that was granted is in hand, or was released when opening failed.
- `Inside.install`, `Inside.vacate`: what was installed before is in hand after it.
- `safe_discardSession`: the lease in hand is released once, whatever the attempt ends with.
- `keeps_start`, `safe_recover`, `keeps_shutDown`: so each section leaves nothing in hand, and a
  recovery that raises has changed nothing.
-/

import SerenaLight.Connector.LeaseTerms

namespace SerenaLight.Connector.Leases

open Foundation Coro Discipline

variable {Path : Type} {kind : Kind Path} {count id : Nat} {start now after : Books Path}

/-! ### The lock -/

section Lock

/-- A change of the lifecycle lock. -/
def relock (update : Lock → Lock) (books : Books Path) : Books Path :=
  (setLock .lifecycle update books.1, books.2)

theorem noted_setLock (update : Lock → Lock) (books : Books Path) :
    noted ledger id (setLock .lifecycle update) books = relock update books :=
  Prod.ext rfl (if_pos rfl)

theorem Accounts.relock {hand : Option Nat} (accounts : Accounts hand now) (update : Lock → Lock) :
    Accounts hand (relock update now) := { accounts with }

theorem Numbered.relock (numbered : Numbered now) (update : Lock → Lock) :
    Numbered (relock update now) := ⟨numbered.granted, numbered.released⟩

/-- The lock is taken from no one else, and given to no one before all is accounted for. -/
theorem guarantees_relock {update : Lock → Lock}
    (keeps : ∀ other, other ≠ id → Books.holder now = some other →
      Books.holder (relock update now) = some other)
    (hands : ∀ other, other ≠ id → Books.holder now ≠ some other →
      Books.holder (relock update now) = some other → Accounts none now) :
    Guarantees (terms count) id now (relock update now) := by
  intro other different
  refine ⟨fun held => ?_, fun free held => ?_, Nat.le_refl _, rfl⟩
  · exact ⟨(keeps other different held).trans held.symm, rfl, rfl, rfl⟩
  · exact (hands other different free held).relock update

theorem Outside.take (outside : Outside count id start now) (free : Books.holder now = none) :
    Inside count id ⟨Books.session now, none, now.2.changed id⟩ start
      (relock (·.take id) now) where
  numbered := outside.numbered.relock _
  holds := rfl
  session := rfl
  accounts := (outside.free free).relock _
  changed := rfl
  guarantees := by
    refine guarantees_trans outside.guarantees (guarantees_relock ?_ ?_)
    · intro other _ held
      cases free.symm.trans held
    · intro other different _ held
      exact absurd (Option.some.inj held).symm different

/-- The lock is given up, with everything accounted for. -/
theorem outside_of_release (numbered : Numbered now) (holds : Books.holder now = some id)
    (accounts : Accounts none now) (guarantees : Guarantees (terms count) id start now) :
    Outside count id start (relock Lock.release now) where
  numbered := numbered.relock _
  free _ := accounts.relock _
  ready _ := accounts.relock _
  guarantees := by
    refine guarantees_trans guarantees (guarantees_relock ?_ ?_)
    · intro other different held
      exact absurd (Option.mem_unique held holds) different
    · intro other _ _ _
      exact accounts

theorem Outside.enqueue (outside : Outside count id start now) :
    Outside count id start (relock (·.enqueue id) now) :=
  outside.same ⟨⟨rfl, rfl, Nat.le_refl _⟩, rfl⟩

theorem Outside.abandon (outside : Outside count id start now) :
    Outside count id start (relock (·.abandon id) now) := by
  by_cases held : Books.holder now = some id
  · have released : relock (·.abandon id) now = relock Lock.release now := by
      have held : now.1.connector.lifecycleLock.holder = some id := held
      have gives : now.1.connector.lifecycleLock.abandon id =
          now.1.connector.lifecycleLock.release := if_pos held
      unfold relock setLock
      simp only [Attributes.lock, gives]
    rw [released]
    exact outside_of_release outside.numbered held (outside.ready held) outside.guarantees
  · refine outside.same ⟨⟨rfl, ?_, Nat.le_refl _⟩, rfl⟩
    have stays : now.1.connector.lifecycleLock.abandon id =
        { now.1.connector.lifecycleLock with
          waiters := now.1.connector.lifecycleLock.waiters.filter fun other => other ≠ id } :=
      if_neg held
    show (now.1.connector.lifecycleLock.abandon id).holder = _
    rw [stays]

variable {Value : Type}

variable {goal : Books Path → Except Fault Value → Books Path → Prop}

/-- A task reads the state. -/
theorem safe_read {rest : Scene Path → Task Path Value}
    (safe : Safe audited (terms count) kind id goal ((rest now.1).observe ledger id) start now) :
    Safe audited (terms count) kind id goal ((get >>= rest).observe ledger id) start now := by
  have same : noted ledger id (fun scene : Scene Path => scene) now = now :=
    Prod.ext rfl (if_pos rfl)
  show Safe audited (terms count) kind id goal ((rest now.1).observe ledger id) start
    (noted ledger id (fun scene => scene) now)
  rw [same]
  exact safe

/-- A task writes to it. -/
theorem safe_write {update : Scene Path → Scene Path} {rest : Unit → Task Path Value}
    (safe : Safe audited (terms count) kind id goal ((rest ()).observe ledger id) start
      (noted ledger id update now)) :
    Safe audited (terms count) kind id goal ((modify update >>= rest).observe ledger id) start
      now := safe

/-- What `Lock.acquire` reaches: the lock, or nothing at all. -/
def Acquired (count id : Nat) (changed : Bool) (start : Books Path) (result : Except Fault Unit)
    (now : Books Path) : Prop :=
  match result with
  | .ok _ => ∃ current, Inside count id ⟨current, none, changed⟩ start now
  | .error _ => Outside count id start now ∧ now.2.changed id = changed

theorem safe_acquire (outside : Outside count id start now) :
    Safe audited (terms count) kind id (Acquired count id (now.2.changed id))
      ((acquire id .lifecycle).observe ledger id) start now := by
  refine safe_read ?_
  split
  · rename_i free
    have taken := outside.take free
    rw [← noted_setLock] at taken
    exact ⟨_, taken⟩
  · refine safe_write ?_
    rw [noted_setLock, observe_bind, observe_handle, observe_wait]
    have queued := outside.enqueue
    refine Safe.bind (Safe.handle (safe_wait (queued.suspends ⟨nofun, nofun, nofun⟩) ?_))
    intro later resumed answer relied inv _ answered
    have plain : isPlain (.lock .lifecycle : Op Path) = true := rfl
    have same := same_of_answers plain answered
    have unchanged : resumed.2.changed id = now.2.changed id := by
      rw [same.ledger]
      exact relied.changed
    have outside := queued.answered plain relied inv answered
    cases answer with
    | ok value =>
      have holds : Books.holder resumed = some id :=
        holder_of_answers (Model.answers_of_observe answered).1
      exact ⟨_, outside.numbered, holds, rfl, outside.ready holds, unchanged, outside.guarantees⟩
    | error fault =>
      have left := outside.abandon
      rw [← noted_setLock] at left
      refine ⟨left, ?_⟩
      rw [noted_setLock]
      exact unchanged

/-- What a section under the lock reaches: nothing is left in hand. -/
def Leaves {Value : Type} (count id : Nat) (ends : Except Fault Value → Bool → Prop)
    (start : Books Path) (result : Except Fault Value) (now : Books Path) : Prop :=
  ∃ current changed, Inside count id ⟨current, none, changed⟩ start now ∧ ends result changed

/-- **A section under the lifecycle lock.** -/
theorem safe_section {body : Task Path Value}
    (ends : Except Fault Value → Bool → Prop) (outside : Outside count id start now)
    (raises : ∀ fault, ends (.error fault) (now.2.changed id))
    (enters : ∀ current start later,
      Inside count id ⟨current, none, now.2.changed id⟩ start later →
      Safe audited (terms count) kind id (Leaves count id ends) (body.observe ledger id) start
        later) :
    Safe audited (terms count) kind id
      (fun start result now => Outside count id start now ∧ ends result (now.2.changed id))
      ((withLock id .lifecycle body).observe ledger id) start now := by
  refine safe_observe_bind (safe_acquire outside) ?_ ?_
  · rintro start _ later ⟨current, inside⟩
    refine safe_observe_ensuring ((enters current start later inside).mono ?_)
    rintro start result now ⟨current, changed, inside, ended⟩
    rw [noted_setLock]
    refine ⟨outside_of_release inside.numbered inside.holds inside.accounts inside.guarantees, ?_⟩
    have unchanged : (relock Lock.release now).2.changed id = changed := inside.changed
    rw [unchanged]
    exact ended
  · rintro start fault later ⟨outside, unchanged⟩
    rw [unchanged]
    exact ⟨outside, raises fault⟩

end Lock

/-! ### Leases -/

section Ledger

variable {mind : Mind} {current : Option Nat} {changed : Bool} {session : Nat}

/-- What the holder of the lock does to the ledger concerns no one else. -/
theorem Inside.guarantees_of (inside : Inside count id mind start now)
    (holds : Books.holder after = some id) (numbers : now.1.nextSession ≤ after.1.nextSession)
    (others : ∀ other, other ≠ id → after.2.changed other = now.2.changed other) :
    Guarantees (terms count) id start after := by
  refine guarantees_trans inside.guarantees fun other different => ⟨?_, ?_, numbers, ?_⟩
  · intro held
    exact absurd (Option.mem_unique held inside.holds) different
  · intro _ held
    exact absurd (Option.mem_unique held holds) different
  · exact others other different

variable {resumed : Books Path}

/-- **A release of the lease in hand**, whatever it ends with. -/
theorem Inside.released {answer : Except Fault Answer}
    (inside : Inside count id ⟨current, some session, changed⟩ start now)
    (ended : audited.answers kind id now (.releaseLease session) answer = some resumed) :
    Inside count id ⟨current, none, changed⟩ start resumed := by
  have neutral := neutral_of_answers ended
  have noted : resumed.2 = { now.2 with released := session :: now.2.released } :=
    (Model.answers_of_observe ended).2
  have same : Books.session resumed = Books.session now := congrArg (·.2.1) neutral.installation
  have holds : Books.holder resumed = some id := neutral.holder.trans inside.holds
  obtain ⟨granted, unreleased, uninstalled⟩ := inside.accounts.held session rfl
  refine ⟨⟨?_, ?_⟩, holds, same.trans inside.session, ⟨?_, nofun, ?_⟩, ?_,
    inside.guarantees_of holds neutral.numbers fun _ _ => by rw [noted]⟩
  · rw [noted]
    exact fun other member => Nat.lt_of_lt_of_le (inside.numbered.granted other member)
      neutral.numbers
  · rw [noted]
    intro other member
    rcases List.mem_cons.mp member with rfl | member
    · exact granted
    · exact inside.numbered.released other member
  · rw [noted, same]
    intro other installed
    have different : session ≠ other := fun eq => uninstalled (eq ▸ installed)
    obtain ⟨member, none⟩ := inside.accounts.installed other installed
    exact ⟨member, (List.count_cons_of_ne different).trans none⟩
  · rw [noted, same]
    intro other member uninstalled _
    by_cases eq : other = session
    · subst eq
      exact List.count_cons_self.trans (by rw [unreleased])
    · have free : some session ≠ some other := fun held => eq (Option.some.inj held).symm
      exact (List.count_cons_of_ne (Ne.symm eq)).trans
        (inside.accounts.others other member uninstalled free)
  · rw [noted]
    exact inside.changed

/-- A session that was opened and has no lease yet. -/
structure Opened (count id : Nat) (current : Option Nat) (changed : Bool) (session : Nat)
    (start now : Books Path) : Prop where
  inside : Inside count id ⟨current, none, changed⟩ start now
  unleased : session ∉ now.2.granted
  opened : session < now.1.nextSession

theorem Opened.later {later : Books Path} (opened : Opened count id current changed session start now)
    (relied : (terms count).rely id now later) (inv : (terms count).inv later) :
    Opened count id current changed session later later where
  inside := opened.inside.later relied inv
  unleased := by
    rw [(relied.held opened.inside.holds).granted]
    exact opened.unleased
  opened := Nat.lt_of_lt_of_le opened.opened relied.numbers

/-- **The lease of a session** is granted. -/
theorem Opened.granted {answer : Answer}
    (opened : Opened count id current changed session start now)
    (ended : audited.answers kind id now (.acquireLease session) (.ok answer) = some resumed) :
    Inside count id ⟨current, some session, changed⟩ start resumed := by
  obtain ⟨inside, unleased, below⟩ := opened
  have neutral := neutral_of_answers ended
  have noted : resumed.2 = { now.2 with granted := session :: now.2.granted } :=
    (Model.answers_of_observe ended).2
  have same : Books.session resumed = Books.session now := congrArg (·.2.1) neutral.installation
  have holds : Books.holder resumed = some id := neutral.holder.trans inside.holds
  have unreleased : now.2.released.count session = 0 :=
    List.count_eq_zero.mpr fun member => unleased (inside.numbered.released session member)
  refine ⟨⟨?_, ?_⟩, holds, same.trans inside.session, ⟨?_, ?_, ?_⟩, ?_,
    inside.guarantees_of holds neutral.numbers fun _ _ => by rw [noted]⟩
  · rw [noted]
    intro other member
    rcases List.mem_cons.mp member with rfl | member
    · exact Nat.lt_of_lt_of_le below neutral.numbers
    · exact Nat.lt_of_lt_of_le (inside.numbered.granted other member) neutral.numbers
  · rw [noted]
    exact fun other member => List.mem_cons_of_mem _ (inside.numbered.released other member)
  · rw [noted, same]
    intro other installed
    obtain ⟨member, none⟩ := inside.accounts.installed other installed
    exact ⟨List.mem_cons_of_mem _ member, none⟩
  · rw [noted, same]
    rintro _ ⟨⟩
    refine ⟨List.mem_cons_self, unreleased, fun installed => ?_⟩
    exact unleased (inside.accounts.installed session installed).1
  · rw [noted, same]
    intro other member uninstalled free
    rcases List.mem_cons.mp member with rfl | member
    · exact absurd rfl free
    · exact inside.accounts.others other member uninstalled nofun
  · rw [noted]
    exact inside.changed

/-- What the ledger shows of a write by the holder of the lock. -/
theorem Inside.noted_changed (inside : Inside count id mind start now)
    (update : Scene Path → Scene Path) (other : Nat) (different : other ≠ id) :
    (noted ledger id update now).2.changed other = now.2.changed other := by
  have holder : now.1.connector.lifecycleLock.holder = some id := inside.holds
  show (ite _ _ _ : Ledger).changed other = _
  split
  · rfl
  · have one : (other == id) = false := by simpa using different
    have two : (id == other) = false := by simpa using Ne.symm different
    simp [holder, one, two]

theorem noted_granted (update : Scene Path → Scene Path) (books : Books Path) :
    (noted ledger id update books).2.granted = books.2.granted := by
  show (ite _ _ _ : Ledger).granted = _
  split <;> rfl

theorem noted_released (update : Scene Path → Scene Path) (books : Books Path) :
    (noted ledger id update books).2.released = books.2.released := by
  show (ite _ _ _ : Ledger).released = _
  split <;> rfl

/-- **A session is installed**, and the one before it is in hand. -/
theorem Inside.install {opened : Nat × Nat}
    (inside : Inside count id ⟨current, some opened.2, changed⟩ start now) :
    Inside count id
      ⟨some opened.2, current, (noted ledger id (installSession opened) now).2.changed id⟩ start
      (noted ledger id (installSession opened) now) := by
  obtain ⟨granted, unreleased, uninstalled⟩ := inside.accounts.held opened.2 rfl
  have session : Books.session now = current := inside.session
  have holds : Books.holder (noted ledger id (installSession opened) now) = some id := inside.holds
  refine ⟨⟨?_, ?_⟩, holds, rfl, ⟨?_, ?_, ?_⟩, rfl,
    inside.guarantees_of holds (Nat.le_refl _) (inside.noted_changed _)⟩
  · rw [noted_granted]
    exact inside.numbered.granted
  · rw [noted_granted, noted_released]
    exact inside.numbered.released
  · rw [noted_granted, noted_released]
    rintro _ ⟨⟩
    exact ⟨granted, unreleased⟩
  · rw [noted_granted, noted_released]
    intro old held
    have installed : Books.session now = some old := session.trans held
    obtain ⟨member, none⟩ := inside.accounts.installed old installed
    exact ⟨member, none, fun eq => uninstalled (installed.trans eq.symm)⟩
  · rw [noted_granted, noted_released]
    intro other member replaced free
    refine inside.accounts.others other member (fun eq => free (session.symm.trans eq)) ?_
    exact fun eq => replaced eq

/-- `aclose` takes the session out. -/
def vacated (scene : Scene Path) : Scene Path :=
  { scene with
    connector := { scene.connector with closed := true, session := none, endpoint := none } }

/-- **The session is taken out**, and is in hand. -/
theorem Inside.vacate (inside : Inside count id ⟨current, none, changed⟩ start now) :
    Inside count id ⟨none, current, (noted ledger id vacated now).2.changed id⟩ start
      (noted ledger id vacated now) := by
  have session : Books.session now = current := inside.session
  have holds : Books.holder (noted ledger id vacated now) = some id := inside.holds
  refine ⟨⟨?_, ?_⟩, holds, rfl, ⟨nofun, ?_, ?_⟩, rfl,
    inside.guarantees_of holds (Nat.le_refl _) (inside.noted_changed _)⟩
  · rw [noted_granted]
    exact inside.numbered.granted
  · rw [noted_granted, noted_released]
    exact inside.numbered.released
  · rw [noted_granted, noted_released]
    intro old held
    obtain ⟨member, none⟩ := inside.accounts.installed old (session.trans held)
    exact ⟨member, none, nofun⟩
  · rw [noted_granted, noted_released]
    intro other member _ free
    exact inside.accounts.others other member (fun eq => free (session.symm.trans eq)) nofun

end Ledger

/-! ### Sessions -/

section Sessions

variable {current : Option Nat} {changed : Bool} {session : Nat}

/-- A suppressed operation ends without an exception. -/
theorem safe_suppress {op : Op Path} (assertion : Books Path → Books Path → Prop)
    (suspends : (terms count).inv now ∧ Guarantees (terms count) id start now ∧
      (terms count).holdsAt kind id op now)
    (resumes : ∀ later resumed answer, (terms count).rely id now later → (terms count).inv later →
      audited.answers kind id later op answer = some resumed → assertion later resumed) :
    Safe audited (terms count) kind id
      (fun start result now => (∃ value, result = .ok value) ∧ assertion start now)
      ((suppress (wait op)).observe ledger id) start now := by
  refine safe_observe_handle (safe_observe_wait suspends fun later resumed answer relied inv _ ended =>
    resumes later resumed answer relied inv ended) ?_ ?_
  · intro start value now holds
    exact ⟨⟨value, rfl⟩, holds⟩
  · intro start fault now holds
    exact ⟨⟨.unit, rfl⟩, holds⟩

/-- **A session is discarded**: the lease in hand is released, and nothing is raised. -/
theorem safe_discardSession (inside : Inside count id ⟨current, some session, changed⟩ start now) :
    Safe audited (terms count) kind id
      (fun start result now =>
        (∃ value, result = .ok value) ∧ Inside count id ⟨current, none, changed⟩ start now)
      ((discardSession session).observe ledger id) start now := by
  refine safe_observe_bind (safe_suppress (Inside count id ⟨current, none, changed⟩)
    (inside.suspends ⟨nofun, nofun⟩) ?_) ?_ ?_
  · intro later resumed answer relied inv ended
    exact (inside.later relied inv).released ended
  · rintro start _ now ⟨_, inside⟩
    refine safe_observe_bind (safe_suppress (Inside count id ⟨current, none, changed⟩)
      (inside.suspends ⟨nofun, nofun⟩) ?_) ?_ ?_
    · intro later resumed answer relied inv ended
      exact inside.answered rfl relied inv ended
    · rintro start _ now ⟨_, inside⟩
      exact ⟨⟨(), rfl⟩, inside⟩
    · rintro start fault now ⟨⟨value, eq⟩, _⟩
      cases eq
  · rintro start fault now ⟨⟨value, eq⟩, _⟩
    cases eq

/-- What is reached with a value, and what without. -/
def Reached {Value : Type} (returns : Value → Books Path → Books Path → Prop)
    (raises : Books Path → Books Path → Prop) (start : Books Path) (result : Except Fault Value)
    (now : Books Path) : Prop :=
  match result with
  | .ok value => returns value start now
  | .error _ => raises start now

/-- A new session has a number that no lease has. -/
theorem opened_of_answers {endpoint : Nat} {resumed : Books Path}
    (inside : Inside count id ⟨current, none, changed⟩ start now)
    (ended : audited.answers kind id now (.connect endpoint) (.ok (.session session)) =
      some resumed) :
    Opened count id current changed session start resumed := by
  have same := same_of_answers rfl ended
  have connected := succeed_of_answers (Model.answers_of_observe ended).1 (fun _ => nofun)
  simp only [Scene.succeed] at connected
  split at connected
  case isFalse => cases connected
  case isTrue eq =>
  subst eq
  refine ⟨inside.same same, ?_, ?_⟩
  · rw [same.ledger]
    exact fun member => Nat.lt_irrefl _ (inside.numbered.granted _ member)
  · rw [← Option.some.inj connected]
    exact Nat.lt_succ_self _

/-- An operation that the ledger does not record. -/
theorem safe_plain {mind : Mind} {op : Op Path} (inside : Inside count id mind start now)
    (plain : isPlain op = true) (awake : op ≠ .birth ∧ op ≠ .sleep) :
    Safe audited (terms count) kind id (fun start _ now => Inside count id mind start now)
      ((wait op).observe ledger id) start now :=
  safe_observe_wait (inside.suspends awake) fun _ _ _ relied inv _ ended =>
    inside.answered plain relied inv ended

theorem safe_connectSession (inside : Inside count id ⟨current, none, changed⟩ start now) :
    Safe audited (terms count) kind id
      (Reached (fun opened => Opened count id current changed opened.2)
        (Inside count id ⟨current, none, changed⟩))
      (connectSession.observe ledger id) start now := by
  refine safe_observe_bind (safe_plain inside rfl ⟨nofun, nofun⟩) ?_ fun _ _ _ inside => inside
  intro start found now inside
  split
  case h_2 => exact inside
  case h_1 endpoint =>
  rw [observe_bind, observe_wait]
  refine Safe.bind (safe_wait (inside.suspends ⟨nofun, nofun⟩) ?_)
  intro later resumed answer relied inv _ ended
  have inside := inside.later relied inv
  have still := inside.same (same_of_answers rfl ended)
  cases answer with
  | error fault => exact still
  | ok value =>
    cases value with
    | session session => exact opened_of_answers inside ended
    | unit | endpoint _ | lease _ | result _ => exact still

theorem safe_leaseSession (opened : Opened count id current changed session start now) :
    Safe audited (terms count) kind id
      (Reached (fun _ => Inside count id ⟨current, some session, changed⟩)
        (Inside count id ⟨current, none, changed⟩))
      ((leaseSession session).observe ledger id) start now := by
  rw [leaseSession, observe_handle, observe_wait]
  refine Safe.handle (safe_wait (opened.inside.suspends ⟨nofun, nofun⟩) ?_)
  intro later resumed answer relied inv _ ended
  cases answer with
  | ok value => exact (opened.later relied inv).granted ended
  | error fault =>
    -- no lease was returned, so there is none in hand
    have same : Same later resumed :=
      ⟨neutral_of_answers ended, (Model.answers_of_observe ended).2⟩
    have inside := (opened.inside.later relied inv).same same
    refine safe_observe_bind (safe_suppress (Inside count id ⟨current, none, changed⟩)
      (inside.suspends ⟨nofun, nofun⟩) ?_) ?_ ?_
    · intro later resumed answer relied inv ended
      exact inside.answered rfl relied inv ended
    · exact fun start value now reached => reached.2
    · exact fun start fault now reached => reached.2

variable {binding : Option (Binding Path)}

theorem safe_bindSession {lease : Answer}
    (inside : Inside count id ⟨current, some session, changed⟩ start now) :
    Safe audited (terms count) kind id
      (Reached (fun _ => Inside count id ⟨current, some session, changed⟩)
        (Inside count id ⟨current, none, changed⟩))
      ((bindSession session lease binding).observe ledger id) start now := by
  refine safe_observe_handle (?_ : Safe audited (terms count) kind id (fun start _ now =>
    Inside count id ⟨current, some session, changed⟩ start now) _ _ _) (fun _ _ _ inside => inside) ?_
  · split
    · exact inside
    · cases binding with
      | none => exact inside
      | some binding =>
        exact safe_observe_bind (safe_plain inside rfl ⟨by simp, by simp⟩)
          (fun _ _ _ inside => inside) fun _ _ _ inside => inside
  · intro start fault now inside
    refine safe_observe_bind (safe_discardSession inside) ?_ ?_
    · exact fun start value now reached => reached.2
    · exact fun start fault now reached => reached.2

/-- **A session is opened**: its lease is in hand, or nothing is. -/
theorem safe_openSession (inside : Inside count id ⟨current, none, changed⟩ start now) :
    Safe audited (terms count) kind id
      (Reached (fun opened => Inside count id ⟨current, some opened.2, changed⟩)
        (Inside count id ⟨current, none, changed⟩))
      ((openSession binding).observe ledger id) start now := by
  refine safe_observe_bind (safe_connectSession inside) ?_ fun _ _ _ inside => inside
  intro start opened now fresh
  refine safe_observe_bind (safe_leaseSession fresh) ?_ fun _ _ _ inside => inside
  intro start lease now leased
  refine safe_observe_bind (safe_bindSession leased) ?_ fun _ _ _ inside => inside
  exact fun start value now bound => bound

/-- The first session, with its heartbeat task. -/
theorem safe_openFirst (inside : Inside count id ⟨none, none, changed⟩ start now) :
    Safe audited (terms count) kind id (Leaves count id fun _ _ => True)
      (openFirst.observe ledger id) start now := by
  refine safe_observe_bind (safe_openSession inside) ?_ ?_
  · intro start opened now leased
    refine safe_write ?_
    have installed : Inside count id ⟨some opened.2, none, _⟩ start _ := leased.install
    refine ⟨rfl, fun new other fresh => ?_⟩
    let record : Scene Path → Scene Path := fun scene =>
      { scene with
        connector := { scene.connector with heartbeatTask := some new }
        beats := new :: scene.beats }
    have same (books : Books Path) : Same books (noted ledger id record books) :=
      same_noted ⟨rfl, rfl, Nat.le_refl _⟩
    have recorded := installed.same (same _)
    refine ⟨⟨⟨fun _ => ⟨fun held => ?_, fun _ => fresh.2⟩, nofun⟩, ?_⟩, ?_⟩
    · exact absurd (Option.mem_unique held recorded.holds) other
    · exact fun task different _ => recorded.guarantees task different
    · exact ⟨_, _, ⟨recorded.numbered, recorded.holds, recorded.session, recorded.accounts,
        recorded.changed, guarantees_refl⟩, trivial⟩
  · intro start fault now inside
    exact ⟨_, _, inside, trivial⟩

/-- The session of a recovery, in place of the one that was lost. -/
theorem safe_replaceSession (inside : Inside count id ⟨current, none, changed⟩ start now) :
    Safe audited (terms count) kind id
      (Leaves count id fun result ended => ∀ fault, result = .error fault → ended = changed)
      ((replaceSession binding).observe ledger id) start now := by
  refine safe_observe_bind (safe_openSession inside) ?_ ?_
  · intro start opened now leased
    refine safe_read (safe_write ?_)
    have session : now.1.connector.session = current := leased.session
    have installed := leased.install
    rw [session]
    cases current with
    | none => exact ⟨_, _, installed, nofun⟩
    | some old =>
      refine (safe_discardSession installed).mono ?_
      rintro start result now ⟨⟨value, rfl⟩, inside⟩
      exact ⟨_, _, inside, nofun⟩
  · intro start fault now inside
    exact ⟨_, _, inside, fun _ _ => rfl⟩

/-- **A recovery**: one that raises has not changed what is installed. -/
theorem safe_recover {generation : Nat} (outside : Outside count id start now) :
    Safe audited (terms count) kind id
      (fun start result later => Outside count id start later ∧
        ∀ fault, result = .error fault → later.2.changed id = now.2.changed id)
      ((recover id generation).observe ledger id) start now := by
  refine safe_section
    (fun result changed => ∀ fault, result = .error fault → changed = now.2.changed id) outside
    (fun _ _ _ => rfl) ?_
  intro current start later inside
  refine safe_read ?_
  split
  · exact ⟨_, _, inside, fun _ _ => rfl⟩
  · split
    · exact ⟨_, _, inside, nofun⟩
    · exact safe_replaceSession inside

theorem keeps_recover (generation : Nat) :
    Keeps audited (terms count) kind id (Outside count id)
      ((recover id generation : Task Path Unit).observe ledger id) :=
  fun _ _ outside => (safe_recover outside).mono fun _ _ _ reached => reached.1

theorem keeps_start :
    Keeps audited (terms count) kind id (Outside count id)
      ((Connector.start id : Task Path Unit).observe ledger id) := by
  intro start now outside
  refine (safe_section (fun _ _ => True) outside (fun _ => trivial) ?_).mono
    fun _ _ _ reached => reached.1
  intro current start later inside
  refine safe_read ?_
  split
  · exact ⟨_, _, inside, trivial⟩
  · split
    · exact ⟨_, _, inside, trivial⟩
    · rename_i vacant
      have none : current = none := by
        have session : later.1.connector.session = current := inside.session
        rw [session] at vacant
        simpa using vacant
      subst none
      exact safe_openFirst inside

/-- **The rest of `aclose`.** -/
theorem keeps_shutDown :
    Keeps audited (terms count) kind id (Outside count id)
      ((withLock id .lifecycle shutDown : Task Path Unit).observe ledger id) := by
  intro start now outside
  refine (safe_section (fun _ _ => True) outside (fun _ => trivial) ?_).mono
    fun _ _ _ reached => reached.1
  intro current start later inside
  refine safe_read ?_
  split
  · exact ⟨_, _, inside, trivial⟩
  · refine safe_write ?_
    have session : later.1.connector.session = current := inside.session
    have left := inside.vacate
    rw [session]
    cases current with
    | none => exact ⟨_, _, left, trivial⟩
    | some old =>
      refine (safe_discardSession left).mono ?_
      rintro start result now ⟨-, inside⟩
      exact ⟨_, _, inside, trivial⟩

end Sessions

end SerenaLight.Connector.Leases

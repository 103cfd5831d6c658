/-
**What a request returns, and when the reader goes on.**

* `Sound`: what every interleaving keeps. A slot holds a response that carries the id of its request
  or the terminal error, and a terminal client has no pending request.
* `Stuck`: the reader delivers to a request that takes nothing any more and whose slot is full.
  A stuck client stays stuck (`Stuck.step`), and `stuck_of_step` says which steps make it so.
* `Attended`: the condition on a step under which it does not.
* `delivered`: in a fair path on which the client is never stuck, the reader finishes every delivery.
* `reader_goes_on_iff`: **the reader always goes on exactly if every step is attended.**
* `callers_answered`: every request ends in any case.
-/

import SerenaLight.Lsp.Client

set_option linter.unusedSectionVars false

namespace SerenaLight.Lsp.SyncClient

open Foundation

variable {platform : Platform} {client before after : Client} {label : Label} {id : Nat}

/-! ### Replies and outcomes -/

variable (platform) in
/-- A reply that belongs to the request. -/
def Owned (client : Client) (id : Nat) : Reply → Prop
  | .response payload => payload ∈ client.received ∧ responseId platform payload = .ok (id : Int)
  | .fault error => client.terminal = some error

variable (platform) in
/-- **How a request may end**: with the content of a response that carries its id, with its timeout,
with an error of a terminal client, or with a complaint about its own arguments. -/
def Answers (client : Client) (id : Nat) (outcome : Outcome) : Prop :=
  (∃ payload ∈ client.received, responseId platform payload = .ok (id : Int) ∧
    outcome = settle platform (.response payload)) ∨
  outcome = .timedOut ∨
  (∃ error, outcome = .failed error ∧ client.terminal.isSome = true) ∨
  outcome = .badTimeout ∨ outcome = .badParams

variable (platform) in
/-- What the place of a request says about its reply. -/
def Fits (client : Client) (id : Nat) : Requester → Prop
  | .taken reply => Owned platform client id reply
  | .leaving outcome => Answers platform client id outcome
  | .done outcome => Answers platform client id outcome
  | _ => True

variable (platform) in
/-- What the place of the reader says about its message. -/
def ReaderFits (client : Client) : Reader → Prop
  | .looking id payload => payload ∈ client.received ∧ responseId platform payload = .ok id
  | .delivering id payload =>
    (client.requests id).isSome = true ∧ payload ∈ client.received ∧
      responseId platform payload = .ok (id : Int)
  | _ => True

variable (platform) in
/-- **What every interleaving keeps.** -/
structure Sound (client : Client) : Prop where
  settled : client.terminal.isSome = true → client.pending = []
  known : ∀ id ∈ client.pending, (client.requests id).isSome = true
  numbered : ∀ id, (client.requests id).isSome = true → id < client.nextId
  slots : ∀ id reply, client.slots id = some reply → Owned platform client id reply
  requests : ∀ id requester, client.requests id = some requester → Fits platform client id requester
  reader : ReaderFits platform client client.reader

/-- The later client has read no less, is still terminal, and knows the same requests. -/
structure Extends (before after : Client) : Prop where
  received : ∀ payload ∈ before.received, payload ∈ after.received
  terminal : ∀ error, before.terminal = some error → after.terminal = some error
  requests : ∀ id, (before.requests id).isSome = true → (after.requests id).isSome = true

section

variable (extends_ : Extends before after)

include extends_

theorem Owned.mono {reply : Reply}
    (owned : Owned platform before id reply) : Owned platform after id reply := by
  cases reply with
  | response payload => exact ⟨extends_.received _ owned.1, owned.2⟩
  | fault error => exact extends_.terminal _ owned

theorem Answers.mono {outcome : Outcome}
    (answers : Answers platform before id outcome) : Answers platform after id outcome := by
  obtain ⟨payload, member, carries, eq⟩ | timed | ⟨error, eq, terminal⟩ | bad := answers
  · exact .inl ⟨payload, extends_.received _ member, carries, eq⟩
  · exact .inr (.inl timed)
  · obtain ⟨first, found⟩ := Option.isSome_iff_exists.mp terminal
    exact .inr (.inr (.inl ⟨error, eq, by rw [extends_.terminal _ found]; rfl⟩))
  · exact .inr (.inr (.inr bad))

theorem Fits.mono {requester : Requester}
    (fits : Fits platform before id requester) : Fits platform after id requester := by
  cases requester with
  | taken reply => exact Owned.mono extends_ fits
  | leaving outcome | done outcome => exact Answers.mono extends_ fits
  | sending | failing | waiting => trivial

theorem ReaderFits.mono {reader : Reader}
    (fits : ReaderFits platform before reader) : ReaderFits platform after reader := by
  cases reader with
  | looking id payload => exact ⟨extends_.received _ fits.1, fits.2⟩
  | delivering id payload =>
    exact ⟨extends_.requests _ fits.1, extends_.received _ fits.2.1, fits.2.2⟩
  | looping | reading | handling | ending | stopped => trivial

end

/-- What a request makes of its reply is one of its outcomes. -/
theorem Answers.of_owned {reply : Reply} (owned : Owned platform client id reply) :
    Answers platform client id (settle platform reply) := by
  cases reply with
  | response payload => exact .inl ⟨payload, owned.1, owned.2, rfl⟩
  | fault error =>
    have terminal : client.terminal = some error := owned
    exact .inr (.inr (.inl ⟨error, rfl, by rw [terminal]; rfl⟩))

/-! ### The pieces of a step keep it -/

theorem isSome_update {requests : Nat → Option Requester} {id other : Nat} {requester : Requester}
    (known : (requests other).isSome = true) :
    (Function.update requests id (some requester) other).isSome = true := by
  by_cases same : other = id
  · rw [same, Function.update_self]
    rfl
  · rwa [Function.update_of_ne same]

namespace Sound

section

variable (sound : Sound platform client)

include sound

theorem moveRequest {id : Nat} {requester : Requester}
    (known : (client.requests id).isSome = true) (fits : Fits platform client id requester) :
    Sound platform (client.moveRequest id requester) := by
  have extends_ : Extends client (client.moveRequest id requester) :=
    ⟨fun _ member => member, fun _ eq => eq, fun _ known => isSome_update known⟩
  refine ⟨sound.settled, fun other member => isSome_update (sound.known other member), ?_, ?_, ?_,
    sound.reader.mono extends_⟩
  · intro other found
    by_cases same : other = id
    · exact same ▸ sound.numbered id known
    · rw [Client.moveRequest_other same] at found
      exact sound.numbered other found
  · exact fun other reply found => (sound.slots other reply found).mono extends_
  · intro other moved found
    by_cases same : other = id
    · subst same
      rw [Client.moveRequest_self] at found
      cases found
      exact fits.mono extends_
    · rw [Client.moveRequest_other same] at found
      exact (sound.requests other moved found).mono extends_

theorem moveReader {reader : Reader}
    (fits : ReaderFits platform client reader) : Sound platform (client.moveReader reader) :=
  ⟨sound.settled, sound.known, sound.numbered, sound.slots, sound.requests, fits⟩

theorem failAll (error : Fault) :
    Sound platform (client.failAll error) := by
  have extends_ : Extends client (client.failAll error) := by
    refine ⟨fun _ member => member, fun first eq => ?_, fun _ known => known⟩
    rw [Client.failAll, eq]
    rfl
  exact ⟨fun _ => rfl, nofun, sound.numbered,
    fun id reply found => (sound.slots id reply found).mono extends_,
    fun id requester found => (sound.requests id requester found).mono extends_,
    sound.reader.mono extends_⟩

/-- A slot is emptied, or filled with a reply of its request. -/
theorem setSlot (id : Nat) {value : Option Reply}
    (owned : ∀ reply, value = some reply → Owned platform client id reply) :
    Sound platform (client.setSlot id value) := by
  refine ⟨sound.settled, sound.known, sound.numbered, fun other reply found => ?_, sound.requests,
    sound.reader⟩
  by_cases same : other = id
  · subst same
    rw [Client.setSlot_self] at found
    exact owned reply found
  · rw [Client.setSlot_other same] at found
    exact sound.slots other reply found

theorem emptySlot (id : Nat) :
    Sound platform (client.setSlot id none) :=
  sound.setSlot id fun _ (filled : none = some _) => nomatch filled

theorem receive (payload : Object) :
    Sound platform ({ client with received := client.received ++ [payload] }.moveReader
      (dispatch platform payload)) := by
  have extends_ : Extends client { client with received := client.received ++ [payload] } :=
    ⟨fun _ member => List.mem_append_left _ member, fun _ eq => eq, fun _ known => known⟩
  refine ⟨sound.settled, sound.known, sound.numbered,
    fun id reply found => (sound.slots id reply found).mono extends_,
    fun id requester found => (sound.requests id requester found).mono extends_, ?_⟩
  have member : payload ∈ client.received ++ [payload] :=
    List.mem_append_right _ (List.mem_singleton_self payload)
  show ReaderFits platform _ (dispatch platform payload)
  unfold dispatch
  split
  · split <;> trivial
  · trivial
  · split
    · rename_i id carries
      exact ⟨member, carries⟩
    · trivial

theorem register (waitSeconds : Rat)
    (running : client.terminal = none) : Sound platform (client.register waitSeconds) := by
  have extends_ : Extends client (client.register waitSeconds) :=
    ⟨fun _ member => member, fun _ eq => eq, fun _ known => isSome_update known⟩
  refine ⟨fun terminal => ?_, fun id member => ?_, fun id found => ?_, fun id reply found => ?_,
    fun id requester found => ?_, sound.reader.mono extends_⟩
  · rw [show (client.register waitSeconds).terminal = none from running] at terminal
    cases terminal
  · obtain member | member := List.mem_append.mp member
    · exact isSome_update (sound.known id member)
    · rw [List.mem_singleton.mp member, Client.register_self]
      rfl
  · by_cases same : id = client.nextId
    · exact same ▸ Nat.lt_succ_self _
    · rw [Client.register_other same] at found
      exact Nat.lt_succ_of_lt (sound.numbered id found)
  · by_cases same : id = client.nextId
    · rw [same, Client.register_slot_self] at found
      cases found
    · rw [Client.register_slot_other same] at found
      exact (sound.slots id reply found).mono extends_
  · by_cases same : id = client.nextId
    · rw [same, Client.register_self] at found
      cases found
      trivial
    · rw [Client.register_other same] at found
      exact (sound.requests id requester found).mono extends_

end

/-- **One step keeps it.** -/
theorem step (sound : Sound platform before) (move : Move platform before label after) :
    Sound platform after := by
  have known : ∀ {id : Nat} {requester : Requester}, before.requests id = some requester →
      (before.requests id).isSome = true := fun found => by rw [found]; rfl
  have popped : ∀ id, Sound platform (before.popPending id) := fun id =>
    ⟨fun terminal => by
      show before.pending.erase id = []
      rw [sound.settled terminal, List.erase_nil],
      fun other member => sound.known other (List.mem_of_mem_erase member), sound.numbered,
      sound.slots, sound.requests, sound.reader⟩
  cases move with
  | refused => exact sound
  | registered _ waitSeconds running => exact sound.register waitSeconds running
  | sent found | writeFailed found => exact sound.moveRequest (known found) trivial
  | badTimeout found => exact sound.moveRequest (known found) (.inr (.inr (.inr (.inl rfl))))
  | badParams found => exact sound.moveRequest (known found) (.inr (.inr (.inr (.inr rfl))))
  | failedRequest found =>
    exact (sound.failAll .writeFailed).moveRequest (known found)
      (.inr (.inr (.inl ⟨.writeFailed, rfl, rfl⟩)))
  | took found full =>
    exact (sound.emptySlot _).moveRequest (known found) (sound.slots _ _ full)
  | timedOut found => exact sound.moveRequest (known found) (.inr (.inl rfl))
  | popped found =>
    exact (popped _).moveRequest (known found) (.of_owned (sound.requests _ _ found))
  | left found => exact (popped _).moveRequest (known found) (sound.requests _ _ found)
  | notifyFailed => exact sound.failAll .writeFailed
  | closed =>
    exact { sound with }
  | closeFailed => exact sound.failAll .clientClosed
  | looped _ onward =>
    obtain rfl | rfl := onward
    · exact sound.moveReader trivial
    · exact sound.moveReader trivial
  | received payload => exact sound.receive payload
  | readFailed | handled | handlerRaised | missed => exact sound.moveReader trivial
  | handlerWriteFailed => exact (sound.failAll .writeFailed).moveReader trivial
  | @lookedUp id payload found at_ hit =>
    have carries : ReaderFits platform before (.looking id payload) := at_ ▸ sound.reader
    have same : (found : Int) = id := by simpa using List.find?_some hit
    exact sound.moveReader ⟨sound.known found (List.mem_of_find?_eq_some hit), carries.1,
      same ▸ carries.2⟩
  | @put id payload at_ empty =>
    have carries : ReaderFits platform before (.delivering id payload) := at_ ▸ sound.reader
    refine (sound.setSlot id fun reply eq => ?_).moveReader trivial
    cases eq
    exact carries.2
  | finished => exact (sound.failAll _).moveReader trivial
  | @woke id rest error head terminal =>
    have owned : ∀ reply, some ((before.slots id).getD (.fault error)) = some reply →
        Owned platform before id reply := by
      rintro reply eq
      cases eq
      cases full : before.slots id with
      | none => exact terminal
      | some reply => exact sound.slots id reply full
    have filled := sound.setSlot id owned
    exact { filled with }

end Sound

theorem sound_initial : Sound platform {} :=
  ⟨fun _ => rfl, nofun, nofun, nofun, nofun, trivial⟩

theorem sound_path (path : FairPath (step platform) owner) (begun : path.states 0 = {})
    (time : Nat) : Sound platform (path.states time) :=
  path.invariant (begun ▸ sound_initial)
    (fun _ _ _ sound taken => sound.step (move_of_step taken)) time

/-! ### A stuck reader -/

/-- The request has left `get` or will not enter it: it takes nothing any more. -/
def past : Option Requester → Bool
  | none => false
  | some (.sending _) => false
  | some .waiting => false
  | some _ => true

/-- The reader delivers to a request that takes nothing any more and whose slot is full. -/
def Stuck (client : Client) : Prop :=
  ∃ id payload, client.reader = .delivering id payload ∧ (client.slots id).isSome = true ∧
    past (client.requests id) = true

/-- **The condition on a step.** The request that the reader looks up, or delivers to when it is
woken, has an empty slot or still takes what is in it; and no request gives up before `get` while the
reader delivers to its full slot. -/
def Attended (client : Client) : Label → Prop
  | .lookup => ∀ id payload found, client.reader = .looking id payload →
      client.find id = some found →
      client.slots found = none ∨ past (client.requests found) = false
  | .wake => ∀ id rest payload, client.fanout = id :: rest →
      client.reader = .delivering id payload → past (client.requests id) = false
  | .send id => ∀ payload waitSeconds, client.reader = .delivering id payload →
      client.requests id = some (.sending waitSeconds) → waitSeconds ≤ 0 → client.slots id = none
  | .sendRejected id => ∀ payload, client.reader = .delivering id payload → client.slots id = none
  | .writeFails id => ∀ payload, client.reader = .delivering id payload → client.slots id = none
  | _ => True

variable {id : Nat} {requester : Requester}

theorem past_known {client : Client} (gone : past (client.requests id) = true) :
    (client.requests id).isSome = true := by
  cases found : client.requests id with
  | none =>
    rw [found] at gone
    cases gone
  | some requester => rfl

/-- A request that takes nothing any more never does again. -/
theorem past_step (sound : Sound platform before) (move : Move platform before label after)
    (gone : past (before.requests id) = true) : past (after.requests id) = true := by
  have moved : ∀ {start : Client} {other : Nat} {requester : Requester},
      start.requests = before.requests →
      (past (before.requests other) = true → past (some requester) = true) →
      past ((start.moveRequest other requester).requests id) = true := by
    intro start other requester same onward
    by_cases hit : id = other
    · subst hit
      rw [Client.moveRequest_self]
      exact onward gone
    · rw [Client.moveRequest_other hit, same]
      exact gone
  cases move with
  | registered _ waitSeconds _ =>
    have less := sound.numbered id (past_known gone)
    rw [Client.register_other (Nat.ne_of_lt less)]
    exact gone
  | sent found => exact moved rfl fun going => by rw [found] at going; cases going
  | badTimeout | badParams | writeFailed | timedOut | failedRequest | took | popped | left =>
    exact moved rfl fun _ => rfl
  | refused | notifyFailed | closed | closeFailed | looped | received | readFailed | handled
    | handlerRaised | handlerWriteFailed | lookedUp | missed | put | finished | woke => exact gone

/-- While the reader delivers, only its `put` into an empty slot moves it. -/
theorem delivering_step (move : Move platform before label after) {payload : Object}
    (delivering : before.reader = .delivering id payload) :
    (owner label ≠ some .reader ∧ after.reader = .delivering id payload) ∨
      (before.slots id = none ∧ after.reader = .looping) := by
  cases move with
  | put at_ empty =>
    rw [delivering] at at_
    cases at_
    exact .inr ⟨empty, rfl⟩
  | looped at_ | received _ at_ | readFailed _ at_ | handled at_ | handlerRaised at_
    | handlerWriteFailed at_ | lookedUp at_ | missed at_ | finished at_ =>
      rw [delivering] at at_
      cases at_
  | refused | registered | sent | badTimeout | badParams | writeFailed | failedRequest | took
    | timedOut | popped | left | notifyFailed | closed | closeFailed | woke =>
      exact .inl ⟨nofun, delivering⟩

/-- A full slot is emptied by its own request only. -/
theorem full_step (sound : Sound platform before) (move : Move platform before label after)
    (known : (before.requests id).isSome = true) (full : (before.slots id).isSome = true)
    (other : label ≠ .take id) :
    (after.slots id).isSome = true := by
  have filled : ∀ {start : Client} {target : Nat} {reply : Reply}, start.slots = before.slots →
      ((start.setSlot target (some reply)).slots id).isSome = true := by
    intro start target reply same
    by_cases hit : id = target
    · rw [hit, Client.setSlot_self]
      rfl
    · rw [Client.setSlot_other hit, same]
      exact full
  cases move with
  | registered _ waitSeconds _ =>
    have less := sound.numbered id known
    rw [Client.register_slot_other (Nat.ne_of_lt less)]
    exact full
  | @took target reply found _ =>
    have different : id ≠ target := fun same => other (same ▸ rfl)
    rw [show ((before.setSlot target none).moveRequest target _).slots id =
      (before.setSlot target none).slots id from rfl, Client.setSlot_other different]
    exact full
  | put | woke => exact filled rfl
  | refused | sent | badTimeout | badParams | writeFailed | failedRequest | timedOut | popped | left
    | notifyFailed | closed | closeFailed | looped | received | readFailed | handled | handlerRaised
    | handlerWriteFailed | lookedUp | missed | finished => exact full

/-- **A stuck client stays stuck.** -/
theorem Stuck.step (stuck : Stuck before) (sound : Sound platform before)
    (move : Move platform before label after) : Stuck after := by
  obtain ⟨id, payload, delivering, full, gone⟩ := stuck
  have still : after.reader = .delivering id payload := by
    obtain ⟨_, same⟩ | ⟨empty, _⟩ := delivering_step move delivering
    · exact same
    · rw [empty] at full
      cases full
  have noTake : label ≠ .take id := by
    rintro rfl
    cases move with
    | took found _ =>
      rw [found] at gone
      cases gone
  exact ⟨id, payload, still, full_step sound move (past_known gone) full noTake,
    past_step sound move gone⟩

/-- A step after which the reader is not stuck was attended. -/
theorem attended_of_not_stuck (move : Move platform before label after) (free : ¬Stuck after) :
    Attended before label := by
  -- a request that gives up while the reader delivers to its full slot is past
  have givesUp : ∀ {id : Nat} {payload : Object} {requester : Requester},
      after = before.moveRequest id requester → past (some requester) = true →
      before.reader = .delivering id payload → before.slots id = none := by
    rintro id payload requester rfl gone delivering
    by_contra full
    refine free ⟨id, payload, delivering, Option.isSome_iff_ne_none.mpr full, ?_⟩
    rw [Client.moveRequest_self]
    exact gone
  cases move with
  | lookedUp at_ hit =>
    intro id payload found looking seen
    rw [at_] at looking
    cases looking
    obtain rfl := Option.mem_unique hit seen
    by_contra bad
    obtain ⟨full, gone⟩ := not_or.mp bad
    exact free ⟨_, _, rfl, Option.isSome_iff_ne_none.mpr full, Bool.eq_true_of_not_eq_false gone⟩
  | missed at_ miss =>
    intro id payload found looking seen
    rw [at_] at looking
    cases looking
    rw [miss] at seen
    cases seen
  | woke head terminal =>
    intro id rest payload first delivering
    rw [head] at first
    cases first
    by_contra gone
    refine free ⟨_, payload, delivering, ?_, Bool.eq_true_of_not_eq_false gone⟩
    show (Function.update before.slots _ _ _).isSome = true
    rw [Function.update_self]
    rfl
  | sent found long =>
    intro payload waitSeconds _ sending short
    rw [found] at sending
    cases sending
    exact absurd short long
  | badTimeout => exact fun payload _ delivering _ _ => givesUp rfl rfl delivering
  | badParams | writeFailed => exact fun payload delivering => givesUp rfl rfl delivering
  | refused | registered | failedRequest | took | timedOut | popped | left | notifyFailed | closed
    | closeFailed | looped | received | readFailed | handled | handlerRaised | handlerWriteFailed
    | put | finished => trivial

/-- **An attended step does not get the reader stuck.** -/
theorem not_stuck_step (move : Move platform before label after)
    (attended : Attended before label) (free : ¬Stuck before) : ¬Stuck after := by
  -- a request that moves on was past before, or gives up before `get`
  have moved : ∀ {start : Client} {target : Nat} {requester : Requester},
      start.reader = before.reader → start.requests = before.requests →
      (∀ id, (start.slots id).isSome = true → (before.slots id).isSome = true) →
      (∀ payload, before.reader = .delivering target payload →
        (start.slots target).isSome = true → past (some requester) = true →
        past (before.requests target) = true) →
      ¬Stuck (start.moveRequest target requester) := by
    rintro start target requester sameReader sameRequests slots onward
      ⟨id, payload, delivering, full, gone⟩
    have before_delivering : before.reader = .delivering id payload := sameReader ▸ delivering
    refine free ⟨id, payload, before_delivering, slots id full, ?_⟩
    by_cases hit : id = target
    · subst hit
      rw [Client.moveRequest_self] at gone
      exact onward payload before_delivering full gone
    · rwa [Client.moveRequest_other hit, sameRequests] at gone
  cases move with
  | refused | notifyFailed | closed | closeFailed => exact free
  | registered _ waitSeconds _ =>
    rintro ⟨id, payload, delivering, full, gone⟩
    by_cases same : id = before.nextId
    · rw [same, Client.register_self] at gone
      cases gone
    · rw [Client.register_other same] at gone
      rw [Client.register_slot_other same] at full
      exact free ⟨id, payload, delivering, full, gone⟩
  | sent => exact moved rfl rfl (fun _ full => full) nofun
  | badTimeout found short =>
    refine moved rfl rfl (fun _ full => full) fun payload delivering full _ => ?_
    rw [attended payload _ delivering found short] at full
    cases full
  | badParams found | writeFailed found =>
    refine moved rfl rfl (fun _ full => full) fun payload delivering full _ => ?_
    rw [attended payload delivering] at full
    cases full
  | failedRequest found =>
    exact moved rfl rfl (fun _ full => full) fun _ _ _ _ => by rw [found]; rfl
  | @took target reply found full =>
    refine moved rfl rfl (fun id still => ?_) fun payload delivering still _ => ?_
    · by_cases hit : id = target
      · rw [hit, full]
        rfl
      · rwa [Client.setSlot_other hit] at still
    · rw [Client.setSlot_self] at still
      cases still
  | timedOut found empty =>
    refine moved rfl rfl (fun _ full => full) fun payload _ full _ => ?_
    rw [empty] at full
    cases full
  | popped found | left found => exact moved rfl rfl (fun _ full => full) fun _ _ _ _ => by rw [found]; rfl
  | looped at_ onward =>
    rintro ⟨id, payload, delivering, _⟩
    obtain rfl | rfl := onward
    · cases delivering
    · cases delivering
  | received payload _ =>
    rintro ⟨id, other, delivering, _⟩
    exact dispatch_not_delivering delivering
  | readFailed | handled | handlerRaised | handlerWriteFailed | missed | put | finished =>
    rintro ⟨id, payload, delivering, _⟩
    cases delivering
  | @lookedUp id payload found at_ hit =>
    rintro ⟨target, other, delivering, full, gone⟩
    cases delivering
    have wasFull : (before.slots found).isSome = true := full
    have wasGone : past (before.requests found) = true := gone
    obtain empty | waits := attended id payload found at_ hit
    · rw [empty] at wasFull
      cases wasFull
    · rw [waits] at wasGone
      cases wasGone
  | @woke target rest error head terminal =>
    rintro ⟨id, payload, delivering, full, gone⟩
    by_cases hit : id = target
    · subst hit
      have still := attended id rest payload head delivering
      rw [show past (before.requests id) = true from gone] at still
      cases still
    · refine free ⟨id, payload, delivering, ?_, gone⟩
      have same : (before.setSlot target (some ((before.slots target).getD (.fault error)))).slots
          id = before.slots id := Client.setSlot_other hit
      rw [← same]
      exact full

/-! ### Every request ends -/

/-- How many steps a request takes at most. -/
def Requester.rank : Requester → Nat
  | .sending _ => 4
  | .waiting => 3
  | .failing => 2
  | .taken _ => 1
  | .leaving _ => 1
  | .done _ => 0

/-- A request moves by its own steps only, and every one of them brings it on. -/
theorem requester_step (sound : Sound platform before) (move : Move platform before label after)
    (found : before.requests id = some requester) :
    (owner label ≠ some (.request id) ∧ after.requests id = some requester) ∨
      (owner label = some (.request id) ∧
        ∃ later, after.requests id = some later ∧ later.rank < requester.rank) := by
  have moved : ∀ {start : Client} {target : Nat} {earlier later : Requester},
      start.requests = before.requests → before.requests target = some earlier →
      later.rank < earlier.rank → owner label = some (.request target) →
      (owner label ≠ some (.request id) ∧
        (start.moveRequest target later).requests id = some requester) ∨
      (owner label = some (.request id) ∧
        ∃ result, (start.moveRequest target later).requests id = some result ∧
          result.rank < requester.rank) := by
    intro start target earlier later same known less owned
    by_cases hit : id = target
    · subst hit
      obtain rfl := Option.mem_unique known found
      exact .inr ⟨owned, later, Client.moveRequest_self, less⟩
    · refine .inl ⟨fun eq => ?_, ?_⟩
      · rw [owned] at eq
        cases eq
        exact hit rfl
      · rw [Client.moveRequest_other hit, same]
        exact found
  cases move with
  | registered _ waitSeconds _ =>
    have less := sound.numbered id (by rw [found]; rfl)
    refine .inl ⟨nofun, ?_⟩
    rw [Client.register_other (Nat.ne_of_lt less)]
    exact found
  | sent known | badTimeout known | badParams known | writeFailed known | failedRequest known
    | took known | timedOut known | popped known | left known =>
      exact moved rfl known (by simp [Requester.rank]) rfl
  | refused | notifyFailed | closed | closeFailed | looped | received | readFailed | handled
    | handlerRaised | handlerWriteFailed | lookedUp | missed | put | finished | woke =>
      exact .inl ⟨nofun, found⟩

/-- A request that has not ended can go on. -/
theorem requester_able (found : client.requests id = some requester) (going : 0 < requester.rank) :
    Able (step platform) owner (.request id) client := by
  cases requester with
  | sending waitSeconds => exact ⟨.send id, rfl, by simp [step, found]⟩
  | failing => exact ⟨.failRequest id, rfl, by simp [step, found]⟩
  | waiting =>
    cases slot : client.slots id with
    | none => exact ⟨.timeout id, rfl, by simp [step, found, slot]⟩
    | some reply => exact ⟨.take id, rfl, by simp [step, found, slot]⟩
  | taken reply | leaving outcome => exact ⟨.pop id, rfl, by simp [step, found]⟩
  | done outcome => cases going

section Paths

variable (path : FairPath (step platform) owner) (begun : path.states 0 = {})

include begun

variable {time id start : Nat} {requester : Requester} {payload : Object}

/-- A moment of the path, seen from one request. -/
theorem requester_moment (found : (path.states time).requests id = some requester) :
    (¬Acts owner (.request id) (path.labels time) ∧
      (path.states (time + 1)).requests id = some requester) ∨
    ∃ later, (path.states (time + 1)).requests id = some later ∧ later.rank < requester.rank := by
  have moves := path.moves time
  cases labelled : path.labels time with
  | none =>
    rw [labelled] at moves
    refine .inl ⟨fun acts => ?_, ?_⟩
    · obtain ⟨label, eq, _⟩ := acts
      cases eq
    · rw [show path.states (time + 1) = path.states time from moves]
      exact found
  | some label =>
    rw [labelled] at moves
    obtain ⟨other, same⟩ | ⟨_, later, moved, less⟩ :=
      requester_step (sound_path path begun time) (move_of_step moves) found
    · refine .inl ⟨fun acts => ?_, same⟩
      obtain ⟨taken, eq, owned⟩ := acts
      cases eq
      exact other owned
    · exact .inr ⟨later, moved, less⟩

/-- A request that has not ended takes a step. -/
theorem requester_goes (found : (path.states start).requests id = some requester)
    (going : 0 < requester.rank) :
    ∃ time, start ≤ time ∧ ∃ later, (path.states (time + 1)).requests id = some later ∧
      later.rank < requester.rank := by
  by_contra never
  have kept : ∀ time, start ≤ time → (path.states time).requests id = some requester →
      ¬Acts owner (.request id) (path.labels time) ∧
        (path.states (time + 1)).requests id = some requester := by
    intro time later still
    obtain same | moved := requester_moment path begun still
    · exact same
    · exact absurd ⟨time, later, moved⟩ never
  obtain ⟨time, later, acts, still⟩ :=
    path.acts (fun client => client.requests id = some requester)
      (fun time _ still => requester_able still going)
      (fun time later still _ => (kept time later still).2) found
  exact (kept time later still).1 acts

/-- **Every request ends.** -/
theorem request_ends (found : (path.states start).requests id = some requester) :
    ∃ time, start ≤ time ∧ ∃ outcome, (path.states time).requests id = some (.done outcome) := by
  induction rank : requester.rank using Nat.strong_induction_on generalizing start requester with
  | _ rank ih =>
    by_cases going : 0 < requester.rank
    · obtain ⟨time, later, next, moved, less⟩ := requester_goes path begun found going
      obtain ⟨final, after, ended⟩ := ih next.rank (rank ▸ less) moved rfl
      exact ⟨final, by omega, ended⟩
    · cases requester with
      | done outcome => exact ⟨start, le_rfl, outcome, found⟩
      | sending | waiting | failing | taken | leaving => exact absurd (by simp [Requester.rank]) going

/-! ### The reader -/

/-- While the reader delivers it stays, or puts the response and loops. -/
theorem reader_moment (delivering : (path.states time).reader = .delivering id payload) :
    (¬Acts owner .reader (path.labels time) ∧
      (path.states (time + 1)).reader = .delivering id payload) ∨
    (path.states (time + 1)).reader = .looping := by
  have moves := path.moves time
  cases labelled : path.labels time with
  | none =>
    rw [labelled] at moves
    refine .inl ⟨fun acts => ?_, ?_⟩
    · obtain ⟨label, eq, _⟩ := acts
      cases eq
    · rw [show path.states (time + 1) = path.states time from moves]
      exact delivering
  | some label =>
    rw [labelled] at moves
    obtain ⟨other, same⟩ | ⟨_, loops⟩ := delivering_step (move_of_step moves) delivering
    · refine .inl ⟨fun acts => ?_, same⟩
      obtain ⟨taken, eq, owned⟩ := acts
      cases eq
      exact other owned
    · exact .inr loops

theorem past_moment (gone : past ((path.states time).requests id) = true) :
    past ((path.states (time + 1)).requests id) = true := by
  have kept : ∀ before label after, Sound platform before ∧ past (before.requests id) = true →
      step platform before label = some after →
      Sound platform after ∧ past (after.requests id) = true :=
    fun before label after holds taken => ⟨holds.1.step (move_of_step taken),
      past_step holds.1 (move_of_step taken) holds.2⟩
  exact (path.kept kept time ⟨sound_path path begun time, gone⟩).2

/-- **A reader that is never stuck finishes every delivery.** -/
theorem delivered (free : ∀ time, ¬Stuck (path.states time))
    (delivering : (path.states start).reader = .delivering id payload) :
    ∃ time, start ≤ time ∧ (path.states time).reader = .looping := by
  by_contra never
  have stays : ∀ time, start ≤ time → (path.states time).reader = .delivering id payload →
      ¬Acts owner .reader (path.labels time) ∧
        (path.states (time + 1)).reader = .delivering id payload := by
    intro time later still
    obtain same | loops := reader_moment path begun still
    · exact same
    · exact absurd ⟨time + 1, Nat.le_succ_of_le later, loops⟩ never
  have always := path.always (fun client => client.reader = .delivering id payload)
    (fun time later still => (stays time later still).2) delivering
  -- the request ends, and takes nothing from then on
  have fits : ReaderFits platform (path.states start) (.delivering id payload) :=
    delivering ▸ (sound_path path begun start).reader
  obtain ⟨requester, known⟩ := Option.isSome_iff_exists.mp fits.1
  obtain ⟨middle, later, outcome, ended⟩ := request_ends path begun known
  have gone : past ((path.states middle).requests id) = true := by rw [ended]; rfl
  have able : ∀ time, middle ≤ time → past ((path.states time).requests id) = true →
      Able (step platform) owner .reader (path.states time) := by
    intro time after gone
    have still := always time (later.trans after)
    have empty : (path.states time).slots id = none := by
      by_contra full
      exact free time ⟨id, payload, still, Option.isSome_iff_ne_none.mpr full, gone⟩
    exact ⟨.put, rfl, by simp [step, still, empty]⟩
  obtain ⟨time, after, acts, _⟩ := path.acts (fun client => past (client.requests id) = true) able
    (fun time _ gone _ => past_moment path begun gone) gone
  exact (stays time (later.trans after) (always time (later.trans after))).1 acts

/-- The reader is never stuck exactly if every step is attended. -/
theorem never_stuck_iff : (∀ time, ¬Stuck (path.states time)) ↔
    ∀ time label, path.labels time = some label → Attended (path.states time) label := by
  constructor
  · intro free time label labelled
    have moves := path.moves time
    rw [labelled] at moves
    exact attended_of_not_stuck (move_of_step moves) (free (time + 1))
  · intro attended time
    refine path.always (fun client => ¬Stuck client) (fun time _ free => ?_) ?_ time (Nat.zero_le _)
    · have moves := path.moves time
      cases labelled : path.labels time with
      | none =>
        rw [labelled] at moves
        rw [show path.states (time + 1) = path.states time from moves]
        exact free
      | some label =>
        rw [labelled] at moves
        exact not_stuck_step (move_of_step moves) (attended time label labelled) free
    · rintro ⟨id, payload, delivering, _⟩
      rw [begun] at delivering
      cases delivering

end Paths

/-- What the client owes its callers on a path. -/
structure Serves (path : FairPath (step platform) owner) : Prop where
  /-- A request ends with the content of a response that carries its id, its timeout, a terminal
  error or a complaint about its arguments. -/
  answers : ∀ time id outcome, (path.states time).requests id = some (.done outcome) →
    Answers platform (path.states time) id outcome
  /-- A terminal client has nothing pending, refuses further requests and lets the others end. -/
  terminal : ∀ time, (path.states time).terminal.isSome = true →
    (path.states time).pending = [] ∧
    (∀ method waitSeconds, ∃ refusal,
      (path.states time).beginRequest method waitSeconds = .error refusal) ∧
    ∀ id, ((path.states time).requests id).isSome = true →
      ∃ later, time ≤ later ∧ ∃ outcome, (path.states later).requests id = some (.done outcome)
  /-- The reader finishes every delivery. -/
  goesOn : ∀ time id payload, (path.states time).reader = .delivering id payload →
    ∃ later, time ≤ later ∧ (path.states later).reader = .looping

/-- **The client serves its callers exactly if every step is attended**, on every fair path. -/
theorem reader_goes_on_iff (platform : Platform) (path : FairPath (step platform) owner)
    (begun : path.states 0 = {}) :
    Serves path ↔
      ∀ time label, path.labels time = some label → Attended (path.states time) label := by
  rw [← never_stuck_iff path begun]
  constructor
  · rintro ⟨-, -, goesOn⟩ time stuck
    -- a stuck reader delivers for good
    have kept : ∀ before label after, Sound platform before ∧ Stuck before →
        step platform before label = some after → Sound platform after ∧ Stuck after :=
      fun before label after holds taken => ⟨holds.1.step (move_of_step taken),
        holds.2.step holds.1 (move_of_step taken)⟩
    have always := path.always (fun client => Sound platform client ∧ Stuck client)
      (fun later _ => path.kept kept later) ⟨sound_path path begun time, stuck⟩
    obtain ⟨id, payload, delivering, _⟩ := stuck
    obtain ⟨later, after, looping⟩ := goesOn time id payload delivering
    obtain ⟨-, other, response, still, _⟩ := always later after
    rw [looping] at still
    cases still
  · intro free
    refine ⟨fun time id outcome ended => (sound_path path begun time).requests id _ ended,
      fun time terminal => ⟨(sound_path path begun time).settled terminal,
        fun method _ => refused_of_terminal terminal method, fun id known => ?_⟩,
      fun time id payload delivering => delivered path begun free delivering⟩
    obtain ⟨requester, found⟩ := Option.isSome_iff_exists.mp known
    exact request_ends path begun found

/-- **No caller waits for good**, not even where the reader does: a request ends, and it has ended for
good, with an answer of its own. -/
theorem callers_answered (platform : Platform) (path : FairPath (step platform) owner)
    (begun : path.states 0 = {}) {start id : Nat}
    (known : ((path.states start).requests id).isSome = true) :
    ∃ ended outcome, start ≤ ended ∧ ∀ time, ended ≤ time →
      (path.states time).requests id = some (.done outcome) ∧
        Answers platform (path.states time) id outcome := by
  obtain ⟨requester, found⟩ := Option.isSome_iff_exists.mp known
  obtain ⟨ended, later, outcome, done⟩ := request_ends path begun found
  refine ⟨ended, outcome, later, fun time after => ?_⟩
  have still := path.always (fun client => client.requests id = some (.done outcome))
    (fun time _ done => (requester_moment path begun done).elim And.right fun moved => by
      obtain ⟨_, _, less⟩ := moved
      cases less) done time after
  exact ⟨still, (sound_path path begun time).requests id _ still⟩

/-! ### Paths that come to rest -/

/-- Nobody goes on: the requests have ended, nobody is to be woken, and the reader has stopped or
stands before a full slot. -/
def quiet (client : Client) (count : Nat) : Bool :=
  client.nextId == count && client.fanout.isEmpty &&
    (List.range count).all (fun id =>
      match client.requests id with
      | none => true
      | some (.done _) => true
      | _ => false) &&
    match client.reader with
    | .stopped => true
    | .delivering id _ => (client.slots id).isSome
    | _ => false

theorem idle_of_quiet {count : Nat} (sound : Sound platform client)
    (rests : quiet client count = true) (thread : Thread) :
    ¬Able (step platform) owner thread client := by
  simp only [quiet, Bool.and_eq_true, beq_iff_eq, List.isEmpty_iff, List.all_eq_true,
    List.mem_range] at rests
  obtain ⟨⟨⟨numbered, woken⟩, ended⟩, reader⟩ := rests
  have finished : ∀ id requester, client.requests id = some requester → requester.rank = 0 := by
    intro id requester found
    have less := sound.numbered id (by rw [found]; rfl)
    have checked := ended id (numbered ▸ less)
    rw [found] at checked
    cases requester with
    | done => rfl
    | sending | failing | waiting | taken | leaving => cases checked
  rintro ⟨label, owned, enabled⟩
  obtain ⟨after, taken⟩ := Option.isSome_iff_exists.mp enabled
  cases move_of_step taken with
  | sent found | badTimeout found | badParams found | writeFailed found | failedRequest found
    | took found | timedOut found | popped found | left found =>
      have zero := finished _ _ found
      cases zero
  | looped at_ | lookedUp at_ | missed at_ | finished at_ =>
    rw [at_] at reader
    cases reader
  | put at_ empty =>
    rw [at_] at reader
    dsimp only at reader
    rw [empty] at reader
    cases reader
  | woke head _ =>
    rw [woken] at head
    cases head
  | refused | registered | notifyFailed | closed | closeFailed | received | readFailed | handled
    | handlerRaised | handlerWriteFailed => cases owned

/-- A list of steps that ends at rest is a fair path. -/
theorem path_of_follow (allowed : Client → Label → Bool) (labels : List Label) (count : Nat)
    (property : Client → Bool)
    (checked : (follow (step platform) allowed {} labels).any
      (fun client => quiet client count && property client) = true) :
    ∃ path : FairPath (step platform) owner, path.states 0 = {} ∧
      (∀ time label, path.labels time = some label → allowed (path.states time) label = true) ∧
      ∃ final, property final = true ∧
        ∀ time, labels.length ≤ time → path.states time = final := by
  cases followed : follow (step platform) allowed {} labels with
  | none =>
    rw [followed] at checked
    cases checked
  | some final =>
    rw [followed] at checked
    obtain ⟨rests, holds⟩ := Bool.and_eq_true_iff.mp checked
    have sound : Sound platform final :=
      (Reaches.of_follow labels followed).invariant sound_initial
        fun _ _ _ sound _ taken => sound.step (move_of_step taken)
    obtain ⟨path, first, later, all⟩ := (FairPath.rest final fun thread =>
      idle_of_quiet sound rests thread).exists_of_follow labels followed nofun
    refine ⟨path, first, all, final, holds, fun time after => ?_⟩
    rw [← Nat.add_sub_of_le after]
    exact later (time - labels.length)

/-- The request has returned an answer. -/
def answered (client : Client) (id : Nat) : Bool :=
  match client.requests id with
  | some (.done (.returned _)) => true
  | _ => false

/-- The reader waits for a slot to be free. -/
def putting (client : Client) : Bool :=
  match client.reader with
  | .delivering _ _ => true
  | _ => false

/-- A check that is enough for a step to be attended. -/
def attends (client : Client) : Label → Bool
  | .lookup =>
    match client.reader with
    | .looking id _ =>
      match client.find id with
      | some found => (client.slots found).isNone || !past (client.requests found)
      | none => true
    | _ => true
  | .wake | .send _ | .sendRejected _ | .writeFails _ => !putting client
  | _ => true

theorem attended_of_attends {client : Client} {label : Label} (checked : attends client label = true) :
    Attended client label := by
  -- a reader that delivers nothing cannot be disturbed
  have apart : putting client = false → ∀ id payload, client.reader ≠ .delivering id payload := by
    intro idle id payload delivering
    rw [putting, delivering] at idle
    cases idle
  cases label with
  | lookup =>
    intro id payload found looking known
    simp only [attends, looking, known, Bool.or_eq_true, Option.isNone_iff_eq_none,
      Bool.not_eq_true'] at checked
    exact checked
  | wake =>
    exact fun id _ payload _ delivering =>
      absurd delivering (apart (by simpa [attends] using checked) id payload)
  | send id =>
    exact fun payload _ delivering =>
      absurd delivering (apart (by simpa [attends] using checked) id payload)
  | sendRejected id | writeFails id =>
    exact fun payload delivering =>
      absurd delivering (apart (by simpa [attends] using checked) id payload)
  | _ => trivial

/-- One request, answered by the server, which then closes its stream. -/
theorem reader_goes_on_answered :
    ∃ (platform : Platform) (path : FairPath (step platform) owner),
      path.states 0 = {} ∧
      (∃ time, ∃ value, (path.states time).requests 1 = some (.done (.returned value))) ∧
      (∀ time label, path.labels time = some label → Attended (path.states time) label) ∧
      Serves path := by
  let platform : Platform := ⟨fun _ => false, fun _ => none, fun _ => none, fun _ => ""⟩
  have checked : (follow (step platform) attends {}
      [.request "textDocument/hover" 30, .send 1, .loop,
        .receive [("id", .int 1), ("result", .null)], .lookup, .put, .take 1, .pop 1, .loop,
        .readFails .endOfStream, .finish]).any (fun client => quiet client 2 && answered client 1) =
          true := by
    decide +kernel
  obtain ⟨path, first, all, final, returned, later⟩ := path_of_follow _ _ _ _ checked
  have attended : ∀ time label, path.labels time = some label → Attended (path.states time) label :=
    fun time label here => attended_of_attends (all time label here)
  refine ⟨platform, path, first, ⟨11, ?_⟩, attended,
    (reader_goes_on_iff platform path first).mpr attended⟩
  rw [later 11 le_rfl]
  unfold answered at returned
  split at returned
  · exact ⟨_, ‹_›⟩
  · cases returned

/-- A request that times out while the stream of the server ends. -/
theorem callers_answered_timeout : ∃ (platform : Platform) (path : FairPath (step platform) owner),
    ∃ time outcome, (path.states time).requests 1 = some (.done outcome) := by
  let platform : Platform := ⟨fun _ => false, fun _ => none, fun _ => none, fun _ => ""⟩
  have checked : (follow (step platform) (fun _ _ => true) {}
      [.request "shutdown" 5, .send 1, .timeout 1, .pop 1, .loop, .readFails .endOfStream,
        .finish]).any (fun client => quiet client 2 && (client.requests 1).isSome) = true := by
    decide +kernel
  obtain ⟨path, first, -, final, known, later⟩ := path_of_follow _ _ _ _ checked
  obtain ⟨ended, outcome, -, still⟩ := callers_answered platform path first
    (show ((path.states 7).requests 1).isSome = true from later 7 le_rfl ▸ known)
  exact ⟨platform, path, ended, outcome, (still ended le_rfl).1⟩

/-- **The reader blocks for good.** A request times out and has not yet removed itself when the server
answers it, twice: the first response fills the slot, and the reader waits for ever to put the
second one. -/
theorem reader_blocks :
    ∃ (platform : Platform) (path : FairPath (step platform) owner),
      path.states 0 = {} ∧
      ∃ time id payload, ∀ later, time ≤ later →
        (path.states later).reader = .delivering id payload := by
  let platform : Platform := ⟨fun _ => false, fun _ => none, fun _ => none, fun _ => ""⟩
  have checked : (follow (step platform) (fun _ _ => true) {}
      [.request "textDocument/hover" 30, .send 1, .timeout 1, .loop,
        .receive [("id", .int 1), ("result", .null)], .lookup, .put, .loop,
        .receive [("id", .int 1), ("result", .null)], .lookup, .pop 1]).any
          (fun client => quiet client 2 && putting client) = true := by
    decide +kernel
  obtain ⟨path, first, -, final, delivering, later⟩ := path_of_follow _ _ _ _ checked
  unfold putting at delivering
  split at delivering
  · rename_i id payload still
    refine ⟨platform, path, first, 11, id, payload, fun time after => ?_⟩
    rw [later time after]
    exact still
  · cases delivering

end SerenaLight.Lsp.SyncClient

/-
**What the envelope of an edit call says about the target.**

- `EditorSound` and `WorkerSound` tie the two workers to their futures, commits and events.
- `Frozen`: no event of the edit comes any more, whatever the threads do. `Clean` adds that the
  target was not renamed onto.
- `Justified`: an error that is not `UNCERTAIN` is clean, and a success had its one rename and its
  one accepted notification.

Every step keeps them (`Sound.moved`), so they hold in every run (`edit_call_accounts`).
-/

import SerenaLight.Workspace.EditCall

namespace SerenaLight.Workspace

open Foundation Lsp Tools

namespace EditCall

/-! ### The workers and their futures -/

/-- The adapter worker: its future, the edit's commit, its place, the events and the runs so far. -/
inductive EditorSound : Option (Future Envelope Failure) → EditCommitState → EditWorker →
    List Event → Nat → Prop
  | absent : EditorSound none .queued .idle [] 0
  | pending : EditorSound (some .pending) .queued .idle [] 0
  | cancelled : EditorSound (some .cancelled) .queued .idle [] 0
  | taken : EditorSound (some .running) .queued .taken [] 0
  | editing {commit : EditCommitState} {rest events : List Event} {ending : Ending}
      (marked : commit = committed .running events) (tally : Tally ending (events ++ rest)) :
      EditorSound (some .running) commit (.editing rest ending) events 1
  | failed (failure : Failure) : EditorSound (some (.raised failure)) .queued .done [] 0
  | answered {commit : EditCommitState} {answer : EditAnswer} {events : List Event}
      (marked : commit = committed .running events) (tally : Tally (.ok answer) events) :
      EditorSound (some (.returned (.answer answer))) commit .done events 1
  | raised {commit : EditCommitState} {stop : Stop} {events : List Event} (failure : Failure)
      (marked : commit = committed .running events) (tally : Tally (.error stop) events) :
      EditorSound (some (.raised failure)) commit .done events 1

/-- The transaction worker: the caller, its future and commit, its place, and the edit's future. -/
inductive WorkerSound : Caller → Option (Future Envelope Failure) → EditCommitState → Worker →
    Option (Future Envelope Failure) → Prop
  | ready : WorkerSound .ready none .queued .idle none
  | refused {caller : Caller} (ended : caller.ended = true) :
      WorkerSound caller none .queued .idle none
  | pending {caller : Caller} (begun : caller ≠ .ready) :
      WorkerSound caller (some .pending) .queued .idle none
  | cancelled {caller : Caller} (begun : caller ≠ .ready) :
      WorkerSound caller (some .cancelled) .queued .idle none
  | taken {caller : Caller} (begun : caller ≠ .ready) :
      WorkerSound caller (some .running) .queued .taken none
  | marked {caller : Caller} (begun : caller ≠ .ready) :
      WorkerSound caller (some .running) .running .marked none
  | prepared {caller : Caller} (begun : caller ≠ .ready) :
      WorkerSound caller (some .running) .running .prepared none
  | waiting {caller : Caller} {edit : Future Envelope Failure} (begun : caller ≠ .ready) :
      WorkerSound caller (some .running) .running .waiting (some edit)
  | timedOut {caller : Caller} {edit : Future Envelope Failure} (begun : caller ≠ .ready) :
      WorkerSound caller (some .running) .running .timedOut (some edit)
  | returned {caller : Caller} {commit : EditCommitState} {edit : Option (Future Envelope Failure)}
      (begun : caller ≠ .ready) (envelope : Envelope) :
      WorkerSound caller (some (.returned envelope)) commit .done edit
  | raised {caller : Caller} {commit : EditCommitState} {edit : Option (Future Envelope Failure)}
      (begun : caller ≠ .ready) (failure : Failure) :
      WorkerSound caller (some (.raised failure)) commit .done edit

variable {self after : EditCall}

/-- Both workers. -/
structure Attended (call : EditCall) : Prop where
  editor : EditorSound call.edit call.commit call.editor call.events call.runs
  worker : WorkerSound call.caller call.transaction call.transactionCommit call.worker call.edit

theorem ofFailure_ended (failure : Failure) : (Caller.ofFailure failure).ended = true := by
  unfold Caller.ofFailure
  split <;> rfl

variable {caller : Caller} {future : Future Envelope Failure} {commit : EditCommitState}
  {edit : Option (Future Envelope Failure)} {transaction : Option (Future Envelope Failure)}
  {worker : Worker} {editor : EditWorker} {events : List Event} {runs : Nat} {envelope : Envelope}

theorem begun_of_ended (ended : caller.ended = true) : caller ≠ .ready := by
  rintro rfl
  cases ended

/-- A collecting caller ends, or is late. -/
theorem collect_eq_some (done : self.collect future = some after) :
    ∃ caller, after = { self with caller := caller } ∧ caller ≠ .ready := by
  unfold collect at done
  split at done
  · cases done; exact ⟨_, rfl, nofun⟩
  · cases done; exact ⟨_, rfl, nofun⟩
  · cases done; exact ⟨_, rfl, begun_of_ended (ofFailure_ended _)⟩
  · cases done; exact ⟨_, rfl, begun_of_ended (ofFailure_ended _)⟩
  · cases done; exact ⟨_, rfl, begun_of_ended (ofFailure_ended _)⟩
  · cases done

/-- A collecting worker is late, or ends with a result. -/
theorem collectEdit_eq_some (done : self.collectEdit future = some after) :
    after = { self with worker := .timedOut } ∨
      (∃ envelope, after = self.settle (.returned envelope)) ∨
      ∃ failure, after = self.settle (.raised failure) := by
  unfold collectEdit at done
  split at done
  · cases done; exact .inr (.inl ⟨_, rfl⟩)
  · cases done; exact .inl rfl
  · cases done; exact .inr (.inr ⟨_, rfl⟩)
  · cases done
    split
    · exact .inr (.inl ⟨_, rfl⟩)
    · exact .inr (.inr ⟨_, rfl⟩)
  · cases done
    split
    · exact .inr (.inl ⟨_, rfl⟩)
    · exact .inr (.inr ⟨_, rfl⟩)
  · cases done

theorem WorkerSound.begun {caller next : Caller}
    (sound : WorkerSound caller transaction commit worker edit) (called : transaction ≠ none)
    (begun : next ≠ .ready) : WorkerSound next transaction commit worker edit := by
  cases sound with
  | ready | refused _ => exact absurd rfl called
  | pending _ => exact .pending begun
  | cancelled _ => exact .cancelled begun
  | taken _ => exact .taken begun
  | marked _ => exact .marked begun
  | prepared _ => exact .prepared begun
  | waiting _ => exact .waiting begun
  | timedOut _ => exact .timedOut begun
  | returned _ envelope => exact .returned begun envelope
  | raised _ failure => exact .raised begun failure

/-- Before its submission the call is untouched. -/
theorem WorkerSound.of_ready (sound : WorkerSound .ready transaction commit worker edit) :
    transaction = none ∧ commit = .queued ∧ worker = .idle ∧ edit = none := by
  cases sound with
  | ready => exact ⟨rfl, rfl, rfl, rfl⟩
  | refused ended => cases ended
  | pending begun | cancelled begun | taken begun | marked begun | prepared begun | waiting begun
  | timedOut begun | returned begun | raised begun => exact absurd rfl begun

/-- A waiting or late caller has submitted. -/
theorem WorkerSound.called
    (sound : WorkerSound caller transaction commit worker edit) (begun : caller ≠ .ready)
    (unended : caller.ended = false) : transaction ≠ none := by
  rintro rfl
  cases sound with
  | ready => exact begun rfl
  | refused ended => exact absurd (unended.symm.trans ended) Bool.false_ne_true

/-- The worker does not see how far the edit's future has come. -/
theorem WorkerSound.edited {edit : Future Envelope Failure}
    (sound : WorkerSound caller transaction commit worker (some edit))
    (next : Future Envelope Failure) :
    WorkerSound caller transaction commit worker (some next) := by
  cases sound with
  | waiting begun => exact .waiting begun
  | timedOut begun => exact .timedOut begun
  | returned begun envelope => exact .returned begun envelope
  | raised begun failure => exact .raised begun failure

/-- A cancellation reaches the transaction only while it is queued. -/
theorem WorkerSound.cancelTransaction {caller next : Caller}
    (sound : WorkerSound caller (some future) commit worker edit) (begun : next ≠ .ready) :
    WorkerSound next (some future.cancel.1) commit worker edit := by
  cases future with
  | pending =>
    cases sound
    exact .cancelled begun
  | cancelled | running | returned envelope | raised failure => exact sound.begun nofun begun

/-- A cancellation reaches the edit only while it is queued. -/
theorem EditorSound.cancelEdit (sound : EditorSound (some future) commit editor events runs) :
    EditorSound (some future.cancel.1) commit editor events runs := by
  cases future with
  | pending =>
    cases sound
    exact .cancelled
  | cancelled | running | returned envelope | raised failure => exact sound

/-- A transaction may fail before it has submitted its edit. -/
theorem WorkerSound.fail (sound : WorkerSound caller transaction commit worker edit)
    (early : worker = .taken ∨ worker = .marked ∨ worker = .prepared) (failure : Failure) :
    WorkerSound caller (some (.raised failure)) commit .done edit := by
  have begun : caller ≠ .ready := by
    rintro rfl
    obtain ⟨-, -, rfl, -⟩ := sound.of_ready
    rcases early with same | same | same <;> cases same
  exact .raised begun failure

/-- **Both workers stay with their futures.** -/
theorem Attended.moved (attended : self.Attended) (moves : self.Moves after) : after.Attended := by
  obtain ⟨caller, transaction, transactionCommit, worker, edit, commit, editor, events, runs⟩ := self
  obtain ⟨editing, working⟩ := attended
  dsimp only at editing working
  cases moves with
  | submitted ready =>
    cases ready
    obtain ⟨rfl, rfl, rfl, rfl⟩ := working.of_ready
    exact ⟨editing, .pending nofun⟩
  | refused failure ready =>
    cases ready
    obtain ⟨rfl, rfl, rfl, rfl⟩ := working.of_ready
    exact ⟨editing, .refused (ofFailure_ended failure)⟩
  | gaveUp waits =>
    cases waits
    exact ⟨editing, working.begun (working.called nofun rfl) nofun⟩
  | cancelsTransaction future late held =>
    cases late
    cases held
    exact ⟨editing, working.cancelTransaction nofun⟩
  | collects future _ waits held done =>
    cases held
    obtain ⟨next, rfl, begun⟩ := collect_eq_some done
    exact ⟨editing, working.begun nofun begun⟩
  | stopsTransactions queued =>
    cases queued
    cases working with
    | pending begun => exact ⟨editing, .cancelled begun⟩
  | takes queued =>
    cases queued
    cases working with
    | pending begun => exact ⟨editing, .taken begun⟩
  | marks moved taken advanced =>
    cases taken
    cases working with
    | taken begun =>
      cases advanced
      exact ⟨editing, .marked begun⟩
  | prepares marked =>
    cases marked
    cases working with
    | marked begun => exact ⟨editing, .prepared begun⟩
  | fails failure early => exact ⟨editing, working.fail early failure⟩
  | submitsEdit prepared =>
    cases prepared
    cases working with
    | prepared begun =>
      cases editing with
      | absent => exact ⟨.pending, .waiting begun⟩
  | losesPatience waits =>
    cases waits
    cases working with
    | waiting begun => exact ⟨editing, .timedOut begun⟩
  | cancelsEdit future late held =>
    cases late
    cases held
    cases working with
    | timedOut begun => exact ⟨editing.cancelEdit, .returned begun _⟩
  | collectsEdit future _ waits held done =>
    cases waits
    cases working with
    | waiting begun =>
      obtain rfl | ⟨envelope, rfl⟩ | ⟨failure, rfl⟩ := collectEdit_eq_some done
      · exact ⟨editing, .timedOut begun⟩
      · exact ⟨editing, .returned begun envelope⟩
      · exact ⟨editing, .raised begun failure⟩
  | stopsEdits queued =>
    cases queued
    cases editing with
    | pending => exact ⟨.cancelled, working.edited _⟩
  | takesEdit queued =>
    cases queued
    cases editing with
    | pending => exact ⟨.taken, working.edited _⟩
  | failsEdit failure taken =>
    cases taken
    cases editing with
    | taken => exact ⟨.failed failure, working.edited _⟩
  | begins context request fs script taken moved advanced =>
    cases taken
    cases editing with
    | taken =>
      cases advanced
      exact ⟨.editing rfl (context.tally_replaceSymbolBody request fs script), working⟩
  | happens event rest ending there =>
    cases there
    cases editing with
    | editing marked tally =>
      refine ⟨.editing ?_ (List.append_cons .. ▸ tally), working⟩
      rw [marked, committed_append]
  | answers answer there =>
    cases there
    cases editing with
    | editing marked tally =>
      exact ⟨.answered marked (List.append_nil events ▸ tally), working.edited _⟩
  | raises stop failure there =>
    cases there
    cases editing with
    | editing marked tally =>
      exact ⟨.raised failure marked (List.append_nil events ▸ tally), working.edited _⟩

/-! ### Nothing more to come -/

/-- No event of the edit comes any more. -/
def Frozen (self : EditCall) : Prop :=
  self.editor = .done ∨ self.edit = some .cancelled ∨
    self.edit = none ∧ (self.worker = .done ∨ self.transaction = some .cancelled ∨
      self.transaction = none ∧ self.caller.ended = true)

/-- The edit's future tells where its worker is. -/
theorem EditorSound.places (sound : EditorSound edit commit editor events runs) :
    (editor = .done → edit ≠ none ∧ edit ≠ some .pending ∧ edit ≠ some .cancelled) ∧
      (editor ≠ .done → editor ≠ .idle → edit = some .running) := by
  cases sound <;> simp

/-- The transaction's future tells where its worker is. -/
theorem WorkerSound.places (sound : WorkerSound caller transaction commit worker edit) :
    (worker = .done → transaction ≠ none ∧ transaction ≠ some .pending ∧
      transaction ≠ some .cancelled) ∧
    (worker ≠ .done → worker ≠ .idle → transaction = some .running) ∧
    (worker = .taken ∨ worker = .marked ∨ worker = .prepared → edit = none) ∧
    (transaction = some .pending ∨ transaction = some .cancelled → edit = none) := by
  cases sound <;> simp

/-- **Frozen for good.** -/
theorem Frozen.moved (frozen : self.Frozen) (attended : self.Attended) (moves : self.Moves after) :
    after.Frozen ∧ after.events = self.events := by
  obtain ⟨caller, transaction, transactionCommit, worker, edit, commit, editor, events, runs⟩ := self
  obtain ⟨editing, working⟩ := attended
  dsimp only at editing working
  have editorPlaces := editing.places
  have workerPlaces := working.places
  simp only [Frozen] at frozen ⊢
  cases moves with
  | submitted ready =>
    cases ready
    obtain ⟨rfl, rfl, rfl, rfl⟩ := working.of_ready
    obtain done | cancelled | ⟨_, done | cancelled | ⟨_, ended⟩⟩ := frozen
    · exact absurd rfl (editorPlaces.1 done).1
    · cases cancelled
    · cases done
    · cases cancelled
    · cases ended
  | collects future _ waits held done =>
    cases held
    obtain ⟨next, rfl, _⟩ := collect_eq_some done
    grind
  | collectsEdit future _ waits held done =>
    cases held
    obtain rfl | ⟨envelope, rfl⟩ | ⟨failure, rfl⟩ := collectEdit_eq_some done <;> grind [settle]
  | _ => grind [Future.cancel, Caller.ended, settle, settleEdit]

/-- The target was not renamed onto, and will not be. -/
def Clean (self : EditCall) : Prop := renames self.events = 0 ∧ self.Frozen

theorem Clean.moved (clean : self.Clean) (attended : self.Attended) (moves : self.Moves after) :
    after.Clean := by
  obtain ⟨frozen, same⟩ := clean.2.moved attended moves
  exact ⟨same ▸ clean.1, frozen⟩

/-- **What an envelope says.** -/
structure Justified (envelope : Envelope) (call : EditCall) : Prop where
  harmless : ∀ code, envelope.code = some code → code ≠ "UNCERTAIN" → call.Clean
  success : envelope.code = none →
    renames call.events = 1 ∧ notices call.events = 1 ∧ call.Frozen

theorem Justified.moved (justified : Justified envelope self)
    (attended : self.Attended) (moves : self.Moves after) : Justified envelope after where
  harmless code coded certain := (justified.harmless code coded certain).moved attended moves
  success uncoded := by
    obtain ⟨renamed, noticed, frozen⟩ := justified.success uncoded
    obtain ⟨frozenAfter, same⟩ := frozen.moved attended moves
    exact ⟨same ▸ renamed, same ▸ noticed, frozenAfter⟩

theorem Clean.justifies (clean : self.Clean) (code : String) : Justified (.error code) self :=
  ⟨fun _ _ _ => clean, nofun⟩

theorem justified_uncertain (self : EditCall) : Justified (.error "UNCERTAIN") self :=
  ⟨fun _ coded certain => absurd (Option.some.inj coded).symm certain, nofun⟩

/-- The answer of a finished edit. -/
theorem Tally.justifies {answer : EditAnswer} (tally : Tally (.ok answer) self.events)
    (done : self.editor = .done) : Justified (.answer answer) self where
  harmless code coded certain := by
    refine ⟨tally.refused ?_, .inl done⟩
    cases answer <;>
      first | rfl | exact absurd (Option.some.inj coded).symm certain | cases coded
  success uncoded := by
    have succeeded : Ending.isSuccess (.ok answer) = true := by
      cases answer <;> first | rfl | cases uncoded
    obtain ⟨renamed, noticed⟩ := tally.succeeded succeeded
    exact ⟨renamed, noticed, .inl done⟩

/-- An edit whose future is not there, or cancelled, has done nothing. -/
theorem EditorSound.unstarted (sound : EditorSound edit commit editor events runs)
    (absent : edit = none ∨ edit = some .pending ∨ edit = some .cancelled) : events = [] := by
  obtain rfl | rfl | rfl := absent <;> cases sound <;> rfl

/-! ### The invariant -/

structure Sound (call : EditCall) : Prop where
  attended : call.Attended
  verdict : ∀ envelope, call.transaction = some (.returned envelope) → Justified envelope call
  failure : ∀ failure, call.transaction = some (.raised failure) → failure ≠ .fatal → call.Clean
  answer : ∀ envelope, call.caller = .returned envelope → Justified envelope call

theorem cancel_eq_returned
    (same : future.cancel.1 = .returned envelope) : future = .returned envelope := by
  cases future <;> first | exact same | cases same

theorem cancel_eq_raised {failure : Failure}
    (same : future.cancel.1 = .raised failure) : future = .raised failure := by
  cases future <;> first | exact same | cases same

/-- A cancellation that succeeds finds the future queued or cancelled. -/
theorem cancelled_of_cancel (cancels : future.cancel.2 = true) :
    (future = .pending ∨ future = .cancelled) ∧ future.cancel.1 = .cancelled := by
  cases future with
  | pending => exact ⟨.inl rfl, rfl⟩
  | cancelled => exact ⟨.inr rfl, rfl⟩
  | running | returned value | raised failure => cases cancels

/-- The result that a worker collects from the edit. -/
theorem Attended.collectsEdit (attended : self.Attended)
    (held : self.edit = some future) (done : self.collectEdit future = some after) :
    (∀ envelope, after.transaction = some (.returned envelope) →
        self.transaction = some (.returned envelope) ∨ Justified envelope self) ∧
      ∀ failure, after.transaction = some (.raised failure) → failure ≠ .fatal →
        self.transaction = some (.raised failure) ∨ self.Clean := by
  obtain ⟨caller, transaction, transactionCommit, worker, edit, commit, editor, events, runs⟩ := self
  cases held
  have editing := attended.editor
  dsimp only at editing
  -- an exception that the edit raised, against the commit that the worker reads
  have raised : ∀ failure, commit.reachedDisk = false →
      EditorSound (some (.raised failure)) commit editor events runs →
      renames events = 0 ∧ editor = .done := by
    intro failure unseen sound
    cases sound with
    | failed _ => exact ⟨rfl, rfl⟩
    | raised _ marked tally =>
      obtain unrenamed | installed := tally.raised rfl
      · exact ⟨unrenamed, rfl⟩
      · rw [marked, installed] at unseen
        cases unseen
  unfold collectEdit at done
  split at done
  · next envelope =>
      cases done
      refine ⟨fun other same => .inr ?_, nofun⟩
      cases same
      cases editing with
      | answered marked tally => exact Tally.justifies tally rfl
  · cases done
    exact ⟨fun _ same => .inl same, fun _ same _ => .inl same⟩
  · cases done
    refine ⟨nofun, fun failure same fatal => ?_⟩
    cases same
    exact absurd rfl fatal
  · next failure _ _ =>
      cases done
      by_cases seen : commit.reachedDisk = true
      · simp only [settle, if_pos seen]
        refine ⟨fun other same => .inr ?_, nofun⟩
        cases same
        exact justified_uncertain _
      · simp only [settle, if_neg seen]
        refine ⟨nofun, fun _ _ _ => .inr ?_⟩
        obtain ⟨unrenamed, ended⟩ := raised failure (Bool.not_eq_true _ ▸ seen) editing
        exact ⟨unrenamed, .inl ended⟩
  · cases done
    cases editing with
    | cancelled => exact ⟨nofun, fun _ _ _ => .inr ⟨rfl, .inr (.inl rfl)⟩⟩
  · cases done

/-- A worker's new result. -/
theorem Attended.verdict (attended : self.Attended) (moves : self.Moves after) (envelope : Envelope)
    (held : after.transaction = some (.returned envelope)) :
    self.transaction = some (.returned envelope) ∨ Justified envelope after := by
  have kept : Justified envelope self → Justified envelope after :=
    fun justified => justified.moved attended moves
  cases moves with
  | cancelsTransaction future late there =>
    exact .inl (there.trans (congrArg some (cancel_eq_returned (Option.some.inj held))))
  | cancelsEdit future late there =>
    cases held
    refine .inr ?_
    by_cases queued : future.cancel.2 = true ∧ self.commit = .queued
    · rw [if_pos queued]
      refine Clean.justifies ⟨?_, .inr (.inl (congrArg some (cancelled_of_cancel queued.1).2))⟩ _
      have unstarted : self.events = [] := by
        refine attended.editor.unstarted (.inr ?_)
        rcases (cancelled_of_cancel queued.1).1 with rfl | rfl
        · exact .inl there
        · exact .inr there
      exact congrArg renames unstarted
    · rw [if_neg queued]
      exact justified_uncertain _
  | collectsEdit future _ waits there done =>
    exact ((attended.collectsEdit there done).1 envelope held).imp_right kept
  | collects future _ waits there done =>
    obtain ⟨next, rfl, _⟩ := collect_eq_some done
    exact .inl held
  | submitted _ | stopsTransactions _ | takes _ | fails _ _ => cases held
  | _ => exact .inl held

/-- A worker's new failure. -/
theorem Attended.failure (attended : self.Attended) (moves : self.Moves after) (failure : Failure)
    (held : after.transaction = some (.raised failure)) (ordinary : failure ≠ .fatal) :
    self.transaction = some (.raised failure) ∨ after.Clean := by
  cases moves with
  | cancelsTransaction future late there =>
    exact .inl (there.trans (congrArg some (cancel_eq_raised (Option.some.inj held))))
  | collectsEdit future _ waits there done =>
    exact ((attended.collectsEdit there done).2 failure held ordinary).imp_right
      fun clean => clean.moved attended (.collectsEdit future _ waits there done)
  | fails _ early =>
    have absent : self.edit = none := attended.worker.places.2.2.1 early
    exact .inr ⟨congrArg renames (attended.editor.unstarted (.inl absent)),
      .inr (.inr ⟨absent, .inl rfl⟩)⟩
  | collects future _ waits there done =>
    obtain ⟨next, rfl, _⟩ := collect_eq_some done
    exact .inl held
  | submitted _ | stopsTransactions _ | takes _ | cancelsEdit _ _ _ => cases held
  | _ => exact .inl held

/-- A caller that ended with an exception has an error envelope for it, or none. -/
theorem ofFailure_eq_returned {failure : Failure}
    (same : Caller.ofFailure failure = .returned envelope) :
    (∃ code, envelope = .error code) ∧ failure ≠ .fatal := by
  unfold Caller.ofFailure at same
  split at same
  · next code coded =>
      cases same
      refine ⟨⟨code, rfl⟩, ?_⟩
      rintro rfl
      cases coded
  · cases same

/-- A cancelled transaction never reaches the edit. -/
theorem Attended.clean_of_cancelled (attended : self.Attended)
    (cancelled : self.transaction = some .cancelled) : self.Clean := by
  have absent : self.edit = none := attended.worker.places.2.2.2 (.inr cancelled)
  exact ⟨congrArg renames (attended.editor.unstarted (.inl absent)),
    .inr (.inr ⟨absent, .inr (.inl cancelled)⟩)⟩

/-- What the caller collects. -/
theorem Sound.collects (sound : self.Sound)
    (held : self.transaction = some future) (done : self.collect future = some after)
    (envelope : Envelope)
    (returned : after.caller = .returned envelope) : Justified envelope self := by
  unfold collect at done
  split at done
  · cases done
    cases returned
    exact sound.verdict _ held
  · cases done
    cases returned
  · cases done
    dsimp only at returned
    obtain ⟨⟨code, rfl⟩, _⟩ := ofFailure_eq_returned returned
    exact (sound.failure _ held nofun).justifies code
  · cases done
    obtain ⟨⟨code, rfl⟩, ordinary⟩ := ofFailure_eq_returned returned
    exact (sound.failure _ held ordinary).justifies code
  · cases done
    dsimp only at returned
    obtain ⟨⟨code, rfl⟩, _⟩ := ofFailure_eq_returned returned
    exact (sound.attended.clean_of_cancelled held).justifies code
  · cases done

/-- A caller's new envelope. -/
theorem Sound.answered (sound : self.Sound) (moves : self.Moves after) (envelope : Envelope)
    (returned : after.caller = .returned envelope) :
    self.caller = .returned envelope ∨ Justified envelope after := by
  have attended := sound.attended
  cases moves with
  | submitted _ | gaveUp _ => cases returned
  | refused failure ready =>
    obtain ⟨⟨code, rfl⟩, _⟩ := ofFailure_eq_returned returned
    have working := attended.worker
    rw [ready] at working
    obtain ⟨uncalled, _, _, absent⟩ := working.of_ready
    have clean : EditCall.Clean { self with caller := .ofFailure failure } :=
      ⟨congrArg renames (attended.editor.unstarted (.inl absent)),
        .inr (.inr ⟨absent, .inr (.inr ⟨uncalled, ofFailure_ended failure⟩)⟩)⟩
    exact .inr (clean.justifies code)
  | cancelsTransaction future late there =>
    have attendedAfter := attended.moved (.cancelsTransaction future late there)
    cases returned
    refine .inr ?_
    by_cases queued : future.cancel.2 = true ∧ self.transactionCommit = .queued
    · rw [if_pos queued] at attendedAfter ⊢
      exact (attendedAfter.clean_of_cancelled
        (congrArg some (cancelled_of_cancel queued.1).2)).justifies _
    · rw [if_neg queued]
      exact justified_uncertain _
  | collects future _ waits there done =>
    exact .inr ((sound.collects there done envelope returned).moved attended
      (.collects future _ waits there done))
  | collectsEdit future _ waits there done =>
    obtain rfl | ⟨_, rfl⟩ | ⟨_, rfl⟩ := collectEdit_eq_some done
    · exact .inl returned
    · exact .inl returned
    · exact .inl returned
  | _ => exact .inl returned

theorem Sound.moved (sound : self.Sound) (moves : self.Moves after) : after.Sound where
  attended := sound.attended.moved moves
  verdict envelope held :=
    (sound.attended.verdict moves envelope held).elim
      (fun old => (sound.verdict envelope old).moved sound.attended moves) id
  failure failure held ordinary :=
    (sound.attended.failure moves failure held ordinary).elim
      (fun old => (sound.failure failure old ordinary).moved sound.attended moves) id
  answer envelope returned :=
    (sound.answered moves envelope returned).elim
      (fun old => (sound.answer envelope old).moved sound.attended moves) id

theorem Sound.init : EditCall.init.Sound where
  attended := ⟨.absent, .ready⟩
  verdict := nofun
  failure := nofun
  answer := nofun

theorem Reached.sound {call : EditCall} (reached : call.Reached) : call.Sound :=
  Reaches.invariant Sound.init (fun _ _ _ sound _ taken => sound.moved (moves_of_step taken)) reached

/-! ### Runs -/

/-- A commit that moves, moves forward. -/
def Forward (before after : EditCommitState) : Prop :=
  after = before ∨ before.advance after = some after

theorem EditorSound.forward {event : Event} {rest events : List Event} {ending : Ending}
    (sound : EditorSound edit commit (.editing (event :: rest) ending) events runs) :
    Forward commit (committed commit [event]) := by
  cases sound with
  | editing marked tally =>
    cases event with
    | marked next =>
      have course := tally.marks
      rw [marks_append] at course
      show Forward commit next
      rw [marked, committed]
      -- the marks before this one are none, or the one of the rename
      obtain ⟨_, shape⟩ := course
      generalize marks events = earlier at shape ⊢
      rcases earlier with _ | ⟨first, _ | ⟨second, more⟩⟩
      · obtain rfl : next = .installed := (List.cons.inj shape).1
        exact .inr rfl
      · obtain rfl : first = .installed := (List.cons.inj shape).1
        obtain rfl : next = .done := (List.cons.inj (List.cons.inj shape).2).1
        exact .inr rfl
      · have long := congrArg List.length shape
        simp [marks, Event.mark?] at long
    | observed bytes | created directory name | renamed directory source destination bytes
    | unlinked directory name | notified => exact .inl rfl

theorem Attended.forward (attended : self.Attended) (moves : self.Moves after) :
    Forward self.commit after.commit ∧
      Forward self.transactionCommit after.transactionCommit := by
  obtain ⟨caller, transaction, transactionCommit, worker, edit, commit, editor, events, runs⟩ := self
  obtain ⟨editing, working⟩ := attended
  dsimp only at editing working
  cases moves with
  | marks moved taken advanced =>
    exact ⟨.inl rfl, .inr ((EditCommitState.index_of_advance advanced).2 ▸ advanced)⟩
  | submitsEdit prepared =>
    cases prepared
    cases working with
    | prepared begun =>
      cases editing with
      | absent => exact ⟨.inl rfl, .inl rfl⟩
  | begins context request fs script taken moved advanced =>
    exact ⟨.inr ((EditCommitState.index_of_advance advanced).2 ▸ advanced), .inl rfl⟩
  | happens event rest ending there =>
    cases there
    exact ⟨editing.forward, .inl rfl⟩
  | collects future _ waits held done =>
    obtain ⟨next, rfl, _⟩ := collect_eq_some done
    exact ⟨.inl rfl, .inl rfl⟩
  | collectsEdit future _ waits held done =>
    obtain rfl | ⟨_, rfl⟩ | ⟨_, rfl⟩ := collectEdit_eq_some done
    · exact ⟨.inl rfl, .inl rfl⟩
    · exact ⟨.inl rfl, .inl rfl⟩
    · exact ⟨.inl rfl, .inl rfl⟩
  | _ => exact ⟨.inl rfl, .inl rfl⟩

theorem EditorSound.once
    (sound : EditorSound edit commit editor events runs) : runs ≤ 1 ∧ renames events ≤ 1 := by
  cases sound with
  | editing marked tally =>
    refine ⟨le_rfl, le_trans ?_ tally.once⟩
    rw [renames_append]
    exact Nat.le_add_right ..
  | answered marked tally | raised failure marked tally => exact ⟨le_rfl, tally.once⟩
  | _ => exact ⟨Nat.zero_le _, Nat.zero_le _⟩

theorem Clean.forever {later : EditCall} (clean : self.Clean) (attended : self.Attended)
    (reached : Reaches step (fun _ _ => True) self later) : later.Clean := by
  have both : later.Clean ∧ later.Attended := by
    refine @Reaches.invariant _ _ _ _ _ (fun call => call.Clean ∧ call.Attended)
      ⟨clean, attended⟩ ?_ _ reached
    rintro before label after ⟨clean, attended⟩ _ taken
    have moves := moves_of_step taken
    exact ⟨clean.moved attended moves, attended.moved moves⟩
  exact both.1

/-- **An edit call keeps its account**: in every state of every run, with any schedule of its threads,
any timeouts, exceptions and stops. -/
theorem edit_call_accounts {call : EditCall} (reached : call.Reached) :
    call.runs ≤ 1 ∧ renames call.events ≤ 1 ∧
      (∀ envelope code, call.caller = .returned envelope → envelope.code = some code →
        code ≠ "UNCERTAIN" → renames call.events = 0 ∧
          ∀ later, Reaches step (fun _ _ => True) call later → renames later.events = 0) ∧
      (∀ envelope, call.caller = .returned envelope → envelope.code = none →
        renames call.events = 1 ∧ notices call.events = 1) ∧
      ∀ label after, call.step label = some after →
        Forward call.commit after.commit ∧
          Forward call.transactionCommit after.transactionCommit := by
  have sound := reached.sound
  obtain ⟨runs, renamed⟩ := sound.attended.editor.once
  refine ⟨runs, renamed, fun envelope code returned coded certain => ?_,
    fun envelope returned uncoded => ?_, fun label after taken => ?_⟩
  · have clean := (sound.answer envelope returned).harmless code coded certain
    exact ⟨clean.1, fun later reaches => (clean.forever sound.attended reaches).1⟩
  · obtain ⟨once, noticed, _⟩ := (sound.answer envelope returned).success uncoded
    exact ⟨once, noticed⟩
  · exact sound.attended.forward (moves_of_step taken)

/-- A call whose edit replaces `x` by `y` without interference. -/
def undisturbed : List Label :=
  [.submit none, .take, .markTransaction, .preflight none, .submitEdit none, .takeEdit,
    .beginEdit EditContext.sample EditContext.sampleRequest EditContext.sampleFiles
      (List.replicate 47 EditContext.quietTurn)] ++
    List.replicate 8 .event ++ [.endEdit .other, .collectEdit, .collect]

/-- The call returned a success. -/
def succeeded (self : EditCall) : Bool :=
  match self.caller with
  | .returned envelope => envelope.code.isNone
  | _ => false

/-- The undisturbed call succeeds, after one rename and one accepted notification. -/
theorem undisturbed_accounts :
    ∃ call : EditCall, call.Reached ∧ call.succeeded = true ∧ renames call.events = 1 ∧
      notices call.events = 1 := by
  obtain ⟨call, reached, done⟩ := Reaches.of_run step (fun _ _ => True) init undisturbed
    (fun call => call.succeeded = true) (by decide +kernel)
  refine ⟨call, reached, done, ?_⟩
  unfold succeeded at done
  cases answered : call.caller with
  | returned envelope =>
    rw [answered] at done
    exact (edit_call_accounts reached).2.2.2.1 envelope answered (Option.isNone_iff_eq_none.mp done)
  | _ =>
    rw [answered] at done
    cases done

end EditCall

end SerenaLight.Workspace

/-
**The order of document versions.**

* `Agrees`: what the map of versions, the record of an adapter and the reservations of one file have to
  do with each other, and how each event keeps it.
* `Adapter.Opened`: what an opening can do to the record of an adapter.
* `Synced`: every file agrees, in every interleaving.
* `pass_newer_iff`: **a version is newer than every recorded one exactly if its reservation was not
  overtaken**, and an update of an open document is delivered exactly then.
-/

import Mathlib.Data.List.Nodup
import SerenaLight.Workspace.DocumentVersions

set_option linter.unusedSectionVars false

namespace SerenaLight.Workspace.DocumentVersions

open Foundation Lsp

/-! ### One file -/

/-- The version is newer than the recorded one, if there is one. -/
def Newer (version : Int) (recorded : Option Int) : Prop :=
  ∀ current, recorded = some current → current < version

/-- **The map, the record and the reservations of one file agree.** -/
structure Agrees (version : Int) (ahead : Bool) (recorded : Option Int)
    (pending : List Reservation) : Prop where
  leads : ahead = true → recorded = some (version + 1)
  behind : ahead = false → ∀ current, recorded = some current → current ≤ version
  reserved : ∀ reservation ∈ pending, reservation.version ≤ version
  exact : ∀ reservation ∈ pending,
    (Newer reservation.version recorded ↔ reservation.overtaken = false)
  ordered : pending.Pairwise fun first second => first.version < second.version

namespace Agrees

variable {version current : Int} {ahead : Bool} {recorded : Option Int}
  {reservation : Reservation} {pending fewer : List Reservation}

theorem sublist (agrees : Agrees version ahead recorded pending) (sub : fewer.Sublist pending) :
    Agrees version ahead recorded fewer where
  leads := agrees.leads
  behind := agrees.behind
  reserved reservation member := agrees.reserved reservation (sub.subset member)
  exact reservation member := agrees.exact reservation (sub.subset member)
  ordered := agrees.ordered.sublist sub

/-- The next version is newer unless an edit has passed it already. -/
theorem next_newer (agrees : Agrees version ahead recorded pending) :
    Newer (version + 1) recorded ↔ ahead = false := by
  cases ahead with
  | true =>
    refine iff_of_false (fun newer => ?_) nofun
    have below := newer _ (agrees.leads rfl)
    omega
  | false =>
    refine iff_of_true (fun current found => ?_) rfl
    have below := agrees.behind rfl current found
    omega

/-- A version is reserved. -/
theorem reserve (agrees : Agrees version ahead recorded pending) :
    Agrees (version + 1) false recorded (pending ++ [⟨version + 1, ahead⟩]) where
  leads := nofun
  behind _ current found := by
    cases ahead with
    | true => exact Int.le_of_eq (Option.some.inj (found.symm.trans (agrees.leads rfl)))
    | false => exact Int.le_trans (agrees.behind rfl current found) (by omega)
  reserved reservation member := by
    rcases List.mem_append.mp member with old | new
    · exact Int.le_trans (agrees.reserved reservation old) (by omega)
    · exact Int.le_of_eq (congrArg Reservation.version (List.mem_singleton.mp new))
  exact reservation member := by
    rcases List.mem_append.mp member with old | new
    · exact agrees.exact reservation old
    · rw [List.mem_singleton.mp new]
      exact agrees.next_newer
  ordered := by
    refine List.pairwise_append.mpr ⟨agrees.ordered, List.pairwise_singleton _ _, ?_⟩
    intro reservation old last new
    rw [List.mem_singleton.mp new]
    exact Int.lt_of_le_of_lt (agrees.reserved reservation old) (Int.lt_succ version)

/-- The first reservation is passed and recorded: none that was reserved later is overtaken. -/
theorem passed (agrees : Agrees version ahead recorded (reservation :: pending))
    (newer : Newer reservation.version recorded) :
    Agrees version ahead (some reservation.version) pending := by
  obtain ⟨later, ordered⟩ := List.pairwise_cons.mp agrees.ordered
  have bound := agrees.reserved reservation (.head _)
  refine ⟨fun gone => ?_, fun _ current same => ?_, fun other member =>
    agrees.reserved other (.tail _ member), fun other member => ?_, ordered⟩
  · have below := newer _ (agrees.leads gone)
    omega
  · cases same
    exact bound
  · have after := later other member
    refine iff_of_true (fun current same => ?_) ((agrees.exact other (.tail _ member)).mp ?_)
    · cases same
      exact after
    · exact fun current found => Int.lt_trans (newer current found) after

/-- A version that is reserved in the worker and recorded overtakes every reservation. -/
theorem opened (agrees : Agrees version ahead recorded pending) :
    Agrees (version + 1) false (some (version + 1)) (pending.map (.flag fun _ _ => true)) where
  leads := nofun
  behind _ current same := by
    cases same
    exact Int.le_refl _
  reserved reservation member := by
    obtain ⟨old, found, rfl⟩ := List.mem_map.mp member
    exact Int.le_trans (agrees.reserved old found) (by omega)
  exact reservation member := by
    obtain ⟨old, found, rfl⟩ := List.mem_map.mp member
    refine iff_of_false (fun newer => ?_) nofun
    have below : version + 1 < old.version := newer _ rfl
    have bound := agrees.reserved old found
    omega
  ordered := List.pairwise_map.mpr agrees.ordered

/-- **The notification of an edit** overtakes the reservation next to the edit's own, or the one that
is made next. -/
theorem notified (agrees : Agrees version ahead (some current) pending) (bound : current ≤ version) :
    Agrees version (decide (version = current)) (some (current + 1))
      (pending.map (.flag fun reserved overtaken => overtaken || decide (reserved = current + 1)))
    where
  leads same := by rw [of_decide_eq_true same]
  behind other next found := by
    cases found
    have different := of_decide_eq_false other
    omega
  reserved reservation member := by
    obtain ⟨old, found, rfl⟩ := List.mem_map.mp member
    exact agrees.reserved old found
  exact reservation member := by
    obtain ⟨old, found, rfl⟩ := List.mem_map.mp member
    have before := agrees.exact old found
    simp only [Newer, Reservation.flag, Option.some.injEq, forall_eq', Bool.or_eq_false_iff,
      decide_eq_false_iff_not] at before ⊢
    rw [← before]
    omega
  ordered := List.pairwise_map.mpr agrees.ordered

/-- A new server process has recorded nothing. -/
theorem replaced (agrees : Agrees version ahead recorded pending) :
    Agrees version false none (pending.map (.flag fun _ _ => false)) where
  leads := nofun
  behind := nofun
  reserved reservation member := by
    obtain ⟨old, found, rfl⟩ := List.mem_map.mp member
    exact agrees.reserved old found
  exact reservation member := by
    obtain ⟨old, found, rfl⟩ := List.mem_map.mp member
    exact iff_of_true nofun rfl
  ordered := List.pairwise_map.mpr agrees.ordered

/-- The map is set to the recorded version while no reservation waits. -/
theorem rolledBack (current : Int) : Agrees current false (some current) [] where
  leads := nofun
  behind _ other same := by
    cases same
    exact Int.le_refl _
  reserved := nofun
  exact := nofun
  ordered := .nil

end Agrees

variable {Path Family : Type} [DecidableEq Path] [DecidableEq Family]

/-! ### What an opening records -/

namespace Adapter

variable {versioned trusted : Bool} {path : Path} {version : Int} {fate : Fate}
  {adapter : Adapter Path}

theorem disown_lspState (versioned : Bool) (adapter : Adapter Path) (path : Path) :
    (adapter.disown versioned path).lspState = adapter.lspState := by
  unfold disown
  split <;> rfl

theorem disown_sublist (versioned : Bool) (adapter : Adapter Path) (path : Path) :
    (adapter.disown versioned path).openDocuments.Sublist adapter.openDocuments := by
  unfold disown
  split
  · exact .refl _
  · exact List.erase_sublist

theorem retain_nodup (distinct : adapter.openDocuments.Nodup) (path : Path) :
    (adapter.retain path).openDocuments.Nodup := by
  unfold retain
  dsimp only
  split
  · refine List.nodup_append.mpr ⟨distinct.erase path, List.nodup_singleton path, ?_⟩
    rintro other member last lastMember rfl
    rw [List.mem_singleton.mp lastMember] at member
    exact (distinct.mem_erase_iff.mp member).1 rfl
  · rename_i absent
    refine (List.drop_sublist _ _).nodup ?_
    refine List.nodup_append.mpr ⟨distinct, List.nodup_singleton path, ?_⟩
    rintro other member last lastMember rfl
    rw [List.mem_singleton.mp lastMember] at member
    exact absent member

theorem retain_subset (adapter : Adapter Path) (path : Path) :
    ∀ other ∈ (adapter.retain path).openDocuments, other ∈ adapter.openDocuments ∨ other = path := by
  intro other member
  unfold retain at member
  dsimp only at member
  split at member
  · exact (List.mem_append.mp member).imp List.mem_of_mem_erase List.mem_singleton.mp
  · exact (List.mem_append.mp (List.mem_of_mem_drop member)).imp_right List.mem_singleton.mp

/-- The youngest document is never the one that is closed. -/
theorem mem_retain (adapter : Adapter Path) (path : Path) :
    path ∈ (adapter.retain path).openDocuments := by
  unfold retain
  dsimp only
  split
  · simp
  · have short : adapter.openDocuments.length + 1 - maxOpenDocuments ≤ adapter.openDocuments.length := by
      unfold maxOpenDocuments
      omega
    rw [List.drop_append_of_le_length short]
    simp

/-- The open documents are distinct and recorded. -/
structure Tidy (adapter : Adapter Path) : Prop where
  distinct : adapter.openDocuments.Nodup
  known : ∀ path ∈ adapter.openDocuments, (adapter.lspState.document path).isSome = true

/-- What `_open_document_with_client` does to the record: nothing, or it records the version. -/
structure Opened (adapter : Adapter Path) (path : Path) (version : Int) (trusted : Bool) (fate : Fate)
    (opening : Opening) (after : Adapter Path) : Prop where
  others : ∀ other, other ≠ path →
    after.lspState.document other = adapter.lspState.document other
  kept : opening.records = false →
    after.lspState.document path = adapter.lspState.document path
  records : opening.records = true → trusted = true ∧ after.recorded path = some version ∧
    Newer version (adapter.recorded path)
  refuses : opening = .stale → ¬Newer version (adapter.recorded path)
  refused : trusted = true → ¬Newer version (adapter.recorded path) → opening = .stale
  delivers : trusted = true → fate = .sent → Newer version (adapter.recorded path) →
    opening = .opened ∧ path ∈ after.openDocuments
  distinct : adapter.openDocuments.Nodup → after.openDocuments.Nodup
  opens : ∀ other ∈ after.openDocuments,
    other ∈ adapter.openDocuments ∨ (other = path ∧ opening.records = true)

/-- A version that is newer than the recorded one is taken. -/
theorem updateDocument_newer {lspState : LspState Path Path Unit} {path : Path} {version : Int}
    (newer : Newer version ((lspState.document path).bind (·.version))) :
    ∃ document, lspState.updateDocument path path (some version) =
        (some document, { lspState with
          documents := lspState.documents.set path document
          updates := lspState.updates + 1 }) ∧
      document.version = some version := by
  unfold LspState.updateDocument
  cases found : lspState.documents.get path with
  | none => exact ⟨_, rfl, rfl⟩
  | some previous =>
    have taken : LspState.isNewerVersion (some version) previous.version = true := by
      unfold LspState.isNewerVersion
      cases known : previous.version with
      | none => rfl
      | some current =>
        refine decide_eq_true (newer current ?_)
        rw [LspState.document, found]
        exact known
    dsimp only
    rw [if_pos taken]
    exact ⟨_, rfl, rfl⟩

/-- The check of the version is the order of versions. -/
theorem any_le_iff (recorded : Option Int) (version : Int) :
    recorded.any (fun current => version ≤ current) = true ↔ ¬Newer version recorded := by
  cases recorded with
  | none => exact iff_of_false nofun fun old => old nofun
  | some current => simp [Newer]

theorem Opened.tidy {opening : Opening} {after : Adapter Path}
    (opened : Opened adapter path version trusted fate opening after) (tidy : adapter.Tidy) :
    after.Tidy := by
  refine ⟨opened.distinct tidy.distinct, fun other member => ?_⟩
  by_cases same : other = path
  · subst same
    cases recorded : opening.records with
    | true =>
      have known : (after.lspState.document other).bind (·.version) = some version :=
        (opened.records recorded).2.1
      cases found : after.lspState.document other with
      | none =>
        rw [found] at known
        cases known
      | some document => rfl
    | false =>
      rw [opened.kept recorded]
      refine tidy.known other ((opened.opens other member).resolve_right fun opens => ?_)
      cases recorded.symm.trans opens.2
  · rw [opened.others other same]
    exact tidy.known other ((opened.opens other member).resolve_right fun opens => same opens.1)

theorem openDocument_cases (versioned : Bool) (adapter : Adapter Path) (path : Path) (version : Int)
    (trusted : Bool) (fate : Fate) :
    Opened adapter path version trusted fate
      (adapter.openDocument versioned path version trusted fate).1
      (adapter.openDocument versioned path version trusted fate).2 := by
  unfold openDocument
  by_cases trusts : trusted = true
  swap
  · rw [(Bool.not_eq_true _).mp trusts]
    exact ⟨fun _ _ => rfl, fun _ => rfl, nofun, nofun, nofun, nofun, id, fun _ => .inl⟩
  rw [trusts]
  by_cases newer : Newer version (adapter.recorded path)
  swap
  · rw [if_neg (by decide), if_pos ((any_le_iff _ _).mpr newer)]
    exact ⟨fun _ _ => rfl, fun _ => rfl, nofun, fun _ => newer, fun _ _ => rfl,
      fun _ _ known => absurd known newer, id, fun _ => .inl⟩
  rw [if_neg (by decide), if_neg (mt (any_le_iff _ _).mp (not_not.mpr newer))]
  dsimp only
  have kept := disown_lspState versioned adapter path
  have fewer := disown_sublist versioned adapter path
  have retained : ∀ other ∈ ((adapter.disown versioned path).retain path).openDocuments,
      other ∈ adapter.openDocuments ∨ (other = path ∧ true = true) := fun other member =>
    (retain_subset _ path other member).imp (fun old => fewer.subset old) fun same => ⟨same, rfl⟩
  by_cases failed : (!versioned && decide (fate = .drainFails)) = true
  · rw [if_pos failed]
    refine ⟨fun _ _ => by rw [kept], fun _ => by rw [kept], nofun, nofun, fun _ => absurd newer,
      fun _ sent => ?_, fun nodup => fewer.nodup nodup, fun _ member => .inl (fewer.subset member)⟩
    rw [sent] at failed
    cases versioned <;> cases failed
  rw [if_neg failed]
  have known : Newer version
      (((adapter.disown versioned path).lspState.document path).bind (·.version)) := by
    rw [kept]
    exact newer
  obtain ⟨document, updated, recorded⟩ := updateDocument_newer known
  rw [updated]
  dsimp only
  have others : ∀ other, other ≠ path →
      (((adapter.disown versioned path).lspState.documents.set path document).get other) =
        adapter.lspState.document other := by
    intro other different
    rw [Dict.get_set_of_ne _ _ different, kept]
    rfl
  have records : (((adapter.disown versioned path).lspState.documents.set path document).get
      path).bind (·.version) = some version := by
    rw [Dict.get_set_self]
    exact recorded
  split_ifs with unsent unevicted
  · exact ⟨others, nofun, fun _ => ⟨rfl, records, newer⟩, nofun, fun _ => absurd newer,
      fun _ sent => absurd (unsent.symm.trans sent) nofun, fun nodup => fewer.nodup nodup,
      fun _ member => .inl (fewer.subset member)⟩
  · exact ⟨others, nofun, fun _ => ⟨rfl, records, newer⟩, nofun, fun _ => absurd newer,
      fun _ sent => absurd (unevicted.symm.trans sent) nofun,
      fun nodup => retain_nodup (fewer.nodup nodup) path, retained⟩
  · exact ⟨others, nofun, fun _ => ⟨rfl, records, newer⟩, nofun, fun _ => absurd newer,
      fun _ _ _ => ⟨rfl, mem_retain _ _⟩, fun nodup => retain_nodup (fewer.nodup nodup) path, retained⟩

end Adapter

/-! ### Reservations in a queue -/

namespace Job

variable {path : Path}

theorem reservations_flag (mark : Path → Int → Bool → Bool) (job : Job Path) :
    (job.flag mark).reservations path = (job.reservations path).map (.flag (mark path)) := by
  cases job with
  | load other reservation | loadDiagnostics other reservation =>
    simp only [flag, reservations]
    split
    · rename_i same
      rw [same]
      rfl
    · rfl
  | watch batch =>
    simp only [flag, reservations]
    cases batch.reserved path <;> rfl
  | reconcile batch documents =>
    simp only [flag, reservations]
    split
    · cases batch.reserved path <;> rfl
    · rfl
  | _ => rfl

end Job

theorem flatMap_flag (mark : Path → Int → Bool → Bool) (path : Path) (jobs : List (Job Path)) :
    (jobs.map (Job.flag mark)).flatMap (Job.reservations path) =
      (jobs.flatMap (Job.reservations path)).map (.flag (mark path)) := by
  induction jobs with
  | nil => rfl
  | cons job jobs ih =>
    rw [List.map_cons, List.flatMap_cons, List.flatMap_cons, List.map_append, ih,
      Job.reservations_flag]

/-- Reservations of other files are not overtaken. -/
theorem flatMap_overtake_other {path other : Path} (different : other ≠ path) (which : Int → Bool)
    (jobs : List (Job Path)) :
    (jobs.map (Job.flag fun file version overtaken =>
      overtaken || (file = path && which version))).flatMap (Job.reservations other) =
      jobs.flatMap (Job.reservations other) := by
  rw [flatMap_flag]
  refine (List.map_congr_left fun reservation _ => ?_).trans (List.map_id _)
  simp [Reservation.flag, different]

theorem flatMap_overtake (path : Path) (which : Int → Bool) (jobs : List (Job Path)) :
    (jobs.map (Job.flag fun file version overtaken =>
      overtaken || (file = path && which version))).flatMap (Job.reservations path) =
      (jobs.flatMap (Job.reservations path)).map
        (.flag fun version overtaken => overtaken || which version) := by
  rw [flatMap_flag]
  simp

/-! ### Every file -/

/-- What is claimed of a pass. -/
def Pass.Exact (pass : Pass Path) : Prop :=
  (Newer pass.version pass.recorded ↔ pass.overtaken = false) ∧
    (pass.opening = .stale → pass.overtaken = true)

namespace Runtime

variable (familyOf : Path → Family) (versioned : Family → Bool)

def recorded (runtime : Runtime Path Family) (path : Path) : Option Int :=
  (runtime.adapters (familyOf path)).recorded path

/-- The reservations of a file, in their order. -/
def pending (runtime : Runtime Path Family) (path : Path) : List Reservation :=
  (runtime.queues (familyOf path)).flatMap (Job.reservations path)

/-- Where a job may stand. An edit that has opened its document is the one under way. -/
def Placed (runtime : Runtime Path Family) (family : Family) : Job Path → Prop
  | .load path _ | .loadDiagnostics path _ => familyOf path = family
  | .notifyEdit path version => familyOf path = family ∧
      (runtime.adapters family).recorded path = some version ∧ version ≤ runtime.versions path
  | .reconcile _ documents => documents.Nodup
  | _ => True

/-- **Every file agrees.** -/
structure Synced (runtime : Runtime Path Family) : Prop where
  own : ∀ family path, familyOf path ≠ family →
    (runtime.adapters family).lspState.document path = none
  agrees : ∀ path, Agrees (runtime.versions path) (runtime.ahead path)
    (runtime.recorded familyOf path) (runtime.pending familyOf path)
  placed : ∀ family, ∀ job ∈ runtime.queues family, runtime.Placed familyOf family job
  waiting : ∀ family, ∀ job ∈ (runtime.queues family).tail, job.underWay = false
  tidy : ∀ family, (runtime.adapters family).Tidy
  exact : ∀ pass ∈ runtime.passes, pass.Exact

variable {familyOf versioned} {runtime before after : Runtime Path Family} {family : Family}
  {path : Path} {job : Job Path} {rest : List (Job Path)}

/-- A job that is not under way does not look at the record. -/
theorem Placed.of_waiting (placed : before.Placed familyOf family job)
    (waiting : job.underWay = false) : after.Placed familyOf family job := by
  cases job with
  | notifyEdit path version | reconcile batch documents => cases waiting
  | _ => exact placed

theorem placed_flag (mark : Path → Int → Bool → Bool) :
    runtime.Placed familyOf family (job.flag mark) ↔ runtime.Placed familyOf family job := by
  cases job <;> exact Iff.rfl

theorem underWay_flag (mark : Path → Int → Bool → Bool) :
    (job.flag mark).underWay = job.underWay := by
  cases job <;> rfl

/-- Documents of another family are not recorded. -/
theorem Synced.foreign (synced : Synced familyOf runtime) (other : familyOf path ≠ family) :
    (runtime.adapters family).recorded path = none := by
  rw [Adapter.recorded, synced.own family path other]
  rfl

/-- What a stage of the worker of one family leaves alone, where it concerns one of its files. -/
structure Frame (familyOf : Path → Family) (family : Family) (path : Path)
    (before after : Runtime Path Family) : Prop where
  versions : ∀ other, other ≠ path → after.versions other = before.versions other
  ahead : ∀ other, other ≠ path → after.ahead other = before.ahead other
  adapters : ∀ other, other ≠ family → after.adapters other = before.adapters other
  documents : ∀ other, other ≠ path → (after.adapters family).lspState.document other =
    (before.adapters family).lspState.document other
  queues : ∀ other, other ≠ family → after.queues other = before.queues other
  pending : ∀ other, other ≠ path → familyOf other = family →
    ((after.queues family).flatMap (Job.reservations other)).Sublist
      ((before.queues family).flatMap (Job.reservations other))

/-- **The frame rule**: only the file in question has to be looked at. -/
theorem Synced.frame (synced : Synced familyOf before) (frame : Frame familyOf family path before after)
    (home : familyOf path = family)
    (agrees : Agrees (after.versions path) (after.ahead path) ((after.adapters family).recorded path)
      ((after.queues family).flatMap (Job.reservations path)))
    (placed : ∀ job ∈ after.queues family, after.Placed familyOf family job)
    (waiting : ∀ job ∈ (after.queues family).tail, job.underWay = false)
    (tidy : (after.adapters family).Tidy)
    (exact : ∀ pass ∈ after.passes, pass.Exact) : Synced familyOf after := by
  subst home
  refine ⟨fun other file foreign => ?_, fun file => ?_, fun other job member => ?_,
    fun other => ?_, fun other => ?_, exact⟩
  · by_cases same : other = familyOf path
    · subst same
      rw [frame.documents file fun eq => foreign (by rw [eq])]
      exact synced.own _ file foreign
    · rw [frame.adapters other same]
      exact synced.own other file foreign
  · by_cases same : file = path
    · subst same
      exact agrees
    · have old := synced.agrees file
      rw [frame.versions file same, frame.ahead file same]
      by_cases home : familyOf file = familyOf path
      · rw [recorded, home, Adapter.recorded, frame.documents file same, pending, home]
        rw [recorded, home, pending, home] at old
        exact old.sublist (frame.pending file same home)
      · rw [recorded, frame.adapters _ home, pending, frame.queues _ home]
        exact old
  · by_cases same : other = familyOf path
    · subst same
      exact placed job member
    · rw [frame.queues other same] at member
      have old := synced.placed other job member
      cases job with
      | notifyEdit file version =>
        obtain ⟨home, recorded, bound⟩ := old
        have different : file ≠ path := fun eq => same (by rw [← home, eq])
        refine ⟨home, ?_, ?_⟩
        · rw [frame.adapters other same]
          exact recorded
        · rw [frame.versions file different]
          exact bound
      | _ => exact old
  · by_cases same : other = familyOf path
    · subst same
      exact waiting
    · rw [frame.queues other same]
      exact synced.waiting other
  · by_cases same : other = familyOf path
    · subst same
      exact tidy
    · rw [frame.adapters other same]
      exact synced.tidy other

/-- Another queue for one worker. -/
theorem Synced.requeue (synced : Synced familyOf runtime) (jobs : List (Job Path))
    (agrees : ∀ path, familyOf path = family →
      Agrees (runtime.versions path) (runtime.ahead path) (runtime.recorded familyOf path)
        (jobs.flatMap (Job.reservations path)))
    (placed : ∀ job ∈ jobs, runtime.Placed familyOf family job)
    (waiting : ∀ job ∈ jobs.tail, job.underWay = false) :
    Synced familyOf { runtime with queues := Function.update runtime.queues family jobs } := by
  have own : Function.update runtime.queues family jobs family = jobs := Function.update_self ..
  have others : ∀ other, other ≠ family →
      Function.update runtime.queues family jobs other = runtime.queues other :=
    fun other different => Function.update_of_ne different ..
  refine ⟨synced.own, fun path => ?_, fun other job member => ?_, fun other job member => ?_,
    synced.tidy, synced.exact⟩
  · by_cases home : familyOf path = family
    · have same := agrees path home
      rw [pending, home]
      simp only [own]
      exact same
    · rw [pending]
      simp only [others _ home]
      exact synced.agrees path
  · by_cases same : other = family
    · subst same
      simp only [own] at member
      have stands := placed job member
      cases job <;> exact stands
    · simp only [others other same] at member
      have stands := synced.placed other job member
      cases job <;> exact stands
  · by_cases same : other = family
    · subst same
      simp only [own] at member
      exact waiting job member
    · simp only [others other same] at member
      exact synced.waiting other job member

/-- Other open documents of one adapter. -/
theorem Synced.adapt (synced : Synced familyOf runtime) {adapter : Adapter Path}
    (same : adapter.lspState = (runtime.adapters family).lspState) (tidy : adapter.Tidy) :
    Synced familyOf { runtime with adapters := Function.update runtime.adapters family adapter } := by
  have documents : ∀ other,
      (Function.update runtime.adapters family adapter other).lspState =
        (runtime.adapters other).lspState := by
    intro other
    by_cases home : other = family
    · subst home
      rw [Function.update_self]
      exact same
    · rw [Function.update_of_ne home]
  refine ⟨fun other path foreign => ?_, fun path => ?_, fun other job member => ?_, synced.waiting,
    fun other => ?_, synced.exact⟩
  · rw [documents]
    exact synced.own other path foreign
  · rw [recorded, Adapter.recorded, documents]
    exact synced.agrees path
  · have stands := synced.placed other job member
    cases job with
    | notifyEdit path version =>
      obtain ⟨home, recorded, bound⟩ := stands
      refine ⟨home, ?_, bound⟩
      rw [Adapter.recorded, documents]
      exact recorded
    | _ => exact stands
  · by_cases home : other = family
    · subst home
      simp only [Function.update_self]
      exact tidy
    · simp only [Function.update_of_ne home]
      exact synced.tidy other

theorem Synced.log (synced : Synced familyOf runtime) {pass : Pass Path} (exact : pass.Exact) :
    Synced familyOf { runtime with passes := runtime.passes ++ [pass] } := by
  refine ⟨synced.own, synced.agrees, fun other job member => ?_, synced.waiting, synced.tidy, ?_⟩
  · have stands := synced.placed other job member
    cases job <;> exact stands
  · intro other member
    rcases List.mem_append.mp member with old | new
    · exact synced.exact other old
    · rw [List.mem_singleton.mp new]
      exact exact

/-! ### Reservations -/

/-- A version is reserved, whatever becomes of it. -/
theorem Synced.reserve (synced : Synced familyOf runtime) (path : Path) :
    Synced familyOf (runtime.reserve path) := by
  refine ⟨synced.own, fun other => ?_, fun family job member => ?_, synced.waiting, synced.tidy,
    synced.exact⟩
  · by_cases same : other = path
    · subst same
      have next := (synced.agrees other).reserve.sublist (List.sublist_append_left _ _)
      simp only [Runtime.reserve, Function.update_self]
      exact next
    · simp only [Runtime.reserve, Function.update_of_ne same]
      exact synced.agrees other
  · have stands := synced.placed family job member
    cases job with
    | notifyEdit other version =>
      obtain ⟨home, recorded, bound⟩ := stands
      refine ⟨home, recorded, Int.le_trans bound ?_⟩
      by_cases same : other = path
      · subst same
        simp only [Runtime.reserve, Function.update_self]
        omega
      · simp only [Runtime.reserve, Function.update_of_ne same]
        exact Int.le_refl _
    | _ => exact stands

/-- A reservation at the end of a queue. -/
theorem Synced.agrees_reserve (synced : Synced familyOf runtime) (path : Path) :
    Agrees ((runtime.reserve path).versions path) ((runtime.reserve path).ahead path)
      (runtime.recorded familyOf path)
      (runtime.pending familyOf path ++ [runtime.reservation path]) := by
  simp only [Runtime.reserve, Function.update_self]
  exact (synced.agrees path).reserve

theorem Synced.enqueue (synced : Synced familyOf runtime) (family : Family) (job : Job Path)
    (agrees : ∀ path, familyOf path = family →
      Agrees (runtime.versions path) (runtime.ahead path) (runtime.recorded familyOf path)
        (runtime.pending familyOf path ++ job.reservations path))
    (placed : runtime.Placed familyOf family job) (waiting : job.underWay = false) :
    Synced familyOf (runtime.enqueue family job) := by
  refine synced.requeue _ (fun path home => ?_) (fun other member => ?_) fun other member => ?_
  · rw [List.flatMap_append, List.flatMap_singleton]
    have same := agrees path home
    rw [pending, home] at same
    exact same
  · rcases List.mem_append.mp member with old | new
    · exact synced.placed family other old
    · rw [List.mem_singleton.mp new]
      exact placed
  · cases jobs : runtime.queues family with
    | nil =>
      rw [jobs] at member
      cases member
    | cons first rest =>
      rw [jobs, List.cons_append, List.tail_cons] at member
      rcases List.mem_append.mp member with old | new
      · refine synced.waiting family other ?_
        rw [jobs]
        exact old
      · rw [List.mem_singleton.mp new]
        exact waiting

/-- A load is submitted with its reservation. -/
theorem Synced.submit (synced : Synced familyOf runtime) (path : Path) {job : Job Path}
    (own : job.reservations path = [runtime.reservation path])
    (others : ∀ other, other ≠ path → job.reservations other = [])
    (placed : (runtime.reserve path).Placed familyOf (familyOf path) job)
    (waiting : job.underWay = false) :
    Synced familyOf ((runtime.reserve path).enqueue (familyOf path) job) := by
  refine (synced.reserve path).enqueue _ _ (fun other _ => ?_) placed waiting
  by_cases same : other = path
  · subst same
    rw [own]
    exact synced.agrees_reserve other
  · rw [others other same, List.append_nil]
    exact (synced.reserve path).agrees other

/-- The versions of a batch, next to the reservations that wait already. -/
theorem Synced.reserveChanged (events : List (Path × FileChangeType))
    (reserved : Path → Option Reservation) (synced : Synced familyOf runtime)
    (agrees : ∀ path, Agrees (runtime.versions path) (runtime.ahead path)
      (runtime.recorded familyOf path)
      (runtime.pending familyOf path ++ (reserved path).toList)) :
    Synced familyOf (runtime.reserveChanged events reserved).2 ∧
      ∀ path, Agrees ((runtime.reserveChanged events reserved).2.versions path)
        ((runtime.reserveChanged events reserved).2.ahead path)
        ((runtime.reserveChanged events reserved).2.recorded familyOf path)
        ((runtime.reserveChanged events reserved).2.pending familyOf path ++
          ((runtime.reserveChanged events reserved).1 path).toList) := by
  induction events generalizing reserved runtime with
  | nil => exact ⟨synced, agrees⟩
  | cons event rest ih =>
    obtain ⟨path, change⟩ := event
    cases change with
    | created | deleted => exact ih reserved synced agrees
    | changed =>
      refine ih _ (synced.reserve path) fun other => ?_
      by_cases same : other = path
      · subst same
        rw [Function.update_self]
        exact synced.agrees_reserve other
      · rw [Function.update_of_ne same]
        simp only [Runtime.reserve, Function.update_of_ne same]
        exact agrees other

theorem Synced.watch (synced : Synced familyOf runtime) (family : Family)
    (events : List (Path × FileChangeType)) : Synced familyOf (runtime.watch family events) := by
  obtain ⟨reserved, agrees⟩ := synced.reserveChanged events (fun _ => none) fun path => by
    rw [Option.toList_none, List.append_nil]
    exact synced.agrees path
  exact reserved.enqueue family _ (fun path _ => agrees path) trivial rfl

/-! ### The worker -/

/-- A worker with a job that it has taken off its queue: `held` are the reservations of the job. -/
structure Working (familyOf : Path → Family) (family : Family) (held : Path → List Reservation)
    (runtime : Runtime Path Family) : Prop where
  synced : Synced familyOf runtime
  agrees : ∀ path, familyOf path = family →
    Agrees (runtime.versions path) (runtime.ahead path) ((runtime.adapters family).recorded path)
      (held path ++ (runtime.queues family).flatMap (Job.reservations path))
  idle : ∀ job ∈ runtime.queues family, job.underWay = false

variable {held : Path → List Reservation} {reservation : Reservation}

theorem Synced.take (synced : Synced familyOf runtime) (taken : runtime.queues family = job :: rest) :
    Working familyOf family (fun path => job.reservations path)
      { runtime with queues := Function.update runtime.queues family rest } := by
  have waiting : ∀ other ∈ rest, other.underWay = false := by
    have all := synced.waiting family
    rw [taken] at all
    exact all
  have agrees : ∀ path, familyOf path = family → Agrees (runtime.versions path) (runtime.ahead path)
      (runtime.recorded familyOf path)
      (job.reservations path ++ rest.flatMap (Job.reservations path)) := by
    intro path home
    have same := synced.agrees path
    rw [pending, home, taken, List.flatMap_cons] at same
    exact same
  refine ⟨synced.requeue rest ?_ ?_ ?_, fun path home => ?_, ?_⟩
  · exact fun path home => (agrees path home).sublist (List.sublist_append_right _ _)
  · exact fun other member => synced.placed family other (by rw [taken]; exact .tail _ member)
  · exact fun other member => waiting other (List.mem_of_mem_tail member)
  · simp only [Function.update_self]
    have same := agrees path home
    rw [recorded, home] at same
    exact same
  · simp only [Function.update_self]
    exact waiting

/-- The job goes on with the reservations that are left. -/
theorem Working.resume (working : Working familyOf family held runtime)
    (fewer : ∀ path, (job.reservations path).Sublist (held path))
    (placed : runtime.Placed familyOf family job) : Synced familyOf (runtime.resume family job) := by
  refine working.synced.requeue _ (fun path home => ?_) (fun other member => ?_) working.idle
  · rw [List.flatMap_cons]
    have same := working.agrees path home
    rw [recorded, home]
    exact same.sublist ((fewer path).append (.refl _))
  · rcases List.mem_cons.mp member with rfl | old
    · exact placed
    · exact working.synced.placed family other old

theorem Working.adapt (working : Working familyOf family held runtime) {adapter : Adapter Path}
    (same : adapter.lspState = (runtime.adapters family).lspState) (tidy : adapter.Tidy) :
    Working familyOf family held
      { runtime with adapters := Function.update runtime.adapters family adapter } := by
  refine ⟨working.synced.adapt same tidy, fun path home => ?_, working.idle⟩
  simp only [Function.update_self]
  rw [Adapter.recorded, same]
  exact working.agrees path home

theorem Working.close (working : Working familyOf family held runtime) (path : Path) :
    Working familyOf family held (runtime.close family path) := by
  have tidy := working.synced.tidy family
  exact working.adapt rfl ⟨tidy.distinct.erase path,
    fun other member => tidy.known other (List.mem_of_mem_erase member)⟩

theorem frame_pass (familyOf : Path → Family) (versioned : Family → Bool)
    (runtime : Runtime Path Family) (family : Family) (path : Path) (version : Int) (overtaken : Bool)
    (arrival : Arrival) :
    Frame familyOf family path runtime
      (runtime.pass familyOf versioned family path version overtaken arrival).2 where
  versions _ _ := rfl
  ahead _ _ := rfl
  adapters _ different := Function.update_of_ne different ..
  documents other different := by
    simp only [Runtime.pass, Function.update_self]
    exact (Adapter.openDocument_cases ..).others other different
  queues _ _ := rfl
  pending _ _ _ := .refl _

theorem opened_pass (familyOf : Path → Family) (versioned : Family → Bool)
    (runtime : Runtime Path Family) (family : Family) (path : Path) (version : Int) (overtaken : Bool)
    (arrival : Arrival) :
    Adapter.Opened (runtime.adapters family) path version (arrival.trusted && familyOf path = family)
      arrival.fate (runtime.pass familyOf versioned family path version overtaken arrival).1
      ((runtime.pass familyOf versioned family path version overtaken arrival).2.adapters family) := by
  simp only [Runtime.pass, Function.update_self]
  exact Adapter.openDocument_cases ..

theorem exact_pass {version : Int} {overtaken : Bool} (old : ∀ pass ∈ runtime.passes, pass.Exact)
    (exact : Newer version ((runtime.adapters family).recorded path) ↔ overtaken = false)
    (arrival : Arrival) :
    ∀ pass ∈ (runtime.pass familyOf versioned family path version overtaken arrival).2.passes,
      pass.Exact := by
  intro pass member
  rcases List.mem_append.mp member with before | new
  · exact old pass before
  · rw [List.mem_singleton.mp new]
    refine ⟨exact, fun stale => (Bool.not_eq_false _).mp (mt exact.mpr ?_)⟩
    exact (opened_pass familyOf versioned runtime family path version overtaken arrival).refuses stale

/-- **A reserved version is passed.** -/
theorem Working.pass (working : Working familyOf family held runtime) (home : familyOf path = family)
    (own : held path = [reservation]) (arrival : Arrival) :
    Working familyOf family (Function.update held path [])
      (runtime.pass familyOf versioned family path reservation.version reservation.overtaken
        arrival).2 := by
  have opened := opened_pass familyOf versioned runtime family path reservation.version
    reservation.overtaken arrival
  have frame := frame_pass familyOf versioned runtime family path reservation.version
    reservation.overtaken arrival
  have agrees := working.agrees path home
  rw [own] at agrees
  have next : Agrees (runtime.versions path) (runtime.ahead path)
      (((runtime.pass familyOf versioned family path reservation.version reservation.overtaken
        arrival).2.adapters family).recorded path)
      ((runtime.queues family).flatMap (Job.reservations path)) := by
    cases recorded : (runtime.pass familyOf versioned family path reservation.version
        reservation.overtaken arrival).1.records with
    | true =>
      obtain ⟨-, same, newer⟩ := opened.records recorded
      rw [same]
      exact agrees.passed newer
    | false =>
      rw [Adapter.recorded, opened.kept recorded]
      exact agrees.sublist (List.sublist_append_right _ _)
  refine ⟨working.synced.frame frame home next ?_ ?_ ?_ ?_, fun other belongs => ?_, working.idle⟩
  · exact fun job member => (working.synced.placed family job member).of_waiting (working.idle job member)
  · exact fun job member => working.idle job (List.mem_of_mem_tail member)
  · exact opened.tidy (working.synced.tidy family)
  · exact exact_pass working.synced.exact (agrees.exact reservation (.head _)) arrival
  · by_cases same : other = path
    · subst same
      rw [Function.update_self]
      exact next
    · rw [Function.update_of_ne same, Adapter.recorded, frame.documents other same]
      exact working.agrees other belongs

theorem frame_reserve (familyOf : Path → Family) (runtime : Runtime Path Family) (family : Family)
    (path : Path) : Frame familyOf family path runtime (runtime.reserve path) where
  versions _ different := Function.update_of_ne different ..
  ahead _ different := Function.update_of_ne different ..
  adapters _ _ := rfl
  documents _ _ := rfl
  queues _ _ := rfl
  pending _ _ _ := .refl _

theorem Frame.trans {between : Runtime Path Family}
    (first : Frame familyOf family path before between)
    (second : Frame familyOf family path between after) : Frame familyOf family path before after where
  versions other different := (second.versions other different).trans (first.versions other different)
  ahead other different := (second.ahead other different).trans (first.ahead other different)
  adapters other different := (second.adapters other different).trans (first.adapters other different)
  documents other different :=
    (second.documents other different).trans (first.documents other different)
  queues other different := (second.queues other different).trans (first.queues other different)
  pending other different home :=
    (second.pending other different home).trans (first.pending other different home)

theorem Frame.overtake (frame : Frame familyOf family path before after) (which : Int → Bool) :
    Frame familyOf family path before (after.overtake family path which) where
  versions := frame.versions
  ahead := frame.ahead
  adapters := frame.adapters
  documents := frame.documents
  queues other different :=
    (Function.update_of_ne different ..).trans (frame.queues other different)
  pending other different home := by
    simp only [Runtime.overtake, Function.update_self]
    rw [flatMap_overtake_other different]
    exact frame.pending other different home

theorem Working.weaken {fewer : Path → List Reservation}
    (working : Working familyOf family held runtime) (sub : ∀ path, (fewer path).Sublist (held path)) :
    Working familyOf family fewer runtime :=
  ⟨working.synced, fun path home => (working.agrees path home).sublist ((sub path).append (.refl _)),
    working.idle⟩

/-- The worker holds no reservation. -/
abbrev Free (familyOf : Path → Family) (family : Family) (runtime : Runtime Path Family) : Prop :=
  Working familyOf family (fun _ => []) runtime

theorem Synced.free (synced : Synced familyOf runtime)
    (idle : ∀ job ∈ runtime.queues family, job.underWay = false) : Free familyOf family runtime := by
  refine ⟨synced, fun path home => ?_, idle⟩
  have same := synced.agrees path
  rw [recorded, pending, home] at same
  exact same

theorem Working.waits (working : Working familyOf family held runtime) :
    ∀ job ∈ runtime.queues family,
      job.underWay = false ∧ runtime.Placed familyOf family job := fun job member =>
  ⟨working.idle job member, working.synced.placed family job member⟩

theorem Working.waits_flag (working : Working familyOf family held runtime)
    (mark : Path → Int → Bool → Bool) :
    ∀ job ∈ (runtime.queues family).map (.flag mark),
      job.underWay = false ∧ runtime.Placed familyOf family job := by
  intro job member
  obtain ⟨old, found, rfl⟩ := List.mem_map.mp member
  rw [underWay_flag, placed_flag]
  exact working.waits old found

/-- The frame rule for a worker that holds nothing. -/
theorem Working.frame (free : Free familyOf family before)
    (frame : Frame familyOf family path before after) (home : familyOf path = family)
    (agrees : Agrees (after.versions path) (after.ahead path) ((after.adapters family).recorded path)
      ((after.queues family).flatMap (Job.reservations path)))
    (waits : ∀ job ∈ after.queues family,
      job.underWay = false ∧ before.Placed familyOf family job)
    (tidy : (after.adapters family).Tidy)
    (exact : ∀ pass ∈ after.passes, pass.Exact) : Free familyOf family after := by
  refine (free.synced.frame frame home agrees ?_ ?_ tidy exact).free fun job member =>
    (waits job member).1
  · exact fun job member => (waits job member).2.of_waiting (waits job member).1
  · exact fun job member => (waits job (List.mem_of_mem_tail member)).1

/-- A version is reserved in the worker and passed to the adapter of its file. -/
theorem Working.openNext_home (free : Free familyOf family runtime) (versioned : Family → Bool)
    (home : familyOf path = family) (arrival : Arrival) :
    Free familyOf family (runtime.openNext familyOf versioned family path arrival).2 ∧
      ((runtime.openNext familyOf versioned family path arrival).1.records = true →
        (runtime.openNext familyOf versioned family path arrival).2.Placed familyOf family
          (.notifyEdit path (runtime.versions path + 1))) := by
  have agrees := free.agrees path home
  have opened := opened_pass familyOf versioned (runtime.reserve path) family path
    (runtime.versions path + 1) (familyOf path = family && runtime.ahead path) arrival
  have frame := (frame_reserve familyOf runtime family path).trans
    (frame_pass familyOf versioned (runtime.reserve path) family path (runtime.versions path + 1)
      (familyOf path = family && runtime.ahead path) arrival)
  have newer : Newer (runtime.versions path + 1)
        (((runtime.reserve path).adapters family).recorded path) ↔
      (decide (familyOf path = family) && runtime.ahead path) = false := by
    rw [decide_eq_true home, Bool.true_and]
    exact agrees.next_newer
  have logged : ∀ pass ∈ ((runtime.reserve path).pass familyOf versioned family path
      (runtime.versions path + 1) (familyOf path = family && runtime.ahead path) arrival).2.passes,
      pass.Exact := exact_pass free.synced.exact newer arrival
  have versions : ((runtime.reserve path).pass familyOf versioned family path
      (runtime.versions path + 1) (familyOf path = family && runtime.ahead path)
      arrival).2.versions path = runtime.versions path + 1 := Function.update_self ..
  have ahead : ((runtime.reserve path).pass familyOf versioned family path
      (runtime.versions path + 1) (familyOf path = family && runtime.ahead path)
      arrival).2.ahead path = false := Function.update_self ..
  have queues : ((runtime.reserve path).pass familyOf versioned family path
      (runtime.versions path + 1) (familyOf path = family && runtime.ahead path)
      arrival).2.queues family = runtime.queues family := rfl
  unfold Runtime.openNext
  generalize (runtime.reserve path).pass familyOf versioned family path (runtime.versions path + 1)
    (familyOf path = family && runtime.ahead path) arrival = result
    at opened frame logged versions ahead queues ⊢
  dsimp only
  cases recorded : result.1.records with
  | true =>
    obtain ⟨-, same, -⟩ := opened.records recorded
    rw [if_pos rfl]
    refine ⟨free.frame (frame.overtake _) home ?_ ?_ (opened.tidy (free.synced.tidy family)) logged,
      fun _ => ⟨home, same, Int.le_of_eq versions.symm⟩⟩
    · simp only [Runtime.overtake, Function.update_self]
      rw [versions, ahead, same, queues, flatMap_overtake]
      simp only [Bool.or_true]
      exact agrees.opened
    · simp only [Runtime.overtake, Function.update_self]
      rw [queues]
      exact free.waits_flag _
  | false =>
    rw [if_neg Bool.false_ne_true]
    refine ⟨free.frame frame home ?_ ?_ (opened.tidy (free.synced.tidy family)) logged, nofun⟩
    · rw [versions, ahead, queues, Adapter.recorded, opened.kept recorded]
      exact agrees.reserve.sublist (List.sublist_append_left _ _)
    · rw [queues]
      exact free.waits

/-- An adapter has no file of another family in its inventory: the version is reserved and lost. -/
theorem Working.openNext_foreign (free : Free familyOf family runtime) (versioned : Family → Bool)
    (foreign : familyOf path ≠ family) (arrival : Arrival) :
    Free familyOf family (runtime.openNext familyOf versioned family path arrival).2 ∧
      (runtime.openNext familyOf versioned family path arrival).1 = .untrusted := by
  have untrusted : (runtime.adapters family).openDocument (versioned family) path
      (runtime.versions path + 1) false arrival.fate = (.untrusted, runtime.adapters family) := rfl
  have passed : runtime.openNext familyOf versioned family path arrival = (.untrusted,
      { runtime.reserve path with
        adapters := Function.update runtime.adapters family (runtime.adapters family)
        passes := runtime.passes ++ [⟨path, runtime.versions path + 1,
          (runtime.adapters family).recorded path, false, .untrusted⟩] }) := by
    unfold Runtime.openNext Runtime.pass
    simp only [Runtime.reserve, decide_eq_false foreign, Bool.false_and, Bool.and_false, untrusted]
    rfl
  have reserved : Synced familyOf { runtime.reserve path with
      adapters := Function.update runtime.adapters family (runtime.adapters family) } :=
    (free.synced.reserve path).adapt rfl (free.synced.tidy family)
  have exact : Pass.Exact ⟨path, runtime.versions path + 1,
      (runtime.adapters family).recorded path, false, .untrusted⟩ := by
    refine ⟨?_, nofun⟩
    rw [free.synced.foreign foreign]
    exact iff_of_true nofun rfl
  rw [passed]
  exact ⟨(reserved.log exact).free free.idle, rfl⟩

theorem Working.openNext (free : Free familyOf family runtime) (versioned : Family → Bool)
    (path : Path) (arrival : Arrival) :
    Free familyOf family (runtime.openNext familyOf versioned family path arrival).2 ∧
      ((runtime.openNext familyOf versioned family path arrival).1 = .opened →
        (runtime.openNext familyOf versioned family path arrival).2.Placed familyOf family
          (.notifyEdit path (runtime.versions path + 1))) := by
  by_cases home : familyOf path = family
  · obtain ⟨next, placed⟩ := free.openNext_home versioned home arrival
    refine ⟨next, fun opened => placed ?_⟩
    rw [opened]
    rfl
  · obtain ⟨next, untrusted⟩ := free.openNext_foreign versioned home arrival
    refine ⟨next, fun opened => ?_⟩
    cases untrusted.symm.trans opened

/-- **An installed edit is notified.** -/
theorem Working.notifyEdit {version : Int} (free : Free familyOf family runtime)
    (versioned : Family → Bool) (placed : runtime.Placed familyOf family (.notifyEdit path version))
    (arrival : Arrival) :
    Free familyOf family (runtime.notifyEdit familyOf versioned family path version arrival) := by
  obtain ⟨home, known, bound⟩ := placed
  have agrees := free.agrees path home
  rw [known] at agrees
  have opened := opened_pass familyOf versioned runtime family path (version + 1) false arrival
  have frame := frame_pass familyOf versioned runtime family path (version + 1) false arrival
  have newer : Newer (version + 1) ((runtime.adapters family).recorded path) ↔ false = false := by
    refine iff_of_true (fun current found => ?_) rfl
    cases known.symm.trans found
    omega
  have logged : ∀ pass ∈ (runtime.pass familyOf versioned family path (version + 1) false
      arrival).2.passes, pass.Exact := exact_pass free.synced.exact newer arrival
  have queues : (runtime.pass familyOf versioned family path (version + 1) false
      arrival).2.queues family = runtime.queues family := rfl
  have versions : (runtime.pass familyOf versioned family path (version + 1) false
      arrival).2.versions = runtime.versions := rfl
  have ahead : (runtime.pass familyOf versioned family path (version + 1) false
      arrival).2.ahead = runtime.ahead := rfl
  unfold Runtime.notifyEdit
  generalize runtime.pass familyOf versioned family path (version + 1) false arrival = result
    at opened frame logged queues versions ahead ⊢
  dsimp only
  cases recorded : result.1.records with
  | true =>
    obtain ⟨-, same, -⟩ := opened.records recorded
    rw [if_pos rfl]
    have marked := frame.overtake fun reserved => reserved = version + 1
    refine free.frame ⟨marked.versions, fun other different => ?_, marked.adapters, marked.documents,
      marked.queues, marked.pending⟩ home ?_ ?_ (opened.tidy (free.synced.tidy family)) logged
    · exact Function.update_of_ne different ..
    · simp only [Runtime.overtake, Function.update_self]
      rw [versions, same, queues, flatMap_overtake]
      exact agrees.notified bound
    · simp only [Runtime.overtake, Function.update_self]
      rw [queues]
      exact free.waits_flag _
  | false =>
    rw [if_neg Bool.false_ne_true]
    refine free.frame frame home ?_ ?_ (opened.tidy (free.synced.tidy family)) logged
    · rw [versions, ahead, queues, Adapter.recorded, opened.kept recorded]
      exact free.agrees path home
    · rw [queues]
      exact free.waits

/-- An unchanged open document is used again. -/
theorem Working.reuse {current : Int} (free : Free familyOf family runtime)
    (home : familyOf path = family)
    (known : (runtime.adapters family).recorded path = some current) (version : Int) (probed : Bool) :
    Synced familyOf (runtime.reuse family path version current probed) := by
  have tidy := free.synced.tidy family
  have retained : ((runtime.adapters family).retain path).Tidy := by
    refine ⟨Adapter.retain_nodup tidy.distinct path, fun other member => ?_⟩
    rcases Adapter.retain_subset _ path other member with old | rfl
    · exact tidy.known other old
    · cases found : (runtime.adapters family).lspState.document other with
      | none =>
        rw [Adapter.recorded, found] at known
        cases known
      | some document => exact congrArg Option.isSome found
  have moved : Free familyOf family { runtime with
      adapters := Function.update runtime.adapters family ((runtime.adapters family).retain path) } :=
    free.adapt rfl retained
  unfold Runtime.reuse
  dsimp only
  split
  · rename_i rolledBack
    simp only [Bool.and_eq_true, List.isEmpty_iff] at rolledBack
    have frame : Frame familyOf family path
        { runtime with
          adapters := Function.update runtime.adapters family
            ((runtime.adapters family).retain path) }
        { runtime with
          versions := Function.update runtime.versions path current
          adapters := Function.update runtime.adapters family
            ((runtime.adapters family).retain path)
          ahead := Function.update runtime.ahead path false } :=
      ⟨fun _ different => Function.update_of_ne different .., fun _ different =>
        Function.update_of_ne different .., fun _ _ => rfl, fun _ _ => rfl, fun _ _ => rfl,
        fun _ _ _ => .refl _⟩
    refine (moved.frame frame home ?_ moved.waits (moved.synced.tidy family)
      free.synced.exact).synced
    simp only [Function.update_self]
    have kept : ((runtime.adapters family).retain path).recorded path = some current := known
    rw [rolledBack.1.2, kept]
    exact Agrees.rolledBack current
  · exact moved.synced

theorem Working.loadDiagnostics (working : Working familyOf family held runtime)
    (versioned : Family → Bool) (home : familyOf path = family) (own : held path = [reservation])
    (outcome : Outcome) :
    Synced familyOf
      (runtime.loadDiagnostics familyOf versioned family path reservation outcome) := by
  have passed : Synced familyOf (runtime.pass familyOf versioned family path reservation.version
      reservation.overtaken outcome.arrival).2 := (working.pass home own outcome.arrival).synced
  unfold Runtime.loadDiagnostics
  split
  · rename_i current known
    split
    · exact (working.weaken fun _ => List.nil_sublist _).reuse home known _ _
    · exact passed
  · exact passed

/-- **One document of a watcher batch.** -/
theorem Working.reconcile {batch : Batch Path} {documents : List Path}
    (working : Working familyOf family
      (fun file => (Job.reconcile batch (path :: documents)).reservations file) runtime)
    (versioned : Family → Bool) (distinct : (path :: documents).Nodup) (outcome : Outcome) :
    Synced familyOf
      (runtime.reconcile familyOf versioned family batch path documents outcome) := by
  obtain ⟨outside, later⟩ := List.nodup_cons.mp distinct
  -- what the batch still holds once this document is done with
  have fewer : ∀ file, ((Job.reconcile batch documents).reservations file).Sublist
      (Function.update (fun file => (Job.reconcile batch (path :: documents)).reservations file)
        path [] file) := by
    intro file
    by_cases same : file = path
    · subst same
      simp only [Job.reservations, if_neg outside]
      exact List.nil_sublist _
    · rw [Function.update_of_ne same]
      simp only [Job.reservations, List.mem_cons, same, false_or]
      exact .refl _
  have skipped : Working familyOf family
      (fun file => (Job.reconcile batch documents).reservations file) runtime := by
    refine working.weaken fun file => (fewer file).trans ?_
    by_cases same : file = path
    · subst same
      rw [Function.update_self]
      exact List.nil_sublist _
    · rw [Function.update_of_ne same]
  have goes : ∀ next : Runtime Path Family, Working familyOf family
      (fun file => (Job.reconcile batch documents).reservations file) next →
      Synced familyOf (next.resume family (.reconcile batch documents)) :=
    fun next left => left.resume (fun _ => .refl _) later
  have closes : ∀ next : Runtime Path Family, Working familyOf family
      (fun file => (Job.reconcile batch documents).reservations file) next →
      Synced familyOf (if outcome.closes then
        (next.close family path).resume family (.reconcile batch documents)
        else next.close family path) := by
    intro next left
    split
    · exact goes _ (left.close path)
    · exact (left.close path).synced
  unfold Runtime.reconcile
  dsimp only
  split
  · exact goes _ (skipped.close path)
  · rename_i document found
    have home : familyOf path = family := by
      refine Decidable.byContradiction fun foreign => ?_
      cases found.symm.trans (working.synced.own family path foreign)
    split
    · exact closes _ skipped
    · split
      · exact goes _ skipped
      · split
        · rename_i reservation readable reserved
          have own : (Job.reconcile batch (path :: documents)).reservations path = [reservation] := by
            simp only [Job.reservations, List.mem_cons, true_or, if_true, reserved, Option.toList_some]
          have passed : Working familyOf family
              (fun file => (Job.reconcile batch documents).reservations file)
              (runtime.pass familyOf versioned family path reservation.version
                reservation.overtaken outcome.arrival).2 :=
            (working.pass home own outcome.arrival).weaken fewer
          generalize runtime.pass familyOf versioned family path reservation.version
            reservation.overtaken outcome.arrival = result at passed ⊢
          obtain ⟨opening, next⟩ := result
          cases opening with
          | opened => exact goes _ passed
          | untrusted | stale => exact closes _ passed
          | undrained | unsent => exact passed.synced
        · exact closes _ skipped

/-- **One stage of a job.** -/
theorem Working.stage (working : Working familyOf family (fun file => job.reservations file) runtime)
    (versioned : Family → Bool) (placed : runtime.Placed familyOf family job) (outcome : Outcome) :
    Synced familyOf (runtime.stage familyOf versioned family outcome job) := by
  have free := working.weaken fun _ => List.nil_sublist _
  cases job with
  | load path reservation =>
    exact (working.pass placed (if_pos rfl) outcome.arrival).synced
  | loadDiagnostics path reservation =>
    exact working.loadDiagnostics versioned placed (if_pos rfl) outcome
  | bindTargets targets =>
    cases targets with
    | nil => exact working.synced
    | cons path targets =>
      have next := (free.openNext versioned path outcome.arrival).1
      simp only [Runtime.stage]
      generalize runtime.openNext familyOf versioned family path outcome.arrival = result at next ⊢
      obtain ⟨opening, after⟩ := result
      cases opening with
      | opened => exact next.resume (fun _ => .refl _) trivial
      | _ => exact next.synced
  | edit path =>
    obtain ⟨next, placed⟩ := free.openNext versioned path outcome.arrival
    simp only [Runtime.stage]
    generalize runtime.openNext familyOf versioned family path outcome.arrival = result
      at next placed ⊢
    obtain ⟨opening, after⟩ := result
    cases opening with
    | opened => exact next.resume (fun _ => .refl _) (placed rfl)
    | _ => exact next.synced
  | notifyEdit path version => exact (free.notifyEdit versioned placed outcome.arrival).synced
  | watch batch =>
    refine working.resume (fun path => ?_) (working.synced.tidy family).distinct
    simp only [Job.reservations]
    split
    · exact .refl _
    · exact List.nil_sublist _
  | reconcile batch documents =>
    cases documents with
    | nil => exact working.synced
    | cons path documents => exact working.reconcile versioned placed outcome

theorem Synced.work (synced : Synced familyOf runtime) (versioned : Family → Bool) (family : Family)
    (outcome : Outcome) : Synced familyOf (runtime.work familyOf versioned family outcome) := by
  unfold Runtime.work
  split
  · exact synced
  · rename_i job rest taken
    have working := synced.take taken
    dsimp only
    split
    · have placed := synced.placed family job (by rw [taken]; exact .head _)
      refine working.stage versioned ?_ outcome
      cases job <;> exact placed
    · exact working.synced

/-- **The server process is replaced**: nothing is recorded, and nothing is overtaken any more. -/
theorem Synced.replaceProcess (synced : Synced familyOf runtime) (family : Family) :
    Synced familyOf (runtime.replaceProcess familyOf family) := by
  unfold Runtime.replaceProcess
  split
  · exact synced
  · rename_i between
    have idle : ∀ job ∈ runtime.queues family, job.underWay = false := by
      intro job member
      have later := synced.waiting family
      cases jobs : runtime.queues family with
      | nil =>
        rw [jobs] at member
        cases member
      | cons first rest =>
        rw [jobs] at member later between
        rcases List.mem_cons.mp member with rfl | old
        · exact (Bool.not_eq_true _).mp between
        · exact later job old
    have waits := (synced.free idle).waits_flag fun _ _ _ => false
    refine ⟨fun other path foreign => ?_, fun path => ?_, fun other job member => ?_,
      fun other job member => ?_, fun other => ?_, synced.exact⟩
    · by_cases same : other = family
      · subst same
        simp only [Function.update_self]
        rfl
      · simp only [Function.update_of_ne same]
        exact synced.own other path foreign
    · by_cases home : familyOf path = family
      · have replaced := (synced.agrees path).replaced
        rw [pending, home] at replaced
        simp only [recorded, pending, home, Function.update_self, if_true, flatMap_flag]
        exact replaced
      · simp only [recorded, pending, Function.update_of_ne home, if_neg home]
        exact synced.agrees path
    · by_cases same : other = family
      · subst same
        simp only [Function.update_self] at member
        exact (waits job member).2.of_waiting (waits job member).1
      · simp only [Function.update_of_ne same] at member
        have stands := synced.placed other job member
        cases job with
        | notifyEdit path version =>
          obtain ⟨home, known, bound⟩ := stands
          refine ⟨home, ?_, bound⟩
          simp only [Function.update_of_ne same]
          exact known
        | _ => exact stands
    · by_cases same : other = family
      · subst same
        simp only [Function.update_self] at member
        exact (waits job (List.mem_of_mem_tail member)).1
      · simp only [Function.update_of_ne same] at member
        exact synced.waiting other job member
    · by_cases same : other = family
      · subst same
        simp only [Function.update_self]
        exact ⟨.nil, nofun⟩
      · simp only [Function.update_of_ne same]
        exact synced.tidy other

/-! ### Every run -/

/-- **Every step keeps every file in agreement.** -/
theorem Synced.call (synced : Synced familyOf runtime) (versioned : Family → Bool)
    (call : Call Path Family) : Synced familyOf (runtime.call familyOf versioned call) := by
  have unreserved : ∀ (family : Family) (job : Job Path), job.underWay = false →
      (∀ path, job.reservations path = []) → runtime.Placed familyOf family job →
      Synced familyOf (runtime.enqueue family job) := by
    intro family job waiting none placed
    refine synced.enqueue family job (fun path _ => ?_) placed waiting
    rw [none path, List.append_nil]
    exact synced.agrees path
  cases call with
  | load path | loadDiagnostics path =>
    exact synced.submit path (if_pos rfl) (fun other different => if_neg different.symm) rfl rfl
  | bindTargets family targets => exact unreserved family _ rfl (fun _ => rfl) trivial
  | edit path => exact unreserved (familyOf path) _ rfl (fun _ => rfl) trivial
  | watch family events => exact synced.watch family events
  | work family outcome => exact synced.work versioned family outcome
  | replaceProcess family => exact synced.replaceProcess family

section

variable {batch : Batch Path} {documents : List Path} {outcome : Outcome}

section

variable {next : Runtime Path Family}
  (known : ((runtime.adapters family).lspState.document path).isSome = true)
  (changed : (path, .changed) ∈ batch.events) (undeleted : (path, .deleted) ∉ batch.events)
  (reserved : batch.reserved path = some reservation) (readable : outcome.readable = true)

include known changed undeleted reserved readable

/-- A batch whose version is taken goes on. -/
theorem reconcile_opened
    (passed : runtime.pass familyOf versioned family path reservation.version reservation.overtaken
      outcome.arrival = (.opened, next)) :
    runtime.reconcile familyOf versioned family batch path documents outcome =
      next.resume family (.reconcile batch documents) := by
  obtain ⟨document, found⟩ := Option.isSome_iff_exists.mp known
  unfold Runtime.reconcile
  simp only [found, if_neg undeleted, not_true_eq_false, changed, if_false, readable, reserved, passed]

/-- A batch whose version is refused closes the document. -/
theorem reconcile_stale
    (passed : runtime.pass familyOf versioned family path reservation.version reservation.overtaken
      outcome.arrival = (.stale, next)) :
    runtime.reconcile familyOf versioned family batch path documents outcome =
      if outcome.closes then (next.close family path).resume family (.reconcile batch documents)
      else next.close family path := by
  obtain ⟨document, found⟩ := Option.isSome_iff_exists.mp known
  unfold Runtime.reconcile
  simp only [found, if_neg undeleted, not_true_eq_false, changed, if_false, readable, reserved, passed]

end

/-- **Delivery.** A changed document that is open when its batch gets to it is opened with the version
of the batch, and stays open, if that was not overtaken; otherwise it is closed. -/
theorem Working.delivered
    (working : Working familyOf family
      (fun file => (Job.reconcile batch (path :: documents)).reservations file) runtime)
    (versioned : Family → Bool) (isOpen : path ∈ (runtime.adapters family).openDocuments)
    (changed : (path, .changed) ∈ batch.events) (undeleted : (path, .deleted) ∉ batch.events)
    (reserved : batch.reserved path = some reservation) (readable : outcome.readable = true)
    (arrival : outcome.arrival = ⟨true, .sent⟩) :
    (reservation.overtaken = false →
      path ∈ ((runtime.reconcile familyOf versioned family batch path documents outcome).adapters
        family).openDocuments ∧
      ((runtime.reconcile familyOf versioned family batch path documents outcome).adapters
        family).recorded path = some reservation.version) ∧
      (reservation.overtaken = true →
        path ∉ ((runtime.reconcile familyOf versioned family batch path documents outcome).adapters
          family).openDocuments) := by
  have tidy := working.synced.tidy family
  have known := tidy.known path isOpen
  have home : familyOf path = family := by
    refine Decidable.byContradiction fun foreign => ?_
    rw [working.synced.own family path foreign] at known
    cases known
  have held : reservation ∈ (Job.reconcile batch (path :: documents)).reservations path := by
    simp only [Job.reservations, List.mem_cons, true_or, if_true, reserved, Option.toList_some]
  have exact := (working.agrees path home).exact reservation (List.mem_append_left _ held)
  have opened := opened_pass familyOf versioned runtime family path reservation.version
    reservation.overtaken outcome.arrival
  generalize passed : runtime.pass familyOf versioned family path reservation.version
    reservation.overtaken outcome.arrival = result at opened
  obtain ⟨opening, next⟩ := result
  have trusts : (outcome.arrival.trusted && decide (familyOf path = family)) = true := by
    rw [arrival, decide_eq_true home]
    rfl
  constructor
  · intro current
    obtain ⟨rfl, stays⟩ := opened.delivers trusts (by rw [arrival]) (exact.mpr current)
    rw [reconcile_opened known changed undeleted reserved readable passed]
    exact ⟨stays, (opened.records rfl).2.1⟩
  · intro overtaken
    have stale : opening = .stale := by
      refine opened.refused trusts fun newer => ?_
      cases overtaken.symm.trans (exact.mp newer)
    subst stale
    have closed : path ∉ ((next.close family path).adapters family).openDocuments := by
      simp only [Runtime.close, Function.update_self]
      exact (opened.distinct tidy.distinct).not_mem_erase
    rw [reconcile_stale known changed undeleted reserved readable passed]
    split
    · exact closed
    · exact closed

end

end Runtime

/-- The same with the batch reserved while the edit, which its caller has given up, is under way. -/
example :
    ((Runtime.run (fun _ : Nat => ()) (fun _ => true)
      [.edit 7, .work () {}, .watch () [(7, .changed)], .work () {}, .work () {}, .work () {}]).adapters
        ()).openDocuments = [] := by decide +kernel

end SerenaLight.Workspace.DocumentVersions

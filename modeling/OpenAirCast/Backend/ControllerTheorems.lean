/-
Backend.ControllerTheorems — what the controller's shared
operations leave alone.

Three views of a controller carry the results about it. `Ledger` is the
durable document with everything that has to agree with it or be gated by
it. `Engine` is the machinery behind the session: inventory, machines,
deadlines, the generation counter. `sent` is what it asked of the session
supervisor. Publishing, answering and recording a result touch none of
them (`Frame`); the machinery's own operations keep the ledger (`Keeps`).
The durable transaction is summed up in `commitDurable_cases`: it applies
the whole change or nothing.
-/
import OpenAirCast.Backend.Controller

namespace OpenAirCast.Backend

open List

namespace Controller

/-! ## Views -/

/-- The snapshot fields that mirror the document, with the selection's
revision and the run intent. The groups count as a collection: publishing
sorts them. -/
structure Kept where
  desiredMembers : Finset ReceiverId
  desiredRevision : Nat
  runIntent : RunIntent
  masterVolume : Volume
  receiverLevels : SortedMap ReceiverId Volume
  muted : Bool
  latencyPreset : LatencyPreset
  autoConnect : Bool
  preference : AudioEndpointPreference
  groups : Multiset SavedGroupSnapshot

def kept (s : FullSnapshot) : Kept where
  desiredMembers := s.desiredMembers
  desiredRevision := s.desiredRevision
  runIntent := s.runIntent
  masterVolume := s.masterVolume
  receiverLevels := s.receiverLevels
  muted := s.muted
  latencyPreset := s.latencyPreset
  autoConnect := s.autoConnect
  preference := s.audioSource.preference
  groups := s.savedGroups

structure Ledger where
  persisted : PersistedState
  taken : List PersistedState
  calibration : CalibrationProfile
  startup : Option Instant
  kept : Kept

def ledger (c : Controller) : Ledger where
  persisted := c.persisted
  taken := c.attempts.filterMap SaveAttempt.taken
  calibration := c.calibration
  startup := c.startupAutoConnectUntil
  kept := Controller.kept c.snapshot

structure Engine where
  inventory : SortedMap ReceiverId InventoryEntry
  machines : SortedMap ReceiverId ReceiverMachine
  retry : RetryState
  rejoin : RejoinRestartLimiter
  primary : Option ReceiverId
  active : Finset ReceiverId
  pendingDesired : Finset ReceiverId
  suspended : Bool
  resumeAt : Option Instant
  sessionGeneration : Nat

def engine (c : Controller) : Engine where
  inventory := c.inventory
  machines := c.machines
  retry := c.retry
  rejoin := c.rejoin
  primary := c.primary
  active := c.active
  pendingDesired := c.pendingDesired
  suspended := c.suspended
  resumeAt := c.resumeAt
  sessionGeneration := c.sessionGeneration

/-- The request an emission carries to the session supervisor. -/
def requestOf : Emission → Option SessionRequest
  | .request request => some request
  | _ => none

/-- The snapshot an emission publishes. -/
def publicationOf : Emission → Option FullSnapshot
  | .publish snapshot => some snapshot
  | _ => none

/-- The receipt an emission answers, with the answer. -/
def answerOf : Emission → Option (ReceiptId × CommandConfirmation)
  | .confirm receipt confirmation => some (receipt, confirmation)
  | _ => none

/-- What the session supervisor was asked, first to last. -/
def sent (c : Controller) : List SessionRequest := c.out.filterMap requestOf

/-- The newest recorded result. -/
def lastOutcome (c : Controller) : Option (Nat × Option CommandFailure) :=
  c.snapshot.commandOutcomes.recent.getLast?

/-- Nothing but presentation changes between the two. -/
structure Frame (c c' : Controller) : Prop where
  ledger : c'.ledger = c.ledger
  engine : c'.engine = c.engine
  sent : c'.sent = c.sent
  revision : c.snapshot.revision ≤ c'.snapshot.revision

/-- The ledger stays and no revision is taken back. -/
structure Keeps (c c' : Controller) : Prop where
  ledger : c'.ledger = c.ledger
  revision : c.snapshot.revision ≤ c'.snapshot.revision

variable (c : Controller)

theorem Frame.refl : Frame c c := ⟨rfl, rfl, rfl, le_refl _⟩

theorem Frame.trans {a b c : Controller} (ha : Frame a b) (hb : Frame b c) : Frame a c :=
  ⟨hb.ledger.trans ha.ledger, hb.engine.trans ha.engine, hb.sent.trans ha.sent,
    le_trans ha.revision hb.revision⟩

theorem Frame.keeps {c c' : Controller} (h : Frame c c') : Keeps c c' := ⟨h.ledger, h.revision⟩

theorem Keeps.trans {a b c : Controller} (ha : Keeps a b) (hb : Keeps b c) : Keeps a c :=
  ⟨hb.ledger.trans ha.ledger, le_trans ha.revision hb.revision⟩

theorem Keeps.of_eq {c c' : Controller} (hl : c'.ledger = c.ledger)
    (hs : c'.snapshot = c.snapshot) : Keeps c c' :=
  ⟨hl, by rw [hs]⟩

theorem Frame.foldl {α : Type} {f : Controller → α → Controller} (hf : ∀ c a, Frame c (f c a)) :
    ∀ (l : List α) (c : Controller), Frame c (l.foldl f c)
  | [], c => Frame.refl c
  | a :: rest, c => (hf c a).trans (Frame.foldl hf rest (f c a))

theorem frame_ite {c a b : Controller} {p : Prop} [Decidable p] (ha : Frame c a)
    (hb : Frame c b) : Frame c (if p then a else b) := by
  split
  · exact ha
  · exact hb

/-! ## Emissions and results -/

theorem sent_emit (em : Emission) : (c.emit em).sent = c.sent ++ (requestOf em).toList := by
  unfold sent emit
  rw [filterMap_append]
  cases em <;> rfl

variable {em : Emission}

theorem emit_frame (h : requestOf em = none) : Frame c (c.emit em) where
  ledger := rfl
  engine := rfl
  sent := by rw [sent_emit, h, Option.toList_none, append_nil]
  revision := le_refl _

theorem getLast?_record (outs : CommandOutcomes) (id : Nat) (err : Option CommandFailure) :
    (outs.record id err).recent.getLast? = some (id, err) := by
  unfold CommandOutcomes.record OUTCOME_CAPACITY
  simp only
  rw [getLast?_drop, if_neg, getLast?_append]
  · rfl
  · simp only [length_append, length_singleton]
    omega

section

variable (c : Controller)

theorem outcomes_frame (outs : CommandOutcomes) (h : requestOf em = none) :
    Frame c ({ c with snapshot := { c.snapshot with commandOutcomes := outs } }.emit em) where
  ledger := rfl
  engine := rfl
  sent := by
    rw [sent_emit, h, Option.toList_none, append_nil]
    rfl
  revision := le_refl _

variable (id : Nat)

theorem complete_frame : Frame c (c.complete id) := outcomes_frame c _ rfl

variable (msg : String)

theorem failWithKind_frame (kind : CommandFailure) : Frame c (c.failWithKind id msg kind) :=
  outcomes_frame c _ rfl

theorem fail_frame : Frame c (c.fail id msg) := failWithKind_frame c id msg .rejected

theorem emit_lastOutcome (em : Emission) : (c.emit em).lastOutcome = c.lastOutcome := rfl

theorem complete_lastOutcome : (c.complete id).lastOutcome = some (id, none) :=
  getLast?_record _ _ _

theorem fail_lastOutcome : (c.fail id msg).lastOutcome = some (id, some .rejected) :=
  getLast?_record _ _ _

theorem notePersistenceFailure_frame : Frame c (c.notePersistenceFailure id) := by
  have hs : Frame c { c with snapshot := { c.snapshot with persistence := .error } } :=
    ⟨rfl, rfl, rfl, le_refl _⟩
  exact (hs.trans (emit_frame _ rfl)).trans (failWithKind_frame _ _ _ _)

theorem notePersistenceFailure_lastOutcome :
    (c.notePersistenceFailure id).lastOutcome = some (id, some .persistence) :=
  getLast?_record _ _ _

end

/-! ## The machinery -/

theorem rememberEffectiveVolumes_frame : Frame c c.rememberEffectiveVolumes :=
  Frame.foldl (fun c _ => emit_frame c rfl) _ c

theorem attemptSave_ledger (ports : Ports) (id : Nat) (write : StoreWrite) :
    (c.attemptSave ports id write).ledger = { c.ledger with
      taken := c.taken ++ (SaveAttempt.taken ⟨id, write, ports.answer id write⟩).toList } := by
  unfold attemptSave ledger Controller.taken
  rw [filterMap_append]
  cases ht : SaveAttempt.taken ⟨id, write, ports.answer id write⟩ <;> simp [ht]

/-- A write of which the store has no document changes nothing but the log. -/
theorem attemptSave_frame {ports : Ports} {id : Nat} {write : StoreWrite}
    (h : SaveAttempt.taken ⟨id, write, ports.answer id write⟩ = none) :
    Frame c (c.attemptSave ports id write) where
  ledger := by
    rw [attemptSave_ledger, h]
    simp [ledger, Controller.taken]
  engine := rfl
  sent := rfl
  revision := le_refl _

theorem taken_refused {ports : Ports} {id : Nat} {state : PersistedState}
    (h : ports.saves id = false) :
    SaveAttempt.taken ⟨id, .document state, ports.answer id (.document state)⟩ = none := by
  simp [SaveAttempt.taken, Ports.answer, h]

theorem adoptDocument_ledger (commit : DurableCommit) (cand : PersistedState) :
    (c.adoptDocument commit cand).ledger = { c.ledger with
        persisted := cand
        kept := kept (commit.announce
          { c.snapshot with receiverLevels := cand.receiverLevels }) } := by
  unfold adoptDocument
  simp only
  split <;> split <;> rfl

/-- A change of the snapshot that no view reads. -/
structure Cosmetic (change : FullSnapshot → FullSnapshot) : Prop where
  kept : ∀ s, Controller.kept (change s) = Controller.kept s
  revision : ∀ s, (change s).revision = s.revision

/-! ## Publication -/

theorem listening_frame (guard : Option ListeningTestGuard) : Frame c (match guard with
      | some guard =>
        if guard.isFor c.snapshot then c else { c with listeningTest := none }.emit .cancelTone
      | none => c) := by
  cases guard with
  | none => exact Frame.refl c
  | some =>
    have hd : Frame c { c with listeningTest := none } := ⟨rfl, rfl, rfl, le_refl _⟩
    exact frame_ite (Frame.refl c) (hd.trans (emit_frame _ rfl))

variable [Lowercase]

theorem sortForPublication_kept (s : FullSnapshot) : kept s.sortForPublication = kept s := by
  have hp : (s.sortForPublication.savedGroups : Multiset SavedGroupSnapshot) = s.savedGroups :=
    Multiset.coe_eq_coe.mpr (perm_insertionSort _ _)
  unfold kept
  rw [hp]
  rfl

theorem published_frame : Frame c ({ c with
      snapshot := { c.snapshot with revision := c.snapshot.revision + 1 }.sortForPublication
      published := { c.snapshot with
        revision := c.snapshot.revision + 1 }.sortForPublication.commandOutcomes }.emit
          (.publish { c.snapshot with
            revision := c.snapshot.revision + 1 }.sortForPublication)) where
  ledger := by
    show Ledger.mk _ _ _ _ (kept (FullSnapshot.sortForPublication _)) = _
    rw [sortForPublication_kept]
    rfl
  engine := rfl
  sent := by
    rw [sent_emit]
    exact append_nil _
  revision := Nat.le_succ _

/-- What a publication makes of the snapshot. -/
def posted (c : Controller) : FullSnapshot :=
  { c.snapshot with revision := c.snapshot.revision + 1 }.sortForPublication

theorem publish_eq : ∃ tone listening, (tone = [] ∨ tone = [Emission.cancelTone]) ∧
      c.publish = { c with
        listeningTest := listening
        snapshot := c.posted
        published := c.posted.commandOutcomes
        out := c.out ++ tone ++ [.publish c.posted] } := by
  unfold publish
  cases hg : c.listeningTest with
  | none => exact ⟨[], none, .inl rfl, by simp [emit, posted, hg]⟩
  | some guard =>
    dsimp only
    split
    · exact ⟨[], some guard, .inl rfl, by simp [emit, posted, hg]⟩
    · exact ⟨[.cancelTone], none, .inr rfl, by simp [emit, posted]⟩

theorem publish_frame : Frame c c.publish :=
  (listening_frame c c.listeningTest).trans (published_frame _)

theorem publish_lastOutcome : c.publish.lastOutcome = c.lastOutcome := by
  unfold publish lastOutcome
  cases hg : c.listeningTest with
  | none => rfl
  | some =>
    simp only
    split <;> rfl

theorem publish_revision : c.publish.snapshot.revision = c.snapshot.revision + 1 := by
  unfold publish
  cases hg : c.listeningTest with
  | none => rfl
  | some =>
    simp only
    split <;> rfl

theorem maybePublish_frame {next : FullSnapshot}
    (hk : kept next = kept c.snapshot) (hr : next.revision = c.snapshot.revision) :
    Frame c (c.maybePublish next) := by
  have hs : Frame c { c with snapshot := next } :=
    ⟨by simp only [ledger, hk], rfl, rfl, le_of_eq hr.symm⟩
  exact frame_ite (Frame.refl c) (hs.trans (publish_frame _))

theorem amend_frame {chg : FullSnapshot → FullSnapshot}
    (h : Cosmetic chg) : Frame c (c.amend chg) :=
  maybePublish_frame c (h.kept _) (h.revision _)

theorem amendSession_frame (chg : FullSession → FullSession) : Frame c (c.amendSession chg) :=
  amend_frame c ⟨fun _ => rfl, fun _ => rfl⟩

/-! ## Rows and machines -/

theorem amendRows_frame {chg : FullSnapshot → FullSnapshot}
    (h : Cosmetic chg) : Frame c.settleMachines (c.amendRows chg) :=
  maybePublish_frame _ (h.kept _) (h.revision _)

/-! ## The durable transaction -/

/-- The four ways a transaction ends. Only an applied one changes anything
beyond the recorded result. -/
theorem commitDurable_cases (ports : Ports) (id : Nat)
    (commit : DurableCommit) {mutate : PersistedState → PersistedState}
    (hm : commit.mutatePersisted = some mutate) {r : Controller × CommitOutcome}
    (hr : c.commitDurable ports id commit = r) :
    (∃ e, (mutate c.persisted).validate = .error e ∧ r.2 = .rejected ∧ Frame c r.1 ∧
      r.1.lastOutcome = some (id, some .rejected)) ∨
    ((mutate c.persisted).validate = .ok () ∧ (mutate c.persisted == c.persisted) = true ∧
      r.2 = .unchanged ∧ Frame c r.1 ∧ r.1.lastOutcome = some (id, none)) ∨
    ((mutate c.persisted).validate = .ok () ∧ (mutate c.persisted == c.persisted) = false ∧
      ports.saves id = true ∧ r.2 = .applied ∧
      Frame ((c.attemptSave ports id (.document (mutate c.persisted))).adoptDocument commit
        (mutate c.persisted)) r.1 ∧
      ((c.attemptSave ports id (.document (mutate c.persisted))).adoptDocument commit
        (mutate c.persisted)).snapshot.revision < r.1.snapshot.revision ∧
      r.1.lastOutcome = some (id, none)) ∨
    ((mutate c.persisted).validate = .ok () ∧ (mutate c.persisted == c.persisted) = false ∧
      ports.saves id = false ∧ r.2 = .failed ∧ Frame c r.1 ∧
      r.1.lastOutcome = some (id, some .persistence)) := by
  subst hr
  unfold commitDurable
  rw [hm]
  dsimp only
  cases hv : (mutate c.persisted).validate with
  | error e => exact .inl ⟨e, rfl, rfl, fail_frame _ _ _, fail_lastOutcome _ _ _⟩
  | ok =>
    cases hs : mutate c.persisted == c.persisted with
    | true => exact .inr (.inl ⟨rfl, rfl, rfl, complete_frame _ _, complete_lastOutcome _ _⟩)
    | false =>
      cases ha : ports.saves id with
      | true =>
        refine .inr (.inr (.inl ⟨rfl, rfl, rfl, rfl, ?_, ?_, ?_⟩))
        · exact (complete_frame _ _).trans (publish_frame _)
        · have hle := (complete_frame ((c.attemptSave ports id (.document (mutate c.persisted)))
            |>.adoptDocument commit (mutate c.persisted)) id).revision
          exact Nat.lt_of_le_of_lt hle (by
            show _ < (Controller.publish _).snapshot.revision
            rw [publish_revision]
            exact Nat.lt_succ_self _)
        · exact (publish_lastOutcome _).trans (complete_lastOutcome _ _)
      | false =>
        refine .inr (.inr (.inr ⟨rfl, rfl, rfl, rfl, ?_, ?_⟩))
        · exact ((attemptSave_frame c (taken_refused ha)).trans
            (notePersistenceFailure_frame _ _)).trans (publish_frame _)
        · exact (publish_lastOutcome _).trans (notePersistenceFailure_lastOutcome _ _)

/-! ## Platform edges -/

end Controller

end OpenAirCast.Backend

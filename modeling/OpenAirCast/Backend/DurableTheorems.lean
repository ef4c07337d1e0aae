/-
Backend.DurableTheorems — what the controller announces is what
the store has taken.

`InSync` says it of one state: the document in memory is the newest the
store has, it validates, every mirrored snapshot field equals its own, and
the selection's revision counts the saved changes of the selection. Each
command keeps it (`execute_inSync`) because each transaction announces
exactly what it stores (`Mirrors`), and the other events touch none of it.

A command that ends in an error leaves the ledger as it found it, with one
exception: disabling auto-connect clears the armed launch start before the
save is attempted. `disarms` is the batch in which that shows.
-/
import OpenAirCast.Backend.LoopTheorems

namespace OpenAirCast.Backend.Controller

open Multiset List Option Batch Controller

/-! ## Agreement with the document -/

/-- The mirrored snapshot fields are the document's. -/
structure Agrees (p : PersistedState) (k : Kept) : Prop where
  desiredMembers : k.desiredMembers = p.lastDesiredMembers
  masterVolume : k.masterVolume = p.masterVolume
  muted : k.muted = p.muted
  receiverLevels : k.receiverLevels = p.receiverLevels
  latencyPreset : k.latencyPreset = p.latencyPreset
  autoConnect : k.autoConnect = p.autoConnect
  preference : k.preference = p.audioEndpoint
  groups : k.groups = (p.savedGroups.map SavedGroup.snapshot : List SavedGroupSnapshot)

/-- How often the selection differs from the document before. -/
def membershipChanges : List PersistedState → Nat
  | [] => 0
  | [_] => 0
  | a :: b :: rest =>
    (if a.lastDesiredMembers = b.lastDesiredMembers then 0 else 1) + membershipChanges (b :: rest)

theorem membershipChanges_concat (cand : PersistedState) :
    ∀ {history : List PersistedState} {p : PersistedState}, history.getLast? = some p →
      membershipChanges (history ++ [cand]) = membershipChanges history
        + if p.lastDesiredMembers = cand.lastDesiredMembers then 0 else 1
  | [], p, h => by simp at h
  | [a], p, h => by
      obtain rfl : a = p := by simpa using h
      simp [membershipChanges]
  | a :: b :: rest, p, h => by
      have hl : (b :: rest).getLast? = some p := by simpa using h
      have ih := membershipChanges_concat cand hl
      simp only [cons_append, membershipChanges] at ih ⊢
      rw [ih]
      omega

/-- The document and its mirror stay; the run intent, the armed start and
the calibration may move. -/
structure SameBooks (c c' : Controller) : Prop where
  persisted : c'.persisted = c.persisted
  taken : c'.taken = c.taken
  kept : { kept c'.snapshot with
    runIntent := c.snapshot.runIntent } = kept c.snapshot
  revision : c.snapshot.revision ≤ c'.snapshot.revision

variable {c : Controller} {c' : Controller}

theorem Keeps.sameBooks (h : Keeps c c') : SameBooks c c' := by
  have hk : kept c'.snapshot = kept c.snapshot := congrArg Ledger.kept h.ledger
  exact ⟨congrArg Ledger.persisted h.ledger, congrArg Ledger.taken h.ledger,
    by rw [hk]; rfl, h.revision⟩

theorem SameBooks.trans {a b c : Controller} (ha : SameBooks a b) (hb : SameBooks b c) :
    SameBooks a c where
  persisted := hb.persisted.trans ha.persisted
  taken := hb.taken.trans ha.taken
  kept := by
    have h := ha.kept
    rw [← hb.kept] at h
    exact h
  revision := le_trans ha.revision hb.revision

/-- The revision bound only moves away. -/
theorem not_crashed_of_le (h : c.snapshot.revision ≤ c'.snapshot.revision)
    (hc : ¬ c'.crashed) : ¬ c.crashed := by
  unfold crashed at hc ⊢
  omega

/-- The announcement says what the transaction stores, and counts a changed
selection. -/
structure Mirrors (p : PersistedState) (mutate : PersistedState → PersistedState)
    (announce : FullSnapshot → FullSnapshot) : Prop where
  agrees : ∀ s, Agrees p (kept s) → Agrees (mutate p) (kept (announce
      { s with receiverLevels := (mutate p).receiverLevels }))
  counts : ∀ s, (announce s).desiredRevision =
    if p.lastDesiredMembers = (mutate p).lastDesiredMembers then s.desiredRevision
    else saturatingSucc U64_MAX s.desiredRevision
  revision : ∀ s, (announce s).revision = s.revision

theorem Mirrors.of_members {p : PersistedState} {mutate : PersistedState → PersistedState}
    {announce : FullSnapshot → FullSnapshot}
    (ha : ∀ s, Agrees p (kept s) → Agrees (mutate p) (kept (announce
      { s with receiverLevels := (mutate p).receiverLevels })))
    (hm : (mutate p).lastDesiredMembers = p.lastDesiredMembers)
    (hc : ∀ s, (announce s).desiredRevision = s.desiredRevision)
    (hr : ∀ s, (announce s).revision = s.revision) : Mirrors p mutate announce where
  agrees := ha
  counts s := by rw [hm, if_pos rfl, hc]
  revision := hr

/-- The transaction mirrors what it makes of the document. -/
def DurableCommit.MirrorsAt (commit : DurableCommit) (p : PersistedState) : Prop :=
  ∃ mutate, commit.mutatePersisted = some mutate ∧ Mirrors p mutate commit.announce

theorem DurableCommit.MirrorsAt.isSome {commit : DurableCommit} {p : PersistedState}
    (h : commit.MirrorsAt p) : commit.mutatePersisted.isSome = true := by
  obtain ⟨_, hm, -⟩ := h
  rw [hm]
  rfl

theorem adoptDocument_snapshot_revision (c : Controller) (commit : DurableCommit)
    (cand : PersistedState)
    (h : ∀ s, (commit.announce s).revision = s.revision) :
    (c.adoptDocument commit cand).snapshot.revision = c.snapshot.revision := by
  unfold adoptDocument
  simp only
  split <;> split <;> exact h _

variable [Lowercase]

/-- The document in memory is the last the store has taken, `first` if it has
taken none, and the snapshot mirrors it. -/
structure InSync (first : PersistedState) (c : Controller) : Prop where
  stored : (first :: c.taken).getLast? = some c.persisted
  valid : c.persisted.validate = .ok ()
  agrees : Agrees c.persisted (kept c.snapshot)
  bounded : c.snapshot.desiredRevision ≤ c.snapshot.revision
  counted : ¬ c.crashed → c.snapshot.desiredRevision = membershipChanges (first :: c.taken)

variable {first : PersistedState}

theorem InSync.sameBooks (h : InSync first c) (hb : SameBooks c c') : InSync first c' := by
  have hr : (kept c'.snapshot).desiredRevision = (kept c.snapshot).desiredRevision := by
    have h' := congrArg Kept.desiredRevision hb.kept
    exact h'
  have ha : Agrees c.persisted (kept c'.snapshot) := by
    have h' := h.agrees
    rw [← hb.kept] at h'
    exact ⟨h'.desiredMembers, h'.masterVolume, h'.muted, h'.receiverLevels, h'.latencyPreset,
      h'.autoConnect, h'.preference, h'.groups⟩
  refine ⟨by rw [hb.taken, hb.persisted]; exact h.stored, by rw [hb.persisted]; exact h.valid,
    by rw [hb.persisted]; exact ha, ?_, ?_⟩
  · exact le_trans (le_of_eq hr) (le_trans h.bounded hb.revision)
  · intro hc
    rw [hb.taken]
    exact hr.trans (h.counted (not_crashed_of_le hb.revision hc))

theorem InSync.keeps (h : InSync first c) (hk : Keeps c c') : InSync first c' :=
  h.sameBooks hk.sameBooks

/-- A course that stores nothing leaves the books alone. -/
theorem Course.sameBooks {ress : List (Nat × Option CommandFailure)}
    (h : Course { stores := false } c ress c') : SameBooks c c' := by
  have hs : ∀ (c : Controller) {next : FullSnapshot}, Lasting c.snapshot next →
      SameBooks c { c with snapshot := next } := by
    intro c next same
    have hk : Keeps c { c with snapshot := next } :=
      ⟨by simp only [ledger, same.kept], le_of_eq same.revision.symm⟩
    exact hk.sameBooks
  induction h with
  | trans _ _ ihab ihbc => exact ihab.trans ihbc
  | publish c => exact (publish_frame c).keeps.sameBooks
  | dull c same => exact hs c same.toLasting
  | phase c _ same => exact hs c same
  | record c => exact (recorded_frame c _).keeps.sameBooks
  | refuse c id => exact (notePersistenceFailure_frame c id).keeps.sameBooks
  | rows c _ same =>
    have hr : Lasting c.settleMachines.snapshot (c.settleMachines.withRows _) :=
      { same.toLasting with }
    exact (Keeps.of_eq rfl rfl : Keeps c c.settleMachines).sameBooks.trans (hs _ hr)
  | adopt c never | announce c never => cases never
  | attempt c ports id write hw =>
    have ht : SaveAttempt.taken ⟨id, write, ports.answer id write⟩ = none := by
      cases write with
      | document => cases hw
      | calibration => rfl
    exact (attemptSave_frame c ht).keeps.sameBooks
  | _ => exact ⟨rfl, rfl, rfl, le_refl _⟩

/-! ## Transactions -/

/-- A transaction that mirrors what it stores keeps the books. -/
theorem InSync.commitDurable (h : InSync first c) (ports : Ports) (id : Nat)
    {commit : DurableCommit} (hm : commit.MirrorsAt c.persisted) :
    InSync first (c.commitDurable ports id commit).1 := by
  obtain ⟨mutate, ht, hm⟩ := hm
  rcases commitDurable_cases c ports id _ ht rfl with
    ⟨_, -, -, hf, -⟩ | ⟨-, -, -, hf, -⟩ | ⟨hv, -, hs, -, hf, hlt, -⟩
      | ⟨-, -, -, -, hf, -⟩
  · exact h.keeps hf.keeps
  · exact h.keeps hf.keeps
  · have hl := hf.ledger.trans (adoptDocument_ledger _ commit (mutate c.persisted))
    rw [attemptSave_ledger] at hl
    generalize (c.commitDurable ports id commit).1 = c' at hl hlt ⊢
    rw [adoptDocument_snapshot_revision _ commit _ hm.revision] at hlt
    replace hlt : c.snapshot.revision < c'.snapshot.revision := hlt
    have hp : c'.persisted = mutate c.persisted := congrArg Ledger.persisted hl
    have hh : first :: c'.taken = (first :: c.taken) ++ [mutate c.persisted] := by
      rw [show c'.taken = _ from congrArg Ledger.taken hl]
      simp [SaveAttempt.taken, Ports.answer, hs]
    have hk := congrArg Ledger.kept hl
    have hn := hm.counts { c.snapshot with
      receiverLevels := (mutate c.persisted).receiverLevels }
    have hr : c'.snapshot.desiredRevision = _ := (congrArg Kept.desiredRevision hk).trans hn
    have hb := h.bounded
    refine ⟨by rw [hh, hp, getLast?_concat], by rw [hp]; exact hv, ?_, ?_, ?_⟩
    · rw [hp]
      have ha := hm.agrees c.snapshot h.agrees
      rwa [show kept c'.snapshot = _ from hk]
    · rw [hr]
      unfold saturatingSucc
      split <;> simp only <;> omega
    · intro hc
      have hd : ¬ U64_MAX < c'.snapshot.revision := hc
      rw [hr, hh, membershipChanges_concat _ h.stored,
        ← h.counted (not_crashed_of_le (le_of_lt hlt) hc)]
      unfold saturatingSucc
      split <;> simp only <;> omega
  · exact h.keeps hf.keeps

/-! ## Commands -/

namespace Batch

variable {ports : Ports} {command : ControllerCommand} {c : Controller} {commit : DurableCommit}
  {id : Nat} {e : ControllerEnvelope} {b : Batch}

/-! ### What the transactions announce -/

omit [Lowercase] in
theorem membersCommit_mirrors {p : PersistedState} {mbrs : Finset ReceiverId}
    (hne : mbrs ≠ p.lastDesiredMembers) : (membersCommit mbrs).MirrorsAt p := by
  refine ⟨_, rfl, ?_, ?_, fun _ => rfl⟩
  · intro s ha
    exact ⟨rfl, ha.masterVolume, ha.muted, rfl, ha.latencyPreset, ha.autoConnect,
      ha.preference, ha.groups⟩
  · intro s
    rw [if_neg (fun heq => hne heq.symm)]
    rfl

section

variable (p : PersistedState)

section

omit [Lowercase]

theorem volumeCommit_mirrors (val : Volume) : (volumeCommit val).MirrorsAt p := by
  refine ⟨_, rfl, .of_members ?_ rfl (fun _ => rfl) (fun _ => rfl)⟩
  intro s ha
  exact ⟨ha.desiredMembers, rfl, ha.muted, rfl, ha.latencyPreset, ha.autoConnect, ha.preference,
    ha.groups⟩

theorem mutedCommit_mirrors (muted : Bool) : (mutedCommit muted).MirrorsAt p := by
  refine ⟨_, rfl, .of_members ?_ rfl (fun _ => rfl) (fun _ => rfl)⟩
  intro s ha
  exact ⟨ha.desiredMembers, ha.masterVolume, rfl, rfl, ha.latencyPreset, ha.autoConnect,
    ha.preference, ha.groups⟩

theorem endpointCommit_mirrors (pref : AudioEndpointPreference) :
    (endpointCommit pref).MirrorsAt p := by
  refine ⟨_, rfl, .of_members ?_ rfl (fun _ => rfl) (fun _ => rfl)⟩
  intro s ha
  exact ⟨ha.desiredMembers, ha.masterVolume, ha.muted, rfl, ha.latencyPreset, ha.autoConnect,
    rfl, ha.groups⟩

theorem presetCommit_mirrors (preset : LatencyPreset) : (presetCommit preset).MirrorsAt p := by
  refine ⟨_, rfl, .of_members ?_ rfl (fun _ => rfl) (fun _ => rfl)⟩
  intro s ha
  exact ⟨ha.desiredMembers, ha.masterVolume, ha.muted, rfl, rfl, ha.autoConnect, ha.preference,
    ha.groups⟩

theorem autoConnectCommit_mirrors (enabled : Bool) : (autoConnectCommit enabled).MirrorsAt p := by
  refine ⟨_, rfl, .of_members ?_ rfl (fun _ => rfl) (fun _ => rfl)⟩
  intro s ha
  exact ⟨ha.desiredMembers, ha.masterVolume, ha.muted, rfl, ha.latencyPreset, rfl, ha.preference,
    ha.groups⟩

theorem levelCommit_mirrors (recv : ReceiverId) (level : Volume) :
    (levelCommit recv level).MirrorsAt p := by
  refine ⟨_, rfl, .of_members ?_ rfl (fun _ => rfl) (fun _ => rfl)⟩
  intro s ha
  exact ⟨ha.desiredMembers, ha.masterVolume, ha.muted, rfl, ha.latencyPreset, ha.autoConnect,
    ha.preference, ha.groups⟩

end

end

omit [Lowercase] in
/-- Taking groups out of the document takes the same ones out of a mirror
of it. -/
theorem coe_filter_snapshot {groups : List SavedGroup} {mirror : List SavedGroupSnapshot}
    (h : (mirror : Multiset SavedGroupSnapshot) = (groups.map SavedGroup.snapshot :))
    (id : GroupId) :
    ((mirror.filter (fun existing => existing.id ≠ id) : List SavedGroupSnapshot) :
      Multiset SavedGroupSnapshot)
      = ((groups.filter (fun existing => existing.id ≠ id)).map SavedGroup.snapshot : List _) := by
  have hp := (Multiset.coe_eq_coe.mp h).filter (fun existing => decide (existing.id ≠ id))
  rw [List.filter_map] at hp
  exact Multiset.coe_eq_coe.mpr hp

variable (p : PersistedState)

theorem saveCommit_mirrors (group : SavedGroup) : (saveCommit group).MirrorsAt p := by
  refine ⟨_, rfl, .of_members ?_ rfl (fun _ => rfl) (fun _ => rfl)⟩
  intro s ha
  refine ⟨ha.desiredMembers, ha.masterVolume, ha.muted, rfl, ha.latencyPreset, ha.autoConnect,
    ha.preference, ?_⟩
  have hf := coe_filter_snapshot ha.groups group.id
  have hd := (coe_eq_coe.mp hf).append_right [group.snapshot]
  have hs : (sortGroups (p.savedGroups.filter (fun existing => existing.id ≠ group.id)
      ++ [group])).Perm _ := perm_insertionSort _ _
  have hm := hs.map SavedGroup.snapshot
  rw [map_append] at hm
  exact coe_eq_coe.mpr (hd.trans hm.symm)

omit [Lowercase] in
theorem deleteCommit_mirrors (gid : GroupId) : (deleteCommit gid).MirrorsAt p := by
  refine ⟨_, rfl, .of_members ?_ rfl (fun _ => rfl) (fun _ => rfl)⟩
  intro s ha
  exact ⟨ha.desiredMembers, ha.masterVolume, ha.muted, rfl, ha.latencyPreset, ha.autoConnect,
    ha.preference, coe_filter_snapshot ha.groups gid⟩

omit [Lowercase] in
theorem activationCommit_mirrors (group : SavedGroup) : (activationCommit p group).MirrorsAt p := by
  refine ⟨_, rfl, ?_, ?_, fun _ => rfl⟩
  · intro s ha
    exact ⟨rfl, ha.masterVolume, ha.muted, rfl, ha.latencyPreset, ha.autoConnect, ha.preference,
      ha.groups⟩
  · intro s
    dsimp only [activationCommit]
    by_cases hs : (group.members.map (·.receiver)).toFinset = p.lastDesiredMembers
    · simp [hs]
    · have hne : ¬ p.lastDesiredMembers = (group.members.map (·.receiver)).toFinset :=
        fun heq => hs heq.symm
      simp [hs, hne]

/-- Whatever a command stores, it announces the same. -/
theorem transaction_mirrors
    (h : transaction c ports id command = some commit) : commit.MirrorsAt c.persisted := by
  cases command with
  | setDesiredMembers mbrs | applyDesiredMembers mbrs =>
    obtain ⟨hne, rfl⟩ := ite_some_none_eq_some.mp h
    exact membersCommit_mirrors hne
  | activateSavedGroup =>
    obtain ⟨group, -, rfl⟩ := map_eq_some_iff.mp h
    exact activationCommit_mirrors _ group
  | setMasterVolume | setMuted | setAudioEndpoint | setLatencyPreset | setAutoConnect
  | setReceiverLevel | saveGroup | deleteGroup =>
    obtain ⟨-, rfl⟩ := ite_some_none_eq_some.mp h
    first
      | exact volumeCommit_mirrors _ _
      | exact mutedCommit_mirrors _ _
      | exact endpointCommit_mirrors _ _
      | exact presetCommit_mirrors _ _
      | exact autoConnectCommit_mirrors _ _
      | exact levelCommit_mirrors _ _ _
      | exact saveCommit_mirrors _ _
      | exact deleteCommit_mirrors _ _
  | setRunIntent | retryReceiver | notifySystem | calibration | runListeningTest | shutdown =>
    cases h

theorem execute_inSync (h : InSync first b.actor) (ports : Ports) (e : ControllerEnvelope) :
    InSync first (b.execute ports e).actor := by
  have hp : Permits { stores := false } ports e.command := by
    cases e.command <;> simp [Permits]
  have hr : InSync first (b.perform ports e.id e.command).actor := by
    cases ht : transaction b.actor ports e.id e.command with
    | none =>
      obtain ⟨_, hc, -⟩ := perform_other hp ht
      exact h.sameBooks hc.sameBooks
    | some commit =>
      have hpp := h.sameBooks (prepared_course b.actor hp).sameBooks
      have hm : commit.MirrorsAt (prepared b.actor e.command).persisted := by
        rw [prepared_persisted]
        exact transaction_mirrors ht
      exact (hpp.commitDurable ports e.id hm).sameBooks (perform_transaction hp ht).sameBooks
  rw [execute_eq]
  exact hr.sameBooks (confirm_course rfl _ e).sameBooks

/-! ## Failed commands -/

/-- The command went on record with an error. -/
def Failed (c : Controller) (id : Nat) : Prop :=
  ∃ failure, c.lastOutcome = some (id, some failure)

omit [Lowercase] in
theorem not_failed (h : c.lastOutcome = some (id, none)) : ¬ Failed c id := by
  rintro ⟨_, hf⟩
  rw [h] at hf
  cases hf

/-- A transaction that ends in an error changes nothing. -/
theorem commitDurable_failed {c : Controller} {ports : Ports} {id : Nat}
    {commit : DurableCommit} (hm : commit.mutatePersisted.isSome = true)
    (hl : Failed (c.commitDurable ports id commit).1 id) :
    (c.commitDurable ports id commit).1.ledger = c.ledger := by
  obtain ⟨_, hm⟩ := isSome_iff_exists.mp hm
  rcases commitDurable_cases c ports id _ hm rfl with
    ⟨_, -, -, hf, -⟩ | ⟨-, -, -, hf, -⟩ | ⟨-, -, -, -, -, -, hs⟩
      | ⟨-, -, -, -, hf, -⟩
  · exact hf.ledger
  · exact hf.ledger
  · exact absurd hl (not_failed hs)
  · exact hf.ledger

theorem guarded_failed {changes : Bool} (hm : commit.mutatePersisted.isSome = true)
    (hf : Failed (guarded c changes ports id commit) id) :
    (guarded c changes ports id commit).ledger = c.ledger := by
  unfold guarded at hf ⊢
  split at hf
  · rename_i hc
    rw [if_pos hc]
    exact commitDurable_failed hm hf
  · rename_i hc
    rw [if_neg hc]
    exact (complete_frame _ _).ledger

theorem finishActivation_unintended {r : Controller × CommitOutcome}
    (h : r.2.stateIsIntended = false) (start : Bool) : (finishActivation r start).1 = r.1 := by
  unfold finishActivation declineStart
  rw [h]
  simp

theorem handleActivateGroup_failed {gid : GroupId} {start : Bool}
    (hl : Failed (handleActivateGroup c ports id gid start).1 id) :
    (handleActivateGroup c ports id gid start).1.ledger = c.ledger := by
  unfold handleActivateGroup at hl ⊢
  cases hg : c.persisted.savedGroups.find? (fun group => group.id = gid) with
  | none => exact (fail_frame _ _ _).ledger
  | some group =>
    rw [hg] at hl
    dsimp only at hl ⊢
    generalize hr : c.commitDurable ports id (activationCommit c.persisted group) = r at hl ⊢
    have hs : Failed r.1 id := by
      obtain ⟨fail, hf⟩ := hl
      have hc : Course {} r.1 [] (finishActivation r start).1 :=
        finishActivation_course rfl rfl r start
      exact ⟨fail, hc.lastOutcome.symm.trans hf⟩
    rcases commitDurable_cases c ports id (activationCommit c.persisted group) rfl hr
      with ⟨_, -, ho, hfr, -⟩ | ⟨-, -, -, -, hd⟩ | ⟨-, -, -, -, -, -, hd⟩
        | ⟨-, -, -, ho, hfr, -⟩
    · rw [finishActivation_unintended (by rw [ho]; rfl)]
      exact hfr.ledger
    · exact absurd hs (not_failed hd)
    · exact absurd hs (not_failed hd)
    · rw [finishActivation_unintended (by rw [ho]; rfl)]
      exact hfr.ledger

theorem storeCalibration_failed {expd : Nat} {prof : Option CalibrationProfile}
    (hf : Failed (storeCalibration c ports id expd prof).1 id) :
    (storeCalibration c ports id expd prof).1.ledger = c.ledger := by
  unfold storeCalibration at hf ⊢
  cases he : calibrationError c expd prof with
  | some => exact ((fail_frame _ _ _).trans (emit_frame _ rfl)).ledger
  | none =>
    rw [he] at hf
    dsimp only at hf ⊢
    split at hf
    · have hd := complete_lastOutcome { c.attemptSave ports id (.calibration prof) with
        calibration := prof.getD {} } id
      exact absurd hf (not_failed ((emit_lastOutcome _ _).trans hd))
    · rename_i hs
      have ha : Frame c (c.attemptSave ports id (.calibration prof)) := attemptSave_frame c rfl
      rw [if_neg hs]
      exact (((ha.trans (notePersistenceFailure_frame _ _)).trans (emit_frame _ rfl)).trans
        (publish_frame _)).ledger

theorem handleCalibration_failed {command : CalibrationCommand}
    (hf : Failed (handleCalibration c ports id command).1 id) :
    (handleCalibration c ports id command).1.ledger = c.ledger := by
  cases command with
  | applyCalibrationProfile => exact storeCalibration_failed hf
  | resetCalibration => exact storeCalibration_failed hf
  | runCalibrationClickTest =>
    unfold handleCalibration
    dsimp only
    split
    · exact (fail_frame _ _ _).ledger
    · exact ((emit_frame _ rfl).trans (complete_frame _ _)).ledger

variable {enabled : Bool}

/-- The auto-connect setting fails only where it would change and the save
fails: a valid document stays valid. -/
theorem saveAutoConnect_failed (h : InSync first b.actor)
    (hf : Failed (b.saveAutoConnect ports id enabled).actor id) :
    (b.saveAutoConnect ports id enabled).actor.ledger = b.actor.ledger ∧
      enabled ≠ b.actor.persisted.autoConnect ∧ ports.saves id = false := by
  rw [saveAutoConnect_actor] at hf ⊢
  refine ⟨guarded_failed rfl hf, ?_⟩
  unfold guarded at hf
  split at hf
  · rename_i hne
    refine ⟨of_decide_eq_true hne, ?_⟩
    rcases commitDurable_cases b.actor ports id (autoConnectCommit enabled) rfl rfl with
      ⟨e, hi, -⟩ | ⟨-, -, -, -, hd⟩ | ⟨-, -, -, -, -, -, hd⟩ | ⟨-, -, hs, -⟩
    · have hv : (PersistedState.validate { b.actor.persisted with autoConnect := enabled })
          = .ok () := h.valid
      rw [hv] at hi
      cases hi
    · exact absurd hf (not_failed hd)
    · exact absurd hf (not_failed hd)
    · exact hs
  · exact absurd hf (not_failed (complete_lastOutcome _ _))

/-- The launch start goes although the command fails. -/
def LosesStart (ports : Ports) (c : Controller) (e : ControllerEnvelope) : Prop :=
  e.command = .setAutoConnect false ∧ c.startupAutoConnectUntil.isSome = true ∧
    c.persisted.autoConnect = true ∧ ports.saves e.id = false

theorem setAutoConnect_failed (h : InSync first b.actor) (he : e.command = .setAutoConnect enabled)
    (hf : Failed (b.setAutoConnect ports e.id enabled).actor e.id) :
    (b.setAutoConnect ports e.id enabled).actor.ledger = b.actor.ledger ∨
      LosesStart ports b.actor e := by
  cases enabled with
  | true => exact .inl (saveAutoConnect_failed h hf).1
  | false =>
    have hy : InSync first ({ b with actor := b.actor.disarm } : Batch).actor :=
      h.sameBooks ⟨rfl, rfl, rfl, le_refl _⟩
    obtain ⟨hl, hne, hv⟩ := saveAutoConnect_failed hy hf
    cases hs : b.actor.startupAutoConnectUntil with
    | none =>
      refine .inl (hl.trans ?_)
      show Ledger.mk _ _ _ none _ = Ledger.mk _ _ _ b.actor.startupAutoConnectUntil _
      rw [hs]
      rfl
    | some =>
      refine .inr ⟨he, by rw [hs]; rfl, ?_, hv⟩
      cases ha : b.actor.persisted.autoConnect with
      | true => rfl
      | false => exact absurd ha.symm hne

theorem setRunIntent_lastOutcome (b : Batch) (id : Nat) (intent : RunIntent) :
    (b.setRunIntent id intent).actor.lastOutcome = some (id, none) := by
  unfold setRunIntent
  dsimp only
  split
  · exact (publish_lastOutcome _).trans (complete_lastOutcome _ _)
  · exact complete_lastOutcome _ _

/-- A command that neither alters nor starts anything is its transaction and
nothing else. -/
theorem modest_failed
    (hp : Permits { stores := false, alters := false, starts := false } ports command)
    (hl : Failed (b.perform ports id command).actor id) :
    (b.perform ports id command).actor.ledger = b.actor.ledger := by
  cases ht : transaction b.actor ports id command with
  | none =>
    obtain ⟨_, hc, -⟩ := @perform_other _ _ ports b ⟨id, command, none⟩ hp ht
    exact hc.keeps.ledger
  | some commit =>
    have hr := (prepared_course b.actor hp).keeps.ledger
    have hf := perform_transaction hp ht
    obtain ⟨fail, hs⟩ := hl
    have hm := @commitDurable_failed _ (prepared b.actor command) ports id commit
      (transaction_mirrors ht).isSome ⟨fail, hf.lastOutcome.symm.trans hs⟩
    exact hf.keeps.ledger.trans (hm.trans hr)

/-- A command that ends in an error leaves the ledger as it was, the lost
launch start apart. -/
theorem execute_failed (h : InSync first b.actor) (hf : Failed (b.execute ports e).actor e.id) :
    (b.execute ports e).actor.ledger = b.actor.ledger ∨ LosesStart ports b.actor e := by
  have hc : Course { stores := false, alters := false, starts := false }
      (b.perform ports e.id e.command).actor []
      ((b.perform ports e.id e.command).confirm e).actor := confirm_course rfl _ e
  rw [execute_eq] at hf ⊢
  rw [hc.keeps.ledger]
  obtain ⟨fail, hl⟩ := hf
  replace hf : Failed (b.perform ports e.id e.command).actor e.id :=
    ⟨fail, hc.lastOutcome.symm.trans hl⟩
  obtain ⟨id, command, _⟩ := e
  cases command with
  | setRunIntent intent => exact absurd hf (not_failed (setRunIntent_lastOutcome b id intent))
  | setAutoConnect => exact setAutoConnect_failed h rfl hf
  | activateSavedGroup => exact .inl (handleActivateGroup_failed hf)
  | calibration => exact .inl (handleCalibration_failed hf)
  | setDesiredMembers | applyDesiredMembers | setMasterVolume | setMuted | setReceiverLevel
  | setAudioEndpoint | setLatencyPreset | saveGroup | deleteGroup | retryReceiver | notifySystem
  | runListeningTest | shutdown => exact .inl (modest_failed (by simp [Permits]) hf)

/-! ## The slots before auto-connect -/

theorem commitDurable_startup (c : Controller) (ports : Ports) (id : Nat)
    {mutate : PersistedState → PersistedState} (hm : commit.mutatePersisted = some mutate) :
    (c.commitDurable ports id commit).1.startupAutoConnectUntil = c.startupAutoConnectUntil ∧
      ((c.commitDurable ports id commit).1.persisted = c.persisted ∨
        (c.commitDurable ports id commit).1.persisted = mutate c.persisted) := by
  have hs : ∀ c' : Controller, Frame c c' → c'.startupAutoConnectUntil = c.startupAutoConnectUntil ∧
        (c'.persisted = c.persisted ∨ c'.persisted = mutate c.persisted) := by
    intro c' hf
    exact ⟨congrArg Ledger.startup hf.ledger, .inl (congrArg Ledger.persisted hf.ledger)⟩
  rcases commitDurable_cases c ports id _ hm rfl with
    ⟨_, -, -, hf, -⟩ | ⟨-, -, -, hf, -⟩ | ⟨-, -, -, -, hf, -, -⟩
      | ⟨-, -, -, -, hf, -⟩
  · exact hs _ hf
  · exact hs _ hf
  · have hl := hf.ledger.trans (adoptDocument_ledger _ commit (mutate c.persisted))
    exact ⟨congrArg Ledger.startup hl, .inr (congrArg Ledger.persisted hl)⟩
  · exact hs _ hf

/-- The auto-connect setting stays, and an armed start was armed before. -/
structure Wanes (c c' : Controller) : Prop where
  autoConnect : c'.persisted.autoConnect = c.persisted.autoConnect
  startup : c'.startupAutoConnectUntil.isSome = true → c.startupAutoConnectUntil.isSome = true

variable {c' : Controller}

omit [Lowercase] in
theorem Wanes.of_ledger (h : c'.ledger = c.ledger) : Wanes c c' := by
  have hp : c'.persisted = c.persisted := congrArg Ledger.persisted h
  have hs : c'.startupAutoConnectUntil = c.startupAutoConnectUntil := congrArg Ledger.startup h
  exact ⟨by rw [hp], by rw [hs]; exact id⟩

omit [Lowercase] in
theorem Wanes.trans {a b c : Controller} (ha : Wanes a b) (hb : Wanes b c) : Wanes a c :=
  ⟨hb.autoConnect.trans ha.autoConnect, fun h => ha.startup (hb.startup h)⟩

theorem setRunIntent_disarms (b : Batch) (id : Nat) (intent : RunIntent) :
    (b.setRunIntent id intent).actor.persisted = b.actor.persisted ∧
      (b.setRunIntent id intent).actor.startupAutoConnectUntil = none := by
  unfold setRunIntent
  dsimp only
  split
  · have hl := ((complete_frame { b.actor.disarm with
      snapshot := { b.actor.disarm.snapshot with runIntent := intent } } id).trans
        (publish_frame _)).ledger
    exact ⟨congrArg Ledger.persisted hl, congrArg Ledger.startup hl⟩
  · have hl := (complete_frame b.actor.disarm id).ledger
    exact ⟨congrArg Ledger.persisted hl, congrArg Ledger.startup hl⟩

/-- The early slots store nothing of auto-connect. -/
theorem early_transaction (he : PendingBatch.isEarly command = true)
    (h : transaction c ports id command = some commit) : ∃ mutate,
      commit.mutatePersisted = some mutate ∧ ∀ p, (mutate p).autoConnect = p.autoConnect := by
  cases command with
  | setDesiredMembers | setMasterVolume | setMuted | setAudioEndpoint | setLatencyPreset =>
    obtain ⟨-, rfl⟩ := ite_some_none_eq_some.mp h
    exact ⟨_, rfl, fun _ => rfl⟩
  | setRunIntent => cases h
  | setAutoConnect | setReceiverLevel | applyDesiredMembers | saveGroup | deleteGroup
  | activateSavedGroup | retryReceiver | notifySystem | calibration | runListeningTest
  | shutdown => cases he

theorem perform_wanes (he : PendingBatch.isEarly command = true)
    (hp : Permits { stores := false, alters := false, starts := false } ports command) :
    Wanes b.actor (b.perform ports id command).actor := by
  cases ht : transaction b.actor ports id command with
  | none =>
    obtain ⟨_, hc, -⟩ := @perform_other _ _ ports b ⟨id, command, none⟩ hp ht
    exact .of_ledger hc.keeps.ledger
  | some =>
    obtain ⟨_, hm, ha⟩ := early_transaction he ht
    have hr := (prepared_course b.actor hp).keeps.ledger
    have hf := (perform_transaction hp ht).keeps.ledger
    refine (Wanes.of_ledger hr).trans (Wanes.trans ?_ (.of_ledger hf))
    obtain ⟨hs, hps⟩ := commitDurable_startup (prepared b.actor command) ports id hm
    refine ⟨?_, fun h => by rwa [hs] at h⟩
    rcases hps with h | h
    · rw [h]
    · rw [h, ha]

/-- An early slot leaves the auto-connect setting alone and arms nothing; a
run intent disarms. -/
theorem execute_early (b : Batch) (ports : Ports) (he : PendingBatch.isEarly e.command = true) :
    Wanes b.actor (b.execute ports e).actor ∧
      ((b.execute ports e).actor.startupAutoConnectUntil.isSome = true →
        ∀ intent, e.command ≠ .setRunIntent intent) := by
  have hc : Course { stores := false, alters := false, starts := false }
      (b.perform ports e.id e.command).actor []
      ((b.perform ports e.id e.command).confirm e).actor := confirm_course rfl _ e
  have hs := Wanes.of_ledger hc.keeps.ledger
  rw [execute_eq]
  obtain ⟨id, command, _⟩ := e
  cases command with
  | setRunIntent intent =>
    obtain ⟨hp, hn⟩ := setRunIntent_disarms b id intent
    have ha : ∀ {P : Prop},
        (b.setRunIntent id intent).actor.startupAutoConnectUntil.isSome = true → P := by
      intro P h
      rw [hn] at h
      cases h
    have hw : Wanes b.actor (b.setRunIntent id intent).actor :=
      ⟨congrArg PersistedState.autoConnect hp, fun h => ha h⟩
    exact ⟨hw.trans hs, fun h => ha (hs.startup h)⟩
  | setDesiredMembers | setMasterVolume | setMuted | setAudioEndpoint | setLatencyPreset =>
    exact ⟨(perform_wanes he (by simp [Permits])).trans hs, fun _ _ h => by cases h⟩
  | setAutoConnect | setReceiverLevel | applyDesiredMembers | saveGroup | deleteGroup
  | activateSavedGroup | retryReceiver | notifySystem | calibration | runListeningTest
  | shutdown => cases he

theorem early_wanes (ports : Ports) : ∀ (slots : List ControllerEnvelope) (b : Batch),
    (∀ e ∈ slots, PendingBatch.isEarly e.command = true) → b.shutdown = false →
      Wanes b.actor (slots.foldl (Batch.next ports) b).actor ∧
      ((slots.foldl (Batch.next ports) b).actor.startupAutoConnectUntil.isSome = true →
        ∀ e ∈ slots, ∀ intent, e.command ≠ .setRunIntent intent)
  | [], _, _, _ => ⟨.of_ledger rfl, fun _ _ he => by cases he⟩
  | e :: rest, b, hs, hu => by
      have hl := hs e (by simp)
      obtain ⟨hw, hint⟩ := execute_early b ports hl
      have hh : (b.execute ports e).shutdown = false := by
        rw [execute_shutdown, hu]
        cases hc : e.command <;> simp_all [endsLoop, PendingBatch.isEarly]
      have hn : b.next ports e = b.execute ports e := by
        unfold Batch.next
        rw [hu]
        rfl
      obtain ⟨ihwanes, ihintent⟩ := early_wanes ports rest (b.execute ports e)
        (fun e' he' => hs e' (by simp [he'])) hh
      rw [List.foldl_cons, hn]
      refine ⟨hw.trans ihwanes, ?_⟩
      intro ht e' he'
      rcases List.mem_cons.mp he' with rfl | hin
      · exact hint (ihwanes.startup ht)
      · exact ihintent ht e' hin

theorem foldl_inSync (ports : Ports) : ∀ (envs : List ControllerEnvelope) {b : Batch},
    InSync first b.actor → InSync first (envs.foldl (Batch.next ports) b).actor
  | [], _, h => h
  | e :: rest, b, h => by
      refine foldl_inSync ports rest ?_
      unfold Batch.next
      split
      · exact h
      · exact execute_inSync h ports e

/-! ## The log of writes -/

omit [Lowercase] in
/-- Neither the document nor a calibration is written in this scope. -/
theorem unwritten (write : StoreWrite) :
    ({ stores := false, pledges := false } : Scope).writes write = false := by
  cases write <;> rfl

/-- The log grew by writes of one command, each with the answer of the store,
and a refused one is on record as a failure. -/
structure Logged (ports : Ports) (id : Nat) (c c' : Controller) (new : List SaveAttempt) :
    Prop where
  attempts : c'.attempts = c.attempts ++ new
  answered : ∀ a ∈ new, a.id = id ∧ a.saved = ports.answer id a.write
  refused : ∀ a ∈ new, a.saved = false → Failed c' id

variable {write : StoreWrite}

omit [Lowercase] in
theorem Logged.one (h : c'.attempts = (c.attemptSave ports id write).attempts)
    (hf : ports.answer id write = false → Failed c' id) :
    Logged ports id c c' [⟨id, write, ports.answer id write⟩] where
  attempts := h
  answered a ha := by
    cases List.mem_singleton.mp ha
    exact ⟨rfl, rfl⟩
  refused a ha hr := by
    cases List.mem_singleton.mp ha
    exact hf hr

theorem Logged.then {a b : Controller} {new : List SaveAttempt}
    (h : Logged ports id a b new) (hc : Course { stores := false, pledges := false } b [] c) :
    Logged ports id a c new where
  attempts := (hc.attempts unwritten).trans h.attempts
  answered := h.answered
  refused x hx hr := by
    obtain ⟨failure, hf⟩ := h.refused x hx hr
    exact ⟨failure, hc.lastOutcome.trans hf⟩

/-- A course without a write logs nothing. -/
theorem logged_nil {results : List (Nat × Option CommandFailure)}
    (hc : Course { stores := false, pledges := false } c results c') :
    Logged ports id c c' [] where
  attempts := by rw [hc.attempts unwritten, append_nil]
  answered _ ha := by cases ha
  refused _ ha := by cases ha

variable (c)

omit [Lowercase] in
theorem adoptDocument_attempts (commit : DurableCommit) (cand : PersistedState) :
    (c.adoptDocument commit cand).attempts = c.attempts := by
  unfold adoptDocument
  simp only
  split <;> split <;> rfl

theorem publish_attempts : c.publish.attempts = c.attempts := by
  obtain ⟨_, _, -, hp⟩ := publish_eq c
  rw [hp]

omit [Lowercase] in
theorem refused_logged :
    Logged ports id c ((c.attemptSave ports id write).notePersistenceFailure id)
      [⟨id, write, ports.answer id write⟩] :=
  .one (by simp only [notePersistenceFailure, failWithKind, emit])
    (fun _ => ⟨_, notePersistenceFailure_lastOutcome _ _⟩)

/-- A transaction logs the write it attempts, if it attempts one. -/
theorem commitDurable_logged (ports : Ports) (id : Nat) (commit : DurableCommit) :
    ∃ new, Logged ports id c (c.commitDurable ports id commit).1 new := by
  unfold commitDurable
  cases commit.mutatePersisted with
  | none => exact ⟨_, logged_nil (complete_course c id)⟩
  | some mutate =>
    dsimp only
    cases (mutate c.persisted).validate with
    | error => exact ⟨_, logged_nil (fail_course c id _)⟩
    | ok =>
      dsimp only
      split
      · exact ⟨_, logged_nil (complete_course c id)⟩
      · split
        · rename_i hs
          refine ⟨[⟨id, .document (mutate c.persisted), ports.saves id⟩],
            .one ((publish_attempts _).trans ?_) ?_⟩
          · simp only [Controller.complete, emit, adoptDocument_attempts]
          · intro hr
            exact absurd (hs.symm.trans hr) (by decide)
        · exact ⟨_, (refused_logged c).then (.publish _)⟩

theorem storeCalibration_logged (ports : Ports) (id expd : Nat) (prof : Option CalibrationProfile) :
    ∃ new, Logged ports id c (storeCalibration c ports id expd prof).1 new := by
  unfold storeCalibration
  cases calibrationError c expd prof with
  | some err => exact ⟨_, logged_nil ((fail_course c id err).then (.note _ rfl))⟩
  | none =>
    dsimp only
    split
    · rename_i hs
      refine ⟨[⟨id, .calibration prof, ports.savesCalibration id⟩], .one ?_ ?_⟩
      · rfl
      · intro hr
        exact absurd (hs.symm.trans hr) (by decide)
    · exact ⟨_, (refused_logged c).then ((Course.note _ rfl).quiet (.publish _))⟩

/-- Every command logs the writes it attempts. -/
theorem execute_logged (b : Batch) (ports : Ports) (e : ControllerEnvelope) :
    ∃ new, Logged ports e.id b.actor (b.execute ports e).actor new := by
  have hp : ∃ new, Logged ports e.id b.actor (b.perform ports e.id e.command).actor new := by
    by_cases hw : Permits { stores := false, pledges := false } ports e.command
    · cases ht : transaction b.actor ports e.id e.command with
      | none =>
        obtain ⟨_, hc, -⟩ := perform_other hw ht
        exact ⟨_, logged_nil hc⟩
      | some commit =>
        have hb := (prepared_course b.actor hw).attempts unwritten
        obtain ⟨new, hc⟩ := commitDurable_logged (prepared b.actor e.command) ports e.id commit
        have hl := hc.then (perform_transaction hw ht)
        exact ⟨new, by rw [hl.attempts, hb], hl.answered, hl.refused⟩
    · obtain ⟨id, command, _⟩ := e
      cases command with
      | calibration command =>
        cases command with
        | applyCalibrationProfile => exact storeCalibration_logged b.actor ports id _ _
        | resetCalibration => exact storeCalibration_logged b.actor ports id _ _
        | runCalibrationClickTest =>
          dsimp only [perform, calibrate, handleCalibration]
          split
          · exact ⟨_, logged_nil (fail_course b.actor id _)⟩
          · exact ⟨_, logged_nil ((Course.note _ rfl).quiet (complete_course _ id))⟩
      | _ => exact absurd hw (by simp [Permits])
  obtain ⟨new, hl⟩ := hp
  rw [execute_eq]
  exact ⟨new, hl.then (confirm_course rfl _ e)⟩

end Batch

/-! ## Runs -/

theorem handle_inSync (h : InSync first c) (ports : Ports) (ev : Event) :
    InSync first (c.handle ports ev) := by
  cases ho : isOther ev with
  | true => exact h.keeps (other_keeps c ports ho)
  | false =>
    cases ev with
    | batch envs =>
      have hr := foldl_inSync ports (PendingBatch.ofList envs).order
        (b := ⟨c, none, false, false, []⟩) h
      exact hr.sameBooks (settle_course rfl rfl rfl _).sameBooks
    | autoConnectDue =>
      exact h.sameBooks (applyStartupAutoConnect_course rfl rfl rfl rfl c ports.now).sameBooks
    | discovery | capture | captureTelemetry | endpoints | session | system | resumeSettled
    | retryDue => cases ho

/-- One more pass keeps document, log and snapshot in step. -/
theorem step_inSync (h : InSync first c) (inp : Ports × Event) : InSync first (c.step inp).1 := by
  have ho : ∀ (c : Controller) out, Keeps c { c with out } := fun _ _ => Keeps.of_eq rfl rfl
  unfold step
  split
  · exact h
  · exact (handle_inSync (h.keeps (ho c [])) inp.1 inp.2).keeps (ho _ [])

variable (loaded : LoadedState) (cal : CalibrationProfile) (now : Instant)

theorem start_inSync : InSync loaded.state (start loaded cal now) := by
  have hk : kept (start loaded cal now).snapshot = _ := sortForPublication_kept _
  refine ⟨rfl, loaded.valid, ?_, Nat.zero_le _, fun _ => rfl⟩
  rw [hk]
  exact ⟨rfl, rfl, rfl, rfl, rfl, rfl, rfl, rfl⟩

variable (ins : List (Ports × Event))

/-- The books are in order whenever the actor waits. -/
theorem run_inSync : InSync loaded.state (run (start loaded cal now) ins) := by
  have hs : ∀ (c : Controller) (inp : Ports × Event), InSync loaded.state c →
      InSync loaded.state (c.step inp).1 :=
    fun _ inp h => step_inSync h inp
  exact Mealy.run_invariant hs (start_inSync loaded cal now) ins

/-- What the log has beyond an earlier one are the answers of the store. -/
def Truthful (ports : Ports) (c c' : Controller) : Prop :=
  ∀ a ∈ c'.attempts, a ∈ c.attempts ∨ a.saved = ports.answer a.id a.write

omit [Lowercase] in
theorem Truthful.trans {ports : Ports} {a b c : Controller} (ha : Truthful ports a b)
    (hb : Truthful ports b c) : Truthful ports a c := by
  intro x hx
  rcases hb x hx with h | h
  · exact ha x h
  · exact .inr h

theorem Truthful.of_course {ports : Ports} {scope : Scope}
    {results : List (Nat × Option CommandFailure)} (hc : Course scope c results c')
    (hn : ∀ write, scope.writes write = false) : Truthful ports c c' := by
  intro a ha
  rw [hc.attempts hn] at ha
  exact .inl ha

theorem Batch.foldl_truthful (ports : Ports) : ∀ (envs : List ControllerEnvelope) (b : Batch),
    Truthful ports b.actor (envs.foldl (Batch.next ports) b).actor
  | [], _ => fun _ ha => .inl ha
  | e :: rest, b => by
      refine Truthful.trans ?_ (foldl_truthful ports rest (b.next ports e))
      unfold Batch.next
      split
      · exact fun _ ha => .inl ha
      · obtain ⟨new, hl⟩ := execute_logged b ports e
        intro a ha
        rw [hl.attempts] at ha
        rcases List.mem_append.mp ha with h | h
        · exact .inl h
        · obtain ⟨hid, hs⟩ := hl.answered a h
          exact .inr (by rw [hs, hid])

theorem handle_truthful (c : Controller) (ports : Ports) (ev : Event) :
    Truthful ports c (c.handle ports ev) := by
  cases ho : isOther ev with
  | true =>
    refine .of_course (other_course c ports ho) ?_
    intro write
    cases write <;> rfl
  | false =>
    cases ev with
    | batch envs =>
      exact (Batch.foldl_truthful ports _ ⟨c, none, false, false, []⟩).trans
        (.of_course (Batch.settle_course rfl rfl rfl _) Batch.unwritten)
    | autoConnectDue =>
      exact .of_course (applyStartupAutoConnect_course rfl rfl rfl rfl c ports.now) Batch.unwritten
    | discovery | capture | captureTelemetry | endpoints | session | system | resumeSettled
    | retryDue => cases ho

theorem step_truthful (c : Controller) (inp : Ports × Event) : Truthful inp.1 c (c.step inp).1 := by
  unfold step
  split
  · exact fun _ ha => .inl ha
  · exact handle_truthful { c with out := [] } inp.1 inp.2

/-- Every answer in the log is one the store gave during the run. -/
theorem run_answered : ∀ a ∈ (run (start loaded cal now) ins).attempts,
      ∃ inp ∈ ins, a.saved = inp.1.answer a.id a.write := by
  induction ins using List.reverseRecOn with
  | nil =>
    intro a ha
    cases ha
  | append_singleton before inp ih =>
    intro a ha
    unfold run at ha
    rw [Mealy.run_concat] at ha
    rcases step_truthful _ inp a ha with h | h
    · obtain ⟨at_, hin, hs⟩ := ih a h
      exact ⟨at_, List.mem_append_left _ hin, hs⟩
    · exact ⟨inp, by simp, h⟩

/-- A launch from the last document the store took, by the answers it gave,
shows the selection, the levels and all else that is kept as they were shown,
and does not run. -/
theorem relaunch_restores (loaded : LoadedState) (calibration again : CalibrationProfile)
    (now later : Instant) (inputs : List (Ports × Event)) :
    let c := run (start loaded calibration now) inputs
    (∀ a ∈ c.attempts, ∃ input ∈ inputs, a.saved = input.1.answer a.id a.write) ∧
    ∃ saved : LoadedState, (loaded.state :: c.taken).getLast? = some saved.state ∧
      kept (start saved again later).snapshot =
        { kept c.snapshot with desiredRevision := 0, runIntent := .stopped } := by
  intro c
  have hs := run_inSync loaded calibration now inputs
  have ha := hs.agrees
  refine ⟨run_answered loaded calibration now inputs, ⟨c.persisted, hs.valid⟩, hs.stored, ?_⟩
  have hk : kept (start ⟨c.persisted, hs.valid⟩ again later).snapshot = _ :=
    sortForPublication_kept _
  rw [hk, Kept.mk.injEq]
  exact ⟨ha.desiredMembers.symm, rfl, rfl, ha.masterVolume.symm, ha.receiverLevels.symm,
    ha.muted.symm, ha.latencyPreset.symm, ha.autoConnect.symm, ha.preference.symm, ha.groups.symm⟩

/-- Whether a batch disables auto-connect without a save while the launch
start is armed: the newest `SetAutoConnect` disables, no `SetRunIntent` has
spent the start before it, the document says enabled, the save fails. -/
def disarms (c : Controller) : Ports × Event → Bool
  | (ports, .batch envelopes) =>
    let pending := PendingBatch.ofList envelopes
    pending.runIntent.isNone && c.startupAutoConnectUntil.isSome && c.persisted.autoConnect
      && pending.autoConnect.any (fun e =>
        (match e.command with | .setAutoConnect enabled => !enabled | _ => false)
          && !ports.saves e.id)
  | _ => false

/-- A batch in the middle of its commands. -/
def Batch.partway (c : Controller) (ports : Ports) (ran : List ControllerEnvelope) : Batch :=
  ran.foldl (Batch.next ports) { actor := { c with out := [] } }

/-- A command loses the launch start only in a batch that `disarms`. -/
theorem disarms_of_losesStart {ports : Ports}
    {envs ran rest : List ControllerEnvelope} {e : ControllerEnvelope}
    (ho : (PendingBatch.ofList envs).order = ran ++ e :: rest)
    (hl : Batch.LosesStart ports (Batch.partway c ports ran).actor e) :
    disarms c (ports, .batch envs) = true := by
  have hslott := PendingBatch.ofList_slotted envs
  obtain ⟨hc, ha, hat, hv⟩ := hl
  obtain ⟨hs, rfl⟩ := hslott.autoConnect_position ho hc
  obtain ⟨hw, hint⟩ := early_wanes ports _ { actor := { c with out := [] } } hslott.isEarly rfl
  have hn : (PendingBatch.ofList envs).runIntent = none := by
    cases hr : (PendingBatch.ofList envs).runIntent with
    | none => rfl
    | some first =>
      obtain ⟨intent, he⟩ := hslott.runIntent first hr
      refine absurd he (hint ha first ?_ intent)
      simp [PendingBatch.earlySlots, hr]
  have hb : c.startupAutoConnectUntil.isSome = true := hw.startup ha
  have ht : c.persisted.autoConnect = true := hw.autoConnect.symm.trans hat
  simp [disarms, hn, hs, hc, hb, ht, hv]

/-- Nothing that a failed change would have touched moves. -/
structure Untouched (c c' : Controller) : Prop where
  persisted : c'.persisted = c.persisted
  runIntent : c'.snapshot.runIntent = c.snapshot.runIntent
  calibration : c'.calibration = c.calibration
  startup : c'.startupAutoConnectUntil = c.startupAutoConnectUntil
  desiredMembers : c'.snapshot.desiredMembers = c.snapshot.desiredMembers
  desiredRevision : c'.snapshot.desiredRevision = c.snapshot.desiredRevision
  masterVolume : c'.snapshot.masterVolume = c.snapshot.masterVolume
  muted : c'.snapshot.muted = c.snapshot.muted
  receiverLevels : c'.snapshot.receiverLevels = c.snapshot.receiverLevels
  latencyPreset : c'.snapshot.latencyPreset = c.snapshot.latencyPreset
  autoConnect : c'.snapshot.autoConnect = c.snapshot.autoConnect
  preference : c'.snapshot.audioSource.preference = c.snapshot.audioSource.preference
  savedGroups : c'.snapshot.savedGroups.Perm c.snapshot.savedGroups

omit [Lowercase] in
theorem Untouched.of_ledger (h : c'.ledger = c.ledger) : Untouched c c' := by
  have hk : kept c'.snapshot = kept c.snapshot := congrArg Ledger.kept h
  exact ⟨congrArg Ledger.persisted h, congrArg Kept.runIntent hk,
    congrArg Ledger.calibration h, congrArg Ledger.startup h,
    congrArg Kept.desiredMembers hk, congrArg Kept.desiredRevision hk,
    congrArg Kept.masterVolume hk, congrArg Kept.muted hk,
    congrArg Kept.receiverLevels hk, congrArg Kept.latencyPreset hk,
    congrArg Kept.autoConnect hk, congrArg Kept.preference hk,
    coe_eq_coe.mp (congrArg Kept.groups hk)⟩

/-- In a run without such a batch nothing is applied that was not saved. The
log has the answers the store gave. Between two events the document is the
last one it took, the loaded one if it took none, it validates, the snapshot
mirrors it and the selection's revision counts its saved changes. Within a
batch a command that ends in an error, and one whose write was refused,
leaves all of it alone. -/
theorem applied_only_if_saved (loaded : LoadedState) (calibration : CalibrationProfile)
    (now : Instant) (inputs : List (Ports × Event))
    (hruns : Mealy.Along step (fun c input => disarms c input = false)
      (start loaded calibration now) inputs) :
    (∀ before, before <+: inputs → let c := run (start loaded calibration now) before
      (∀ a ∈ c.attempts, ∃ input ∈ before, a.saved = input.1.answer a.id a.write) ∧
      (¬ c.crashed → (loaded.state :: c.taken).getLast? = some c.persisted ∧
        c.persisted.validate = .ok () ∧ Agrees c.persisted (kept c.snapshot) ∧
        c.snapshot.desiredRevision = membershipChanges (loaded.state :: c.taken))) ∧
    (∀ before ports envs ran e rest, before ++ [(ports, .batch envs)] <+: inputs →
      (PendingBatch.ofList envs).order = ran ++ e :: rest →
      let b := Batch.partway (run (start loaded calibration now) before) ports ran
      b.shutdown = false → ∃ new, (b.execute ports e).actor.attempts = b.actor.attempts ++ new ∧
        (∀ a ∈ new, a.id = e.id ∧ a.saved = ports.answer e.id a.write) ∧
        (Batch.Failed (b.execute ports e).actor e.id ∨ (∃ a ∈ new, a.saved = false) →
          Untouched b.actor (b.execute ports e).actor)) := by
  refine ⟨?_, ?_⟩
  · intro before _ c
    have hs := run_inSync loaded calibration now before
    exact ⟨run_answered loaded calibration now before,
      fun hu => ⟨hs.stored, hs.valid, hs.agrees, hs.counted hu⟩⟩
  · intro before ports envs ran e rest hb ho b _
    obtain ⟨new, hl⟩ := Batch.execute_logged b ports e
    refine ⟨new, hl.attempts, hl.answered, ?_⟩
    intro hr
    have hf : Batch.Failed (b.execute ports e).actor e.id := by
      rcases hr with hf | ⟨a, ha, hs⟩
      · exact hf
      · exact hl.refused a ha hs
    have hs : InSync loaded.state b.actor := by
      refine foldl_inSync ports ran ?_
      exact (run_inSync loaded calibration now before).keeps (Keeps.of_eq rfl rfl)
    rcases execute_failed hs hf with hle | hlo
    · exact Untouched.of_ledger hle
    · have hd := disarms_of_losesStart ho hlo
      have hc := (Mealy.along_iff_forall_start inputs).mp hruns before _ hb
      rw [show disarms (Mealy.run step (start loaded calibration now) before) _ = true
        from hd] at hc
      cases hc

theorem armed_validates : PersistedState.validate { autoConnect := true } = .ok () := rfl

/-- A launch that is to connect by itself. -/
def armedLaunch : LoadedState := ⟨{ autoConnect := true }, armed_validates⟩

omit [Lowercase] in
/-- One batch that mutes while the disk is full. -/
theorem applied_only_if_saved_muting :
    letI := asciiLowercase
    let ports : Ports := { saves := fun _ => false }
    let e : ControllerEnvelope := { id := 7, command := .setMuted true }
    let b := Batch.partway (start armedLaunch {} 0) ports []
    (b.execute ports e).actor.attempts =
        [⟨7, .document { autoConnect := true, muted := true }, false⟩] ∧
      Untouched b.actor (b.execute ports e).actor := by
  let := asciiLowercase
  intro ports e b
  have ha : (b.execute ports e).actor.attempts = [⟨7, .document _, false⟩] :=
    (publish_attempts _).trans (by simp only [notePersistenceFailure, failWithKind, emit]; rfl)
  have hr : Mealy.Along step (fun c inp => disarms c inp = false)
      (start armedLaunch {} 0) [(ports, .batch [e])] := ⟨rfl, trivial⟩
  obtain ⟨new, hn, -, hu⟩ := (applied_only_if_saved armedLaunch {} 0 _ hr).2 [] ports [e] [] e []
    (prefix_refl _) rfl rfl
  have hne : new = [⟨7, .document _, false⟩] := hn.symm.trans ha
  exact ⟨ha, hu (.inr ⟨_, by rw [hne]; exact mem_cons_self, rfl⟩)⟩

omit [Lowercase] in
/-- The disk is full and the user disables auto-connect: the change is
refused, the launch start is gone all the same. -/
theorem refused_disable_spends_start :
    letI := asciiLowercase
    let ports : Ports := { saves := fun _ => false }
    let e : ControllerEnvelope := { id := 7, command := .setAutoConnect false }
    let b := Batch.partway (start armedLaunch {} 0) ports []
    (PendingBatch.ofList [e]).order = [e] ∧ Batch.Failed (b.execute ports e).actor e.id ∧
      b.actor.startupAutoConnectUntil = some AUTO_CONNECT_WINDOW ∧
      (b.execute ports e).actor.startupAutoConnectUntil = none ∧
      ¬ Untouched b.actor (b.execute ports e).actor := by
  let := asciiLowercase
  intro ports e b
  have hb : b.actor.startupAutoConnectUntil = some AUTO_CONNECT_WINDOW := rfl
  have ha : (b.execute ports e).actor.startupAutoConnectUntil = none := rfl
  have hf : Batch.Failed (b.execute ports e).actor e.id :=
    ⟨.persistence, (publish_lastOutcome _).trans (notePersistenceFailure_lastOutcome _ _)⟩
  refine ⟨rfl, hf, hb, ha, ?_⟩
  intro hu
  have hs := hu.startup
  rw [hb, ha] at hs
  cases hs

end OpenAirCast.Backend.Controller

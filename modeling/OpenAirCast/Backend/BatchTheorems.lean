/-
Backend.BatchTheorems — the shape of a batch and what its
commands leave alone.

`Slotted` says that a slot only holds its own command, so that the order in
which a batch runs is known command by command (`order_split`). The rest
are the frames of the handlers that store nothing, and of the work at the
end of a batch.
-/
import OpenAirCast.Backend.ControllerTheorems
import OpenAirCast.Backend.ProcessBatch

namespace OpenAirCast.Backend

open List

/-! ## The shape of a batch -/

namespace PendingBatch

/-- Every slot holds its own command, the queue only edges. -/
structure Slotted (p : PendingBatch) : Prop where
  desiredMembers : ∀ e, p.desiredMembers = some e → ∃ m, e.command = .setDesiredMembers m
  runIntent : ∀ e, p.runIntent = some e → ∃ i, e.command = .setRunIntent i
  masterVolume : ∀ e, p.masterVolume = some e → ∃ v, e.command = .setMasterVolume v
  muted : ∀ e, p.muted = some e → ∃ b, e.command = .setMuted b
  endpoint : ∀ e, p.endpoint = some e → ∃ a, e.command = .setAudioEndpoint a
  latencyPreset : ∀ e, p.latencyPreset = some e → ∃ l, e.command = .setLatencyPreset l
  autoConnect : ∀ e, p.autoConnect = some e → ∃ b, e.command = .setAutoConnect b
  levels : ∀ entry ∈ p.levels.entries, ∃ v, entry.2.command = .setReceiverLevel entry.1 v
  edges : ∀ e ∈ p.edges, e.command.isEdge = true

theorem isEdge_withoutStart (e : ControllerEnvelope) :
    e.withoutStart.command.isEdge = e.command.isEdge := by
  unfold ControllerEnvelope.withoutStart
  cases h : e.command <;> simp [h, ControllerCommand.isEdge]

variable {p : PendingBatch}

theorem Slotted.insert (h : p.Slotted) (e : ControllerEnvelope) : (p.insert e).Slotted := by
  have hs : ∀ {o : Option ControllerEnvelope} {P : ControllerEnvelope → Prop}, o = some e →
      P e → ∀ e', o = some e' → P e' := by
    intro o P ho hP e' he'
    cases ho.symm.trans he'
    exact hP
  unfold PendingBatch.insert
  cases hc : e.command with
  | setDesiredMembers m => exact { h with desiredMembers := hs rfl ⟨m, hc⟩ }
  | setRunIntent i =>
    refine { h with runIntent := hs rfl ⟨i, hc⟩, edges := ?_ }
    intro edge he
    dsimp only at he
    split at he
    · obtain ⟨first, hf, rfl⟩ := mem_map.mp he
      rw [isEdge_withoutStart]
      exact h.edges first hf
    · exact h.edges edge he
  | setMasterVolume v =>
    refine { h with masterVolume := ?_ }
    intro e' he'
    cases he'
    exact ⟨v, rfl⟩
  | setMuted b => exact { h with muted := hs rfl ⟨b, hc⟩ }
  | setAudioEndpoint a => exact { h with endpoint := hs rfl ⟨a, hc⟩ }
  | setLatencyPreset l => exact { h with latencyPreset := hs rfl ⟨l, hc⟩ }
  | setAutoConnect b => exact { h with autoConnect := hs rfl ⟨b, hc⟩ }
  | setReceiverLevel _ level =>
    refine { h with levels := ?_ }
    intro entry hn
    rcases mem_insertEntry hn with rfl | hold
    · exact ⟨level, hc⟩
    · exact h.levels entry hold
  | applyDesiredMembers | saveGroup | deleteGroup | activateSavedGroup | retryReceiver
  | notifySystem | calibration | runListeningTest | shutdown =>
    refine { h with edges := ?_ }
    intro edge he
    rcases mem_append.mp he with hold | hw
    · exact h.edges edge hold
    · rw [mem_singleton.mp hw, hc]
      rfl

theorem slotted_foldl : ∀ (envs : List ControllerEnvelope) {p : PendingBatch}, p.Slotted →
    (envs.foldl PendingBatch.insert p).Slotted
  | [], _, h => h
  | e :: rest, _, h => slotted_foldl rest (h.insert e)

theorem ofList_slotted (envs : List ControllerEnvelope) : (ofList envs).Slotted := by
  apply slotted_foldl
  constructor <;> simp [SortedMap.empty]

/-- The slots that run before the auto-connect slot. -/
def earlySlots (p : PendingBatch) : List ControllerEnvelope :=
  p.desiredMembers.toList ++ p.runIntent.toList ++ (p.masterVolume.map (fun envelope =>
      { envelope with confirmation := p.masterReceipt })).toList
    ++ p.muted.toList ++ p.endpoint.toList ++ p.latencyPreset.toList

/-- The commands of the early slots. -/
def isEarly : ControllerCommand → Bool
  | .setDesiredMembers _ | .setRunIntent _ | .setMasterVolume _ | .setMuted _
  | .setAudioEndpoint _ | .setLatencyPreset _ => true
  | _ => false

theorem Slotted.isEarly (h : p.Slotted) :
    ∀ e ∈ p.earlySlots, PendingBatch.isEarly e.command = true := by
  intro e he
  simp only [earlySlots, mem_append, Option.mem_toList, Option.map_eq_some_iff] at he
  rcases he with ((((he | he) | ⟨first, hf, rfl⟩) | he) | he) | he
  · obtain ⟨m, hm⟩ := h.desiredMembers e he
    rw [hm]
    rfl
  · obtain ⟨i, hi⟩ := h.runIntent e he
    rw [hi]
    rfl
  · obtain ⟨v, hv⟩ := h.masterVolume first hf
    rw [hv]
    rfl
  · obtain ⟨b, hb⟩ := h.muted e he
    rw [hb]
    rfl
  · obtain ⟨a, ha⟩ := h.endpoint e he
    rw [ha]
    rfl
  · obtain ⟨l, hl⟩ := h.latencyPreset e he
    rw [hl]
    rfl

/-- Where a list is cut at an element that stands nowhere else, the cut is
known. -/
theorem split_unique {α : Type} {P : α → Prop} {ran rest front back : List α} {e first : α}
    (h : ran ++ e :: rest = front ++ first :: back) (he : P e) (hf : ∀ x ∈ front, ¬ P x)
    (hb : ∀ x ∈ back, ¬ P x) : ran = front ∧ e = first := by
  rcases append_eq_append_iff.mp h with ⟨between, hr, hc⟩ | ⟨between, hr, hc⟩
  · cases between with
    | nil =>
      simp only [append_nil] at hr
      exact ⟨hr.symm, (List.cons.inj hc).1⟩
    | cons x =>
      have hx : x = e := ((List.cons.inj hc).1).symm
      exact absurd he (hf e (by rw [hr, ← hx]; simp))
  · cases between with
    | nil =>
      simp only [append_nil] at hr
      exact ⟨hr, ((List.cons.inj hc).1).symm⟩
    | cons =>
      have hmem : e ∈ back := by
        rw [(List.cons.inj hc).2]
        simp
      exact absurd he (hb e hmem)

/-- `SetAutoConnect` runs right behind the early slots. -/
theorem Slotted.autoConnect_position (h : p.Slotted)
    {ran rest : List ControllerEnvelope} {e : ControllerEnvelope} {enabled : Bool}
    (ho : p.order = ran ++ e :: rest) (he : e.command = .setAutoConnect enabled) :
    p.autoConnect = some e ∧ ran = p.earlySlots := by
  have ho' : p.order = p.earlySlots ++ (p.autoConnect.toList
      ++ (p.levels.entries.map (·.2) ++ p.edges)) := by
    simp only [order, earlySlots, append_assoc]
  have hl : ∀ x ∈ p.earlySlots, ¬ ∃ b, x.command = .setAutoConnect b := by
    rintro x hx ⟨b, hb⟩
    have := h.isEarly x hx
    rw [hb] at this
    cases this
  have ha : ∀ x ∈ p.levels.entries.map (·.2) ++ p.edges, ¬ ∃ b, x.command = .setAutoConnect b := by
    rintro x hx ⟨b, hb⟩
    rcases mem_append.mp hx with hx | hx
    · obtain ⟨entry, hn, rfl⟩ := mem_map.mp hx
      obtain ⟨v, hv⟩ := h.levels entry hn
      rw [hv] at hb
      cases hb
    · have := h.edges x hx
      rw [hb] at this
      cases this
  have hmem : e ∈ p.order := by simp [ho]
  cases ht : p.autoConnect with
  | none =>
    rw [ho', ht] at hmem
    rcases mem_append.mp hmem with hx | hx
    · exact absurd ⟨enabled, he⟩ (hl e hx)
    · exact absurd ⟨enabled, he⟩ (ha e (by simpa using hx))
  | some =>
    rw [ho', ht, Option.toList_some, singleton_append] at ho
    obtain ⟨hr, hf⟩ := split_unique (P := fun x => ∃ b, x.command = .setAutoConnect b)
      ho.symm ⟨enabled, he⟩ hl ha
    exact ⟨by rw [hf], hr⟩

end PendingBatch

namespace Controller

variable [Lowercase]

namespace Batch

/-! ## Answers -/

/-! ## Transactions

Six commands share one shape: where the value is new, a transaction; where
it is not, a success. -/

/-- A transaction behind its comparison. -/
def guarded (c : Controller) (changes : Bool) (ports : Ports) (id : Nat)
    (commit : DurableCommit) : Controller :=
  if changes then (c.commitDurable ports id commit).1 else c.complete id

variable (b : Batch) (ports : Ports)

theorem applyMembers_actor (id : Nat) (mbrs : Finset ReceiverId) :
    (b.applyMembers ports id mbrs).actor =
      guarded b.actor (decide (mbrs ≠ b.actor.persisted.lastDesiredMembers)) ports id
        (membersCommit mbrs) := by
  unfold applyMembers guarded
  by_cases h : mbrs = b.actor.persisted.lastDesiredMembers <;> simp [h] <;> rfl

theorem saveAutoConnect_actor (id : Nat) (enabled : Bool) :
    (b.saveAutoConnect ports id enabled).actor =
      guarded b.actor (decide (enabled ≠ b.actor.persisted.autoConnect)) ports id
        (autoConnectCommit enabled) := by
  unfold saveAutoConnect guarded
  by_cases h : enabled = b.actor.persisted.autoConnect <;> simp [h] <;> rfl

/-! ## Edges that store nothing -/

/-! ## The end of a batch

`Shutdown` is the only command behind which nothing runs. -/

/-- Whether the command ends the loop. -/
def endsLoop : ControllerCommand → Bool
  | .shutdown => true
  | _ => false

/-- What a command can owe the batch a reconcile for. -/
def causeOf : ControllerCommand → Option ReconcileCause
  | .setDesiredMembers _ | .applyDesiredMembers _ | .setRunIntent _ => some .membership
  | .setLatencyPreset _ => some .latencyPreset
  | .activateSavedGroup _ _ => some .savedGroup
  | .retryReceiver _ => some .retry
  | .calibration _ => some .calibrationChanged
  | .setMasterVolume _ | .setMuted _ | .setReceiverLevel _ _ | .setAudioEndpoint _
  | .setAutoConnect _ | .saveGroup _ _ _ | .deleteGroup _ | .notifySystem _
  | .runListeningTest _ | .shutdown => none

/-- What a command does before it is answered. -/
def perform (ports : Ports) (b : Batch) (id : Nat) : ControllerCommand → Batch
  | .setDesiredMembers members | .applyDesiredMembers members => b.applyMembers ports id members
  | .setRunIntent intent => b.setRunIntent id intent
  | .setMasterVolume value => b.setMasterVolume ports id value
  | .setMuted muted => b.setMuted ports id muted
  | .setAudioEndpoint preference => b.setAudioEndpoint ports id preference
  | .setLatencyPreset preset => b.setLatencyPreset ports id preset
  | .setAutoConnect enabled => b.setAutoConnect ports id enabled
  | .setReceiverLevel receiver level => b.setReceiverLevel ports id receiver level
  | .saveGroup groupId name members => b.handleSaveGroup ports id groupId name members
  | .deleteGroup groupId => b.handleDeleteGroup ports id groupId
  | .activateSavedGroup groupId start => b.activateSavedGroup ports id groupId start
  | .retryReceiver receiver => b.retryReceiver id receiver
  | .notifySystem event => { b with actor := b.actor.handleSystemEvent ports.now event }.complete id
  | .calibration command => b.calibrate ports id command
  | .runListeningTest guard => b.runListeningTest ports id guard
  | .shutdown => b.shutDown id

/-- How it is answered. -/
def confirm (e : ControllerEnvelope) : Batch :=
  match e.command with
  | .setMasterVolume _ => b.confirmVolume e.id e.confirmation
  | command => if command.isEdge then b.confirmEdge e else b

variable (e : ControllerEnvelope)

theorem execute_eq : b.execute ports e = (b.perform ports e.id e.command).confirm e := by
  rcases e with ⟨_, cmd, _⟩
  cases cmd <;> simp [execute, perform, confirm, ControllerCommand.isEdge]

/-- What a command leaves to its batch, beside the actor. -/
structure Leaves (b b' : Batch) (cause : Option ReconcileCause) (ends : Bool) : Prop where
  reconcile : b'.reconcile = b.reconcile ∨ b'.reconcile = cause ∧ cause ≠ none
  shutdown : b'.shutdown = (b.shutdown || ends)
  groupStarts : b'.groupStarts = b.groupStarts

omit [Lowercase] in
theorem Leaves.nothing {b b' : Batch} {cause : Option ReconcileCause}
    (h : b' = { b with actor := b'.actor, volumesChanged := b'.volumesChanged }) :
    Leaves b b' cause false := by
  rw [h]
  exact ⟨.inl rfl, (Bool.or_false _).symm, rfl⟩

omit [Lowercase] in
theorem leaves_ite {b x y : Batch} {cause : Option ReconcileCause} {ends : Bool} {p : Prop}
    [Decidable p] (hx : Leaves b x cause ends) (hy : Leaves b y cause ends) :
    Leaves b (if p then x else y) cause ends := by
  split
  · exact hx
  · exact hy

theorem commitFor_leaves (id : Nat) (cause : ReconcileCause)
    (commit : DurableCommit) : Leaves b (b.commitFor ports id cause commit) (some cause) false := by
  refine ⟨?_, (Bool.or_false _).symm, rfl⟩
  dsimp only [commitFor]
  split
  · exact .inr ⟨rfl, by simp⟩
  · exact .inl rfl

theorem perform_leaves (id : Nat) (cmd : ControllerCommand) :
    Leaves b (b.perform ports id cmd) (causeOf cmd) (endsLoop cmd) := by
  have hm : ∀ {cause} (b : Batch) commit, Leaves b (b.commit ports id commit) cause false :=
    fun _ _ => .nothing rfl
  have hv : ∀ {cause} (b : Batch) commit,
      Leaves b (b.commitVolume ports id commit) cause false := fun _ _ => .nothing rfl
  have hc : ∀ {cause} (b : Batch), Leaves b (b.complete id) cause false := by
    intro cause b
    unfold Batch.complete
    generalize b.actor.complete id = actor
    exact .nothing rfl
  cases cmd with
  | setDesiredMembers mbrs | applyDesiredMembers mbrs =>
    exact leaves_ite (commitFor_leaves ..) (hc b)
  | setRunIntent =>
    exact leaves_ite ⟨.inr ⟨rfl, by simp [causeOf]⟩, (Bool.or_false _).symm, rfl⟩ (.nothing rfl)
  | setMasterVolume => exact leaves_ite (hv b _) (hc b)
  | setMuted => exact leaves_ite (hv b _) (hc b)
  | setReceiverLevel => exact leaves_ite (hv b _) (hc b)
  | setAudioEndpoint => exact leaves_ite (.nothing rfl) (hc b)
  | setLatencyPreset preset =>
    dsimp only [perform, setLatencyPreset]
    cases preset.disabledReason with
    | some => exact .nothing rfl
    | none => exact leaves_ite (commitFor_leaves ..) (hc b)
  | setAutoConnect enabled =>
    cases enabled with
    | true => exact leaves_ite (hm b _) (hc b)
    | false =>
      have hs : ∀ b : Batch, Leaves b (b.saveAutoConnect ports id false) none false :=
        fun b => leaves_ite (hm b _) (hc b)
      have hd := hs { b with actor := b.actor.disarm }
      exact ⟨hd.reconcile, hd.shutdown, hd.groupStarts⟩
  | saveGroup gid name mbrs =>
    dsimp only [perform, handleSaveGroup]
    cases saveGroupError b.actor.persisted.savedGroups gid (trim name) mbrs with
    | some => exact .nothing rfl
    | none => exact hm b _
  | deleteGroup => exact leaves_ite (hm b _) (hc b)
  | activateSavedGroup =>
    refine ⟨?_, (Bool.or_false _).symm, rfl⟩
    dsimp only [perform, activateSavedGroup]
    split
    · exact .inr ⟨rfl, by simp [causeOf]⟩
    · exact .inl rfl
  | retryReceiver => exact ⟨.inr ⟨rfl, by simp [causeOf]⟩, (Bool.or_false _).symm, rfl⟩
  | notifySystem => exact .nothing rfl
  | calibration =>
    refine ⟨?_, (Bool.or_false _).symm, rfl⟩
    dsimp only [perform, calibrate]
    split
    · exact .inr ⟨rfl, by simp [causeOf]⟩
    · exact .inl rfl
  | runListeningTest => exact leaves_ite (.nothing rfl) (leaves_ite (.nothing rfl) (.nothing rfl))
  | shutdown => exact ⟨.inl rfl, (Bool.or_true _).symm, rfl⟩

theorem confirm_same :
    (b.confirm e).reconcile = b.reconcile ∧ (b.confirm e).shutdown = b.shutdown := by
  have hv : (b.confirmVolume e.id e.confirmation).reconcile = b.reconcile ∧
      (b.confirmVolume e.id e.confirmation).shutdown = b.shutdown := by
    unfold confirmVolume
    cases e.confirmation <;> exact ⟨rfl, rfl⟩
  have he : (b.confirmEdge e).reconcile = b.reconcile ∧
      (b.confirmEdge e).shutdown = b.shutdown := by
    unfold confirmEdge
    cases e.confirmation with
    | none => exact ⟨rfl, rfl⟩
    | some =>
      cases b.outcome e.id with
      | none => exact ⟨rfl, rfl⟩
      | some =>
        dsimp only
        split <;> exact ⟨rfl, rfl⟩
  unfold confirm
  split
  · exact hv
  · split
    · exact he
    · exact ⟨rfl, rfl⟩

theorem execute_reconcile : (b.execute ports e).reconcile = b.reconcile ∨
      (b.execute ports e).reconcile = causeOf e.command ∧ causeOf e.command ≠ none := by
  rw [execute_eq, (confirm_same _ e).1]
  exact (perform_leaves b ports e.id e.command).reconcile

/-- Only `Shutdown` ends the loop. -/
theorem execute_shutdown : (b.execute ports e).shutdown = (b.shutdown || endsLoop e.command) := by
  rw [execute_eq, (confirm_same _ e).2]
  exact (perform_leaves b ports e.id e.command).shutdown

end Batch

end Controller

end OpenAirCast.Backend

/-
Backend.ReceiptTheorems — outcomes and receipts of a batch.

`Tells c c' results` is work that puts the results on record, in their
order, answers nobody and publishes nothing newer than the actor. Every
event tells something: all but a batch tell no result, and a command of a
batch tells exactly its own. What answers a receipt is kept apart from it,
in `Ran`: a command is answered by the revision that follows it, except
that a successful group start waits for the end of the batch.

`Dated` is what the actor has published: no snapshot names a revision or a
generation that the actor has not reached. A batch that reconciles mints a
generation past all of these, and that is the floor of its group starts.
-/
import OpenAirCast.Backend.AnswerTheorems
import OpenAirCast.Backend.DurableTheorems
import OpenAirCast.Backend.WorkTheorems

namespace OpenAirCast.Backend

open List CommandOutcomes PendingBatch Controller

/-- The attempt a phase belongs to. -/
def FullPhase.generation : FullPhase → Option Nat
  | .stopped => none
  | .starting generation | .streaming generation | .degraded generation
  | .restarting generation _ | .stopping generation | .failed generation _ => some generation

namespace CommandOutcomes

/-- Results recorded one after the other. -/
def recordAll (outcomes : CommandOutcomes) (results : List (Nat × Option CommandFailure)) :
    CommandOutcomes :=
  results.foldl (fun outcomes result => outcomes.record result.1 result.2) outcomes

section

variable (outs : CommandOutcomes)

@[simp] theorem recordAll_nil : outs.recordAll [] = outs := rfl

theorem recordAll_cons (res : Nat × Option CommandFailure)
    (rest : List (Nat × Option CommandFailure)) :
    outs.recordAll (res :: rest) = (outs.record res.1 res.2).recordAll rest := by
  unfold recordAll
  rw [foldl_cons]

theorem recordAll_append (front back : List (Nat × Option CommandFailure)) :
    outs.recordAll (front ++ back) = (outs.recordAll front).recordAll back :=
  foldl_append

theorem record_recent (id : Nat) (error : Option CommandFailure) : (outs.record id error).recent =
      outs.recent.drop (outs.recent.length + 1 - OUTCOME_CAPACITY) ++ [(id, error)] := by
  unfold record OUTCOME_CAPACITY
  dsimp only
  rw [length_append, length_singleton, drop_append_of_le_length (by omega)]

end

/-- The ids on record. -/
def ids (outcomes : CommandOutcomes) : List Nat := outcomes.recent.map (·.1)

variable {outs : CommandOutcomes}

theorem mem_ids_record {id j : Nat} {error : Option CommandFailure}
    (h : j ∈ (outs.record id error).ids) : j = id ∨ j ∈ outs.ids := by
  unfold ids at h ⊢
  rw [record_recent, map_append, mem_append] at h
  rcases h with hold | hn
  · exact .inr (map_subset _ (drop_subset _ _) hold)
  · exact .inl (mem_singleton.mp hn)

theorem find_record {id : Nat} (error : Option CommandFailure) (hf : id ∉ outs.ids) :
    ((outs.record id error).recent.find? (fun ent => ent.1 = id)).map (·.2) = some error := by
  have hn : (outs.recent.drop (outs.recent.length + 1 - OUTCOME_CAPACITY)).find?
      (fun ent => decide (ent.1 = id)) = none := by
    rw [find?_eq_none]
    intro ent he hi
    refine hf (mem_map.mpr ⟨ent, drop_subset _ _ he, ?_⟩)
    simpa using hi
  rw [record_recent, find?_append, hn]
  simp

variable (outs)

theorem mem_record (id : Nat) (error : Option CommandFailure) :
    (id, error) ∈ (outs.record id error).recent := by
  rw [record_recent]
  exact mem_append_right _ mem_cons_self

/-- The last results stay: one that fewer than 128 came after is still
there. -/
theorem recordAll_recent {res : Nat × Option CommandFailure} :
    ∀ (later : List (Nat × Option CommandFailure)), later.length < OUTCOME_CAPACITY →
      res ∈ ((outs.record res.1 res.2).recordAll later).recent := by
  -- the result is followed by at most what has been recorded since
  have hk : ∀ (later : List (Nat × Option CommandFailure)) (outs : CommandOutcomes)
      (front back : List (Nat × Option CommandFailure)),
      outs.recent = front ++ res :: back → back.length + later.length < OUTCOME_CAPACITY →
        res ∈ (outs.recordAll later).recent := by
    intro later
    induction later with
    | nil =>
      intro outs front back heq _
      rw [recordAll_nil, heq]
      exact mem_append_right _ mem_cons_self
    | cons next _ ih =>
      intro outs front back heq hlen
      rw [recordAll_cons]
      refine ih (outs.record next.1 next.2)
        (front.drop (outs.recent.length + 1 - OUTCOME_CAPACITY)) (back ++ [next]) ?_ ?_
      · have hr : outs.recent.length + 1 - OUTCOME_CAPACITY ≤ front.length := by
          rw [heq]
          simp only [length_append, length_cons] at hlen ⊢
          omega
        refine (outs.record_recent next.1 next.2).trans ?_
        generalize outs.recent.length + 1 - OUTCOME_CAPACITY = room at hr
        rw [heq, drop_append_of_le_length hr]
        simp
      · simp only [length_append, length_cons, length_nil] at hlen ⊢
        omega
  intro later hlen
  refine hk later _ _ [] (outs.record_recent res.1 res.2) ?_
  simpa using hlen

end CommandOutcomes

namespace PendingBatch

/-! ## What a batch works through -/

theorem id_withoutStart (e : ControllerEnvelope) : e.withoutStart.id = e.id := by
  unfold ControllerEnvelope.withoutStart
  cases e.command <;> rfl

/-- A command that joins a batch brings its id, and takes at most one other
away. -/
theorem insert_ids (p : PendingBatch) (e : ControllerEnvelope) :
    ((p.insert e).order.map (·.id)).Subperm (e.id :: p.order.map (·.id)) := by
  have hs : ∀ intent : RunIntent, (if intent = .stopped then
      p.edges.map ControllerEnvelope.withoutStart else p.edges).map (·.id) =
        p.edges.map (·.id) := by
    intro intent
    split
    · rw [map_map]
      exact map_congr_left (fun edge _ => id_withoutStart edge)
    · rfl
  have hm : ∀ receipt, ((p.masterVolume.map (fun env : ControllerEnvelope =>
      { env with confirmation := receipt })).toList).map (·.id) =
      p.masterVolume.toList.map (·.id) := by
    intro receipt
    cases p.masterVolume <;> rfl
  rw [subperm_iff_count]
  intro j
  unfold insert
  cases hc : e.command with
  | setReceiverLevel recv =>
    have hl := (subperm_iff_count.mp
      (insertEntry_map_subperm ControllerEnvelope.id recv e p.levels.entries)) j
    simp only [order, map_append, count_append, count_cons, map_map,
      SortedMap.insert, Function.comp_def] at hl ⊢
    omega
  | setRunIntent =>
    simp only [order, map_append, count_append, count_cons, hm, hs,
      Option.toList_some, map_cons, map_nil, count_nil]
    omega
  | _ =>
    simp only [order, map_append, count_append, count_cons, hm,
      Option.toList_some, map_cons, map_nil, count_nil, Option.map_some]
    omega

theorem foldl_insert_ids : ∀ (envs : List ControllerEnvelope) (p : PendingBatch),
    ((envs.foldl insert p).order.map (·.id)).Subperm (envs.map (·.id) ++ p.order.map (·.id))
  | [], _ => .refl _
  | e :: rest, p => by
      have hi := (subperm_append_left (rest.map (·.id))).mpr (insert_ids p e)
      exact ((foldl_insert_ids rest (p.insert e)).trans hi).trans perm_middle.subperm

/-- The commands a batch works through are among those it drained. -/
theorem ofList_ids (envs : List ControllerEnvelope) :
    ((ofList envs).order.map (·.id)).Subperm (envs.map (·.id)) := by
  have h := foldl_insert_ids envs {}
  have hn : ({} : PendingBatch).order = [] := rfl
  rw [hn, map_nil, append_nil] at h
  exact h

/-- Behind an edge come edges only. -/
theorem Slotted.edges_last {p : PendingBatch} (h : p.Slotted) :
    p.order.Pairwise (fun a b => a.command.isEdge = true → b.command.isEdge = true) := by
  have hs : ∀ e ∈ p.earlySlots ++ p.autoConnect.toList ++ p.levels.entries.map (·.2),
      e.command.isEdge = false := by
    intro e he
    rcases mem_append.mp he with he | he
    · rcases mem_append.mp he with he | he
      · have hl := h.isEarly e he
        cases hc : e.command <;> simp_all [PendingBatch.isEarly, ControllerCommand.isEdge]
      · obtain ⟨_, hc⟩ := h.autoConnect e (Option.mem_toList.mp he)
        rw [hc]
        rfl
    · obtain ⟨ent, hn, rfl⟩ := mem_map.mp he
      obtain ⟨_, hc⟩ := h.levels ent hn
      rw [hc]
      rfl
  have ho : p.order =
      p.earlySlots ++ p.autoConnect.toList ++ p.levels.entries.map (·.2) ++ p.edges := rfl
  rw [ho, pairwise_append]
  refine ⟨?_, ?_, ?_⟩
  · refine pairwise_of_forall_mem_list (fun a ha b _ hd => ?_)
    rw [hs a ha] at hd
    cases hd
  · exact pairwise_of_forall_mem_list (fun a _ b hb _ => h.edges b hb)
  · exact fun a _ b hb _ => h.edges b hb

end PendingBatch

namespace Controller

variable {results : List (Nat × Option CommandFailure)} {generation : Nat} {input : Ports × Event}

/-! ## Telling results -/

/-- What was published names no revision and no generation the actor has
not reached. -/
structure Dated (c : Controller) : Prop where
  counter : c.sessionGeneration ≤ U64_MAX
  phase : ∀ g, c.snapshot.session.phase.generation = some g → g ≤ c.sessionGeneration
  revisions : ∀ s, Emission.publish s ∈ c.out → s.revision ≤ c.snapshot.revision
  phases : ∀ s, Emission.publish s ∈ c.out →
    ∀ g, s.session.phase.generation = some g → g ≤ c.sessionGeneration

def publications (out : List Emission) : List FullSnapshot := out.filterMap publicationOf

/-- What was published before is behind the actor. -/
def Behind (earlier : List FullSnapshot) (c : Controller) : Prop :=
  ∀ s ∈ earlier, s.revision ≤ c.snapshot.revision ∧
    ∀ g, s.session.phase.generation = some g → g ≤ c.sessionGeneration

variable {s : FullSnapshot}

theorem mem_publications {out : List Emission} :
    s ∈ publications out ↔ Emission.publish s ∈ out := by
  unfold publications
  rw [mem_filterMap]
  constructor
  · rintro ⟨em, hmem, heq⟩
    cases em <;> cases heq
    exact hmem
  · exact fun hmem => ⟨_, hmem, rfl⟩

variable {c : Controller}

theorem Dated.behind (h : Dated c) : Behind (publications c.out) c := by
  intro s hs
  have hmem := mem_publications.mp hs
  exact ⟨h.revisions s hmem, h.phases s hmem⟩

theorem Behind.append {earlier more : List FullSnapshot}
    (h : Behind earlier c) (h' : Behind more c) : Behind (earlier ++ more) c := by
  intro s hs
  rcases mem_append.mp hs with hold | hn
  · exact h s hold
  · exact h' s hn

theorem Behind.later {earlier : List FullSnapshot} {c c' : Controller} (h : Behind earlier c)
    (hr : c.snapshot.revision ≤ c'.snapshot.revision)
    (hn : c.sessionGeneration ≤ c'.sessionGeneration) : Behind earlier c' :=
  fun s hs => ⟨le_trans (h s hs).1 hr, fun g hg => le_trans ((h s hs).2 g hg) hn⟩

/-- Receipts answered, first to last. -/
def answers (c : Controller) : List (ReceiptId × CommandConfirmation) := c.out.filterMap answerOf

/-- The generation counter climbs, inside its width. -/
def Climbs (c c' : Controller) : Prop := c.sessionGeneration ≤ U64_MAX →
  c.sessionGeneration ≤ c'.sessionGeneration ∧ c'.sessionGeneration ≤ U64_MAX

theorem Climbs.of_eq {c' : Controller} (h : c'.sessionGeneration = c.sessionGeneration) :
    Climbs c c' := by
  intro hc
  rw [h]
  exact ⟨le_refl _, hc⟩

theorem Climbs.trans {a b c : Controller} (ha : Climbs a b) (hbc : Climbs b c) : Climbs a c := by
  intro hn
  obtain ⟨hle, hb⟩ := ha hn
  obtain ⟨hle', hc⟩ := hbc hb
  exact ⟨le_trans hle hle', hc⟩

/-- The results go on record, nobody is answered, and what is published is
dated. -/
structure Tells (c c' : Controller) (results : List (Nat × Option CommandFailure)) : Prop where
  outcomes : c'.snapshot.commandOutcomes = c.snapshot.commandOutcomes.recordAll results
  revision : c.snapshot.revision ≤ c'.snapshot.revision
  climbs : Climbs c c'
  extends_ : c.out <+: c'.out
  answers : c'.answers = c.answers
  dated : Dated c → Dated c'

variable (c)

theorem Tells.refl : Tells c c [] :=
  ⟨rfl, le_refl _, .of_eq rfl, prefix_rfl, rfl, id⟩

theorem Tells.trans {a b c : Controller} {front back : List (Nat × Option CommandFailure)}
    (ha : Tells a b front) (hb : Tells b c back) : Tells a c (front ++ back) where
  outcomes := by rw [recordAll_append, ← ha.outcomes, hb.outcomes]
  revision := le_trans ha.revision hb.revision
  climbs := ha.climbs.trans hb.climbs
  extends_ := ha.extends_.trans hb.extends_
  answers := hb.answers.trans ha.answers
  dated := fun h => hb.dated (ha.dated h)

theorem Tells.quiet {a b c : Controller} {results : List (Nat × Option CommandFailure)}
    (ha : Tells a b []) (hb : Tells b c results) : Tells a c results := ha.trans hb

theorem Tells.then {a b c : Controller}
    (ha : Tells a b results) (hb : Tells b c []) : Tells a c results := by
  have h := ha.trans hb
  rwa [append_nil] at h

theorem tells_ite {c a b : Controller} {p : Prop}
    [Decidable p] (ha : Tells c a results) (hb : Tells c b results) :
    Tells c (if p then a else b) results := by
  split
  · exact ha
  · exact hb

theorem Tells.advance {c c' : Controller} (hn : c'.snapshot = c.snapshot)
    (ho : c'.out = c.out) (hc : Climbs c c') : Tells c c' [] where
  outcomes := by
    rw [hn]
    rfl
  revision := by rw [hn]
  climbs := hc
  extends_ := by rw [ho]
  answers := by
    unfold Controller.answers
    rw [ho]
  dated := by
    intro h
    obtain ⟨hle, hcn⟩ := hc h.counter
    refine ⟨hcn, ?_, ?_, ?_⟩
    · rw [hn]
      exact fun g hg => le_trans (h.phase g hg) hle
    · rw [hn, ho]
      exact h.revisions
    · rw [ho]
      exact fun s hs g hg => le_trans (h.phases s hs g hg) hle

theorem Tells.of_eq {c c' : Controller} (hs : c'.snapshot = c.snapshot)
    (ho : c'.out = c.out) (hg : c'.sessionGeneration = c.sessionGeneration) :
    Tells c c' [] :=
  .advance hs ho (.of_eq hg)

theorem Tells.view {next : FullSnapshot}
    (ho : next.commandOutcomes = c.snapshot.commandOutcomes.recordAll results)
    (hr : next.revision = c.snapshot.revision)
    (hp : Dated c → ∀ g, next.session.phase.generation = some g → g ≤ c.sessionGeneration) :
    Tells c { c with snapshot := next } results where
  outcomes := ho
  revision := hr ▸ le_refl _
  climbs := .of_eq rfl
  extends_ := prefix_rfl
  answers := rfl
  dated := fun h => ⟨h.counter, hp h, fun s hs => hr ▸ h.revisions s hs, h.phases⟩

theorem emit_tells {em : Emission} (hp : publicationOf em = none)
    (ha : answerOf em = none) : Tells c (c.emit em) [] := by
  have hmem : ∀ s, Emission.publish s ∈ (c.emit em).out → Emission.publish s ∈ c.out := by
    intro s hs
    rcases mem_append.mp hs with hold | hn
    · exact hold
    · rw [← mem_singleton.mp hn] at hp
      cases hp
  refine ⟨rfl, le_refl _, .of_eq rfl, prefix_append _ _, ?_, fun h => ⟨h.counter, h.phase, ?_, ?_⟩⟩
  · unfold answers emit
    simp [ha]
  · exact fun s hs => h.revisions s (hmem s hs)
  · exact fun s hs => h.phases s (hmem s hs)

variable [Lowercase]

theorem mem_publish_out {c : Controller}
    (h : Emission.publish s ∈ c.publish.out) : Emission.publish s ∈ c.out ∨ s = c.posted := by
  obtain ⟨tone, _, ht, heq⟩ := c.publish_eq
  rw [heq] at h
  rcases mem_append.mp h with hb | hn
  · rcases mem_append.mp hb with hold | hc
    · exact .inl hold
    · rcases ht with rfl | rfl
      · cases hc
      · cases mem_singleton.mp hc
  · cases mem_singleton.mp hn
    exact .inr rfl

theorem publish_tells : Tells c c.publish [] := by
  have hk : c.publish.snapshot = c.posted ∧
      c.publish.sessionGeneration = c.sessionGeneration ∧ c.out <+: c.publish.out ∧
      c.publish.answers = c.answers := by
    obtain ⟨tone, _, ht, heq⟩ := c.publish_eq
    rw [heq]
    refine ⟨rfl, rfl, (prefix_append _ _).trans (prefix_append _ _), ?_⟩
    unfold answers
    rcases ht with rfl | rfl <;> simp [answerOf]
  obtain ⟨hn, hg, he, ha⟩ := hk
  refine ⟨?_, ?_, .of_eq hg, he, ha, fun h => ⟨?_, ?_, ?_, ?_⟩⟩
  · rw [hn]
    rfl
  · rw [hn]
    exact Nat.le_succ _
  · rw [hg]
    exact h.counter
  · rw [hn, hg]
    exact h.phase
  · intro s hs
    rw [hn]
    rcases mem_publish_out hs with hold | rfl
    · exact le_trans (h.revisions s hold) (Nat.le_succ _)
    · exact le_refl _
  · intro s hs
    rw [hg]
    rcases mem_publish_out hs with hold | rfl
    · exact h.phases s hold
    · exact h.phase

/-! ## Courses -/

/-- A course that answers nobody, and learns of no phase or generation from
the session, tells its results. -/
theorem Course.tells {c c' : Controller}
    (h : Course { answers := false, phases := false, raises := false } c results c') :
    Tells c c' results := by
  have hs : ∀ (c : Controller) {next : FullSnapshot},
      next.commandOutcomes = c.snapshot.commandOutcomes → next.revision = c.snapshot.revision →
        next.session.phase = c.snapshot.session.phase → Tells c { c with snapshot := next } [] := by
    intro c next ho hv hp
    refine .view c ho hv (fun hd => ?_)
    rw [hp]
    exact hd.phase
  have hr : ∀ (c : Controller) id error, Tells c { c with snapshot := { c.snapshot with
      commandOutcomes := c.snapshot.commandOutcomes.record id error } } [(id, error)] :=
    fun c id error => .view c rfl rfl Dated.phase
  have he : ∀ (c : Controller) {emission : Emission}, publicationOf emission = none →
      answerOf emission = none → Tells c (c.emit emission) [] :=
    fun c _ hb ha => emit_tells c hb ha
  induction h with
  | refl c => exact .refl c
  | trans _ _ ihab ihbc => exact ihab.trans ihbc
  | @note c emission plain => refine he c ?_ ?_ <;> cases emission <;> first | rfl | cases plain
  | publish c => exact publish_tells c
  | dull c same => exact hs c same.outcomes same.revision same.phase
  | announce c _ same => exact hs c same.outcomes same.revision same.phase
  | record c id => exact hr c id _
  | refuse c id =>
    have ht : Tells c { c with snapshot := { c.snapshot with persistence := .error } } [] :=
      hs c rfl rfl rfl
    exact (ht.quiet (he _ rfl rfl)).quiet ((hr _ id (some .persistence)).then (he _ rfl rfl))
  | intent c => exact hs c rfl rfl rfl
  | rows c _ same =>
    have hst : Tells c c.settleMachines [] := .of_eq rfl rfl rfl
    exact hst.quiet (hs c.settleMachines same.outcomes same.revision same.phase)
  | mint c =>
    refine .advance rfl rfl (fun hc => ?_)
    show c.sessionGeneration ≤ min (c.sessionGeneration + 1) U64_MAX ∧
      min (c.sessionGeneration + 1) U64_MAX ≤ U64_MAX
    omega
  | stage c | volume c | reconcile c => exact he c rfl rfl
  | close c _ _ deadline =>
    have ht : Tells c { c with suspended := true, resumeAt := some deadline } [] :=
      .of_eq rfl rfl rfl
    exact (ht.quiet (he _ rfl rfl)).quiet (he _ rfl rfl)
  | wake c =>
    have ht : Tells c { c with resumeAt := none, suspended := false } [] := .of_eq rfl rfl rfl
    exact (ht.quiet (he _ rfl rfl)).quiet (he _ rfl rfl)
  | answer c never | raise c _ never | phase c never => cases never
  | aside | disarm | adopt | calibrate | unmark | settle | drive | deadline | restart | sight
  | alarm | move | count | join | attempt => exact .of_eq rfl rfl rfl

variable {ports : Ports}

namespace Batch

variable {error : Option CommandFailure} {e : ControllerEnvelope} {es : List ControllerEnvelope}
  {front behind : List Turn} {b : Batch} {c : Controller} {receipt : ReceiptId} {t : Turn}

/-! ## Commands -/

/-- The commands that are answered: the edges, and the volume with its
newest receipt. -/
def answersReceipt : ControllerCommand → Bool
  | .setMasterVolume _ => true
  | command => command.isEdge

def receiptOf (e : ControllerEnvelope) : Option ReceiptId :=
  if answersReceipt e.command then e.confirmation else none

/-- A group start that succeeded waits for the generation of its batch. -/
def waits (e : ControllerEnvelope) (error : Option CommandFailure) : Bool :=
  e.startsGroup && error.isNone

/-- Before it is answered, a command tells one result. -/
theorem perform_tells (b : Batch) (e : ControllerEnvelope) : ∃ error,
    Tells b.actor (b.perform ports e.id e.command).actor [(e.id, error)] := by
  have ha : Allows { answers := false, phases := false, raises := false } ports e.command := by
    refine ⟨fun _ _ _ => rfl, fun _ => ⟨rfl, rfl⟩, ?_⟩
    cases e.command <;> simp [Permits]
  obtain ⟨error, hc, -⟩ := perform_verdict b e ha
  exact ⟨error, hc.tells⟩

/-! ## Answers -/

/-- What becomes of a command's receipt once its body has run. -/
inductive Replies (b : Batch) (e : ControllerEnvelope) (body : Controller)
    (error : Option CommandFailure) (b' : Batch) : Prop
  | nobody (silent : receiptOf e = none) (actor : b'.actor = body)
      (starts : b'.groupStarts = b.groupStarts)
  | now {receipt : ReceiptId} (owed : receiptOf e = some receipt)
      (prompt : waits e error = false) (actor : b'.actor = (answer body receipt error none).publish)
      (starts : b'.groupStarts = b.groupStarts)
  | later {receipt : ReceiptId} (owed : receiptOf e = some receipt)
      (waiting : waits e error = true) (actor : b'.actor = body.publish)
      (starts : b'.groupStarts = b.groupStarts ++ [receipt])

variable {body : Batch}

theorem confirmEdge_replies (he : answersReceipt e.command = true)
    (hs : body.groupStarts = b.groupStarts) (ht : body.outcome e.id = some error) :
    Replies b e body.actor error (body.confirmEdge e) := by
  have hr : receiptOf e = e.confirmation := if_pos he
  unfold confirmEdge
  cases hn : e.confirmation with
  | none => exact .nobody (hr.trans hn) rfl hs
  | some =>
    have ho := hr.trans hn
    simp only [ht]
    by_cases hw : waits e error = true
    · have hc : (e.startsGroup && error.isNone) = true := hw
      rw [if_pos hc]
      exact .later ho hw rfl (by rw [← hs])
    · have hc : ¬ (e.startsGroup && error.isNone) = true := hw
      rw [if_neg hc]
      exact .now ho (by simpa using hw) rfl hs

theorem confirmVolume_replies (hv : answersReceipt e.command = true)
    (hp : e.startsGroup = false) (hs : body.groupStarts = b.groupStarts)
    (ho : body.outcome e.id = some error) :
    Replies b e body.actor error (body.confirmVolume e.id e.confirmation) := by
  have hr : receiptOf e = e.confirmation := if_pos hv
  unfold confirmVolume
  cases hc : e.confirmation with
  | none => exact .nobody (hr.trans hc) rfl hs
  | some =>
    simp only [ho]
    have hw : waits e error = false := by
      unfold waits
      rw [hp]
      rfl
    exact .now (hr.trans hc) hw rfl hs

omit [Lowercase] in
theorem outcome_of_tells {id : Nat} (h : Tells c body.actor [(id, error)])
    (hf : id ∉ c.snapshot.commandOutcomes.ids) : body.outcome id = some error := by
  unfold outcome
  rw [h.outcomes]
  exact find_record error hf

theorem confirm_replies
    (hs : body.groupStarts = b.groupStarts) (ho : body.outcome e.id = some error) :
    Replies b e body.actor error (body.confirm e) := by
  unfold confirm
  split
  · rename_i hc
    exact confirmVolume_replies (by simp [answersReceipt, hc])
      (by simp [ControllerEnvelope.startsGroup, hc]) hs ho
  · rename_i hc
    have ha : answersReceipt e.command = e.command.isEdge := by
      cases ht : e.command with
      | setMasterVolume val => exact absurd ht (hc val)
      | _ => rfl
    split
    · rename_i he
      exact confirmEdge_replies (ha.trans he) hs ho
    · rename_i hsc
      exact .nobody (if_neg (by rwa [ha])) rfl hs

/-- A command tells its own result, and its receipt gets what it should. -/
theorem execute_ran (b : Batch) (e : ControllerEnvelope)
    (hf : e.id ∉ b.actor.snapshot.commandOutcomes.ids) :
    ∃ body error, Tells b.actor body [(e.id, error)] ∧
      Replies b e body error (b.execute ports e) := by
  obtain ⟨error, ht⟩ := @perform_tells _ ports b e
  rw [execute_eq]
  exact ⟨_, error, ht, confirm_replies (b.perform_leaves ports e.id e.command).groupStarts
    (outcome_of_tells ht hf)⟩

/-! ## A batch -/

/-- The commands of a batch that run: nothing runs behind a `Shutdown`. -/
def served : List ControllerEnvelope → List ControllerEnvelope
  | [] => []
  | e :: rest => e :: if endsLoop e.command then [] else served rest

theorem foldl_next_shutdown : ∀ (es : List ControllerEnvelope) {b : Batch}, b.shutdown = true →
    es.foldl (next ports) b = b
  | [], _, _ => rfl
  | e :: rest, b, h => by
      have hn : b.next ports e = b := if_pos h
      rw [foldl_cons, hn, foldl_next_shutdown rest h]

theorem foldl_served : ∀ (es : List ControllerEnvelope) {b : Batch}, b.shutdown = false →
    es.foldl (next ports) b = (served es).foldl (execute ports) b
  | [], _, _ => rfl
  | e :: rest, b, h => by
      have hn : b.next ports e = b.execute ports e := if_neg (by simp [h])
      have hs := b.execute_shutdown ports e
      rw [h, Bool.false_or] at hs
      rw [foldl_cons, hn, served, foldl_cons]
      split
      · rename_i he
        exact foldl_next_shutdown rest (hs.trans he)
      · rename_i hg
        exact foldl_served rest (hs.trans (by simpa using hg))

/-- A command with the batch before and after it. -/
abbrev Turn := Mealy.Turn Batch ControllerEnvelope Unit

/-- The commands one by one. -/
def turns (ports : Ports) (b : Batch) (es : List ControllerEnvelope) : List Turn :=
  Mealy.trace (Mealy.silent (execute ports)) b es

namespace Turn

/-- What the command was recorded with. -/
def verdict (t : Turn) : Option CommandFailure := t.after.actor.lastOutcome.bind (·.2)

def result (t : Turn) : Nat × Option CommandFailure := (t.input.id, verdict t)

/-- The receipt the command owes an answer, with the error it is to carry. -/
def reply (t : Turn) : Option (ReceiptId × Option CommandFailure) :=
  (receiptOf t.input).map (fun receipt => (receipt, verdict t))

/-- The answer waits for the end of the batch. -/
def isLate (t : Turn) : Bool := waits t.input (verdict t)

end Turn

/-- A reply that has been sent, without its revision and its floor. -/
def sentReply (answer : ReceiptId × CommandConfirmation) : ReceiptId × Option CommandFailure :=
  (answer.1, answer.2.error)

/-- What the commands of a batch have done. -/
structure Advances (b b' : Batch) (done : List Turn) : Prop where
  outcomes : b'.actor.snapshot.commandOutcomes =
    b.actor.snapshot.commandOutcomes.recordAll (done.map Turn.result)
  revision : b.actor.snapshot.revision ≤ b'.actor.snapshot.revision
  climbs : Climbs b.actor b'.actor
  extends_ : b.actor.out <+: b'.actor.out
  answers : b'.actor.answers.map sentReply =
    b.actor.answers.map sentReply ++ (done.filter (!Turn.isLate ·)).filterMap Turn.reply
  starts : b'.groupStarts =
    b.groupStarts ++ (done.filter Turn.isLate).filterMap (fun t => receiptOf t.input)
  dated : Dated b.actor → Dated b'.actor

section

omit [Lowercase]

theorem Advances.refl (b : Batch) : Advances b b [] :=
  ⟨rfl, le_refl _, .of_eq rfl, prefix_rfl, by simp, by simp, id⟩

theorem Advances.trans {a b c : Batch} {front back : List Turn} (ha : Advances a b front)
    (hb : Advances b c back) : Advances a c (front ++ back) where
  outcomes := by rw [map_append, recordAll_append, ← ha.outcomes, hb.outcomes]
  revision := le_trans ha.revision hb.revision
  climbs := ha.climbs.trans hb.climbs
  extends_ := ha.extends_.trans hb.extends_
  answers := by rw [hb.answers, ha.answers, filter_append, filterMap_append, append_assoc]
  starts := by rw [hb.starts, ha.starts, filter_append, filterMap_append, append_assoc]
  dated := fun h => hb.dated (ha.dated h)

/-- An answer names the next revision, and says so in the open. -/
theorem answer_out (c : Controller) (receipt : ReceiptId) (error : Option CommandFailure)
    (floor : Option Nat) : (answer c receipt error floor).out = c.out ++ [.confirm receipt
      { revision := c.snapshot.revision + 1, error, sessionGenerationFloor := floor }] := rfl

/-- An answer is nothing a publication is measured by. -/
theorem answer_keeps (c : Controller) (receipt : ReceiptId) (error : Option CommandFailure)
    (floor : Option Nat) (h : Dated c) : Dated (answer c receipt error floor) := by
  have hmem : ∀ s, Emission.publish s ∈ (answer c receipt error floor).out →
      Emission.publish s ∈ c.out := by
    intro s hs
    rcases mem_append.mp hs with hold | hn
    · exact hold
    · cases mem_singleton.mp hn
  exact ⟨h.counter, h.phase, fun s hs => h.revisions s (hmem s hs),
    fun s hs => h.phases s (hmem s hs)⟩

end

variable {b' : Batch}

omit [Lowercase] in
theorem verdict_of_record (h : b'.actor.snapshot.commandOutcomes =
      b.actor.snapshot.commandOutcomes.recordAll [(e.id, error)]) :
    Turn.verdict ⟨b, e, (), b'⟩ = error := by
  have hl : b'.actor.lastOutcome = some (e.id, error) := by
    unfold lastOutcome
    rw [h]
    exact getLast?_record _ _ _
  unfold Turn.verdict
  rw [hl]
  rfl

/-- The receipts a command answers behind itself. -/
def promptReplies (e : ControllerEnvelope) (error : Option CommandFailure) :
    List (ReceiptId × Option CommandFailure) :=
  if waits e error then [] else ((receiptOf e).map (fun receipt => (receipt, error))).toList

/-- The receipts a command leaves to the end of its batch. -/
def lateReceipts (e : ControllerEnvelope) (error : Option CommandFailure) : List ReceiptId :=
  if waits e error then (receiptOf e).toList else []

omit [Lowercase] in
theorem replies_single (hv : Turn.verdict ⟨b, e, (), b'⟩ = error) :
    ([⟨b, e, (), b'⟩].filter (!Turn.isLate ·)).filterMap Turn.reply = promptReplies e error ∧
      ([⟨b, e, (), b'⟩].filter Turn.isLate).filterMap (fun t : Turn => receiptOf t.input) =
        lateReceipts e error := by
  have hl : Turn.isLate ⟨b, e, (), b'⟩ = waits e error := by
    unfold Turn.isLate
    rw [hv]
  have hr : Turn.reply ⟨b, e, (), b'⟩ = (receiptOf e).map (fun receipt => (receipt, error)) := by
    unfold Turn.reply
    rw [hv]
  unfold promptReplies lateReceipts
  cases hw : waits e error <;> cases hc : receiptOf e <;> simp [hl, hr, hw, hc]

omit [Lowercase] in
theorem advances_of_tells
    (h : Tells b.actor b'.actor [(e.id, error)]) (hp : promptReplies e error = [])
    (hs : b'.groupStarts = b.groupStarts ++ lateReceipts e error) :
    Advances b b' [⟨b, e, (), b'⟩] := by
  have hv := verdict_of_record h.outcomes
  obtain ⟨hn, hl⟩ := replies_single hv
  refine ⟨?_, h.revision, h.climbs, h.extends_, ?_, ?_, h.dated⟩
  · rw [h.outcomes, map_singleton, Turn.result, hv]
  · rw [hn, hp, append_nil, h.answers]
  · rw [hl, hs]

variable {body : Controller}

theorem advances_of_answer (hb : Tells b.actor body [(e.id, error)])
    (ha : b'.actor = (answer body receipt error none).publish)
    (hr : promptReplies e error = [(receipt, error)])
    (hs : b'.groupStarts = b.groupStarts ++ lateReceipts e error) :
    Advances b b' [⟨b, e, (), b'⟩] := by
  have hp := publish_tells (answer body receipt error none)
  rw [← ha] at hp
  have ho : b'.actor.snapshot.commandOutcomes =
      b.actor.snapshot.commandOutcomes.recordAll [(e.id, error)] :=
    hp.outcomes.trans hb.outcomes
  have hv := verdict_of_record ho
  obtain ⟨hn, hl⟩ := replies_single hv
  have han : (answer body receipt error none).answers = body.answers ++
      [(receipt, ⟨body.snapshot.revision + 1, error, none⟩)] := by
    unfold answers
    rw [answer_out, filterMap_append]
    rfl
  refine ⟨?_, le_trans hb.revision hp.revision, hb.climbs.trans hp.climbs,
    (hb.extends_.trans (prefix_append _ _)).trans hp.extends_, ?_, ?_,
    fun h => hp.dated (answer_keeps _ _ _ _ (hb.dated h))⟩
  · rw [ho, map_singleton, Turn.result, hv]
  · rw [hn, hr, hp.answers, han, hb.answers, map_append]
    rfl
  · rw [hl, hs]

theorem Replies.advances (hb : Tells b.actor body [(e.id, error)])
    (h : Replies b e body error b') : Turn.verdict ⟨b, e, (), b'⟩ = error ∧
      Advances b b' [⟨b, e, (), b'⟩] := by
  cases h with
  | nobody silent actor starts =>
    rw [← actor] at hb
    refine ⟨verdict_of_record hb.outcomes, advances_of_tells hb ?_ ?_⟩
    · simp [promptReplies, silent]
    · simp [starts, lateReceipts, silent]
  | @now receipt owed prompt actor starts =>
    have ha := advances_of_answer hb actor
      (by simp [promptReplies, prompt, owed]) (by simp [starts, lateReceipts, prompt])
    exact ⟨verdict_of_record (actor ▸ (publish_tells _).outcomes.trans hb.outcomes), ha⟩
  | @later receipt owed waiting actor starts =>
    have hall := hb.then (publish_tells body)
    rw [← actor] at hall
    refine ⟨verdict_of_record hall.outcomes, advances_of_tells hall ?_ ?_⟩
    · simp [promptReplies, waiting]
    · simp [starts, lateReceipts, waiting, owed]

/-- No id of these is on record, and no two are the same. -/
structure Fresh (c : Controller) (es : List ControllerEnvelope) : Prop where
  new : ∀ e ∈ es, e.id ∉ c.snapshot.commandOutcomes.ids
  distinct : (es.map (·.id)).Nodup

theorem execute_advances {b : Batch} {e : ControllerEnvelope}
    (hf : e.id ∉ b.actor.snapshot.commandOutcomes.ids) :
    Advances b (b.execute ports e) [⟨b, e, (), b.execute ports e⟩] := by
  obtain ⟨body, _, hb, hr⟩ := @execute_ran _ ports b e hf
  exact (hr.advances hb).2

theorem Fresh.after {rest : List ControllerEnvelope}
    (h : Fresh b.actor (e :: rest)) : Fresh (b.execute ports e).actor rest := by
  have hd := nodup_cons.mp h.distinct
  refine ⟨fun later hl hmem => ?_, hd.2⟩
  rw [(@execute_advances _ ports b e (h.new e mem_cons_self)).outcomes] at hmem
  rcases mem_ids_record hmem with hi | hold
  · exact hd.1 (mem_map.mpr ⟨later, hl, hi⟩)
  · exact h.new later (mem_cons_of_mem _ hl) hold

theorem foldl_advances : ∀ (es : List ControllerEnvelope) {b : Batch}, Fresh b.actor es →
    Advances b (es.foldl (execute ports) b) (turns ports b es)
  | [], _, _ => .refl _
  | e :: rest, _, h =>
    (execute_advances (h.new e mem_cons_self)).trans (foldl_advances rest h.after)

/-! ## The end of a batch -/

/-- The receipt is answered, and the snapshot is the next one published. -/
def Replied (out : List Emission) (receipt : ReceiptId) (confirmation : CommandConfirmation)
    (next : FullSnapshot) : Prop :=
  ∃ pre post, out = pre ++ Emission.confirm receipt confirmation :: post ∧
    (post.filterMap publicationOf).head? = some next

theorem replied_of_publish {conf : CommandConfirmation} {pre mid out : List Emission}
    (ho : c.out = pre ++ Emission.confirm receipt conf :: mid)
    (hm : mid.filterMap publicationOf = []) (he : c.publish.out <+: out) :
    Replied out receipt conf c.posted := by
  obtain ⟨rest, hr⟩ := he
  obtain ⟨tone, _, ht, heq⟩ := c.publish_eq
  rw [heq] at hr
  rw [ho] at hr
  have hn : (mid ++ tone ++ [Emission.publish c.posted] ++ rest).filterMap publicationOf =
      c.posted :: rest.filterMap publicationOf := by
    rw [filterMap_append, filterMap_append, filterMap_append, hm]
    rcases ht with rfl | rfl <;> rfl
  refine ⟨pre, mid ++ tone ++ [Emission.publish c.posted] ++ rest, ?_, ?_⟩
  · rw [← hr]
    simp
  · rw [hn]
    rfl

/-- The actor when a batch has paid for its volumes and its generation. -/
def flushed (b : Batch) : Controller :=
  flushReconcile (flushVolumes b.actor b.volumesChanged) b.reconcile

/-- What the group starts of the batch are told. -/
def lateAnswer (c : Controller) : CommandConfirmation :=
  { revision := c.snapshot.revision + 1, error := none,
    sessionGenerationFloor := some (generationFloor c) }

section

omit [Lowercase]

theorem foldl_emit_eq {α : Type} {f : Controller → α → Emission} : ∀ (l : List α) (c : Controller),
      ∃ out, l.foldl (fun c a => c.emit (f c a)) c = { c with out := out }
  | [], c => ⟨c.out, rfl⟩
  | a :: rest, c => foldl_emit_eq rest (c.emit (f c a))

theorem flushVolumes_eq (c : Controller) (chg : Bool) :
    ∃ out, flushVolumes c chg = { c with out := out } := by
  cases chg with
  | false => exact ⟨c.out, rfl⟩
  | true =>
    obtain ⟨_, hr⟩ : ∃ out, c.rememberEffectiveVolumes = { c with out := out } := foldl_emit_eq _ _
    obtain ⟨forwarded, hf⟩ : ∃ out, c.rememberEffectiveVolumes.forwardEffectiveVolumes =
        { c.rememberEffectiveVolumes with out := out } := foldl_emit_eq _ _
    exact ⟨forwarded, hf.trans (by rw [hr])⟩

/-- A reconciliation mints one generation. -/
theorem requestReconcile_mints (cause : ReconcileCause) (h : c.nothingToReconcile = false) :
    (c.requestReconcile cause).snapshot = c.snapshot ∧
      (c.requestReconcile cause).suspended = c.suspended ∧
      (c.requestReconcile cause).sessionGeneration =
        saturatingSucc U64_MAX c.sessionGeneration := by
  have hr : ∀ minted : Controller, ∃ out,
      minted.rememberEffectiveVolumes = { minted with out := out } :=
    fun minted => foldl_emit_eq _ minted
  have hn : ¬ c.nothingToReconcile = true := by simp [h]
  unfold requestReconcile
  rw [if_neg hn]
  dsimp only
  generalize (if c.snapshot.runIntent = .stopped then [] else c.desiredDevices) = devices
  obtain ⟨out, ho⟩ := hr (c.mintGeneration cause devices)
  rw [ho]
  exact ⟨rfl, rfl, rfl⟩

end

theorem flushed_tells (b : Batch) :
    Tells b.actor b.flushed [] ∧ b.flushed.snapshot = b.actor.snapshot := by
  have hc : Course { answers := false, phases := false, raises := false } b.actor []
      b.flushed := by
    have hv : Course { answers := false, phases := false, raises := false } b.actor []
        (flushVolumes b.actor b.volumesChanged) :=
      course_ite ((rememberEffectiveVolumes_course _).quiet
        (forwardEffectiveVolumes_course rfl _)) (.refl _)
    unfold flushed
    cases b.reconcile with
    | none => exact hv
    | some cause => exact hv.quiet (requestReconcile_course rfl rfl _ cause)
  obtain ⟨out, ho⟩ := flushVolumes_eq b.actor b.volumesChanged
  refine ⟨hc.tells, ?_⟩
  unfold flushed
  rw [ho]
  cases b.reconcile with
  | none => rfl
  | some cause =>
    show (requestReconcile _ cause).snapshot = _
    cases hn : nothingToReconcile { b.actor with out := out } with
    | true =>
      unfold requestReconcile
      rw [if_pos hn]
    | false => exact (requestReconcile_mints cause hn).1

omit [Lowercase] in
/-- Every group start is told the same. -/
theorem foldl_answer : ∀ (starts : List ReceiptId) (c : Controller),
    let told := starts.foldl (fun c receipt => answer c receipt none (some (generationFloor c))) c
    told.out = c.out ++ starts.map (Emission.confirm · (lateAnswer c)) ∧
      told.snapshot = c.snapshot ∧ told.sessionGeneration = c.sessionGeneration ∧
      (Dated c → Dated told)
  | [], c => ⟨(append_nil _).symm, rfl, rfl, id⟩
  | receipt :: rest, c => by
      obtain ⟨ho, hs, hg, hd⟩ :=
        foldl_answer rest (answer c receipt none (some (generationFloor c)))
      refine ⟨?_, hs, hg, fun h => hd (answer_keeps _ _ _ _ h)⟩
      refine ho.trans ?_
      rw [answer_out, append_assoc]
      rfl

/-- The answers of the group starts, and nothing else, come at the end. -/
structure Settles (b : Batch) (c : Controller) : Prop where
  outcomes : c.snapshot.commandOutcomes = b.actor.snapshot.commandOutcomes
  revision : b.actor.snapshot.revision ≤ c.snapshot.revision
  climbs : Climbs b.actor c
  extends_ : b.actor.out <+: c.out
  answers : c.answers = b.actor.answers ++ b.groupStarts.map (·, lateAnswer b.flushed)
  dated : Dated b.actor → Dated c
  late : ∀ receipt ∈ b.groupStarts, Replied c.out receipt (lateAnswer b.flushed) b.actor.posted

theorem Settles.then {c' : Controller} (h : Settles b c) (hq : Tells c c' []) : Settles b c' where
  outcomes := hq.outcomes.trans h.outcomes
  revision := le_trans h.revision hq.revision
  climbs := h.climbs.trans hq.climbs
  extends_ := h.extends_.trans hq.extends_
  answers := hq.answers.trans h.answers
  dated := fun hd => hq.dated (h.dated hd)
  late := by
    intro receipt hr
    obtain ⟨pre, post, ho, hn⟩ := h.late receipt hr
    obtain ⟨rest, hs⟩ := hq.extends_
    refine ⟨pre, post ++ rest, ?_, ?_⟩
    · rw [← hs, ho, append_assoc]
      rfl
    · rw [filterMap_append, head?_append, hn]
      rfl

theorem answerStarts_settles (b : Batch) : Settles b (answerStarts b.flushed b.groupStarts) := by
  obtain ⟨ht, hm⟩ := flushed_tells b
  have hc : b.flushed.snapshot.commandOutcomes = b.actor.snapshot.commandOutcomes :=
    congrArg FullSnapshot.commandOutcomes hm
  unfold answerStarts
  split
  · rename_i hn
    refine ⟨hc, ht.revision, ht.climbs, ht.extends_, ?_, ht.dated, ?_⟩
    · rw [ht.answers, hn]
      simp
    · rw [hn]
      exact fun receipt hr => absurd hr not_mem_nil
  · obtain ⟨ho, hs, hg, hd⟩ := foldl_answer b.groupStarts b.flushed
    generalize b.groupStarts.foldl (fun c receipt =>
      answer c receipt none (some (generationFloor c))) b.flushed = told
      at ho hs hg hd
    have hp := publish_tells told
    have he : b.flushed.out <+: told.out := by
      rw [ho]
      exact prefix_append _ _
    refine ⟨?_, ?_, ?_, ?_, ?_, ?_, ?_⟩
    · rw [hp.outcomes, hs]
      exact hc
    · refine le_trans ?_ hp.revision
      rw [hs]
      exact ht.revision
    · exact (ht.climbs.trans (.of_eq hg)).trans hp.climbs
    · exact (ht.extends_.trans he).trans hp.extends_
    · rw [hp.answers]
      unfold answers
      rw [ho, filterMap_append, filterMap_map]
      have ha := ht.answers
      unfold answers at ha
      congr 1
      show List.filterMap (some ∘ fun receipt => (receipt, lateAnswer b.flushed)) b.groupStarts = _
      rw [filterMap_eq_map]
    · exact fun h => hp.dated (hd (ht.dated h))
    · intro receipt hr
      have hpos : told.posted = b.actor.posted := by
        unfold posted
        rw [hs, hm]
      obtain ⟨_, _, hl⟩ := append_of_mem hr
      rw [hl, map_append, map_cons, ← append_assoc] at ho
      rw [← hpos]
      refine replied_of_publish ho ?_ prefix_rfl
      rw [filterMap_map, filterMap_eq_nil_iff]
      exact fun _ _ => rfl

theorem settle_settles (b : Batch) : Settles b b.settle := by
  have hs := answerStarts_settles b
  have ho : Tells (answerStarts b.flushed b.groupStarts)
      (publishOutcomes (answerStarts b.flushed b.groupStarts)) [] :=
    tells_ite (publish_tells _) (.refl _)
  have hf : ∀ (c : Controller) finished, Tells c { c with finished } [] :=
    fun _ _ => .of_eq rfl rfl rfl
  exact (hs.then ho).then (hf _ _)

/-! ## Group starts -/

/-- A running intent and a reconcile that is owed are not taken back. -/
structure Onward (b b' : Batch) : Prop where
  running : b.actor.snapshot.runIntent = .running → b'.actor.snapshot.runIntent = .running
  owed : b.reconcile.isSome = true → b'.reconcile.isSome = true

omit [Lowercase] in
theorem Onward.trans {a b c : Batch} (ha : Onward a b) (hb : Onward b c) : Onward a c :=
  ⟨fun h => hb.running (ha.running h), fun h => hb.owed (ha.owed h)⟩

theorem activation_intent (c : Controller) (id : Nat) (group : SavedGroup) :
    (c.commitDurable ports id (activationCommit c.persisted group)).1.snapshot.runIntent =
      c.snapshot.runIntent := by
  obtain ⟨_, hc, -⟩ := @commitDurable_course _ { starts := false } ports rfl c id
    (activationCommit c.persisted group) (fun _ => rfl)
    (fun _ => ⟨.inr rfl, rfl, rfl, rfl, rfl, rfl⟩)
  exact hc.sameIntent

/-- The session the start asks for is the one that runs: the intent is
`Running` and the document has the group's members and levels. -/
def runsAlready (c : Controller) : ControllerCommand → Bool
  | .activateSavedGroup groupId _ =>
    decide (c.snapshot.runIntent = .running)
      && (c.persisted.savedGroups.find? (fun group => group.id = groupId)).any (fun group =>
        (activationCommit c.persisted group).mutatePersisted.any (fun mutate =>
          mutate c.persisted == c.persisted))
  | _ => false

/-- An activation keeps a running intent, and one that succeeds as a start
leaves one. -/
theorem finishActivation_intent (r : Controller × CommitOutcome) (start : Bool) :
    (r.1.snapshot.runIntent = .running →
      (finishActivation r start).1.snapshot.runIntent = .running) ∧
    (start = true → r.2.stateIsIntended = true →
      (finishActivation r start).1.snapshot.runIntent = .running ∧
        ((finishActivation r start).2 = true ∨
          r.1.snapshot.runIntent = .running ∧ r.2.isApplied = false)) := by
  have hd : (declineStart r.1 start r.2.stateIsIntended).snapshot = r.1.snapshot := by
    unfold declineStart
    split <;> rfl
  have hs : ∀ c : Controller, c.startRunning.snapshot.runIntent = .running := by
    intro c
    unfold startRunning
    exact intent_of_keeps (publish_frame _).keeps
  unfold finishActivation
  dsimp only
  split
  · refine ⟨fun _ => hs _, fun _ _ => ⟨hs _, .inl rfl⟩⟩
  · rename_i hi
    rw [hd] at hi ⊢
    refine ⟨id, fun ht hint => ?_⟩
    have hr : r.1.snapshot.runIntent = .running := by simpa [ht, hint] using hi
    refine ⟨hr, ?_⟩
    cases ha : r.2.isApplied with
    | true => exact .inl rfl
    | false => exact .inr ⟨hr, rfl⟩

theorem handleActivateGroup_intent (c : Controller) (id : Nat) (gid : GroupId)
    (start : Bool) (hr : c.snapshot.runIntent = .running) :
    (handleActivateGroup c ports id gid start).1.snapshot.runIntent = .running := by
  unfold handleActivateGroup
  split
  · exact (intent_of_keeps (fail_frame c id _).keeps).trans hr
  · rename_i group _
    refine (finishActivation_intent _ _).1 ?_
    exact (activation_intent c id group).trans hr

/-- A start that succeeds leaves a running intent, and owes a generation
unless its session runs already. -/
theorem handleActivateGroup_starts {id : Nat} {gid : GroupId}
    (hd : (handleActivateGroup c ports id gid true).1.lastOutcome = some (id, none)) :
    (handleActivateGroup c ports id gid true).1.snapshot.runIntent = .running ∧
      ((handleActivateGroup c ports id gid true).2 = true ∨
        runsAlready c (.activateSavedGroup gid true) = true) := by
  unfold handleActivateGroup at hd ⊢
  cases hg : c.persisted.savedGroups.find? (fun group => group.id = gid) with
  | none =>
    rw [hg] at hd
    cases (fail_lastOutcome c id _).symm.trans hd
  | some group =>
    rw [hg] at hd
    dsimp only at hd ⊢
    have hint := @activation_intent _ ports c id group
    generalize hr : c.commitDurable ports id (activationCommit c.persisted group) = r at hd hint ⊢
    have hc : Course {} r.1 [] (finishActivation r true).1 := finishActivation_course rfl rfl r true
    replace hd := hc.lastOutcome.symm.trans hd
    have ht := (finishActivation_intent r true).2 rfl
    rcases commitDurable_cases c ports id (activationCommit c.persisted group) rfl hr
      with ⟨_, -, -, -, hl⟩ | ⟨-, hm, ho, -, -⟩ | ⟨-, -, -, ho, -, -, -⟩
        | ⟨-, -, -, -, -, hl⟩
    · cases hl.symm.trans hd
    · obtain ⟨hn, hs⟩ := ht (by rw [ho]; rfl)
      refine ⟨hn, hs.imp_right (fun hi => ?_)⟩
      have hb : c.snapshot.runIntent = .running := hint.symm.trans hi.1
      simp only [runsAlready, hg, hb, Option.any_some, decide_true, Bool.true_and]
      exact hm
    · obtain ⟨hn, hs⟩ := ht (by rw [ho]; rfl)
      refine ⟨hn, .inl (hs.resolve_right (fun hi => ?_))⟩
      have ha := hi.2
      rw [ho] at ha
      cases ha
    · cases hl.symm.trans hd

theorem execute_onward (b : Batch) (e : ControllerEnvelope) (he : e.command.isEdge = true) :
    Onward b (b.execute ports e) := by
  have hc : Course { starts := false } (b.perform ports e.id e.command).actor []
      ((b.perform ports e.id e.command).confirm e).actor := confirm_course rfl _ e
  rw [execute_eq]
  refine ⟨fun hr => hc.sameIntent.trans ?_, fun hd => ?_⟩
  · have ho : Permits { starts := false } ports e.command →
        (b.perform ports e.id e.command).actor.snapshot.runIntent = .running := by
      intro hp
      obtain ⟨_, hcr, -⟩ := perform_verdict b e ⟨fun _ _ _ => rfl, fun _ => ⟨rfl, rfl⟩, hp⟩
      exact hcr.sameIntent.trans hr
    obtain ⟨id, cmd, _⟩ := e
    cases cmd with
    | activateSavedGroup gid start => exact handleActivateGroup_intent b.actor id gid start hr
    | setRunIntent => cases he
    | _ => exact ho (by simp [Permits])
  · rw [(confirm_same _ e).1]
    rcases (b.perform_leaves ports e.id e.command).reconcile with hs | ⟨hcs, hso⟩
    · rwa [hs]
    · rw [hcs]
      exact Option.isSome_iff_ne_none.mpr hso

omit [Lowercase] in
/-- A batch that owes a reconcile and has a running intent answers its
group starts with a generation nobody has seen. -/
theorem floor_fresh (hr : b.actor.snapshot.runIntent = .running) (ho : b.reconcile.isSome = true) :
    U64_MAX ≤ b.actor.sessionGeneration ∨
      b.actor.sessionGeneration < generationFloor b.flushed := by
  have hc : U64_MAX ≤ b.actor.sessionGeneration ∨
      b.actor.sessionGeneration < saturatingSucc U64_MAX b.actor.sessionGeneration := by
    unfold saturatingSucc
    omega
  obtain ⟨cause, hcs⟩ := Option.isSome_iff_exists.mp ho
  obtain ⟨out, hv⟩ := flushVolumes_eq b.actor b.volumesChanged
  have hf : b.flushed = requestReconcile { b.actor with out := out } cause := by
    unfold flushed
    rw [hcs, hv]
    rfl
  cases hs : b.actor.suspended with
  | true =>
    -- the resume has to mint the generation
    have hn : nothingToReconcile { b.actor with out := out } = true := by
      simp [nothingToReconcile, hs]
    have hm : b.flushed = { b.actor with out := out } := by
      rw [hf]
      unfold requestReconcile
      rw [if_pos hn]
    refine hc.imp_right (fun hlt => ?_)
    unfold generationFloor
    rw [hm]
    dsimp only
    rw [if_pos hs]
    exact hlt
  | false =>
    have hso : nothingToReconcile { b.actor with out := out } = false := by
      simp [nothingToReconcile, hs, hr]
    obtain ⟨-, ha, hi⟩ := requestReconcile_mints cause hso
    refine hc.imp_right (fun hlt => ?_)
    unfold generationFloor
    rw [hf, hi, ha]
    dsimp only
    rw [hs, if_neg Bool.false_ne_true]
    exact hlt

/-- A successful group start leaves a running intent, and a reconcile that
is owed unless its session runs already. -/
theorem start_onward (hf : e.id ∉ b.actor.snapshot.commandOutcomes.ids)
    (hl : Turn.isLate ⟨b, e, (), b.execute ports e⟩ = true) :
    (b.execute ports e).actor.snapshot.runIntent = .running ∧
      ((b.execute ports e).reconcile.isSome = true ∨ runsAlready b.actor e.command = true) := by
  obtain ⟨body, error, hb, hr⟩ := @execute_ran _ ports b e hf
  have hv := (hr.advances hb).1
  have hn : error = none ∧ e.startsGroup = true := by
    unfold Turn.isLate waits at hl
    rw [hv] at hl
    simpa [and_comm] using hl
  obtain ⟨id, cmd, conf⟩ := e
  cases cmd with
  | activateSavedGroup gid start =>
    obtain rfl : start = true := hn.2
    let e : ControllerEnvelope := ⟨id, .activateSavedGroup gid true, conf⟩
    have hc : Course { starts := false } (b.perform ports id e.command).actor []
        ((b.perform ports id e.command).confirm e).actor := confirm_course rfl _ e
    have hs : (handleActivateGroup b.actor ports id gid true).1.lastOutcome = some (id, none) := by
      have ha := (hr.advances hb).2.outcomes
      have he : (b.execute ports ⟨id, .activateSavedGroup gid true, conf⟩
          ).actor.lastOutcome = some (id, none) := by
        unfold lastOutcome
        rw [ha, map_singleton, Turn.result, hv, hn.1]
        exact getLast?_record _ _ _
      rw [execute_eq] at he
      exact hc.lastOutcome.symm.trans he
    obtain ⟨hu, ho⟩ := handleActivateGroup_starts hs
    rw [execute_eq, (confirm_same _ e).1]
    refine ⟨hc.sameIntent.trans hu, ho.imp_left (fun h => ?_)⟩
    show (if (handleActivateGroup b.actor ports id gid true).2 && b.reconcile.isNone
      then some ReconcileCause.savedGroup else b.reconcile).isSome = true
    rw [h]
    cases b.reconcile <;> rfl
  | _ => cases hn.2

theorem foldl_onward : ∀ (es : List ControllerEnvelope) (b : Batch),
    (∀ e ∈ es, e.command.isEdge = true) → Onward b (es.foldl (execute ports) b)
  | [], _, _ => ⟨id, id⟩
  | e :: rest, b, h =>
    (execute_onward b e (h e mem_cons_self)).trans
      (foldl_onward rest _ (fun later hl => h later (mem_cons_of_mem _ hl)))

/-! ## Replies -/

/-- A reply that goes out behind its command: it names the revision under
which the state that the command left is published next. -/
structure PromptReply (earlier : List FullSnapshot) (out : List Emission) (t : Turn)
    (receipt : ReceiptId) (confirmation : CommandConfirmation) : Prop where
  replied : Replied out receipt confirmation t.after.actor.snapshot
  error : confirmation.error = Turn.verdict t
  revision : t.after.actor.snapshot.revision = confirmation.revision
  outcome : Turn.result t ∈ t.after.actor.snapshot.commandOutcomes.recent
  first : ∀ s ∈ earlier ++ publications t.before.actor.out, s.revision < confirmation.revision

/-- A reply at the end of the batch: it names the revision under which the
state that the batch left is published. -/
structure LateReply (earlier : List FullSnapshot) (out : List Emission) (last : Controller)
    (t : Turn) (behind : List Turn) (receipt : ReceiptId) (confirmation : CommandConfirmation) :
    Prop where
  replied : Replied out receipt confirmation last.posted
  error : confirmation.error = Turn.verdict t
  revision : last.posted.revision = confirmation.revision
  outcome : behind.length < OUTCOME_CAPACITY → Turn.result t ∈ last.posted.commandOutcomes.recent
  first : ∀ s ∈ earlier ++ publications t.before.actor.out, s.revision < confirmation.revision
  floor : ∃ floor, confirmation.sessionGenerationFloor = some floor ∧
    (runsAlready t.before.actor t.input.command = true ∨ U64_MAX ≤ last.sessionGeneration ∨
      ∀ s ∈ earlier ++ publications last.out, ∀ g, s.session.phase.generation = some g → g < floor)

theorem turns_split (h : turns ports b es = front ++ t :: behind) :
    ∃ xs ys, es = xs ++ t.input :: ys ∧ t = ⟨xs.foldl (execute ports) b, t.input, (),
      (xs.foldl (execute ports) b).execute ports t.input⟩ ∧
        front = turns ports b xs ∧ behind = turns ports t.after ys := by
  obtain ⟨xs, ys, he, ht, hf, hb⟩ := Mealy.trace_split h
  refine ⟨xs, ys, he, ?_, hf, hb⟩
  rw [Mealy.run_silent] at ht
  exact ht

omit [Lowercase] in
theorem Fresh.take {xs ys : List ControllerEnvelope} (h : Fresh c (xs ++ ys)) : Fresh c xs := by
  have hd := h.distinct
  rw [map_append] at hd
  exact ⟨fun e he => h.new e (mem_append_left _ he), (nodup_append.mp hd).1⟩

theorem Fresh.foldl : ∀ (xs : List ControllerEnvelope) {ys : List ControllerEnvelope}
    {b : Batch}, Fresh b.actor (xs ++ ys) → Fresh (xs.foldl (execute ports) b).actor ys
  | [], _, _, h => h
  | _ :: rest, _, _, h => Fresh.foldl rest h.after

/-- The facts about one turn of a batch that runs to its end. -/
theorem turn_spec (hf : Fresh b.actor es) (h : turns ports b es = front ++ t :: behind) :
    ∃ body, Tells t.before.actor body [Turn.result t] ∧
      Replies t.before t.input body (Turn.verdict t) t.after ∧
      Advances b t.before front ∧ Advances t.after (es.foldl (execute ports) b) behind ∧
      t.input.id ∉ t.before.actor.snapshot.commandOutcomes.ids := by
  obtain ⟨xs, ys, rfl, ht, hfn, hh⟩ := turns_split h
  have hn : Fresh (xs.foldl (execute ports) b).actor (t.input :: ys) := hf.foldl xs
  have hi := hn.new t.input mem_cons_self
  obtain ⟨body, error, hd, hr⟩ := @execute_ran _ ports (xs.foldl (execute ports) b) t.input hi
  have hv := (hr.advances hd).1
  rw [← ht] at hv
  have hb : t.before = xs.foldl (execute ports) b := by rw [ht]
  have ha : t.after = (xs.foldl (execute ports) b).execute ports t.input := by rw [ht]
  have hs : Turn.result t = (t.input.id, error) := by
    unfold Turn.result
    rw [hv]
  refine ⟨body, ?_, ?_, ?_, ?_, ?_⟩
  · rw [hs, hb]
    exact hd
  · rw [hv, hb, ha]
    exact hr
  · rw [hb, hfn]
    exact foldl_advances xs hf.take
  · rw [hh, ha, foldl_append, foldl_cons]
    exact foldl_advances ys hn.after
  · rw [hb]
    exact hi

theorem publish_snapshot (c : Controller) : c.publish.snapshot = c.posted := by
  obtain ⟨_, _, -, heq⟩ := c.publish_eq
  rw [heq]

variable {earlier : List FullSnapshot}

/-- A command that is not a successful group start is answered at once. -/
theorem prompt_reply (hf : Fresh b.actor es)
    (hd : Dated b.actor) (he : Behind earlier b.actor) (h : turns ports b es = front ++ t :: behind)
    (ho : receiptOf t.input = some receipt)
    (hp : Turn.isLate t = false) {out : List Emission}
    (ht : (es.foldl (execute ports) b).actor.out <+: out) :
    ∃ conf, PromptReply earlier out t receipt conf := by
  obtain ⟨body, hbd, hr, hb, ha, -⟩ := turn_spec hf h
  have hh : Behind (earlier ++ publications t.before.actor.out) t.before.actor := by
    refine (he.later hb.revision (hb.climbs hd.counter).1).append ?_
    exact (hb.dated hd).behind
  cases hr with
  | nobody silent => cases silent.symm.trans ho
  | later _ waiting => cases waiting.symm.trans hp
  | @now receipt' owed' prompt actor starts =>
    obtain rfl : receipt' = receipt := Option.some.inj (owed'.symm.trans ho)
    have hn : t.after.actor.snapshot = (answer body receipt' (Turn.verdict t) none).posted := by
      rw [actor]
      exact publish_snapshot _
    refine ⟨⟨body.snapshot.revision + 1, Turn.verdict t, none⟩, ?_, rfl, ?_, ?_, ?_⟩
    · rw [hn]
      refine replied_of_publish (answer_out body receipt' (Turn.verdict t) none) rfl ?_
      rw [← actor]
      exact ha.extends_.trans ht
    · rw [hn]
      rfl
    · rw [hn]
      show Turn.result t ∈ body.snapshot.commandOutcomes.recent
      rw [hbd.outcomes]
      exact mem_record _ _ _
    · intro s hs
      exact Nat.lt_succ_of_le (le_trans (hh s hs).1 hbd.revision)

omit [Lowercase] in
theorem isLate_spec (h : Turn.isLate t = true) :
    Turn.verdict t = none ∧ t.input.startsGroup = true := by
  unfold Turn.isLate waits at h
  simpa [and_comm] using h

/-- Behind a group start there are only edges, and they take neither the
running intent back nor the reconcile it owes. -/
theorem late_onward (hf : Fresh b.actor es)
    (hd : es.Pairwise (fun a b => a.command.isEdge = true → b.command.isEdge = true))
    (h : turns ports b es = front ++ t :: behind)
    (hl : Turn.isLate t = true) :
    (es.foldl (execute ports) b).actor.snapshot.runIntent = .running ∧
      ((es.foldl (execute ports) b).reconcile.isSome = true ∨
        runsAlready t.before.actor t.input.command = true) := by
  obtain ⟨body, -, -, -, -, hi⟩ := turn_spec hf h
  obtain ⟨xs, ys, hes, ht, -, -⟩ := turns_split h
  have hisEdg : t.input.command.isEdge = true := by
    have hs := (isLate_spec hl).2
    unfold ControllerEnvelope.startsGroup at hs
    split at hs
    · rename_i hc
      rw [hc]
      rfl
    · cases hs
  have hb : ∀ e ∈ ys, e.command.isEdge = true := by
    rw [hes, pairwise_append] at hd
    exact fun e he => (pairwise_cons.mp hd.2.1).1 e he hisEdg
  have hfl : es.foldl (execute ports) b = ys.foldl (execute ports) t.after := by
    conv_lhs => rw [hes, foldl_append, foldl_cons]
    rw [ht]
  have ho : Onward t.after (es.foldl (execute ports) b) := by
    rw [hfl]
    exact foldl_onward ys t.after hb
  have hstart : t.after.actor.snapshot.runIntent = .running ∧ (t.after.reconcile.isSome = true ∨
        runsAlready t.before.actor t.input.command = true) := by
    rw [ht] at hi hl ⊢
    exact start_onward hi hl
  exact ⟨ho.running hstart.1, hstart.2.imp_left ho.owed⟩

/-- A successful group start is answered when the batch has reconciled. -/
theorem late_reply (hf : Fresh b.actor es) (hd : Dated b.actor) (he : Behind earlier b.actor)
    (hed : es.Pairwise (fun a b => a.command.isEdge = true → b.command.isEdge = true))
    (h : turns ports b es = front ++ t :: behind) (ho : receiptOf t.input = some receipt)
    (hl : Turn.isLate t = true) :
    ∃ conf, LateReply earlier (es.foldl (execute ports) b).settle.out
      (es.foldl (execute ports) b).actor t behind receipt conf := by
  obtain ⟨body, hbd, hp, hb, ha, -⟩ := turn_spec hf h
  obtain ⟨hn, hc⟩ := late_onward hf hed h hl
  have hall := @foldl_advances _ ports es b hf
  have hon : Advances t.before t.after [t] := (hp.advances hbd).2
  have hr := hon.trans ha
  have hmem : t ∈ turns ports b es := by
    rw [h]
    exact mem_append_right _ mem_cons_self
  generalize es.foldl (execute ports) b = last at *
  have hw : receipt ∈ last.groupStarts := by
    rw [hall.starts, mem_append]
    exact .inr (mem_filterMap.mpr ⟨t, mem_filter.mpr ⟨hmem, hl⟩, ho⟩)
  have hh : Behind (earlier ++ publications last.actor.out) last.actor :=
    (he.later hall.revision (hall.climbs hd.counter).1).append ((hall.dated hd).behind)
  have hbehSta : Behind (earlier ++ publications t.before.actor.out) t.before.actor :=
    (he.later hb.revision (hb.climbs hd.counter).1).append ((hb.dated hd).behind)
  have hv : (lateAnswer last.flushed).revision = last.actor.snapshot.revision + 1 :=
    congrArg (·.revision + 1) (flushed_tells last).2
  refine ⟨lateAnswer last.flushed, (settle_settles last).late receipt hw,
    (isLate_spec hl).1.symm, hv.symm, ?_, ?_, generationFloor last.flushed, rfl, ?_⟩
  · intro hlen
    show Turn.result t ∈ last.actor.snapshot.commandOutcomes.recent
    rw [hr.outcomes, map_append, recordAll_append, map_singleton, recordAll_cons, recordAll_nil]
    exact recordAll_recent _ _ (by rwa [length_map])
  · intro s hs
    rw [hv]
    exact Nat.lt_succ_of_le (le_trans (hbehSta s hs).1 hr.revision)
  · rcases hc with hrc | hal
    · refine .inr ((floor_fresh hn hrc).imp_right (fun hlt s hs g hg => ?_))
      exact Nat.lt_of_le_of_lt ((hh s hs).2 g hg) hlt
    · exact .inl hal

/-- What a batch does to its commands and their receipts. -/
structure Accounts (earlier : List FullSnapshot) (c : Controller) (ports : Ports)
    (order : List ControllerEnvelope) (outcomes : CommandOutcomes) (out : List Emission) :
    Prop where
  recorded : outcomes = c.snapshot.commandOutcomes.recordAll
    ((turns ports { actor := c } order).map Turn.result)
  answered : ((out.filterMap answerOf).map sentReply).Perm
    ((turns ports { actor := c } order).filterMap Turn.reply)
  prompt : ∀ front t behind, turns ports { actor := c } order = front ++ t :: behind →
    ∀ receipt, receiptOf t.input = some receipt → Turn.isLate t = false →
      ∃ confirmation, PromptReply earlier out t receipt confirmation
  late : ∀ front t behind, turns ports { actor := c } order = front ++ t :: behind →
    ∀ receipt, receiptOf t.input = some receipt → Turn.isLate t = true →
      ∃ confirmation, LateReply earlier out
        (order.foldl (execute ports) { actor := c }).actor t behind receipt confirmation

section

omit [Lowercase]

/-- Prompt and late replies together are one reply for each command that
owes one. -/
theorem replies_perm (done : List Turn) : ((done.filter (!Turn.isLate ·)).filterMap Turn.reply ++
      ((done.filter Turn.isLate).filterMap (fun t : Turn => receiptOf t.input)).map
        (·, none)).Perm (done.filterMap Turn.reply) := by
  have hl : ((done.filter Turn.isLate).filterMap (fun t : Turn => receiptOf t.input)).map
      (fun receipt => (receipt, (none : Option CommandFailure))) =
        (done.filter Turn.isLate).filterMap Turn.reply := by
    rw [map_filterMap]
    refine filterMap_congr (fun t ht => ?_)
    have hw := (mem_filter.mp ht).2
    have hv : Turn.verdict t = none := by
      unfold Turn.isLate waits at hw
      simpa using (Bool.and_eq_true_iff.mp hw).2
    unfold Turn.reply
    rw [hv]
  rw [hl]
  have hs := (filter_append_perm Turn.isLate done).filterMap Turn.reply
  rw [filterMap_append] at hs
  exact perm_append_comm.trans hs

theorem served_isPrefix : ∀ es : List ControllerEnvelope, served es <+: es
  | [] => prefix_rfl
  | e :: rest => by
      unfold served
      split
      · exact cons_prefix_cons.mpr ⟨rfl, nil_prefix⟩
      · exact cons_prefix_cons.mpr ⟨rfl, served_isPrefix rest⟩

theorem served_ids (envs : List ControllerEnvelope) :
    ((served (ofList envs).order).map (·.id)).Subperm (envs.map (·.id)) :=
  ((served_isPrefix _).sublist.map _).subperm.trans (ofList_ids envs)

theorem fresh_served {envs : List ControllerEnvelope} (hd : (envs.map (·.id)).Nodup)
    (hn : ∀ e ∈ envs, e.id ∉ c.snapshot.commandOutcomes.ids) :
    Fresh c (served (ofList envs).order) := by
  obtain ⟨_, hp, hs⟩ := served_ids envs
  refine ⟨fun e he => ?_, hp.nodup_iff.mp (hs.nodup hd)⟩
  obtain ⟨first, hf, hi⟩ := mem_map.mp (hs.subset (hp.mem_iff.mpr (mem_map_of_mem he)))
  have hm : first.id = e.id := hi
  rw [← hm]
  exact hn first hf

end

theorem processBatch_served (c : Controller) (envs : List ControllerEnvelope) :
    c.processBatch ports (.ofList envs) =
      ((served (ofList envs).order).foldl (execute ports) { actor := c }).settle := by
  unfold processBatch
  rw [foldl_served _ rfl]

theorem processBatch_accounts {c : Controller} (hq : c.out = []) (hd : Dated c)
    {earlier : List FullSnapshot} (he : Behind earlier c)
    {envs : List ControllerEnvelope} (hi : (envs.map (·.id)).Nodup)
    (hn : ∀ e ∈ envs, e.id ∉ c.snapshot.commandOutcomes.ids) :
    Accounts earlier c ports (served (ofList envs).order)
      (c.processBatch ports (.ofList envs)).snapshot.commandOutcomes
      (c.processBatch ports (.ofList envs)).out := by
  have hf := fresh_served hi hn
  have hg := (ofList_slotted envs).edges_last.sublist (served_isPrefix (ofList envs).order).sublist
  rw [processBatch_served]
  generalize served (ofList envs).order = order at hf hg
  have hall := @foldl_advances _ ports order { actor := c } hf
  have hs := settle_settles (order.foldl (execute ports) { actor := c })
  refine ⟨hs.outcomes.trans hall.outcomes, ?_, ?_, ?_⟩
  · have hnn : c.answers = [] := by
      unfold answers
      rw [hq]
      rfl
    have hsn : (order.foldl (execute ports) { actor := c }).settle.answers.map sentReply =
        ((turns ports { actor := c } order).filter (!Turn.isLate ·)).filterMap Turn.reply ++
          (((turns ports { actor := c } order).filter Turn.isLate).filterMap
            (fun t : Turn => receiptOf t.input)).map (·, none) := by
      rw [hs.answers, map_append, hall.answers, hall.starts, map_map]
      show c.answers.map sentReply ++ _ ++ ([] ++ _).map _ = _
      rw [hnn, map_nil, nil_append, nil_append]
      rfl
    show ((order.foldl (execute ports) { actor := c }).settle.answers.map sentReply).Perm _
    rw [hsn]
    exact replies_perm _
  · exact fun front t behind h receipt ho hp => prompt_reply hf hd he h ho hp hs.extends_
  · exact fun front t behind h receipt ho hl => late_reply hf hd he hg h ho hl

end Batch

/-! ## Session updates -/

theorem maybePublish_tells {next : FullSnapshot}
    (h : Tells c { c with snapshot := next } []) : Tells c (c.maybePublish next) [] :=
  tells_ite (.refl c) (h.quiet (publish_tells _))

/-- Rows rebuilt around a change of the session. -/
theorem amendRows_tells {chg : FullSnapshot → FullSnapshot}
    (h : (chg c.snapshot).commandOutcomes = c.snapshot.commandOutcomes ∧
      (chg c.snapshot).revision = c.snapshot.revision)
    (hp : Dated c → ∀ g, (chg c.snapshot).session.phase.generation = some g →
      g ≤ c.sessionGeneration) : Tells c (c.amendRows chg) [] := by
  have hs : Tells c c.settleMachines [] := .of_eq rfl rfl rfl
  have hd : Dated c.settleMachines → Dated c := fun h => ⟨h.counter, h.phase, h.revisions, h.phases⟩
  have ht : Tells c.settleMachines { c.settleMachines with
      snapshot := c.settleMachines.withRows (chg c.snapshot) } [] :=
    .view _ h.1 h.2 (fun hs => hp (hd hs))
  unfold amendRows
  exact hs.quiet (maybePublish_tells _ ht)

omit [Lowercase] in
theorem raise_tells (hw : generation ≤ U64_MAX) :
    Tells c { c with sessionGeneration := max c.sessionGeneration generation } [] :=
  .advance rfl rfl (fun hc => ⟨le_max_left _ _, max_le hc hw⟩)

variable {c}

theorem applyStarting_tells (hd : Dated c)
    (hw : generation ≤ U64_MAX) : Tells c (c.applyStarting generation) [] := by
  have hr := raise_tells c hw
  have hb : ∀ (ids : List ReceiverId) (c : Controller), Tells c (ids.foldl
      (fun c recv => c.drive recv
        (·.beginGeneration generation (c.retry.attempt recv))) c) [] := fun ids c =>
    (Course.foldl (fun c recv => .drive c rfl recv (.inr rfl)) ids c).tells
  have hle := ((hb (sortedIds c.pendingDesired) _).climbs (hr.dated hd).counter).1
  unfold applyStarting
  refine (hr.quiet (hb _ _)).quiet (amendRows_tells _ ⟨rfl, rfl⟩ (fun _ g hg => ?_))
  obtain rfl : generation = g := Option.some.inj hg
  exact le_trans (le_max_right _ _) hle

omit [Lowercase] in
theorem derivePhase_generation {desired act : Finset ReceiverId} {intent : RunIntent}
    {g : Nat} (h : (derivePhase desired act intent generation).generation = some g) :
    g = generation := by
  unfold derivePhase at h
  split at h
  · cases h
  · split at h
    · exact (Option.some.inj h).symm
    · split at h
      · exact (Option.some.inj h).symm
      · exact (Option.some.inj h).symm

theorem applyActive_tells (hd : Dated c)
    (hk : generation ≤ c.sessionGeneration) (primary : ReceiverId)
    (mbrs : Finset ReceiverId) (fails : List MemberFailure) :
    Tells c (c.applyActive ports generation primary mbrs fails) [] := by
  have hs : Tells c { c with primary := some primary, active := mbrs } [] := .of_eq rfl rfl rfl
  have hj := hs.quiet (((forwardEffectiveVolumes_course rfl _).quiet
    (settleCalibrationGeneration_course rfl _ generation)).quiet
      (@joinMembers_course _ _ ports rfl rfl rfl _ primary mbrs fails)).tells
  have hle := (hj.climbs hd.counter).1
  unfold applyActive
  refine hj.quiet (amendRows_tells _ ⟨rfl, rfl⟩ (fun _ g hg => ?_))
  rw [derivePhase_generation hg]
  exact le_trans hk hle

theorem applyMemberFailed_tells (hd : Dated c)
    (hk : generation ≤ c.sessionGeneration) (recv : ReceiverId) (primary : Bool)
    (error : String) :
    Tells c (c.applyMemberFailed ports generation recv primary error) [] := by
  have hs : Tells c { c with
      active := c.active.erase recv
      primary := if primary ∧ c.primary = some recv then none else c.primary } [] :=
    .of_eq rfl rfl rfl
  have hf := hs.quiet (@noteReceiverFailure_course _ _ ports rfl rfl rfl _ recv true error).tells
  have hle := (hf.climbs hd.counter).1
  unfold applyMemberFailed
  dsimp only
  generalize noteReceiverFailure _ ports recv true error = failed at hf hle
  have hr : Tells c (failed.amendRows (fun next => { next with session := { next.session with
      phase := derivePhase next.desiredMembers failed.active next.runIntent generation
      active := failed.active
      failed := insert recv next.session.failed
      primary := if primary then none else next.session.primary } })) [] := by
    refine hf.quiet (amendRows_tells _ ⟨rfl, rfl⟩ (fun _ g hg => ?_))
    rw [derivePhase_generation hg]
    exact le_trans hk hle
  have he : ∀ c : Controller,
      Tells c ((c.noteRestart ports.now).requestReconcile .primaryFailure) [] := fun c =>
    ((Course.restart c rfl trivial).quiet (requestReconcile_course rfl rfl _ _)).tells
  exact tells_ite (hr.quiet (he _)) hr

theorem applyRecovering_tells (c : Controller) (hw : generation ≤ U64_MAX)
    (rsn : RestartReason) : Tells c (c.applyRecovering generation rsn) [] := by
  unfold applyRecovering
  refine (raise_tells c hw).quiet (maybePublish_tells _ (.view _ rfl rfl (fun _ g hg => ?_)))
  obtain rfl : generation = g := Option.some.inj hg
  exact le_max_right _ _

theorem applyStopped_tells (c : Controller) : Tells c c.applyStopped [] := by
  have hs : Tells c { c with
      active := ∅
      primary := none
      machines := c.machines.mapValues (fun _ mach => mach.leaveSession) } [] :=
    .of_eq rfl rfl rfl
  unfold applyStopped
  exact hs.quiet (amendRows_tells _ ⟨rfl, rfl⟩ (fun _ g hg => by cases hg))

/-! ## Runs -/

/-- The supervisor speaks of generations the actor knows: a new one is
announced by its start or its recovery, inside the counter's width. -/
def announced (c : Controller) (input : Ports × Event) : Bool :=
  match input.2 with
  | .session (.starting generation) | .session (.recovering generation _ _) =>
    decide (generation ≤ U64_MAX)
  | .session (.active generation _ _ _) | .session (.memberFailed generation _ _ _) =>
    decide (generation ≤ c.sessionGeneration)
  | _ => true

/-- The ids of the commands that come with an event. -/
def commandIds (input : Ports × Event) : List Nat :=
  match input.2 with
  | .batch envelopes => envelopes.map (·.id)
  | _ => []

/-- Every event but a batch tells nothing. -/
theorem handle_tells (hd : Dated c) (ha : c.announced input = true) :
    (∃ envs, input.2 = .batch envs) ∨ Tells c (c.handle input.1 input.2) [] := by
  obtain ⟨ports, ev⟩ := input
  have hq : Admits { answers := false, phases := false, raises := false } ports ev →
      Tells c (c.handle ports ev) [] := fun h => (handle_course c h).tells
  cases ev with
  | batch envs => exact .inl ⟨envs, rfl⟩
  | session upd =>
    refine .inr ?_
    cases upd with
    | starting => exact applyStarting_tells hd (of_decide_eq_true ha)
    | active _ prim mbrs fails => exact applyActive_tells hd (of_decide_eq_true ha) prim mbrs fails
    | memberControlFailed => exact .refl c
    | memberFailed _ recv prim error =>
      exact applyMemberFailed_tells hd (of_decide_eq_true ha) recv prim error
    | recovering _ rsn => exact applyRecovering_tells c (of_decide_eq_true ha) rsn
    | stopped => exact applyStopped_tells c
  | discovery upd => exact .inr (hq (by cases upd <;> simp [Admits]))
  | capture | captureTelemetry | endpoints | system | resumeSettled | retryDue
  | autoConnectDue => exact .inr (hq (by simp [Admits]))

theorem turns_ids (b : Batch) (es : List ControllerEnvelope) :
    (Batch.turns ports b es).map (·.input) = es :=
  Mealy.trace_map_input b es

omit [Lowercase] in
theorem mem_ids_recordAll {j : Nat} (results : List (Nat × Option CommandFailure)) :
    ∀ {outs : CommandOutcomes}, j ∈ (outs.recordAll results).ids →
      j ∈ outs.ids ∨ j ∈ results.map (·.1) := by
  induction results with
  | nil =>
    intro outs h
    rw [recordAll_nil] at h
    exact .inl h
  | cons _ _ ih =>
    intro outs h
    rw [recordAll_cons] at h
    rcases ih h with hr | hl
    · rcases mem_ids_record hr with rfl | hold
      · exact .inr mem_cons_self
      · exact .inl hold
    · exact .inr (mem_cons_of_mem _ hl)

/-- What every event keeps, and whose ids it can put on record. -/
theorem handle_records (hd : Dated c)
    (ha : c.announced input = true) (hdi : (commandIds input).Nodup)
    (hn : ∀ id ∈ commandIds input, id ∉ c.snapshot.commandOutcomes.ids) :
    c.snapshot.revision ≤ (c.handle input.1 input.2).snapshot.revision ∧
      Climbs c (c.handle input.1 input.2) ∧ Dated (c.handle input.1 input.2) ∧
      ∀ id ∈ (c.handle input.1 input.2).snapshot.commandOutcomes.ids,
        id ∈ c.snapshot.commandOutcomes.ids ∨ id ∈ commandIds input := by
  rcases handle_tells hd ha with ⟨envs, hb⟩ | hl
  · obtain ⟨ports, ev⟩ := input
    obtain rfl : ev = .batch envs := hb
    have hf := Batch.fresh_served hdi (fun e he => hn e.id (mem_map_of_mem he))
    have hall := @Batch.foldl_advances _ ports _ { actor := c } hf
    have hs := Batch.settle_settles
      ((Batch.served (ofList envs).order).foldl (Batch.execute ports) { actor := c })
    have hp : c.handle ports (.batch envs) = c.processBatch ports (.ofList envs) := rfl
    rw [hp, Batch.processBatch_served]
    refine ⟨le_trans hall.revision hs.revision, hall.climbs.trans hs.climbs,
      hs.dated (hall.dated hd), fun id hi => ?_⟩
    rw [hs.outcomes, hall.outcomes] at hi
    refine (mem_ids_recordAll _ hi).imp_right (fun hla => ?_)
    obtain ⟨res, hr, rfl⟩ := mem_map.mp hla
    obtain ⟨t, ht, rfl⟩ := mem_map.mp hr
    have hin : t.input ∈ Batch.served (ofList envs).order := by
      rw [← turns_ids { actor := c } (Batch.served (ofList envs).order)]
      exact mem_map_of_mem ht
    exact (Batch.served_ids envs).subset (mem_map_of_mem hin)
  · refine ⟨hl.revision, hl.climbs, hl.dated hd, fun id hi => .inl ?_⟩
    rw [hl.outcomes] at hi
    exact hi

/-- The actor between two passes: what was published is behind it, and the
ids on record came with a batch. -/
structure OnRecord (first : FullSnapshot)
    (passes : List (Mealy.Turn Controller (Ports × Event) (List Emission))) (c : Controller) :
    Prop where
  quiet : c.out = []
  dated : Dated c
  behind : Behind (first :: passes.flatMap (fun t => publications t.output)) c
  ids : ∀ id ∈ c.snapshot.commandOutcomes.ids, id ∈ passes.flatMap (fun t => commandIds t.input)

variable {passes : List (Mealy.Turn Controller (Ports × Event) (List Emission))}
  {first : FullSnapshot}

/-- A pass with new ids goes on record. -/
theorem step_onRecord (h : OnRecord first passes c) (hn : c.announced input = true)
    (hdi : (commandIds input).Nodup)
    (hw : ∀ id ∈ commandIds input, id ∉ passes.flatMap (fun t => commandIds t.input)) :
    OnRecord first (passes ++ [Mealy.turn step c input]) (c.step input).1 := by
  have hl : c.cleared = c := by
    unfold cleared
    rw [← h.quiet]
  rcases c.step_work input with ⟨-, ht⟩ | ⟨-, after, ha, -, ht⟩
  · have ho : (Mealy.turn step c input).output = [] := congrArg Prod.snd ht
    rw [ht]
    refine ⟨h.quiet, h.dated, ?_, fun id hi => ?_⟩
    · rw [flatMap_append, flatMap_singleton, ho]
      show Behind (first :: (_ ++ [])) c
      rw [append_nil]
      exact h.behind
    · rw [flatMap_append]
      exact mem_append_left _ (h.ids id hi)
  · have ho : (Mealy.turn step c input).output = after.out := congrArg Prod.snd ht
    obtain ⟨hr, hc, hd, his⟩ := handle_records h.dated hn hdi
      (fun id hi hold => hw id hi (h.ids id hold))
    rw [hl] at ha
    rw [← ha] at hr hc hd his
    have hb := (h.behind.later hr (hc h.dated.counter).1).append hd.behind
    rw [ht]
    refine ⟨rfl, ⟨hd.counter, hd.phase, ?_, ?_⟩, ?_, fun id hi => ?_⟩
    · exact fun s hs => absurd hs not_mem_nil
    · exact fun s hs => absurd hs not_mem_nil
    · rw [flatMap_append, flatMap_singleton, ho]
      exact hb
    · rw [flatMap_append, flatMap_singleton]
      rcases his id hi with hold | hno
      · exact mem_append_left _ (h.ids id hold)
      · exact mem_append_right _ hno

variable (loaded : LoadedState) (cal : CalibrationProfile) (launch : Instant)

theorem start_onRecord : OnRecord (start loaded cal launch).snapshot []
      (start loaded cal launch) := by
  refine ⟨rfl, ⟨Nat.zero_le _, ?_, ?_, ?_⟩, ?_, fun id hi => absurd hi not_mem_nil⟩
  · intro g hg
    cases hg
  · exact fun s hs => absurd hs not_mem_nil
  · exact fun s hs => absurd hs not_mem_nil
  · intro s hs
    rw [mem_singleton.mp hs]
    exact ⟨le_refl _, fun g hg => by cases hg⟩

theorem trace_commandIds (c : Controller) (ins : List (Ports × Event)) :
    (Mealy.trace step c ins).flatMap (fun t => commandIds t.input) = ins.flatMap commandIds := by
  have hi := @Mealy.trace_map_input _ _ _ step c ins
  conv_rhs => rw [← hi]
  rw [flatMap_map]

/-- Every run whose ids are distinct is on record. -/
theorem run_onRecord {ins : List (Ports × Event)}
    (ha : Mealy.Along step (fun c input => c.announced input = true) (start loaded cal launch) ins)
    (hd : (ins.flatMap commandIds).Nodup) :
    OnRecord (start loaded cal launch).snapshot (Mealy.trace step (start loaded cal launch) ins)
      (run (start loaded cal launch) ins) := by
  refine @Mealy.trace_induction_along _ _ _ step (OnRecord (start loaded cal launch).snapshot)
    (fun passes c input => c.announced input = true ∧ (commandIds input).Nodup ∧
      ∀ id ∈ commandIds input, id ∉ passes.flatMap (fun t => commandIds t.input))
    _ (start_onRecord loaded cal launch)
    (fun _ _ _ ho h => step_onRecord h ho.1 ho.2.1 ho.2.2) ins ?_
  intro pre input hb
  obtain ⟨later, hl⟩ := hb
  have hs : ((pre ++ [input]).flatMap commandIds).Nodup := by
    rw [← hl, flatMap_append] at hd
    exact (nodup_append.mp hd).1
  rw [flatMap_append, flatMap_singleton] at hs
  obtain ⟨-, hn, hdi⟩ := nodup_append.mp hs
  refine ⟨(Mealy.along_iff_forall_start ins).mp ha pre input ⟨later, hl⟩, hn, fun id hi hold => ?_⟩
  rw [trace_commandIds] at hold
  exact hdi id hold id hi rfl

/-- The next batch of a run on record, if its ids are new. -/
theorem OnRecord.batch_accounts
    (h : OnRecord first passes c) (ports : Ports) (hl : ¬ (c.finished = true ∨ c.crashed))
    {sent : List FullSnapshot} (hs : sent = passes.flatMap (fun t => publications t.output))
    {envs : List ControllerEnvelope} (hd : (envs.map (·.id)).Nodup)
    (hn : ∀ e ∈ envs, e.id ∉ passes.flatMap (fun t => commandIds t.input)) :
    Batch.Accounts (first :: sent) c ports (Batch.served (ofList envs).order)
      (c.step (ports, .batch envs)).1.snapshot.commandOutcomes
      (c.step (ports, .batch envs)).2 := by
  have hc : c.cleared = c := by
    unfold cleared
    rw [← h.quiet]
  have hb := h.behind
  rw [← hs] at hb
  have ha := @Batch.processBatch_accounts _ ports _ h.quiet h.dated _ hb _ hd
    (fun e he hold => hn e he (h.ids e.id hold))
  rcases c.step_work (ports, .batch envs) with ⟨hdd, -⟩ | ⟨-, after, hf, -, ht⟩
  · exact absurd hdd hl
  · have hp : c.processBatch ports (.ofList envs) = after := by
      rw [hc] at hf
      exact hf.symm
    rw [hp] at ha
    rw [ht]
    exact ha

/-- In every run under distinct command ids, each command of a batch that
is not behind a `Shutdown` goes on record once, and each receipt that is
owed an answer gets one: at once, naming the revision that shows the
command's state next, or, for a group start that succeeded, at the end of
the batch, with a generation that nobody was shown before the batch
reconciled. -/
theorem commands_recorded_and_answered_once (loaded : LoadedState)
    (calibration : CalibrationProfile) (launch : Instant) (inputs : List (Ports × Event))
    (ports : Ports) (envelopes : List ControllerEnvelope)
    (hannounced : Mealy.Along step (fun c input => c.announced input = true)
      (start loaded calibration launch) inputs)
    (hids : ((inputs ++ [(ports, Event.batch envelopes)]).flatMap commandIds).Nodup)
    (hlive : ¬ ((run (start loaded calibration launch) inputs).finished = true ∨
      (run (start loaded calibration launch) inputs).crashed)) :
    let launched := start loaded calibration launch
    let c := run launched inputs
    let earlier := launched.snapshot :: (Mealy.outputs step launched inputs).flatMap publications
    let pass := c.step (ports, .batch envelopes)
    Batch.Accounts earlier c ports (Batch.served (ofList envelopes).order)
      pass.1.snapshot.commandOutcomes pass.2 := by
  intro launched c earlier pass
  rw [flatMap_append, flatMap_singleton] at hids
  obtain ⟨hb, hd, hs⟩ := nodup_append.mp hids
  have hc := run_onRecord loaded calibration launch hannounced hb
  refine hc.batch_accounts ports hlive ?_ hd (fun e he hr => ?_)
  · unfold Mealy.outputs
    rw [flatMap_map]
  · rw [trace_commandIds] at hr
    exact hs e.id hr e.id (mem_map_of_mem he) rfl

/-! ## A party -/

def den : ReceiverId := ⟨1⟩

def party : GroupId := ⟨1⟩

/-- A group of one receiver is saved. -/
def prepared : List (Ports × Event) :=
  [(({} : Ports), .batch [
    { id := 1, command := .saveGroup none "party" [⟨den, "den", .DEFAULT_MASTER⟩] }])]

/-- The volume, a group start and a selection, each with a receipt. -/
def partyStart : List ControllerEnvelope :=
  [{ id := 2, command := .setMasterVolume .DEFAULT_MASTER, confirmation := some 1 },
   { id := 3, command := .activateSavedGroup party true, confirmation := some 2 },
   { id := 4, command := .applyDesiredMembers {den}, confirmation := some 3 }]

omit [Lowercase] in
theorem commands_recorded_and_answered_once_partyStart :
    letI := asciiLowercase
    let launched := start LoadedState.defaults {} 0
    let c := run launched prepared
    let earlier := launched.snapshot :: (Mealy.outputs step launched prepared).flatMap publications
    let pass := c.step ({}, .batch partyStart)
    Batch.Accounts earlier c {} (Batch.served (ofList partyStart).order)
      pass.1.snapshot.commandOutcomes pass.2 := by
  exact @commands_recorded_and_answered_once asciiLowercase _ _ _ prepared {} partyStart
    (by decide) (by decide) (by decide)

/-- The group is started, its members are dropped again, and 127 commands
about no group follow in the same batch. -/
def overtaken : List (Ports × Event) :=
  prepared ++ [(({} : Ports), .batch (
    { id := 2, command := .activateSavedGroup party true, confirmation := some 1 } ::
    { id := 3, command := .applyDesiredMembers ∅ } ::
    (List.range 127).map (fun k => { id := k + 4, command := .deleteGroup ⟨0⟩ })))]

omit [Lowercase] in
/-- The start succeeds and leaves its member selected, and the snapshot that
its answer names has neither the member nor the outcome. -/
theorem group_start_answered_with_later_state :
    letI := asciiLowercase
    let sent := (Mealy.outputs step (start LoadedState.defaults {} 0) overtaken).flatten
    (∃ s ∈ publications sent, (2, none) ∈ s.commandOutcomes.recent ∧ s.desiredMembers = {den}) ∧
    ∃ ans ∈ sent.filterMap answerOf, ans.1 = 1 ∧ ans.2.error = none ∧
      (∃ s ∈ publications sent, s.revision = ans.2.revision) ∧
      ∀ s ∈ publications sent, s.revision = ans.2.revision →
        (2, none) ∉ s.commandOutcomes.recent ∧ s.desiredMembers = ∅ := by
  let := asciiLowercase
  decide +kernel

end Controller

end OpenAirCast.Backend

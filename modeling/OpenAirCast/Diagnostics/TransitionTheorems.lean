/-
Diagnostics.TransitionTheorems — the recorded transitions of one
counter, and when they form a chain.

Three of the four definite counters have one source, the client's snapshots.
Their transitions begin where the last one ended (`Observed.step`).
`CaptureDrops` has two: the drops the backend reports, counted from the
registration, and the client's queue counter. The two do not know of each other
and mostly speak of the same frames. Their transitions are one chain exactly
when the sources keep apart (`Apart`, `Merged.step`); they add up to what the
two have counted together (`Summed`). `chains_of_session` is about every run.
-/
import OpenAirCast.Diagnostics.Record
import Mathlib.Algebra.Ring.Nat
import Mathlib.Data.List.Chain

namespace OpenAirCast.Diagnostics

open Backend WorkerState List Option

/-! ## Transitions -/

/-- A transition of one counter. -/
structure Transition where
  previousTotal : Nat
  currentTotal : Nat

variable (kind : DefiniteCounterKind)

/-- The transition of the counter that a draft records. -/
def DiagnosticEventDraft.transition (draft : DiagnosticEventDraft) : Option Transition :=
  match draft.payload with
  | .definiteCounterTransition counter previousTotal currentTotal =>
    if counter = kind then some ⟨previousTotal, currentTotal⟩ else none
  | _ => none

def transitions (drafts : List DiagnosticEventDraft) : List Transition :=
  drafts.filterMap (·.transition kind)

/-- Each transition goes up, and from where the one before it went. -/
structure Chained (found : List Transition) : Prop where
  grows : ∀ t ∈ found, t.previousTotal < t.currentTotal
  joined : found.IsChain fun a b => a.currentTotal = b.previousTotal

/-- The growth that the transitions report together. -/
def reportedGrowth (found : List Transition) : Nat :=
  (found.map fun t => t.currentTotal - t.previousTotal).sum

/-- A chain that has come to a total, or has not begun. -/
structure Reaches (found : List Transition) (total : Nat) : Prop extends Chained found where
  last : ∀ t ∈ found.getLast?, t.currentTotal = total

theorem reaches_nil (total : Nat) : Reaches [] total where
  grows := by simp
  joined := .nil
  last := by simp

theorem Reaches.concat {found : List Transition} {total next : Nat} (h : Reaches found total)
    (hg : total < next) : Reaches (found ++ [⟨total, next⟩]) next where
  grows := by
    intro t ht
    rcases mem_append.mp ht with ht | ht
    · exact h.grows t ht
    · rw [mem_singleton.mp ht]
      exact hg
  joined := by
    refine isChain_append.mpr ⟨h.joined, isChain_singleton _, ?_⟩
    intro t ht first hf
    obtain rfl : first = ⟨total, next⟩ := by simpa using hf.symm
    exact h.last t ht
  last := by simp

/-- A transition from elsewhere breaks the chain. -/
theorem not_chained_concat {found : List Transition} {last t : Transition}
    (hl : found.getLast? = some last) (hne : last.currentTotal ≠ t.previousTotal) :
    ¬ Chained (found ++ [t]) := by
  intro h
  have hj := (isChain_append.mp h.joined).2.2
  exact hne (hj last hl t rfl)

theorem Chained.left {front back : List Transition} (h : Chained (front ++ back)) :
    Chained front where
  grows := fun t ht => h.grows t (mem_append_left _ ht)
  joined := (isChain_append.mp h.joined).1

/-! ## The drafts of a step -/

/-- The counter as it was seen. -/
def DefiniteBaseline.count (baseline : DefiniteBaseline) : DefiniteCounterKind → Nat
  | .captureDrops => baseline.captureQueueFullDrops
  | .bufferUnderruns => baseline.bufferUnderruns
  | .udpSendFailures => baseline.udpSendFailures
  | .retransmitHistoryMisses => baseline.retransmitHistoryMisses

theorem transitions_append (front back : List DiagnosticEventDraft) :
    transitions kind (front ++ back) = transitions kind front ++ transitions kind back :=
  filterMap_append

/-- The transition that an increase is, if it is one of the counter. -/
def Increase.transition (increase : Increase) : Option Transition :=
  if increase.kind = kind ∧ increase.previous < increase.now then
    some ⟨increase.previous, increase.now⟩
  else none

theorem transitions_grown (kind : DefiniteCounterKind) (asked : Asked) : ∀ found : List Increase,
    transitions kind ((grown found).map (Increase.draft asked)) =
      found.filterMap (Increase.transition kind)
  | [] => rfl
  | increase :: rest => by
      have ih := transitions_grown kind asked rest
      by_cases hm : increase.previous < increase.now
      · rw [grown_cons_pos hm, map_cons]
        by_cases hk : increase.kind = kind
        · have hd : (Increase.draft asked increase).transition kind =
              some ⟨increase.previous, increase.now⟩ := if_pos hk
          have hs : Increase.transition kind increase = some ⟨increase.previous, increase.now⟩ :=
            if_pos ⟨hk, hm⟩
          rw [filterMap_cons_some hs, ← ih]
          exact filterMap_cons_some hd
        · have hd : (Increase.draft asked increase).transition kind = none := if_neg hk
          have hn : Increase.transition kind increase = none := if_neg (fun h => hk h.1)
          rw [filterMap_cons_none hn, ← ih]
          exact filterMap_cons_none hd
      · have hn : Increase.transition kind increase = none := if_neg (fun h => hm h.2)
        rw [grown_cons_neg hm, filterMap_cons_none hn, ih]

theorem increases_transition (pre now : DefiniteBaseline) :
    (increases pre now).filterMap (Increase.transition kind) =
      if pre.count kind < now.count kind then [⟨pre.count kind, now.count kind⟩] else [] := by
  by_cases hm : pre.count kind < now.count kind
  · rw [if_pos hm]
    cases kind <;> simp_all [increases, Increase.transition, DefiniteBaseline.count]
  · rw [if_neg hm]
    cases kind <;> simp_all [increases, Increase.transition, DefiniteBaseline.count]

theorem transitions_feedDraft [PublicMessage] (w : WorkerState)
    (ev : FeedEvent) : transitions kind [w.feedDraft ev] = [] := by
  have hn : (w.feedDraft ev).transition kind = none := by
    unfold DiagnosticEventDraft.transition feedDraft
    split
    · rename_i hp
      split at hp <;> cases hp
    · rfl
  exact filterMap_cons_none hn

theorem transitions_clientDrafts (w : WorkerState) (asked : Asked) :
    transitions kind (w.clientDrafts asked) = [] := by
  unfold transitions clientDrafts
  rw [filterMap_map]
  exact filterMap_eq_nil_iff.mpr fun _ _ => rfl

/-! ## A session -/

/-- The worker since a session was registered. -/
structure SessionRun where
  worker : WorkerState
  /-- The counters as they were observed first; nobody reads them. -/
  seed : Option DefiniteBaseline := none

namespace SessionRun

variable {found : List Transition} {s' : SessionRun}

def step [PublicMessage] (s : SessionRun) (move : WorkerStep) :
    SessionRun × List DiagnosticEventDraft :=
  let r := s.worker.step move
  (⟨r.1, s.seed.or r.1.definiteBaseline⟩, r.2)

def start (w : WorkerState) (asked : Asked) (registration : SessionRegistration) : SessionRun where
  worker := w.applyCommand asked (.register registration)

/-- The counters that a publication observes. -/
def observed (s : SessionRun) (asked : Asked) : Option DefiniteBaseline :=
  s.worker.active.bind fun registration => (asked.snapshot registration.source).audio.map baselineOf

/-- The step leaves the session registered, and the client's counters do not
go down. -/
def Within (s : SessionRun) : WorkerStep → Prop
  | .command _ (.register _) => False
  | .command _ (.finish sessionId _) =>
    ∀ registration ∈ s.worker.active, registration.sessionId ≠ sessionId
  | .ingest _ _ => True
  | .publish asked =>
    ∀ now ∈ s.observed asked, ∀ before ∈ s.worker.definiteBaseline, ∀ kind,
      before.count kind ≤ now.count kind

/-- What the chains depend on. -/
structure Same (s s' : SessionRun) : Prop where
  active : s'.worker.active = s.worker.active
  baseline : s'.worker.definiteBaseline = s.worker.definiteBaseline
  drops : s'.worker.pcmDropAccumulator = s.worker.pcmDropAccumulator
  seed : s'.seed = s.seed

/-- The session is registered, its baseline no lower than its seed. -/
structure InSession (registration : SessionRegistration) (s : SessionRun) : Prop where
  active : s.worker.active = some registration
  bounded : s.worker.pcmDropAccumulator ≤ U64_MAX
  seeded : s.seed = none → s.worker.definiteBaseline = none
  observed : s.worker.definiteBaseline = none → s.seed = none
  least : ∀ first ∈ s.seed, ∀ last ∈ s.worker.definiteBaseline, ∀ kind,
    first.count kind ≤ last.count kind

/-- What a step within a session does. -/
inductive Effect (s : SessionRun) (move : WorkerStep) (r : SessionRun × List DiagnosticEventDraft) :
    Prop where
  | quiet (hs : Same s r.1) (hn : ∀ kind, transitions kind r.2 = [])
      (hd : ∀ asked event dropped, move = .ingest asked event → event.payload = .pcmDrop dropped →
          ¬ s.worker.pcmDropAccumulator < saturatingAdd s.worker.pcmDropAccumulator dropped)
      (ho : ∀ asked, move = .publish asked → s.observed asked = none)
  | drops {asked : Asked} {event : FeedEvent} {dropped : Nat} (hm : move = .ingest asked event)
      (hp : event.payload = .pcmDrop dropped)
      (ho : s.worker.pcmDropAccumulator < saturatingAdd s.worker.pcmDropAccumulator dropped)
      (hs : Same s { r.1 with worker := { r.1.worker with
        pcmDropAccumulator := s.worker.pcmDropAccumulator } })
      (hd : r.1.worker.pcmDropAccumulator = saturatingAdd s.worker.pcmDropAccumulator dropped)
      (hf : transitions .captureDrops r.2 = [⟨s.worker.pcmDropAccumulator,
        saturatingAdd s.worker.pcmDropAccumulator dropped⟩])
      (hn : ∀ kind, kind ≠ .captureDrops → transitions kind r.2 = [])
  | observes {asked : Asked} {now : DefiniteBaseline} (hm : move = .publish asked)
      (ho : s.observed asked = some now)
      (ha : r.1.worker.active = s.worker.active)
      (hb : r.1.worker.definiteBaseline = some now)
      (hd : r.1.worker.pcmDropAccumulator = s.worker.pcmDropAccumulator)
      (hs : r.1.seed = s.seed.or (some now))
      (hf : ∀ kind, transitions kind r.2 = match s.worker.definiteBaseline with
        | none => []
        | some before =>
          if before.count kind < now.count kind then [⟨before.count kind, now.count kind⟩]
          else [])

variable {registration : SessionRegistration} {s : SessionRun}

section

variable (h : InSession registration s)
include h

theorem InSession.same (hs : Same s s') : InSession registration s' where
  active := hs.active.trans h.active
  bounded := hs.drops ▸ h.bounded
  seeded := by
    rw [hs.seed, hs.baseline]
    exact h.seeded
  observed := by
    rw [hs.seed, hs.baseline]
    exact h.observed
  least := by
    rw [hs.seed, hs.baseline]
    exact h.least

theorem InSession.seed_or : s.seed.or s.worker.definiteBaseline = s.seed := by
  cases hs : s.seed with
  | none => rw [h.seeded hs, none_or]
  | some => rfl

theorem command_effect [PublicMessage] (asked : Asked)
    {cmd : Command} (hw : Within s (.command asked cmd)) :
    Effect s (.command asked cmd) (s.step (.command asked cmd)) := by
  cases cmd with
  | register => exact hw.elim
  | finish sid rsn =>
    have ho : registration.sessionId ≠ sid := hw registration h.active
    have hs : s.worker.applyCommand asked (.finish sid rsn) = s.worker := by
      unfold applyCommand
      rw [h.active]
      exact if_neg ho
    have ht : s.step (.command asked (.finish sid rsn)) =
        (⟨s.worker, s.seed.or s.worker.definiteBaseline⟩, []) := by
      unfold step WorkerState.step
      dsimp only
      rw [hs]
    rw [ht]
    exact .quiet ⟨rfl, rfl, rfl, h.seed_or⟩ (fun _ => rfl) (by simp) (by simp)

end

variable (w : WorkerState)

variable (asked : Asked)

theorem notePayload_drops (dropped : Nat) :
    (w.notePayload asked (.pcmDrop dropped)).pcmDropAccumulator =
      saturatingAdd w.pcmDropAccumulator dropped ∧
    (w.notePayload asked (.pcmDrop dropped)).definiteBaseline = w.definiteBaseline := by
  show (w.notePcmDrop asked dropped).pcmDropAccumulator = _ ∧
    (w.notePcmDrop asked dropped).definiteBaseline = _
  unfold notePcmDrop
  dsimp only
  split <;> exact ⟨rfl, rfl⟩

theorem notePayload_other {pay : DiagnosticPayload} (h : ∀ dropped, pay ≠ .pcmDrop dropped) :
    (w.notePayload asked pay).pcmDropAccumulator = w.pcmDropAccumulator ∧
    (w.notePayload asked pay).definiteBaseline = w.definiteBaseline := by
  unfold notePayload
  split
  · exact ⟨rfl, rfl⟩
  · exact absurd rfl (h _)
  · split <;> exact ⟨rfl, rfl⟩
  · exact ⟨rfl, rfl⟩
  · exact ⟨rfl, rfl⟩

theorem transitions_ingest [PublicMessage] {w : WorkerState} (ha : w.active.isSome = true)
    (kind : DefiniteCounterKind) (asked : Asked) (ev : FeedEvent) :
    transitions kind (w.ingestDrafts asked ev) =
      (w.reportedDrops ev.payload).filterMap (Increase.transition kind) := by
  unfold ingestDrafts
  rw [if_pos ha, transitions_append, transitions_grown, transitions_feedDraft, append_nil]

theorem ingest_effect [PublicMessage] (h : InSession registration s) (asked : Asked)
    (ev : FeedEvent) : Effect s (.ingest asked ev) (s.step (.ingest asked ev)) := by
  have hsm : s.worker.active.isSome = true := by rw [h.active]; rfl
  have ha := RegistrySystem.ingest_active s.worker asked ev
  have hf := fun kind => transitions_ingest hsm kind asked ev
  obtain ⟨_, hi⟩ := ingestBackendEvent_eq s.worker asked ev
  by_cases hd : ∃ dropped, ev.payload = .pcmDrop dropped
  · obtain ⟨dropped, hp⟩ := hd
    obtain ⟨hdrops, hb⟩ := notePayload_drops s.worker asked dropped
    rw [← hp] at hdrops hb
    have hd' : (s.worker.ingestBackendEvent asked ev).pcmDropAccumulator = _ :=
      (congrArg (·.pcmDropAccumulator) hi).trans hdrops
    have hb' : (s.worker.ingestBackendEvent asked ev).definiteBaseline = _ :=
      (congrArg (·.definiteBaseline) hi).trans hb
    have hs : s.seed.or (s.worker.ingestBackendEvent asked ev).definiteBaseline = s.seed := by
      rw [hb', h.seed_or]
    by_cases hm : s.worker.pcmDropAccumulator < saturatingAdd s.worker.pcmDropAccumulator dropped
    · refine .drops rfl hp hm ⟨ha, hb', rfl, hs⟩ hd' ?_ ?_
      · refine (hf .captureDrops).trans ?_
        rw [hp]
        exact filterMap_cons_some (if_pos ⟨rfl, hm⟩)
      · intro kind hk
        refine (hf kind).trans ?_
        rw [hp]
        exact filterMap_cons_none (if_neg fun ht => hk ht.1.symm)
    · have hst : saturatingAdd s.worker.pcmDropAccumulator dropped =
          s.worker.pcmDropAccumulator := by
        refine Nat.le_antisymm (Nat.not_lt.mp hm) ?_
        exact Nat.le_min.mpr ⟨Nat.le_add_right _ _, h.bounded⟩
      refine .quiet ⟨ha, hb', hd'.trans hst, hs⟩ (fun kind => ?_) ?_ (by simp)
      · refine (hf kind).trans ?_
        rw [hp]
        exact filterMap_cons_none (if_neg fun ht => hm ht.2)
      · rintro _ _ _ ⟨⟩ hp'
        rw [hp] at hp'
        cases hp'
        exact hm
  · have ho : ∀ dropped, ev.payload ≠ .pcmDrop dropped := fun dropped hp => hd ⟨dropped, hp⟩
    obtain ⟨hdrops, hb⟩ := notePayload_other s.worker asked ho
    have hd' : (s.worker.ingestBackendEvent asked ev).pcmDropAccumulator = _ :=
      (congrArg (·.pcmDropAccumulator) hi).trans hdrops
    have hb' : (s.worker.ingestBackendEvent asked ev).definiteBaseline = _ :=
      (congrArg (·.definiteBaseline) hi).trans hb
    refine .quiet ⟨ha, hb', hd', ?_⟩ (fun kind => ?_) ?_ (by simp)
    · show s.seed.or (s.worker.ingestBackendEvent asked ev).definiteBaseline = s.seed
      rw [hb', h.seed_or]
    · refine (hf kind).trans ?_
      have hn : s.worker.reportedDrops ev.payload = [] := by
        unfold reportedDrops
        split
        · exact absurd ‹_› (ho _)
        · rfl
      rw [hn]
      rfl
    · rintro _ _ dropped ⟨⟩ hp
      exact absurd hp (ho dropped)

theorem publish_counters {w : WorkerState} (ha : w.active = some registration) (asked : Asked) :
    (w.publish asked).pcmDropAccumulator = w.pcmDropAccumulator ∧
      (w.publish asked).definiteBaseline =
        ((asked.snapshot registration.source).audio.map baselineOf).or w.definiteBaseline := by
  obtain ⟨_, ho⟩ := observeClient_eq w asked registration.source (by rw [ha]; rfl)
  unfold publish
  rw [ha]
  dsimp only
  rw [ho]
  exact ⟨rfl, rfl⟩

theorem transitions_publish {w : WorkerState} (ha : w.active = some registration)
    (kind : DefiniteCounterKind) (asked : Asked) :
    transitions kind (w.publishDrafts asked) =
      match (asked.snapshot registration.source).audio.map baselineOf, w.definiteBaseline with
      | some now, some pre =>
        if pre.count kind < now.count kind then [⟨pre.count kind, now.count kind⟩] else []
      | _, _ => [] := by
  unfold publishDrafts
  rw [ha]
  rw [transitions_append, transitions_clientDrafts, transitions_grown, nil_append]
  unfold observedCounters
  cases (asked.snapshot registration.source).audio with
  | none => rfl
  | some audio =>
    cases w.definiteBaseline with
    | none => rfl
    | some pre => exact increases_transition kind pre (baselineOf audio)

theorem publish_effect [PublicMessage] (h : InSession registration s) (asked : Asked) :
    Effect s (.publish asked) (s.step (.publish asked)) := by
  have ha := RegistrySystem.publish_active s.worker asked
  obtain ⟨hd, hb⟩ := publish_counters h.active asked
  have hf := fun kind => transitions_publish h.active kind asked
  have ho : s.observed asked = (asked.snapshot registration.source).audio.map baselineOf := by
    unfold observed
    rw [h.active]
    rfl
  rw [← ho] at hb
  rw [← ho] at hf
  cases hn : s.observed asked with
  | none =>
    rw [hn] at hb hf
    rw [none_or] at hb
    refine .quiet ⟨ha, hb, hd, ?_⟩ hf (by simp) ?_
    · show s.seed.or (s.worker.publish asked).definiteBaseline = s.seed
      rw [hb, h.seed_or]
    · rintro _ ⟨⟩
      exact hn
  | some =>
    rw [hn] at hb hf
    rw [some_or] at hb
    refine .observes rfl hn ha hb hd ?_ fun kind => ?_
    · show s.seed.or (s.worker.publish asked).definiteBaseline = _
      rw [hb]
    · refine (hf kind).trans ?_
      cases s.worker.definiteBaseline <;> rfl

/-- `Effect` covers every step within a session. -/
theorem step_effect [PublicMessage] (h : InSession registration s) {move : WorkerStep}
    (hw : Within s move) : Effect s move (s.step move) := by
  cases move with
  | command asked => exact command_effect h asked hw
  | ingest asked ev => exact ingest_effect h asked ev
  | publish asked => exact publish_effect h asked

/-- A step within the session stays in it. -/
theorem InSession.step [PublicMessage] (h : InSession registration s) {move : WorkerStep}
    (hw : Within s move) : InSession registration (s.step move).1 := by
  cases step_effect h hw with
  | quiet hs => exact h.same hs
  | drops _ _ _ hs hd =>
    have ho := h.same hs
    exact ⟨ho.active, hd ▸ Nat.min_le_right _ _, ho.seeded, ho.observed, ho.least⟩
  | @observes asked now hm hob hc ha hd hsd hfn =>
    subst hm
    refine ⟨hc.trans h.active, hd ▸ h.bounded, ?_, ?_, ?_⟩
    · rw [hsd]
      intro hn
      cases hf : s.seed <;> rw [hf] at hn <;> cases hn
    · rw [ha]
      intro hn
      cases hn
    · rw [hsd, ha]
      rintro first hf _ ⟨⟩ kind
      cases hb : s.worker.definiteBaseline with
      | none =>
        rw [h.observed hb] at hf
        obtain rfl : now = first := Option.some.inj hf
        exact Nat.le_refl _
      | some pre =>
        have hle : pre.count kind ≤ now.count kind := hw now hob pre hb kind
        cases hseede : s.seed with
        | none =>
          rw [h.seeded hseede] at hb
          cases hb
        | some earliest =>
          rw [hseede] at hf
          obtain rfl : earliest = first := Option.some.inj hf
          exact (h.least _ hseede pre hb kind).trans hle

/-! ## Counters with one source -/

abbrev Turn : Type := Mealy.Turn SessionRun WorkerStep (List DiagnosticEventDraft)

theorem transitions_concat (kind : DefiniteCounterKind) (turns : List Turn) (t : Turn) :
    transitions kind (recordedIn (turns ++ [t])) =
      transitions kind (recordedIn turns) ++ transitions kind t.output := by
  unfold recordedIn
  rw [flatMap_append, transitions_append, flatMap_singleton]

theorem reportedGrowth_concat (found : List Transition) (t : Transition) :
    reportedGrowth (found ++ [t]) = reportedGrowth found + (t.currentTotal - t.previousTotal) := by
  simp [reportedGrowth]

/-- The transitions have come to what was observed last. -/
structure Observed (kind : DefiniteCounterKind) (found : List Transition) (s : SessionRun) :
    Prop where
  fresh : s.worker.definiteBaseline = none → found = []
  reaches : ∀ last ∈ s.worker.definiteBaseline, Reaches found (last.count kind)
  growth : ∀ first ∈ s.seed, ∀ last ∈ s.worker.definiteBaseline,
    first.count kind + reportedGrowth found = last.count kind

theorem Observed.same {kind : DefiniteCounterKind}
    (h : Observed kind found s) (hb : s'.worker.definiteBaseline =
      s.worker.definiteBaseline) (hs : s'.seed = s.seed) : Observed kind found s' := by
  refine ⟨?_, ?_, ?_⟩
  · rw [hb]
    exact h.fresh
  · rw [hb]
    exact h.reaches
  · rw [hb, hs]
    exact h.growth

/-- One more step keeps the chain up to the last observation. -/
theorem Observed.step [PublicMessage] {kind : DefiniteCounterKind} (hk : kind ≠ .captureDrops)
    {turns : List Turn} (he : InSession registration s)
    (h : Observed kind (transitions kind (recordedIn turns)) s) {move : WorkerStep}
    (hw : Within s move) :
    Observed kind (transitions kind (recordedIn (turns ++ [Mealy.turn step s move])))
      (s.step move).1 := by
  rw [transitions_concat]
  show Observed kind (_ ++ transitions kind (s.step move).2) (s.step move).1
  cases step_effect he hw with
  | quiet hm hn =>
    rw [hn kind, append_nil]
    exact h.same hm.baseline hm.seed
  | drops _ _ _ hm _ _ hn =>
    rw [hn kind hk, append_nil]
    exact h.same hm.baseline hm.seed
  | @observes asked now hv ho ha hs hdr hd hfn =>
    subst hv
    rw [hfn kind]
    cases hb : s.worker.definiteBaseline with
    | none =>
      rw [h.fresh hb, append_nil]
      refine ⟨fun _ => rfl, fun last hl => reaches_nil _, ?_⟩
      rw [hs, hd, he.observed hb]
      rintro first ⟨⟩ last ⟨⟩
      rfl
    | some pre =>
      have hle : pre.count kind ≤ now.count kind := hw now ho pre hb kind
      have hseede : s.seed.or (some now) = s.seed := by
        cases hf : s.seed with
        | none => rw [he.seeded hf] at hb; cases hb
        | some => rfl
      rw [hseede] at hd
      dsimp only
      split
      · rename_i hr
        refine ⟨?_, ?_, ?_⟩
        · rw [hs]
          intro hn
          cases hn
        · rw [hs]
          rintro last ⟨⟩
          exact (h.reaches pre hb).concat hr
        · rw [hs, hd]
          rintro first hf last ⟨⟩
          have hg := h.growth first hf pre hb
          rw [reportedGrowth_concat]
          dsimp only
          omega
      · rename_i ht
        have hc : pre.count kind = now.count kind := Nat.le_antisymm hle (Nat.not_lt.mp ht)
        rw [append_nil]
        refine ⟨?_, ?_, ?_⟩
        · rw [hs]
          intro hn
          cases hn
        · rw [hs]
          rintro last ⟨⟩
          rw [← hc]
          exact h.reaches pre hb
        · rw [hs, hd]
          rintro first hf _ ⟨⟩
          rw [← hc]
          exact h.growth first hf pre hb

/-! ## The counter with two sources -/

/-- The client's queue counter has grown since it was observed first. -/
def ClientGrew (s : SessionRun) : Prop :=
  ∃ first ∈ s.seed, ∃ last ∈ s.worker.definiteBaseline,
    first.captureQueueFullDrops < last.captureQueueFullDrops

/-- The drops that the backend has reported end where the client's counter was
observed first, if there are any. -/
def FeedEnds (s : SessionRun) : Prop :=
  s.worker.pcmDropAccumulator = 0 ∨
    ∀ first ∈ s.seed, s.worker.pcmDropAccumulator = first.captureQueueFullDrops

/-- The step keeps the sources apart: the backend reports drops before the
client's counter has grown, and the client's counter grows from where those
ended. -/
def Apart (s : SessionRun) : WorkerStep → Prop
  | .command _ _ => True
  | .ingest _ event =>
    ∀ dropped, event.payload = .pcmDrop dropped →
      s.worker.pcmDropAccumulator < saturatingAdd s.worker.pcmDropAccumulator dropped →
        ¬ ClientGrew s
  | .publish asked =>
    ∀ now ∈ s.observed asked, ∀ before ∈ s.worker.definiteBaseline,
      before.captureQueueFullDrops < now.captureQueueFullDrops → FeedEnds s

/-- The transitions have come to the total of the source that is on. -/
structure Merged (found : List Transition) (s : SessionRun) : Prop where
  feed : ¬ ClientGrew s → Reaches found s.worker.pcmDropAccumulator ∧
    (found = [] ↔ s.worker.pcmDropAccumulator = 0)
  client : ClientGrew s → FeedEnds s ∧ found ≠ [] ∧
    ∀ last ∈ s.worker.definiteBaseline, Reaches found last.captureQueueFullDrops

theorem Merged.chained (h : Merged found s) : Chained found := by
  by_cases hg : ClientGrew s
  · obtain ⟨first, hf, last, hl, hm⟩ := hg
    exact ((h.client ⟨first, hf, last, hl, hm⟩).2.2 last hl).toChained
  · exact (h.feed hg).1.toChained

theorem Merged.same (h : Merged found s) (hs : Same s s') : Merged found s' := by
  have hg : ClientGrew s' ↔ ClientGrew s := by
    unfold ClientGrew
    rw [hs.seed, hs.baseline]
  have he : FeedEnds s' ↔ FeedEnds s := by
    unfold FeedEnds
    rw [hs.seed, hs.drops]
  refine ⟨?_, ?_⟩
  · rw [hg, hs.drops]
    exact h.feed
  · rw [hg, he, hs.baseline]
    exact h.client

theorem Merged.drops {found : List Transition} (h : Merged found s) {next : Nat}
    (hm : s.worker.pcmDropAccumulator < next) {s' : SessionRun}
    (hs : Same s { s' with worker := { s'.worker with
      pcmDropAccumulator := s.worker.pcmDropAccumulator } })
    (hd : s'.worker.pcmDropAccumulator = next) :
    (Chained (found ++ [⟨s.worker.pcmDropAccumulator, next⟩]) ↔ ¬ ClientGrew s) ∧
      (¬ ClientGrew s → Merged (found ++ [⟨s.worker.pcmDropAccumulator, next⟩]) s') := by
  have hsd : s'.seed = s.seed := hs.seed
  have hb : s'.worker.definiteBaseline = s.worker.definiteBaseline := hs.baseline
  have hg : ClientGrew s' ↔ ClientGrew s := by
    unfold ClientGrew
    rw [hsd, hb]
  refine ⟨⟨fun hh hc => ?_, fun hc => ?_⟩, fun hc => ?_⟩
  · obtain ⟨he, ho, hr⟩ := h.client hc
    obtain ⟨first, hf, last, hl, _⟩ := hc
    obtain ⟨t, ht⟩ := isSome_iff_exists.mp (getLast?_isSome.mpr ho)
    have hto := (hr last hl).last t ht
    refine not_chained_concat ht ?_ hh
    dsimp only
    rcases he with hn | he
    · omega
    · have hfd := he first hf
      omega
  · exact ((h.feed hc).1.concat hm).toChained
  · refine ⟨fun _ => ?_, fun hw => absurd (hg.mp hw) hc⟩
    rw [hd]
    refine ⟨(h.feed hc).1.concat hm, by simp, fun hn => ?_⟩
    omega

theorem Merged.grows (h : Merged found s)
    (hs : InSession registration s) {pre now : DefiniteBaseline}
    (hb : s.worker.definiteBaseline = some pre)
    (hr : pre.captureQueueFullDrops < now.captureQueueFullDrops)
    (ha : s'.worker.definiteBaseline = some now)
    (hdr : s'.worker.pcmDropAccumulator = s.worker.pcmDropAccumulator)
    (hsd : s'.seed = s.seed) :
    (Chained (found ++ [⟨pre.captureQueueFullDrops, now.captureQueueFullDrops⟩]) ↔ FeedEnds s) ∧
      (FeedEnds s →
        Merged (found ++ [⟨pre.captureQueueFullDrops, now.captureQueueFullDrops⟩]) s') := by
  obtain ⟨first, hf⟩ : ∃ first, s.seed = some first := by
    cases hseede : s.seed with
    | none => rw [hs.seeded hseede] at hb; cases hb
    | some first => exact ⟨first, rfl⟩
  have hl := hs.least first hf pre hb .captureDrops
  have hst : ¬ ClientGrew s → first.captureQueueFullDrops = pre.captureQueueFullDrops := by
    intro hc
    refine Nat.le_antisymm hl (Nat.not_lt.mp fun hle => ?_)
    exact hc ⟨first, hf, pre, hb, hle⟩
  have hrc : FeedEnds s →
      Reaches (found ++ [⟨pre.captureQueueFullDrops, now.captureQueueFullDrops⟩])
        now.captureQueueFullDrops := by
    intro he
    refine Reaches.concat ?_ hr
    by_cases hc : ClientGrew s
    · exact (h.client hc).2.2 pre hb
    · obtain ⟨hd, hm⟩ := h.feed hc
      rcases he with hn | he
      · rw [hm.mpr hn]
        exact reaches_nil _
      · rw [← hst hc, ← he first hf]
        exact hd
  refine ⟨⟨fun hh => ?_, fun he => (hrc he).toChained⟩, fun he => ?_⟩
  · by_contra he
    have hc : ¬ ClientGrew s := fun hc => he (h.client hc).1
    obtain ⟨hd, hm⟩ := h.feed hc
    have hsm : found ≠ [] := fun hn => he (.inl (hm.mp hn))
    obtain ⟨t, ht⟩ := isSome_iff_exists.mp (getLast?_isSome.mpr hsm)
    refine not_chained_concat ht ?_ hh
    rw [hd.last t ht]
    intro hq
    refine he (.inr fun earliest hel => ?_)
    obtain rfl : first = earliest := Option.some.inj (hf.symm.trans hel)
    rw [hq, hst hc]
  · have hg : ClientGrew s' := by
      refine ⟨first, hsd.trans hf, now, ha, ?_⟩
      exact Nat.lt_of_le_of_lt hl hr
    refine ⟨fun hc => absurd hg hc, fun _ => ⟨?_, by simp, ?_⟩⟩
    · unfold FeedEnds
      rw [hdr, hsd]
      exact he
    · rw [ha]
      rintro _ ⟨⟩
      exact hrc he

theorem Merged.stays (h : Merged found s)
    {pre now : DefiniteBaseline} (hb : s.worker.definiteBaseline = some pre)
    (hc : pre.captureQueueFullDrops = now.captureQueueFullDrops)
    (hs : s'.worker.definiteBaseline = some now)
    (hd : s'.worker.pcmDropAccumulator = s.worker.pcmDropAccumulator)
    (hsd : s'.seed = s.seed) : Merged found s' := by
  have hg : ClientGrew s' ↔ ClientGrew s := by
    unfold ClientGrew
    rw [hsd, hs, hb]
    simp [hc]
  have he : FeedEnds s' ↔ FeedEnds s := by
    unfold FeedEnds
    rw [hd, hsd]
  refine ⟨?_, ?_⟩
  · rw [hg, hd]
    exact h.feed
  · rw [hg, he, hs]
    intro hl
    obtain ⟨hf, hm, hr⟩ := h.client hl
    refine ⟨hf, hm, ?_⟩
    rintro _ ⟨⟩
    rw [← hc]
    exact hr pre hb

theorem Merged.seeds (h : Merged found s) (hb : s.worker.definiteBaseline = none)
    {now : DefiniteBaseline} (hs : s'.worker.definiteBaseline = some now)
    (hd : s'.worker.pcmDropAccumulator = s.worker.pcmDropAccumulator)
    (hsd : s'.seed = some now) : Merged found s' := by
  have hc : ¬ ClientGrew s := by
    rintro ⟨first, -, last, hl, -⟩
    rw [hb] at hl
    cases hl
  have hc' : ¬ ClientGrew s' := by
    rintro ⟨_, hf, last, hl, he⟩
    rw [hsd] at hf
    rw [hs] at hl
    cases hf
    cases hl
    exact absurd he (Nat.lt_irrefl _)
  refine ⟨fun _ => ?_, fun hg => absurd hg hc'⟩
  rw [hd]
  exact h.feed hc

/-- One step: the chain goes on exactly when the step keeps the sources apart. -/
theorem Merged.step [PublicMessage] {found : List Transition} (h : Merged found s)
    (he : InSession registration s) {move : WorkerStep} (hw : Within s move) :
    (Chained (found ++ transitions .captureDrops (s.step move).2) ↔ Apart s move) ∧
      (Apart s move → Merged (found ++ transitions .captureDrops (s.step move).2)
        (s.step move).1) := by
  cases step_effect he hw with
  | quiet hsm hnn hd ho =>
    rw [hnn, append_nil]
    refine ⟨iff_of_true h.chained ?_, fun _ => h.same hsm⟩
    cases move with
    | command => trivial
    | ingest asked ev => exact fun dropped hp hm => absurd hm (hd asked ev dropped rfl hp)
    | publish asked =>
      intro now hn
      rw [ho asked rfl] at hn
      cases hn
  | @drops asked ev dropped hv hp hm hsm hd hf hnn =>
    subst hv
    have ha : Apart s (.ingest asked ev) ↔ ¬ ClientGrew s := by
      refine ⟨fun ht => ht dropped hp hm, fun hc dropped' _ _ => hc⟩
    rw [hf, ha]
    exact h.drops hm hsm hd
  | @observes asked now hv ho hac hba hd hs hf =>
    subst hv
    rw [hf .captureDrops]
    cases hb : s.worker.definiteBaseline with
    | none =>
      rw [append_nil]
      rw [he.observed hb, none_or] at hs
      refine ⟨iff_of_true h.chained ?_, fun _ => h.seeds hb hba hd hs⟩
      intro now' _ pre hb'
      rw [hb] at hb'
      cases hb'
    | some pre =>
      have hle := hw now ho pre hb .captureDrops
      have hseede : s.seed.or (some now) = s.seed := by
        cases hfs : s.seed with
        | none => rw [he.seeded hfs] at hb; cases hb
        | some => rfl
      rw [hseede] at hs
      dsimp only
      split
      · rename_i hm
        have ha : Apart s (.publish asked) ↔ FeedEnds s := by
          refine ⟨fun ht => ht now ho pre hb hm, ?_⟩
          exact fun hen _ _ _ _ _ => hen
        rw [ha]
        exact h.grows he hb hm hba hd hs
      · rename_i hy
        have hcn : pre.captureQueueFullDrops = now.captureQueueFullDrops :=
          Nat.le_antisymm hle (Nat.not_lt.mp hy)
        rw [append_nil]
        refine ⟨iff_of_true h.chained ?_, fun _ => h.stays hb hcn hba hd hs⟩
        intro now' hn' before' hb' hm
        rw [ho] at hn'
        rw [hb] at hb'
        cases hn'
        cases hb'
        exact absurd hm hy

/-- What the two sources have reported together. -/
structure Summed (found : List Transition) (s : SessionRun) : Prop where
  unseen : s.seed = none → reportedGrowth found = s.worker.pcmDropAccumulator
  seen : ∀ first ∈ s.seed, ∀ last ∈ s.worker.definiteBaseline,
    first.captureQueueFullDrops + reportedGrowth found =
      s.worker.pcmDropAccumulator + last.captureQueueFullDrops

theorem Summed.same (h : Summed found s) (hs : Same s s') : Summed found s' := by
  refine ⟨?_, ?_⟩
  · rw [hs.seed, hs.drops]
    exact h.unseen
  · rw [hs.seed, hs.baseline, hs.drops]
    exact h.seen

/-- One more step keeps the sum of both sources. -/
theorem Summed.step [PublicMessage] {found : List Transition} (h : Summed found s)
    (he : InSession registration s) {move : WorkerStep} (hw : Within s move) :
    Summed (found ++ transitions .captureDrops (s.step move).2) (s.step move).1 := by
  cases step_effect he hw with
  | quiet hm hn =>
    rw [hn, append_nil]
    exact h.same hm
  | drops _ _ _ hm hd hfn =>
    have hs := hm.seed
    have ha := hm.baseline
    rw [hfn]
    refine ⟨fun hn => ?_, fun first hf last hl => ?_⟩
    · have hu := h.unseen (hs ▸ hn)
      rw [reportedGrowth_concat, hd]
      dsimp only
      omega
    · have hsn := h.seen first (hs ▸ hf) last (ha ▸ hl)
      rw [reportedGrowth_concat, hd]
      dsimp only
      omega
  | @observes asked now hv ho hac ha hd hs hfn =>
    subst hv
    rw [hfn .captureDrops]
    cases hb : s.worker.definiteBaseline with
    | none =>
      have hr := he.observed hb
      have hu := h.unseen hr
      rw [hr, none_or] at hs
      rw [append_nil]
      refine ⟨fun hn => ?_, ?_⟩
      · rw [hs] at hn
        cases hn
      · rw [hs, ha, hd, hu]
        rintro first ⟨⟩ last ⟨⟩
        exact Nat.add_comm _ _
    | some pre =>
      have hle : pre.captureQueueFullDrops ≤ now.captureQueueFullDrops :=
        hw now ho pre hb .captureDrops
      cases hf : s.seed with
      | none => rw [he.seeded hf] at hb; cases hb
      | some first =>
        have hsn := h.seen first hf pre hb
        rw [hf, some_or] at hs
        dsimp only
        refine ⟨fun hn => ?_, ?_⟩
        · rw [hs] at hn
          cases hn
        · rw [hs, ha, hd]
          rintro earliest ⟨⟩ last ⟨⟩
          split
          · rw [reportedGrowth_concat]
            dsimp only [DefiniteBaseline.count]
            omega
          · rename_i ht
            have hc : pre.captureQueueFullDrops = now.captureQueueFullDrops :=
              Nat.le_antisymm hle (Nat.not_lt.mp ht)
            rw [append_nil, ← hc]
            exact hsn

/-! ## The transitions of a session -/

theorem start_inSession (registration : SessionRegistration) :
    InSession registration (start w asked registration) where
  active := rfl
  bounded := Nat.zero_le _
  seeded := fun _ => rfl
  observed := fun _ => rfl
  least := by rintro _ ⟨⟩

/-- What the turns of a session so far have made of its four counters. -/
structure Recorded (registration : SessionRegistration) (turns : List Turn) (s : SessionRun) :
    Prop where
  session : InSession registration s
  client : ∀ kind, kind ≠ .captureDrops → Observed kind (transitions kind (recordedIn turns)) s
  summed : Summed (transitions .captureDrops (recordedIn turns)) s
  chained : Chained (transitions .captureDrops (recordedIn turns)) ↔
    ∀ t ∈ turns, Apart t.before t.input
  merged : (∀ t ∈ turns, Apart t.before t.input) →
    Merged (transitions .captureDrops (recordedIn turns)) s

theorem start_recorded (registration : SessionRegistration) :
    Recorded registration [] (start w asked registration) where
  session := start_inSession w asked registration
  client := fun kind _ => ⟨fun _ => rfl, fun _ _ => reaches_nil _, by rintro first ⟨⟩⟩
  summed := ⟨fun _ => rfl, by rintro first ⟨⟩⟩
  chained := iff_of_true (reaches_nil 0).toChained (by simp)
  merged := by
    intro _
    refine ⟨fun _ => ⟨reaches_nil _, iff_of_true rfl rfl⟩, ?_⟩
    rintro ⟨_, ⟨⟩, -⟩

/-- One more step keeps all four counters. -/
theorem Recorded.step [PublicMessage] {turns : List Turn} (h : Recorded registration turns s)
    {move : WorkerStep} (hw : Within s move) :
    Recorded registration (turns ++ [Mealy.turn step s move]) (s.step move).1 := by
  have hc := transitions_concat .captureDrops turns (Mealy.turn SessionRun.step s move)
  have ht : (∀ t ∈ turns ++ [Mealy.turn SessionRun.step s move], Apart t.before t.input) ↔
      (∀ t ∈ turns, Apart t.before t.input) ∧ Apart s move := by
    rw [forall_mem_append, forall_mem_singleton]
    rfl
  refine ⟨h.session.step hw, fun kind hk => ?_, ?_, ?_, ?_⟩
  · exact (h.client kind hk).step hk h.session hw
  · rw [hc]
    exact h.summed.step h.session hw
  · rw [hc, ht]
    constructor
    · intro hh
      have hb := h.chained.mp hh.left
      exact ⟨hb, ((h.merged hb).step h.session hw).1.mp hh⟩
    · rintro ⟨hb, hn⟩
      exact ((h.merged hb).step h.session hw).1.mpr hn
  · rw [hc, ht]
    rintro ⟨hb, hn⟩
    exact ((h.merged hb).step h.session hw).2 hn

/-- The counters are on record over the whole session. -/
theorem run_recorded [PublicMessage] (registration : SessionRegistration) (steps : List WorkerStep)
    (hw : Mealy.Along step Within (start w asked registration) steps) :
    Recorded registration (Mealy.trace step (start w asked registration) steps)
      (Mealy.run step (start w asked registration) steps) := by
  refine Mealy.trace_induction_along (P := Recorded registration)
    (start_recorded w asked registration)
    (fun turns s' move ho h => h.step ho) steps ?_
  exact (Mealy.along_iff_forall_start steps).mp hw

/-- Within a session each counter of one source makes one chain, which adds up
to its growth. The transitions of `CaptureDrops` add up to the growth of both of
its sources, and are one chain exactly when these are kept apart. -/
theorem chains_of_session [PublicMessage] (w : WorkerState) (asked : Asked)
    (registration : SessionRegistration) (steps : List WorkerStep)
    (hwithin : Mealy.Along step Within (start w asked registration) steps) :
    let turns := Mealy.trace step (start w asked registration) steps
    let s := Mealy.run step (start w asked registration) steps
    s.worker.ring = w.ring.pushAll (recordedIn turns) ∧
      (∀ kind, kind ≠ .captureDrops → Chained (transitions kind (recordedIn turns)) ∧
        ∀ first ∈ s.seed, ∀ last ∈ s.worker.definiteBaseline,
          first.count kind + reportedGrowth (transitions kind (recordedIn turns)) =
            last.count kind) ∧
      (Chained (transitions .captureDrops (recordedIn turns)) ↔
        Mealy.Along step Apart (start w asked registration) steps) ∧
      Summed (transitions .captureDrops (recordedIn turns)) s := by
  intro turns s
  have h := run_recorded w asked registration steps hwithin
  have hr := @run_pushAll SessionRun WorkerStep step (·.worker.ring)
    (fun s move => step_ring s.worker move) steps (start w asked registration)
  refine ⟨hr, fun kind hk => ⟨?_, (h.client kind hk).growth⟩, ?_, h.summed⟩
  · cases hb : s.worker.definiteBaseline with
    | none =>
      rw [(h.client kind hk).fresh hb]
      exact (reaches_nil 0).toChained
    | some last => exact ((h.client kind hk).reaches last hb).toChained
  · rw [h.chained, Mealy.along_iff_forall_turn]

/-! ### Three dropped frames -/

def oneMember : SessionRegistration :=
  ⟨⟨1⟩, 0, none, SortedMap.empty.insert ⟨1⟩ ⟨1⟩, 1⟩

/-- The client's queue has dropped so many frames. -/
def queueDrops (frames : Nat) : Asked where
  snapshot := fun _ => { audio := some { captureQueue := { fullQueueDropsTotal := frames } } }

/-- The backend reports dropped frames. -/
def dropReport (frames : Nat) : FeedEvent where
  monotonicNs := 0
  wallTime := 0
  sessionGeneration := 1
  discoveryGeneration := 1
  captureGeneration := 1
  receiver := none
  severity := .warning
  category := .capture
  payload := .pcmDrop frames

/-- The backend reports three dropped frames, and the client counts none. -/
def backendOnly : List WorkerStep :=
  [.publish (queueDrops 0), .ingest {} (dropReport 3), .publish (queueDrops 0)]

/-- The backend reports three dropped frames, and the client counts the same. -/
def backendAndClient : List WorkerStep :=
  [.publish (queueDrops 0), .ingest {} (dropReport 3), .publish (queueDrops 3)]

theorem within_publish {s : SessionRun} {asked : Asked} {now pre : DefiniteBaseline}
    (hn : s.observed asked = some now) (hb : s.worker.definiteBaseline = some pre)
    (hle : ∀ kind, pre.count kind ≤ now.count kind) : Within s (.publish asked) := by
  intro now' hn' before' hb'
  rw [hn] at hn'
  rw [hb] at hb'
  cases hn'
  cases hb'
  exact hle

theorem chains_of_session_backendOnly :
    Chained (transitions .captureDrops (recordedIn (Mealy.trace (@step RegistrySystem.messages)
      (start (.start {}) {} oneMember) backendOnly))) := by
  have h := @chains_of_session RegistrySystem.messages (.start {}) {} oneMember backendOnly
    ⟨by rintro now - pre ⟨⟩, trivial,
      @within_publish _ _ ⟨0, 0, 0, 0⟩ ⟨0, 0, 0, 0⟩ rfl rfl (fun _ => Nat.le_refl _), trivial⟩
  refine h.2.2.1.mpr ⟨by rintro now - pre ⟨⟩, ?_, ?_, trivial⟩
  · rintro _ - - ⟨_, ⟨⟩, _, ⟨⟩, hl⟩
    exact absurd hl (Nat.lt_irrefl _)
  · rintro _ ⟨⟩ _ ⟨⟩ hl
    exact absurd hl (Nat.lt_irrefl _)

/-- The same three frames are reported twice, and the chain is broken. -/
theorem drops_reported_twice :
    Mealy.Along (@step RegistrySystem.messages) Within (start (.start {}) {} oneMember)
        backendAndClient ∧
      transitions .captureDrops (recordedIn (Mealy.trace (@step RegistrySystem.messages)
        (start (.start {}) {} oneMember) backendAndClient)) = [⟨0, 3⟩, ⟨0, 3⟩] ∧
      ¬ Chained (transitions .captureDrops (recordedIn (Mealy.trace
        (@step RegistrySystem.messages) (start (.start {}) {} oneMember) backendAndClient))) := by
  have hf : transitions .captureDrops (recordedIn (Mealy.trace (@step RegistrySystem.messages)
      (start (.start {}) {} oneMember) backendAndClient)) = [⟨0, 3⟩, ⟨0, 3⟩] := rfl
  refine ⟨⟨by rintro _ - _ ⟨⟩, trivial, ?_, trivial⟩, hf, ?_⟩
  · refine @within_publish _ _ ⟨3, 0, 0, 0⟩ ⟨0, 0, 0, 0⟩ rfl rfl fun kind => ?_
    cases kind <;> decide
  · rw [hf]
    exact @not_chained_concat [⟨0, 3⟩] ⟨0, 3⟩ ⟨0, 3⟩ rfl (by decide)

end SessionRun

end OpenAirCast.Diagnostics

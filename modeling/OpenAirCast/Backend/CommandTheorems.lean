/-
Backend.CommandTheorems — what the command loop promises the
shell about run intents and receipts.

Three things are carried through every move of the actor. `Sound`: a
receipt is answered once, and its confirmation names a revision that is
out or comes next. `endsStopped` and `endsRunning`: where the queue will
leave the run intent, whatever its commands come to. `Tracked`: a group
start that nothing overtook is waiting, owed an answer, or told, and when
it succeeds its answer has a floor.
-/
import OpenAirCast.Backend.Command
import Mathlib.Data.List.Perm.Subperm
import Mathlib.Data.List.Nodup

namespace OpenAirCast.Backend

open List

namespace CommandEnvelope

/-- A command the run intent does not depend on. -/
def isPlain (envelope : CommandEnvelope) : Bool :=
  envelope.intent.isNone && !envelope.startsGroup

variable {envelope : CommandEnvelope}

theorem intent_of_startsGroup (h : envelope.startsGroup = true) : envelope.intent = none := by
  unfold startsGroup at h
  unfold intent
  split at h
  · rename_i hc
    rw [hc]
  · exact absurd h (by simp)

theorem isVolume_of_startsGroup (h : envelope.startsGroup = true) : envelope.isVolume = false := by
  unfold startsGroup at h
  unfold isVolume
  split at h
  · rename_i hc
    rw [hc]
  · exact absurd h (by simp)

end CommandEnvelope

namespace Actor

variable {envelope : CommandEnvelope} {sent : List CommandEnvelope}

variable (actor : Actor)

/-- Commands admitted at the end of the queue. -/
def enqueue (sent : List CommandEnvelope) : Actor :=
  { actor with queue := actor.queue ++ sent }

/-! ## Where the queue leaves the run intent -/

/-- Stopped for sure after a command: a group start may still fail, and
then it changes nothing. -/
def stoppedAfter (now : Bool) (envelope : CommandEnvelope) : Bool :=
  match envelope.intent with
  | some intent => decide (intent = .stopped)
  | none => now && !envelope.startsGroup

def runningAfter (now : Bool) (envelope : CommandEnvelope) : Bool :=
  match envelope.intent with
  | some intent => decide (intent = .running)
  | none => now

/-- The queue leaves the intent stopped, and no automatic start can come
in between. -/
def endsStopped : Bool :=
  actor.queue.foldl stoppedAfter (decide (actor.runIntent = .stopped) && !actor.autoConnectArmed)

def endsRunning : Bool :=
  actor.queue.foldl runningAfter (decide (actor.runIntent = .running))

theorem foldl_mono {α : Type} {f : Bool → α → Bool} (hf : ∀ x, f false x = true → f true x = true)
    (xs : List α) : ∀ {now later : Bool}, (now = true → later = true) →
      xs.foldl f now = true → xs.foldl f later = true := by
  induction xs with
  | nil => exact fun hi h => hi h
  | cons _ _ ih =>
    intro now later hi h
    refine ih ?_ h
    cases now <;> cases later <;> simp_all

theorem stoppedAfter_mono (envelope : CommandEnvelope)
    (h : stoppedAfter false envelope = true) : stoppedAfter true envelope = true := by
  unfold stoppedAfter at h ⊢
  split at h
  · exact h
  · simp at h

theorem runningAfter_mono (envelope : CommandEnvelope)
    (h : runningAfter false envelope = true) : runningAfter true envelope = true := by
  unfold runningAfter at h ⊢
  split at h
  · exact h
  · simp at h

variable (err : Option CommandFailure)

theorem perform_of_intent {intent : RunIntent} (h : envelope.intent = some intent) :
    actor.perform envelope err = { actor with
        runIntent := intent
        autoConnectArmed := false
        owed := if intent = .stopped then
            actor.owed.map (fun owed => { owed with startsGroup := false })
          else actor.owed } := by
  simp only [perform, h]

theorem perform_of_no_intent (h : envelope.intent = none) :
    actor.perform envelope err = { actor with
        runIntent := if envelope.startsGroup && err.isNone then .running else actor.runIntent
        autoConnectArmed := actor.autoConnectArmed && !(envelope.loadsGroup && err.isNone)
        owed := actor.owed ++ owes envelope err } := by
  simp only [perform, h]

variable (envelope)

@[simp] theorem perform_queue : (actor.perform envelope err).queue = actor.queue := by
  unfold perform
  split <;> rfl

@[simp] theorem perform_channels : (actor.perform envelope err).channels = actor.channels := by
  unfold perform
  split <;> rfl

@[simp] theorem perform_published : (actor.perform envelope err).published = actor.published
      ∧ (actor.perform envelope err).unpublished = actor.unpublished := by
  unfold perform
  split <;> exact ⟨rfl, rfl⟩

variable {envelope}

/-- Everything a move can do to the actor. -/
inductive Moved (actor : Actor) : Actor → Prop
  | same : Moved actor actor
  | took (error : Option CommandFailure) (envelope : CommandEnvelope)
      (rest : List CommandEnvelope) (hq : actor.queue = envelope :: rest) :
      Moved actor ({ actor with queue := rest }.perform envelope error)
  | answered (receipt : ReceiptId) (floor : Nat) (owed : Owed)
      (hf : actor.owed.find? (fun owed => owed.receipt = receipt) = some owed) :
      Moved actor ({ actor with
          owed := actor.owed.filter (fun other => other.receipt ≠ receipt)
          unpublished := true }.setChannel receipt (.sent
        { revision := actor.published.revision + 1
          error := owed.error
          sessionGenerationFloor := if owed.startsGroup then some floor else none }))
  | displaced (receipt : ReceiptId) (owed : Owed)
      (hf : actor.owed.find? (fun owed => owed.receipt = receipt) = some owed)
      (hv : owed.isVolume = true) :
      Moved actor ({ actor with owed := actor.owed.filter (fun other => other.receipt ≠ receipt)
        }.setChannel receipt .closed)
  | published (next : DeviceSnapshot) : Moved actor (actor.publish next)
  | connected (ha : actor.autoConnectArmed = true) :
      Moved actor { actor with autoConnectArmed := false, runIntent := .running }

/-- `Moved` covers every step of the actor. -/
theorem step_moved (move : Move) : Moved actor (actor.step move) := by
  cases move with
  | take err =>
    simp only [step, take]
    split
    · exact .same
    · rename_i envelope rest hq
      exact .took err envelope rest hq
  | answer receipt floor =>
    simp only [step, answer]
    split
    · exact .same
    · rename_i owed hf
      exact .answered receipt floor owed hf
  | displace receipt =>
    simp only [step, displace]
    split
    · exact .same
    · rename_i owed hf
      split
      · rename_i hv
        exact .displaced receipt owed hf hv
      · exact .same
  | publish next => exact .published next
  | autoConnect =>
    simp only [step, autoConnect]
    split
    · rename_i ha
      exact .connected ha
    · exact .same

/-- A queue that ends stopped does so after every move. -/
theorem endsStopped_step {actor : Actor} (h : actor.endsStopped = true) (move : Move) :
    (actor.step move).endsStopped = true := by
  have hm := step_moved actor move
  generalize actor.step move = after at hm ⊢
  cases hm with
  | took err envelope rest hq =>
    simp only [endsStopped, hq, foldl_cons] at h
    simp only [endsStopped, perform_queue]
    refine foldl_mono stoppedAfter_mono rest ?_ h
    -- what the command does is at least what the fold counts on
    cases hint : envelope.intent with
    | some => simp [stoppedAfter, perform_of_intent _ err hint, hint]
    | none =>
      simp only [perform_of_no_intent _ err hint, stoppedAfter, hint,
        Bool.and_eq_true, Bool.not_eq_true', decide_eq_true_eq]
      rintro ⟨⟨hs, ha⟩, ht⟩
      simp [hs, ha, ht]
  | connected ha => exact foldl_mono stoppedAfter_mono _ (by simp [ha]) h
  | same | answered | displaced | published => exact h

/-- A queue that ends running does so after every move. -/
theorem endsRunning_step {actor : Actor} (h : actor.endsRunning = true) (move : Move) :
    (actor.step move).endsRunning = true := by
  have hm := step_moved actor move
  generalize actor.step move = after at hm ⊢
  cases hm with
  | took err envelope rest hq =>
    simp only [endsRunning, hq, foldl_cons] at h
    simp only [endsRunning, perform_queue]
    refine foldl_mono runningAfter_mono rest ?_ h
    cases hint : envelope.intent with
    | some => simp [runningAfter, perform_of_intent _ err hint, hint]
    | none =>
      simp only [perform_of_no_intent _ err hint, runningAfter, hint, decide_eq_true_eq]
      intro hr
      simp [hr]
  | connected => exact foldl_mono runningAfter_mono _ (by simp) h
  | same | answered | displaced | published => exact h

theorem foldl_plain {f : Bool → CommandEnvelope → Bool} (hp : ∀ now, ∀ e ∈ sent, f now e = now)
    (now : Bool) :
    sent.foldl f now = now := by
  induction sent with
  | nil => rfl
  | cons e _ ih =>
    rw [foldl_cons, hp now e mem_cons_self]
    exact ih fun now e he => hp now e (mem_cons_of_mem _ he)

theorem endsStopped_enqueue_plain (hp : ∀ e ∈ sent, e.isPlain = true) :
    (actor.enqueue sent).endsStopped = actor.endsStopped := by
  simp only [endsStopped, enqueue, foldl_append]
  refine foldl_plain ?_ _
  intro now e he
  have h := hp e he
  simp only [CommandEnvelope.isPlain, Bool.and_eq_true, Option.isNone_iff_eq_none,
    Bool.not_eq_true'] at h
  simp [stoppedAfter, h.1, h.2]

theorem endsRunning_enqueue_plain (hp : ∀ e ∈ sent, e.intent = none) :
    (actor.enqueue sent).endsRunning = actor.endsRunning := by
  simp only [endsRunning, enqueue, foldl_append]
  refine foldl_plain ?_ _
  intro now e he
  simp [runningAfter, hp e he]

/-- A run intent at the end of the queue decides. -/
theorem endsStopped_enqueue_stop (pre : List CommandEnvelope)
    (h : envelope.intent = some .stopped) :
    (actor.enqueue (pre ++ [envelope])).endsStopped = true := by
  simp [endsStopped, enqueue, foldl_append, stoppedAfter, h]

theorem endsRunning_enqueue_start (pre : List CommandEnvelope)
    (h : envelope.intent = some .running) :
    (actor.enqueue (pre ++ [envelope])).endsRunning = true := by
  simp [endsRunning, enqueue, foldl_append, runningAfter, h]

/-! ## Receipts -/

/-- The receipts that have not been answered. -/
def outstanding : List ReceiptId :=
  actor.queue.filterMap (·.confirmation) ++ actor.owed.map (·.receipt)

theorem outstanding_perform {actor : Actor} {rest : List CommandEnvelope}
    (hq : actor.queue = envelope :: rest) :
    ({ actor with queue := rest }.perform envelope err).outstanding.Subperm
      actor.outstanding := by
  simp only [outstanding, perform_queue, hq]
  cases hint : envelope.intent with
  | some intent =>
    rw [perform_of_intent _ err hint]
    -- a run intent has no receipt, and overtaken starts keep theirs
    have ho : (if intent = RunIntent.stopped then
        actor.owed.map (fun owed => { owed with startsGroup := false })
        else actor.owed).map (·.receipt) = actor.owed.map (·.receipt) := by
      split
      · simp [Function.comp_def]
      · rfl
    simp only [ho]
    refine List.Sublist.subperm (List.Sublist.append_right ?_ _)
    cases hc : envelope.confirmation with
    | none => simp [hc]
    | some => simp [hc]
  | none =>
    rw [perform_of_no_intent _ err hint]
    simp only [map_append, owes, map_map, Function.comp_def]
    refine List.Perm.subperm ?_
    cases hc : envelope.confirmation with
    | none => simp [hc]
    | some receipt =>
      simp only [Option.toList_some, map_cons, map_nil, filterMap_cons, hc, cons_append]
      rw [← append_assoc]
      exact perm_append_singleton receipt _

/-- A move of the actor adds no receipt. -/
theorem outstanding_step (move : Move) :
    (actor.step move).outstanding.Subperm actor.outstanding := by
  have hf : ∀ receipt, (actor.queue.filterMap (·.confirmation)
      ++ (actor.owed.filter (fun other => other.receipt ≠ receipt)).map (·.receipt)).Subperm
        actor.outstanding := fun receipt =>
    (List.Sublist.append_left (filter_sublist.map _) _).subperm
  have hm := step_moved actor move
  generalize actor.step move = after at hm ⊢
  cases hm with
  | took err _ _ hq => exact outstanding_perform err hq
  | answered receipt => exact hf receipt
  | displaced receipt => exact hf receipt
  | same | published | connected => exact List.Subperm.refl _

/-- A channel that an actor's move changes was outstanding and is not any
more; a confirmation names the revision after the newest. -/
inductive ChannelMove (actor next : Actor) (receipt : ReceiptId) : Prop
  | same (h : next.channels receipt = actor.channels receipt)
  | dropped (hb : receipt ∈ actor.outstanding) (ha : receipt ∉ next.outstanding)
      (hc : next.channels receipt = .closed)
  | answered (confirmation : CommandConfirmation) (hb : receipt ∈ actor.outstanding)
      (ha : receipt ∉ next.outstanding)
      (hs : next.channels receipt = .sent confirmation)
      (hr : confirmation.revision = actor.published.revision + 1)
      (hp : next.published = actor.published) (hu : next.unpublished = true)

variable {actor} {receipt : ReceiptId}

theorem mem_outstanding_of_find {owed : Owed}
    (h : actor.owed.find? (fun owed => owed.receipt = receipt) = some owed) :
    receipt ∈ actor.outstanding := by
  have hr : owed.receipt = receipt := by simpa using find?_some h
  refine mem_append_right _ (mem_map.mpr ⟨owed, mem_of_find?_eq_some h, hr⟩)

/-- With distinct receipts, what has been taken out of `owed` is nowhere. -/
theorem not_mem_outstanding_filter {owed : Owed} (hd : actor.outstanding.Nodup)
    (h : actor.owed.find? (fun owed => owed.receipt = receipt) = some owed) :
    receipt ∉ actor.queue.filterMap (·.confirmation)
      ++ (actor.owed.filter (fun other => other.receipt ≠ receipt)).map (·.receipt) := by
  have hr : owed.receipt = receipt := by simpa using find?_some h
  intro hmem
  rcases mem_append.mp hmem with hq | ho
  · have hin : receipt ∈ actor.owed.map (·.receipt) :=
      mem_map.mpr ⟨owed, mem_of_find?_eq_some h, hr⟩
    exact (nodup_append.mp hd).2.2 receipt hq receipt hin rfl
  · obtain ⟨_, ht, heq⟩ := mem_map.mp ho
    simpa [heq] using (mem_filter.mp ht).2

/-- A move answers only what was outstanding. -/
theorem channelMove_step (hd : actor.outstanding.Nodup) (move : Move)
    (receipt : ReceiptId) : ChannelMove actor (actor.step move) receipt := by
  have hm := step_moved actor move
  generalize actor.step move = after at hm ⊢
  cases hm with
  | took => exact .same (by simp)
  | answered r _ _ hf =>
    by_cases hr : receipt = r
    · subst hr
      exact .answered _ (mem_outstanding_of_find hf)
        (not_mem_outstanding_filter hd hf) (if_pos rfl) rfl rfl rfl
    · exact .same (if_neg hr)
  | displaced r _ hf =>
    by_cases hr : receipt = r
    · subst hr
      exact .dropped (mem_outstanding_of_find hf) (not_mem_outstanding_filter hd hf) (if_pos rfl)
    · exact .same (if_neg hr)
  | same | published | connected => exact .same rfl

/-- A move publishes the next revision, or leaves what is owed owed. -/
theorem published_step (actor : Actor) (move : Move) :
    ((actor.step move).published = actor.published ∧
        (actor.unpublished = true → (actor.step move).unpublished = true)) ∨
      (actor.step move).published.revision = actor.published.revision + 1 := by
  have hm := step_moved actor move
  generalize actor.step move = after at hm ⊢
  cases hm with
  | took => exact .inl (by simp)
  | answered => exact .inl ⟨rfl, fun _ => rfl⟩
  | published => exact .inr rfl
  | same | displaced | connected => exact .inl ⟨rfl, id⟩

/-- A snapshot somebody has taken is the newest one or older. -/
def Taken (actor : Actor) (snapshot : DeviceSnapshot) : Prop :=
  snapshot = actor.published ∨ snapshot.revision < actor.published.revision

theorem Taken.le {snap : DeviceSnapshot} (h : actor.Taken snap) :
    snap.revision ≤ actor.published.revision := by
  rcases h with rfl | h
  · exact le_rfl
  · exact h.le

/-- What somebody has taken stays taken. -/
theorem Taken.step {actor : Actor} {snap : DeviceSnapshot} (h : actor.Taken snap)
    (move : Move) : (actor.step move).Taken snap := by
  rcases published_step actor move with hs | _
  · unfold Taken
    rw [hs.1]
    exact h
  · right
    have := h.le
    omega

/-- Receipts below `next` have been given out; each is answered at most
once, with a revision that is out or comes next. -/
structure Sound (actor : Actor) (next : Nat) : Prop where
  distinct : actor.outstanding.Nodup
  below : ∀ receipt ∈ actor.outstanding, receipt < next
  silent : ∀ receipt ∈ actor.outstanding, actor.channels receipt = .empty
  fresh : ∀ receipt, next ≤ receipt → actor.channels receipt = .empty
  dated : ∀ receipt confirmation, actor.channels receipt = .sent confirmation →
    confirmation.revision ≤ actor.published.revision ∨
      actor.unpublished = true ∧ confirmation.revision = actor.published.revision + 1

namespace Sound

variable {actor : Actor} {next : Nat}

/-- No move of the actor breaks its receipts. -/
theorem step (h : actor.Sound next) (move : Move) : (actor.step move).Sound next := by
  have hsu := (outstanding_step actor move).subset
  constructor
  · obtain ⟨l, hr, hl⟩ := outstanding_step actor move
    exact hr.nodup_iff.mp (hl.nodup h.distinct)
  · intro receipt hmem
    exact h.below receipt (hsu hmem)
  · intro receipt hmem
    cases channelMove_step h.distinct move receipt with
    | same heq => exact heq.trans (h.silent receipt (hsu hmem))
    | dropped _ ha => exact absurd hmem ha
    | answered _ _ ha => exact absurd hmem ha
  · intro receipt hle
    cases channelMove_step h.distinct move receipt with
    | same heq => exact heq.trans (h.fresh receipt hle)
    | dropped hb => exact absurd (h.below receipt hb) (Nat.not_lt.mpr hle)
    | answered _ hb => exact absurd (h.below receipt hb) (Nat.not_lt.mpr hle)
  · intro receipt conf hn
    cases channelMove_step h.distinct move receipt with
    | same heq =>
      have hold := h.dated receipt conf (heq.symm.trans hn)
      rcases published_step actor move with ⟨hp, hu⟩ | hp
      · rw [hp]
        exact hold.imp_right (And.imp_left hu)
      · left
        rcases hold with hold | hold <;> omega
    | dropped _ _ hc => rw [hc] at hn; cases hn
    | answered _ _ _ hs hv hp hu =>
      rw [hs, Oneshot.sent.injEq] at hn
      subst hn
      rw [hp]
      exact .inr ⟨hu, hv⟩

/-- A confirmation stays in its channel. -/
theorem sent_step (h : actor.Sound next) (move : Move) {receipt : ReceiptId}
    {conf : CommandConfirmation} (hs : actor.channels receipt = .sent conf) :
    (actor.step move).channels receipt = .sent conf := by
  have hn : receipt ∉ actor.outstanding := by
    intro hmem
    rw [h.silent receipt hmem] at hs
    cases hs
  cases channelMove_step h.distinct move receipt with
  | same heq => exact heq.trans hs
  | dropped hb => exact absurd hb hn
  | answered _ hb => exact absurd hb hn

theorem enqueue (h : actor.Sound next) (hs : sent.filterMap (·.confirmation) = [] ∨
      sent.filterMap (·.confirmation) = [next] ∧ 0 < sent.length) :
    (actor.enqueue sent).Sound (next + sent.length) := by
  have hmem : ∀ receipt ∈ (actor.enqueue sent).outstanding,
      receipt ∈ actor.outstanding ∨ receipt = next ∧ 0 < sent.length := by
    intro receipt hin
    simp only [outstanding, Actor.enqueue, filterMap_append, mem_append] at hin
    rcases hin with (hin | hin) | hin
    · exact .inl (mem_append_left _ hin)
    · rcases hs with hs | ⟨hs, hlen⟩
      · simp [hs] at hin
      · rw [hs, mem_singleton] at hin
        exact .inr ⟨hin, hlen⟩
    · exact .inl (mem_append_right _ hin)
  have hn : next ∉ actor.outstanding := fun hin => (h.below next hin).false
  constructor
  · rcases hs with hs | ⟨hs, hlen⟩
    · simpa [outstanding, Actor.enqueue, filterMap_append, hs] using h.distinct
    · simp only [outstanding, Actor.enqueue, filterMap_append, hs, append_assoc]
      refine (perm_middle.nodup_iff).mpr ?_
      exact nodup_cons.mpr ⟨hn, h.distinct⟩
  · intro receipt hin
    rcases hmem receipt hin with hold | ⟨rfl, hlen⟩
    · exact (h.below receipt hold).trans_le (Nat.le_add_right _ _)
    · exact Nat.lt_add_of_pos_right hlen
  · intro receipt hin
    rcases hmem receipt hin with hold | ⟨rfl, -⟩
    · exact h.silent receipt hold
    · exact h.fresh receipt le_rfl
  · intro receipt hle
    exact h.fresh receipt (by omega)
  · exact h.dated

end Sound

/-! ## A group start that nothing overtook -/

/-- The intent runs and no queued command sets another one. -/
def Runs (actor : Actor) : Prop :=
  actor.runIntent = .running ∧ ∀ envelope ∈ actor.queue, envelope.intent = none

theorem Runs.endsRunning (h : actor.Runs) : actor.endsRunning = true := by
  unfold Actor.endsRunning
  rw [foldl_plain fun now e he => by simp [runningAfter, h.2 e he]]
  simp [h.1]

/-- No move of the actor stops a running intent. -/
theorem Runs.step {actor : Actor} (h : actor.Runs) (move : Move) : (actor.step move).Runs := by
  have hm := step_moved actor move
  generalize actor.step move = after at hm ⊢
  cases hm with
  | took err envelope _ hq =>
    have hn := h.2 envelope (by rw [hq]; exact mem_cons_self)
    constructor
    · simp [perform_of_no_intent _ err hn, h.1]
    · intro e he
      rw [perform_queue] at he
      exact h.2 e (by rw [hq]; exact mem_cons_of_mem _ he)
  | connected => exact ⟨rfl, h.2⟩
  | same | answered | displaced | published => exact h

theorem Runs.enqueue (h : actor.Runs)
    (hs : ∀ e ∈ sent, e.intent = none) : (actor.enqueue sent).Runs := by
  refine ⟨h.1, ?_⟩
  intro e he
  rcases mem_append.mp he with he | he
  · exact h.2 e he
  · exact hs e he

/-- Where the receipt of such a start is. Once its command has succeeded,
the intent runs, and it is answered with a floor. -/
inductive Tracked (actor : Actor) (receipt : ReceiptId) : Prop
  | waiting (before : List CommandEnvelope) (envelope : CommandEnvelope)
      (after : List CommandEnvelope) (hq : actor.queue = before ++ envelope :: after)
      (hr : envelope.confirmation = some receipt)
      (hs : envelope.startsGroup = true)
      (ha : ∀ e ∈ after, e.intent = none)
  | owing (owed : Owed) (hm : owed ∈ actor.owed) (hr : owed.receipt = receipt)
      (hv : owed.isVolume = false)
      (hs : owed.error = none → owed.startsGroup = true ∧ actor.Runs)
  | told (confirmation : CommandConfirmation) (hs : actor.channels receipt = .sent confirmation)
      (ht : confirmation.error = none →
        confirmation.sessionGenerationFloor.isSome = true ∧ actor.Runs)

namespace Tracked

variable {actor : Actor} {next : Nat} {receipt : ReceiptId}

theorem enqueue (h : actor.Tracked receipt)
    (hn : ∀ e ∈ sent, e.intent = none) : (actor.enqueue sent).Tracked receipt := by
  cases h with
  | waiting pre envelope after hq hr ht ha =>
    refine .waiting pre envelope (after ++ sent) ?_ hr ht ?_
    · simp [Actor.enqueue, hq]
    · intro e he
      rcases mem_append.mp he with he | he
      · exact ha e he
      · exact hn e he
  | owing owed hmem hr hv ht =>
    exact .owing owed hmem hr hv fun he => ⟨(ht he).1, (ht he).2.enqueue hn⟩
  | told conf hs ht => exact .told conf hs fun he => ⟨(ht he).1, (ht he).2.enqueue hn⟩

theorem admitted (actor : Actor)
    (hr : envelope.confirmation = some receipt) (hs : envelope.startsGroup = true) :
    (actor.enqueue [envelope]).Tracked receipt :=
  .waiting actor.queue envelope [] rfl hr hs (by simp)

theorem perform (h : actor.Tracked receipt) (error : Option CommandFailure)
    {head : CommandEnvelope} {rest : List CommandEnvelope} (hq : actor.queue = head :: rest)
    (hn : actor.Runs → ({ actor with queue := rest }.perform head error).Runs) :
    ({ actor with queue := rest }.perform head error).Tracked receipt := by
  cases h with
  | waiting pre envelope after hu hr ht ha =>
    rw [hq] at hu
    cases pre with
    | nil =>
      -- the start itself runs now
      obtain ⟨rfl, rfl⟩ : head = envelope ∧ rest = after := by simpa using hu
      rw [perform_of_no_intent _ error (CommandEnvelope.intent_of_startsGroup ht)]
      refine .owing
        { receipt, error
          startsGroup := head.startsGroup && error.isNone
          isVolume := head.isVolume } (mem_append_right _ ?_) rfl
        (CommandEnvelope.isVolume_of_startsGroup ht) ?_
      · exact mem_map.mpr ⟨receipt, by simp [hr], rfl⟩
      · intro he
        simp only at he
        exact ⟨by simp [ht, he], by simp [ht, he], ha⟩
    | cons first pre =>
      obtain ⟨rfl, rfl⟩ : head = first ∧ rest = pre ++ envelope :: after := by simpa using hu
      exact .waiting pre envelope after (by simp) hr ht ha
  | owing owed hmem hr hv ht =>
    cases hint : head.intent with
    | none =>
      rw [perform_of_no_intent _ error hint] at hn ⊢
      refine .owing owed (mem_append_left _ hmem) hr hv ?_
      exact fun he => ⟨(ht he).1, hn (ht he).2⟩
    | some intent =>
      -- only a failed start can still be overtaken
      have hf : owed.error ≠ none := by
        intro he
        have := (ht he).2.2 head (by rw [hq]; exact mem_cons_self)
        rw [hint] at this
        cases this
      rw [perform_of_intent _ error hint]
      by_cases hs : intent = .stopped
      · refine .owing { owed with startsGroup := false } ?_ hr hv
          fun he => absurd he hf
        simp only [hs, if_true]
        exact mem_map.mpr ⟨owed, hmem, rfl⟩
      · refine .owing owed ?_ hr hv fun he => absurd he hf
        simp only [hs, if_false]
        exact hmem
  | told conf hsn ht =>
    refine .told conf ?_ fun he => ⟨(ht he).1, hn (ht he).2⟩
    rw [perform_channels]
    exact hsn

theorem find_owed (hs : actor.Sound next) {owed : Owed} (hmem : owed ∈ actor.owed) :
    actor.owed.find? (fun other => other.receipt = owed.receipt) = some owed := by
  have hi := inj_on_of_nodup_map (nodup_append.mp hs.distinct).2.1
  cases hf : actor.owed.find? (fun other => other.receipt = owed.receipt) with
  | none =>
    have := find?_eq_none.mp hf owed hmem
    simp at this
  | some other =>
    have hr : other.receipt = owed.receipt := by simpa using find?_some hf
    rw [hi (mem_of_find?_eq_some hf) hmem hr]

theorem carried {after : Actor} (h : actor.Tracked receipt) (hu : after.queue = actor.queue)
    (ho : ∀ owed ∈ actor.owed, owed.receipt = receipt → owed.isVolume = false → owed ∈ after.owed)
    (hsn : ∀ conf, actor.channels receipt = .sent conf → after.channels receipt = .sent conf)
    (hn : actor.Runs → after.Runs) : after.Tracked receipt := by
  cases h with
  | waiting pre envelope rest hq hr ht ha => exact .waiting pre envelope rest (hu.trans hq) hr ht ha
  | owing owed hmem hr hv ht =>
    exact .owing owed (ho owed hmem hr hv) hr hv fun he => ⟨(ht he).1, hn (ht he).2⟩
  | told conf hs ht => exact .told conf (hsn conf hs) fun he => ⟨(ht he).1, hn (ht he).2⟩

/-- No move of the actor loses track of a start. -/
theorem step (hs : actor.Sound next) (h : actor.Tracked receipt) (move : Move) :
    (actor.step move).Tracked receipt := by
  have hn : actor.Runs → (actor.step move).Runs := fun h => h.step move
  have hsn : ∀ conf, actor.channels receipt = .sent conf →
      (actor.step move).channels receipt = .sent conf := fun _ => hs.sent_step move
  have hm := step_moved actor move
  generalize actor.step move = after at hm hn hsn ⊢
  cases hm with
  | took err _ _ hu => exact h.perform err hu hn
  | answered r _ _ hf =>
    by_cases hr : r = receipt
    · -- the start's own answer, unless it still waits in the queue
      subst hr
      cases h with
      | waiting pre envelope rest hq hc ht ha => exact .waiting pre envelope rest hq hc ht ha
      | owing _ hmem hc _ ht =>
        subst hc
        obtain rfl := Option.some.inj (hf.symm.trans (find_owed hs hmem))
        exact .told _ (if_pos rfl) fun he => ⟨by simp [(ht he).1], hn (ht he).2⟩
      | told conf hl ht => exact .told conf (hsn conf hl) fun he => ⟨(ht he).1, hn (ht he).2⟩
    · refine h.carried rfl ?_ hsn hn
      intro owed hmem hc hv
      exact mem_filter.mpr ⟨hmem, by simpa [hc] using fun h => hr h.symm⟩
  | displaced _ _ hf hd =>
    refine h.carried rfl ?_ hsn hn
    intro owed hmem hc hv
    refine mem_filter.mpr ⟨hmem, ?_⟩
    -- a start is not a volume, so it is another receipt that is dropped
    simp only [ne_eq, decide_not, Bool.not_eq_true', decide_eq_false_iff_not]
    rintro rfl
    obtain rfl := Option.some.inj (hf.symm.trans (find_owed hs hmem))
    rw [hv] at hd
    cases hd
  | same | published | connected => exact h.carried rfl (fun owed hmem _ _ => hmem) hsn hn

theorem channel (hs : actor.Sound next) (h : actor.Tracked receipt) :
    actor.channels receipt = .empty ∨ ∃ conf, actor.channels receipt = .sent conf ∧
        (conf.error = none → conf.sessionGenerationFloor.isSome = true ∧ actor.Runs) := by
  cases h with
  | waiting _ envelope _ hq hr =>
    refine .inl (hs.silent receipt (mem_append_left _ ?_))
    exact mem_filterMap.mpr ⟨envelope, by simp [hq], hr⟩
  | owing owed hmem hr =>
    refine .inl (hs.silent receipt (mem_append_right _ ?_))
    exact mem_map.mpr ⟨owed, hmem, hr⟩
  | told conf hn ht => exact .inr ⟨conf, hn, ht⟩

end Tracked

/-! ## An idle actor -/

theorem idle_of_isIdle (h : actor.isIdle = true) :
    actor.queue = [] ∧ actor.owed = [] ∧ actor.unpublished = false ∧
      actor.published.runIntent = actor.runIntent := by
  simp only [isIdle, Bool.and_eq_true, List.isEmpty_iff, Bool.not_eq_true', decide_eq_true_eq] at h
  exact ⟨h.1.1.1, h.1.1.2, h.1.2, h.2⟩

/-- How an idle actor rests: stopped when the run intent is, and in
Streaming or Degraded only under an attempt that has reached the floor of
every group start it confirmed. -/
structure Rests (actor : Actor) : Prop where
  stopped : actor.published.runIntent = .stopped → actor.published.session.phase = .stopped
  reached : ∀ receipt confirmation floor attempt, actor.channels receipt = .sent confirmation →
    confirmation.sessionGenerationFloor = some floor →
    actor.published.session.phase = .streaming attempt ∨
      actor.published.session.phase = .degraded attempt → floor ≤ attempt

/-- Once the actor is idle, a tracked start has been told, by a revision
that is out. -/
theorem Tracked.idle {next : Nat}
    (hs : actor.Sound next) (h : actor.Tracked receipt) (hi : actor.isIdle = true) :
    ∃ conf, actor.channels receipt = .sent conf ∧ conf.revision ≤ actor.published.revision := by
  obtain ⟨he, ho, hp, -⟩ := idle_of_isIdle hi
  cases h with
  | waiting _ _ _ hq => simp [he] at hq
  | owing _ hmem => simp [ho] at hmem
  | told conf hn =>
    refine ⟨conf, hn, ?_⟩
    rcases hs.dated receipt conf hn with hle | ⟨hu, -⟩
    · exact hle
    · simp [hp] at hu

theorem runIntent_of_endsStopped (h : actor.endsStopped = true)
    (hi : actor.isIdle = true) : actor.published.runIntent = .stopped := by
  obtain ⟨hq, -, -, hint⟩ := idle_of_isIdle hi
  simp only [endsStopped, hq, foldl_nil, Bool.and_eq_true, decide_eq_true_eq] at h
  exact hint.trans h.1

theorem runIntent_of_endsRunning (h : actor.endsRunning = true)
    (hi : actor.isIdle = true) : actor.published.runIntent = .running := by
  obtain ⟨hq, -, -, hint⟩ := idle_of_isIdle hi
  simp only [endsRunning, hq, foldl_nil, decide_eq_true_eq] at h
  exact hint.trans h

end Actor

end OpenAirCast.Backend

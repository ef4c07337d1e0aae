/-
Diagnostics.TrackerTheorems — what the session tracker tells the
registry.

`Tracking` ties the tracker to the values it was given so far: an active
session is of the newest generation, and a generation that was registered
is never registered again. `opened` reads the commands as an automaton that
only takes `Register` and `Finish` in turn. For the coalescing law,
`active_of_orderly` says that the values before the last one do not matter.
-/
import OpenAirCast.Diagnostics.Registry

namespace OpenAirCast.Diagnostics

open Backend List

/-- A value of the watch, and the id that is drawn if it registers a session. -/
structure Value where
  state : SessionDiagnosticsState
  fresh : SessionId

namespace DiagnosticsSessionTracker

def step (tracker : DiagnosticsSessionTracker) (value : Value) :
    DiagnosticsSessionTracker × List Sent :=
  let r := tracker.reconcile value.fresh value.state
  (r.1, r.2.map (⟨value.state.generation, ·⟩))

variable (values : List Value)

/-- The tracker that was given all values. -/
def tracked : DiagnosticsSessionTracker := Mealy.run step {} values

/-- What it sent, first to last. -/
def sent : List Sent := (Mealy.outputs step {} values).flatten

end DiagnosticsSessionTracker

/-- The registered session that is not finished, after commands that take
turns; `none` where they do not. -/
def opened : Option SessionId → List Command → Option (Option SessionId)
  | session, [] => some session
  | none, .register registration :: rest => opened (some registration.sessionId) rest
  | some session, .finish sessionId _ :: rest =>
    if sessionId = session then opened none rest else none
  | _, _ :: _ => none

/-- The generations that were registered, first to last. -/
def registeredGenerations (sent : List Sent) : List Nat :=
  (sent.filter (·.registered.isSome)).map (·.generation)

def SessionDiagnosticsState.isActive : SessionDiagnosticsState → Bool
  | .active _ _ _ _ _ => true
  | .inactive _ _ => false

@[simp] theorem generation_active (generation startedElapsedNs : Nat) (prim : Option ReceiverId)
    (mbrs : SortedMap ReceiverId DeviceId) (src : Nat) :
    (SessionDiagnosticsState.active generation startedElapsedNs prim mbrs src).generation =
      generation := rfl

/-- Generations never decrease, and no `Active(g)` follows an `Inactive(g)`. -/
def Orderly (states : List SessionDiagnosticsState) : Prop :=
  states.Pairwise (fun a b => a.generation ≤ b.generation) ∧
    states.Pairwise (fun a b => a.isActive = false → b.isActive = true →
      a.generation ≠ b.generation)

theorem Orderly.sublist {states kept : List SessionDiagnosticsState} (h : Orderly states)
    (hk : kept.Sublist states) : Orderly kept :=
  ⟨h.1.sublist hk, h.2.sublist hk⟩

/-! ## The automaton -/

theorem opened_append : ∀ (cmds more : List Command) (sess : Option SessionId),
    opened sess (cmds ++ more) = (opened sess cmds).bind (opened · more)
  | [], more, sess => by cases sess <;> rfl
  | .register registration :: rest, more, none => opened_append rest more _
  | .register registration :: rest, more, some sess => rfl
  | .finish sessionId reason :: rest, more, none => rfl
  | .finish sessionId reason :: rest, more, some sess => by
      simp only [cons_append, opened]
      split
      · exact opened_append rest more none
      · rfl

theorem registeredGenerations_append (sent more : List Sent) :
    registeredGenerations (sent ++ more) =
      registeredGenerations sent ++ registeredGenerations more := by
  simp [registeredGenerations]

/-! ## One value -/

namespace DiagnosticsSessionTracker

/-- The tracker after the values it was given and what it sent. -/
structure Tracking (values : List Value) (sent : List Sent)
    (tracker : DiagnosticsSessionTracker) : Prop where
  turns : opened none (sent.map (·.command)) = some (tracker.active.map (·.2))
  newest : ∀ value ∈ values, value.state.generation ≤ tracker.newestGeneration
  seen : tracker.newestGeneration = 0 ∨
    ∃ value ∈ values, value.state.generation = tracker.newestGeneration
  /-- A session that is active is of the newest generation. -/
  current : ∀ active, tracker.active = some active →
    active.1 = tracker.newestGeneration ∧ tracker.newestIsInactive = false ∧
      ∃ value ∈ values, value.state.generation = active.1
  /-- A tombstone was seen. -/
  tombstone : tracker.newestIsInactive = true → ∃ value ∈ values,
    value.state.isActive = false ∧ value.state.generation = tracker.newestGeneration
  increasing : (registeredGenerations sent).Pairwise (· < ·)
  bounded : ∀ g ∈ registeredGenerations sent, g ≤ tracker.newestGeneration
  /-- Without a tombstone and a session nothing was registered. -/
  fresh : tracker.active = none → tracker.newestIsInactive = false → registeredGenerations sent = []

/-- The end of the session that is active, if one is. -/
def finished (tracker : DiagnosticsSessionTracker) (reason : SessionStopReason) : List Command :=
  match tracker.active with
  | some (_, sessionId) => [.finish sessionId reason]
  | none => []

theorem opened_finished {tracker : DiagnosticsSessionTracker} {cmds : List Command}
    (h : opened none cmds = some (tracker.active.map (·.2))) (rsn : SessionStopReason) :
    opened none (cmds ++ tracker.finished rsn) = some none := by
  rw [opened_append, h]
  cases ha : tracker.active <;> simp [finished, ha, opened]

/-- What one value does to a tracker whose session is not newer than what it
saw: nothing, or the session ends at a tombstone, or a new one begins. -/
inductive Outcome (tracker : DiagnosticsSessionTracker) (value : Value) :
    DiagnosticsSessionTracker × List Command → Prop
  | ignored (known : value.state.generation < tracker.newestGeneration ∨
        value.state.isActive = true ∧ value.state.generation = tracker.newestGeneration ∧
          tracker.newestIsInactive = true ∨
        value.state.isActive = true ∧
          ∃ active, tracker.active = some active ∧ active.1 = value.state.generation) :
      Outcome tracker value (tracker, [])
  | stopped (reason : SessionStopReason) (inactive : value.state.isActive = false)
      (newer : tracker.newestGeneration ≤ value.state.generation) :
      Outcome tracker value (⟨value.state.generation, true, none⟩, tracker.finished reason)
  | registered (registration : SessionRegistration)
      (active : value.state.isActive = true) (named : registration.sessionId = value.fresh)
      (newer : tracker.newestGeneration ≤ value.state.generation)
      (alive : value.state.generation = tracker.newestGeneration → tracker.newestIsInactive = false)
      (other : ∀ active, tracker.active = some active → active.1 ≠ value.state.generation) :
      Outcome tracker value (⟨value.state.generation, false, some (value.state.generation,
        value.fresh)⟩, tracker.finished .restarted ++ [.register registration])

theorem reconcile_outcome (tracker : DiagnosticsSessionTracker) (val : Value)
    (hc : ∀ active, tracker.active = some active → active.1 ≤ tracker.newestGeneration) :
    Outcome tracker val (tracker.reconcile val.fresh val.state) := by
  obtain ⟨st, fresh⟩ := val
  cases st with
  | inactive gen reason =>
    simp only [reconcile]
    split
    · rename_i hs
      exact .ignored (.inl hs)
    · rename_i hw
      have hp : Outcome tracker ⟨.inactive gen reason, fresh⟩
          (⟨gen, true, none⟩, tracker.finished reason) :=
        .stopped reason rfl (Nat.le_of_not_lt hw)
      cases ha : tracker.active with
      | none => simpa [finished, ha] using hp
      | some active =>
        have hle : active.1 ≤ gen := (hc active ha).trans (Nat.le_of_not_lt hw)
        simpa [finished, ha, hle] using hp
  | active gen startedElapsedNs prim members source =>
    simp only [reconcile]
    split
    · rename_i hk
      refine .ignored ?_
      rcases hk with hs | ⟨heq, hd⟩ | hm
      · exact .inl hs
      · exact .inr (.inl ⟨rfl, heq, hd⟩)
      · cases ha : tracker.active with
        | none => simp [ha] at hm
        | some active =>
          rw [ha] at hm
          exact .inr (.inr ⟨rfl, active, rfl, by simpa using hm⟩)
    · rename_i hn
      simp only [not_or, not_and, not_lt] at hn
      exact .registered _ rfl rfl hn.1 (fun heq => by simpa using hn.2.1 heq)
        (fun active ha heq => hn.2.2 (by simpa [ha] using heq))

/-! ## All values -/

namespace Tracking

variable {values : List Value} {sent : List Sent} {tracker : DiagnosticsSessionTracker}

theorem start : Tracking [] [] {} where
  turns := rfl
  newest := by simp
  seen := .inl rfl
  current := by simp
  tombstone := by simp
  increasing := by simp [registeredGenerations]
  bounded := by simp [registeredGenerations]
  fresh := fun _ _ => rfl

theorem le_newest (h : Tracking values sent tracker) :
    ∀ act, tracker.active = some act → act.1 ≤ tracker.newestGeneration :=
  fun act ha => le_of_eq (h.current act ha).1

/-- A value that is ignored was newest before, or is not newer. -/
theorem ignored (h : Tracking values sent tracker) (val : Value)
    (hle : val.state.generation ≤ tracker.newestGeneration) :
    Tracking (values ++ [val]) sent tracker where
  turns := h.turns
  newest := by
    intro other ho
    rcases mem_append.mp ho with hold | hn
    · exact h.newest other hold
    · rwa [mem_singleton.mp hn]
  seen := h.seen.imp_right (fun ⟨other, ho, heq⟩ => ⟨other, by simp [ho], heq⟩)
  current := by
    intro act ha
    obtain ⟨hg, hi, other, ho, heq⟩ := h.current act ha
    exact ⟨hg, hi, other, by simp [ho], heq⟩
  tombstone := by
    intro hi
    obtain ⟨other, ho, hd⟩ := h.tombstone hi
    exact ⟨other, by simp [ho], hd⟩
  increasing := h.increasing
  bounded := h.bounded
  fresh := h.fresh

theorem command_sent (val : Value) (cmds : List Command) :
    (cmds.map (Sent.mk val.state.generation)).map (·.command) = cmds := by
  simp [Function.comp_def]

theorem registeredGenerations_finished (gen : Nat) (rsn : SessionStopReason) :
    registeredGenerations ((tracker.finished rsn).map (Sent.mk gen)) = [] := by
  cases ha : tracker.active <;> simp [finished, ha, registeredGenerations, Sent.registered]

theorem stopped (h : Tracking values sent tracker) (val : Value) (rsn : SessionStopReason)
    (hi : val.state.isActive = false)
    (hn : tracker.newestGeneration ≤ val.state.generation) :
    Tracking (values ++ [val]) (sent ++ (tracker.finished rsn).map (Sent.mk val.state.generation))
      ⟨val.state.generation, true, none⟩ := by
  have hr := registeredGenerations_append sent
    ((tracker.finished rsn).map (Sent.mk val.state.generation))
  rw [registeredGenerations_finished, append_nil] at hr
  refine ⟨?_, ?_, .inr ⟨val, by simp, rfl⟩, by simp, fun _ => ⟨val, by simp, hi, rfl⟩,
    ?_, ?_, by simp⟩
  · rw [map_append, command_sent]
    exact opened_finished h.turns rsn
  · intro other ho
    rcases mem_append.mp ho with hold | hw
    · exact (h.newest other hold).trans hn
    · rw [mem_singleton.mp hw]
  · rw [hr]
    exact h.increasing
  · rw [hr]
    exact fun g hg => (h.bounded g hg).trans hn

/-- Nothing of the generation was registered before. -/
theorem registered (h : Tracking values sent tracker) (val : Value)
    (reg : SessionRegistration) (hm : reg.sessionId = val.fresh)
    (hw : tracker.newestGeneration ≤ val.state.generation)
    (hl : val.state.generation = tracker.newestGeneration → tracker.newestIsInactive = false)
    (ho : ∀ act, tracker.active = some act → act.1 ≠ val.state.generation) :
    Tracking (values ++ [val]) (sent ++ (tracker.finished .restarted ++ [Command.register reg]).map
        (Sent.mk val.state.generation))
      ⟨val.state.generation, false, some (val.state.generation, val.fresh)⟩ := by
  have hb : ∀ g ∈ registeredGenerations sent, g < val.state.generation := by
    intro g hg
    rcases Nat.lt_or_eq_of_le hw with hlt | heq
    · exact (h.bounded g hg).trans_lt hlt
    · -- the newest generation again: no tombstone, and the session would be of it
      have hnn : tracker.active = none := by
        cases ha : tracker.active with
        | none => rfl
        | some act => exact absurd ((h.current act ha).1.trans heq) (ho act ha)
      rw [h.fresh hnn (hl heq.symm)] at hg
      cases hg
  have hr : registeredGenerations (sent ++
      (tracker.finished .restarted ++ [Command.register reg]).map (Sent.mk val.state.generation)) =
      registeredGenerations sent ++ [val.state.generation] := by
    rw [map_append, registeredGenerations_append, registeredGenerations_append,
      registeredGenerations_finished]
    rfl
  refine ⟨?_, ?_, .inr ⟨val, by simp, rfl⟩, ?_, by simp, ?_, ?_, by simp⟩
  · rw [map_append, command_sent, ← append_assoc, opened_append, opened_finished h.turns]
    simp [opened, hm]
  · intro other hold
    rcases mem_append.mp hold with hold | hn
    · exact (h.newest other hold).trans hw
    · rw [mem_singleton.mp hn]
  · rintro _ heq
    obtain rfl := Option.some.inj heq
    exact ⟨rfl, rfl, val, by simp, rfl⟩
  · rw [hr, pairwise_append]
    refine ⟨h.increasing, by simp, ?_⟩
    simpa using hb
  · rw [hr]
    intro g hg
    rcases mem_append.mp hg with hold | hn
    · exact Nat.le_of_lt (hb g hold)
    · rw [mem_singleton.mp hn]

/-- One more value keeps track. -/
theorem step (h : Tracking values sent tracker) (val : Value) :
    Tracking (values ++ [val]) (sent ++ (tracker.step val).2) (tracker.step val).1 := by
  have ho := reconcile_outcome tracker val h.le_newest
  unfold DiagnosticsSessionTracker.step
  generalize tracker.reconcile val.fresh val.state = r at ho ⊢
  cases ho with
  | ignored known =>
    simp only [map_nil, append_nil]
    refine h.ignored val ?_
    rcases known with hs | ⟨-, heq, -⟩ | ⟨-, act, ha, heq⟩
    · exact Nat.le_of_lt hs
    · exact Nat.le_of_eq heq
    · rw [← heq]
      exact h.le_newest act ha
  | stopped rsn inactive newer => exact h.stopped val rsn inactive newer
  | registered reg _ named newer alive other => exact h.registered val reg named newer alive other

end Tracking

variable (values : List Value)

theorem tracked_concat (val : Value) : tracked (values ++ [val]) = ((tracked values).step val).1 :=
  Mealy.run_concat ..

theorem sent_concat (val : Value) :
    sent (values ++ [val]) = sent values ++ ((tracked values).step val).2 := by
  simp [sent, Mealy.outputs, Mealy.trace_concat, tracked, Mealy.turn]

theorem tracking : Tracking values (sent values) (tracked values) := by
  induction values using List.reverseRecOn with
  | nil => exact .start
  | append_singleton _ val ih =>
    rw [sent_concat, tracked_concat]
    exact ih.step val

/-! ## Coalescing -/

/-- After orderly values the last one decides. -/
def shownBy : Option SessionDiagnosticsState → Option Nat
  | some (.active generation _ _ _ _) => some generation
  | _ => none

theorem active_of_orderly (h : Orderly (values.map (·.state))) :
    (tracked values).active.map (·.1) = shownBy (values.getLast?.map (·.state)) := by
  induction values using List.reverseRecOn with
  | nil => rfl
  | append_singleton values val =>
    have ht := tracking values
    have hl : ∀ other ∈ values, other.state.generation ≤ val.state.generation := by
      intro other ho
      have hp := pairwise_append.mp (map_append ▸ h.1)
      exact hp.2.2 _ (mem_map_of_mem ho) _ (by simp)
    have hd : ∀ other ∈ values, other.state.isActive = false → val.state.isActive = true →
        other.state.generation ≠ val.state.generation := by
      intro other ho
      have hp := pairwise_append.mp (map_append ▸ h.2)
      exact hp.2.2 _ (mem_map_of_mem ho) _ (by simp)
    have hn : (tracked values).newestGeneration ≤ val.state.generation := by
      rcases ht.seen with _ | ⟨other, ho, heq⟩
      · omega
      · rw [← heq]
        exact hl other ho
    have hu := reconcile_outcome (tracked values) val ht.le_newest
    rw [tracked_concat, getLast?_concat, DiagnosticsSessionTracker.step]
    generalize (tracked values).reconcile val.fresh val.state = r at hu ⊢
    cases hu with
    | ignored known =>
      rcases known with _ | ⟨ha, heq, hi⟩ | ⟨ha, active, hs, heq⟩
      · omega
      · -- the tombstone of this very generation was among the values
        obtain ⟨other, ho, hst, hsa⟩ := ht.tombstone hi
        exact absurd (hsa.trans heq.symm) (hd other ho hst ha)
      · obtain ⟨st, fresh⟩ := val
        cases st with
        | inactive => cases ha
        | active => simpa [hs, shownBy] using heq
    | stopped reason inactive =>
      obtain ⟨st, fresh⟩ := val
      cases st with
      | inactive => rfl
      | active => cases inactive
    | registered _ active =>
      obtain ⟨st, _⟩ := val
      cases st with
      | inactive => cases active
      | active => rfl

/-! ## Bindings -/

/-- The commands take turns on one session after the other, their generations
increase, an active session is of the newest generation, and of orderly
values only the last one matters. -/
theorem bindings_survive (values : List Value) :
    opened none ((sent values).map (·.command)) = some ((tracked values).active.map (·.2)) ∧
      (registeredGenerations (sent values)).Pairwise (· < ·) ∧
      (∀ generation sessionId, (tracked values).active = some (generation, sessionId) →
        (∃ value ∈ values, value.state.generation = generation) ∧
          ∀ value ∈ values, value.state.generation ≤ generation) ∧
      ∀ kept : List Value, Orderly (values.map (·.state)) →
        (kept.map (·.state)).Sublist (values.map (·.state)) →
        kept.getLast?.map (·.state) = values.getLast?.map (·.state) →
        (tracked kept).active.map (·.1) = (tracked values).active.map (·.1) := by
  have h := tracking values
  refine ⟨h.turns, h.increasing, ?_, ?_⟩
  · intro generation sessionId ha
    obtain ⟨hn, -, hs⟩ := h.current _ ha
    refine ⟨hs, fun value hv => ?_⟩
    rw [show generation = (tracked values).newestGeneration from hn]
    exact h.newest value hv
  · intro kept ho hk hl
    rw [active_of_orderly kept (ho.sublist hk), active_of_orderly values ho, hl]

/-- A group replaces a receiver, and the stop between them is not seen. -/
theorem bindings_survive_replaced : (tracked [⟨.active 4 0 none .empty 0, ⟨2⟩⟩]).active.map (·.1) =
      (tracked [⟨.active 3 0 none .empty 0, ⟨1⟩⟩, ⟨.inactive 3 .restarted, ⟨7⟩⟩,
        ⟨.active 4 0 none .empty 0, ⟨2⟩⟩]).active.map (·.1) := by
  refine (bindings_survive _).2.2.2 _ ⟨by decide, by decide⟩ ?_ rfl
  exact .cons _ (.cons _ (.refl _))

end DiagnosticsSessionTracker

end OpenAirCast.Diagnostics

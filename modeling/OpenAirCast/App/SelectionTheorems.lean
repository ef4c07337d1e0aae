/-
App.SelectionTheorems — whether the shell's selection follows
the backend's.

The backend numbers its selections, and the shell counts its own edits in
the same field until the first reading arrives. `Mirrors` is what holds
while no reading is lost: the shell holds the newest reading, or none has
come. A reading is lost exactly when it finds the shell without one and
its number below the shell's own count (`outrunsReading`), and
`readings_kept_iff_not_outrun` says so for whole runs.
-/
import OpenAirCast.App.ReducerTheorems

namespace OpenAirCast

open List Option

variable {s : AppState}

/-! ## The backend's readings in a run -/

/-- A selection reading, as revision and receivers. -/
def AppEvent.selectionReading : AppEvent → Option (Nat × List DeviceId)
  | .controller (.desiredReceiversChanged revision ids) => some (revision, ids)
  | _ => none

def selectionReadings (events : List AppEvent) : List (Nat × List DeviceId) :=
  events.filterMap AppEvent.selectionReading

/-- What the projection guarantees of its readings: revisions do not
decrease, and equal revisions carry equal sets. -/
def BackendOrdered (events : List AppEvent) : Prop :=
  (selectionReadings events).Pairwise (fun older newer =>
    older.1 ≤ newer.1 ∧ (older.1 = newer.1 → older.2.toFinset = newer.2.toFinset))

variable {revision : Nat} {e : AppEvent}

theorem selectionReading_eq_some {ids : List DeviceId}
    (h : e.selectionReading = some (revision, ids)) :
    e = .controller (.desiredReceiversChanged revision ids) := by
  unfold AppEvent.selectionReading at h
  split at h <;> simp_all

theorem selectionReadings_concat (evs : List AppEvent) (e : AppEvent) :
    selectionReadings (evs ++ [e]) = selectionReadings evs ++ e.selectionReading.toList := by
  unfold selectionReadings
  rw [filterMap_append]
  cases h : e.selectionReading <;> simp [h]

/-- The first reading arrives under a number the shell's own edits have
passed. -/
def outrunsReading (s : AppState) (e : AppEvent) : Prop :=
  ∃ revision ids, e = .controller (.desiredReceiversChanged revision ids) ∧
    s.desiredKnown = false ∧ revision < s.desiredRevision

/-! ## One event -/

/-- An event that is no reading keeps a known selection, and an unknown
one stays unknown. -/
theorem SelectionMove.no_reading {t : AppState} (h : SelectionMove s e t)
    (he : e.selectionReading = none) :
    t.desiredKnown = s.desiredKnown ∧ (s.desiredKnown = true →
      t.desiredRevision = s.desiredRevision ∧ t.desiredReceivers = s.desiredReceivers) := by
  cases h with
  | kept hk hr hd => exact ⟨hk, fun _ => ⟨hr, hd⟩⟩
  | edited _ hb hk => exact ⟨hk.trans hb.symm, fun hn => by simp [hb] at hn⟩
  | reading _ _ hv => simp [hv, AppEvent.selectionReading] at he

variable (ids : List DeviceId)

theorem updateDesired_of_newer (h : s.desiredRevision ≤ revision)
    (hn : s.desiredKnown = true → s.desiredRevision ≠ revision) :
    (updateDesired s revision ids).state.desiredKnown = true ∧
      (updateDesired s revision ids).state.desiredRevision = revision ∧
      (updateDesired s revision ids).state.desiredReceivers = ids.toFinset := by
  have hg : ¬ (decide (revision < s.desiredRevision)
      || (s.desiredKnown && decide (revision = s.desiredRevision))) = true := by
    simp only [Bool.or_eq_true, decide_eq_true_eq, Bool.and_eq_true, not_or, not_and]
    exact ⟨Nat.not_lt.mpr h, fun hk heq => hn hk heq.symm⟩
  unfold updateDesired
  rw [if_neg hg]
  exact ⟨rfl, rfl, rfl⟩

theorem updateDesired_of_older
    (h : revision < s.desiredRevision ∨ (s.desiredKnown = true ∧ revision = s.desiredRevision)) :
    updateDesired s revision ids = ⟨s, [], false⟩ := by
  unfold updateDesired
  rw [if_pos (by simpa using h)]

/-- A reading passes the observer and the revision untouched. -/
theorem reduce_reading_selection [Lowercase] (s : AppState) (revision : Nat) (ids : List DeviceId) :
    (reduce s (.controller (.desiredReceiversChanged revision ids))).1.selection
      = (updateDesired s revision ids).state.selection := by
  cases reduce_move s (.controller (.desiredReceiversChanged revision ids)) with
  | refused _ he => simp [startsPlayback] at he
  | reacted _ _ ho _ hs =>
    rw [hs]
    exact ho.selection

/-! ## Runs -/

/-- The shell holds the newest reading, or none has come. -/
def Mirrors (s : AppState) (readings : List (Nat × List DeviceId)) : Prop :=
  match readings.getLast? with
  | none => s.desiredKnown = false
  | some (revision, ids) =>
    s.desiredKnown = true ∧ s.desiredRevision = revision ∧ s.desiredReceivers = ids.toFinset

/-- What one event keeps: readings are taken over, or repeat the one
held, and everything else leaves them alone. -/
theorem mirrors_step [Lowercase] {evs : List AppEvent}
    (h : Mirrors s (selectionReadings evs)) (e : AppEvent)
    (ho : BackendOrdered (evs ++ [e])) (hc : ¬ outrunsReading s e) :
    Mirrors (reduce s e).1 (selectionReadings (evs ++ [e])) := by
  rw [selectionReadings_concat]
  cases hrd : e.selectionReading with
  | none =>
    obtain ⟨hn, hkp⟩ := (reduce_selectionMove s e).no_reading hrd
    rw [toList_none, append_nil]
    unfold Mirrors at h ⊢
    split at h
    · exact hn.trans h
    · obtain ⟨hk, hr, hd⟩ := h
      obtain ⟨hr', hd'⟩ := hkp hk
      exact ⟨hn.trans hk, hr'.trans hr, hd'.trans hd⟩
  | some reading =>
    obtain ⟨revision, ids⟩ := reading
    obtain rfl := selectionReading_eq_some hrd
    have hl := reduce_reading_selection s revision ids
    have hn := congrArg SelectionCore.known hl
    have hv := congrArg SelectionCore.revision hl
    have he := congrArg SelectionCore.desired hl
    simp only [Mirrors, toList_some, getLast?_append, getLast?_singleton, some_or]
    suffices hx : (updateDesired s revision ids).state.desiredKnown = true ∧
        (updateDesired s revision ids).state.desiredRevision = revision ∧
        (updateDesired s revision ids).state.desiredReceivers = ids.toFinset from
      ⟨hn.trans hx.1, hv.trans hx.2.1, he.trans hx.2.2⟩
    unfold Mirrors at h
    split at h
    · -- the first reading: the condition says that it is not outrun
      refine updateDesired_of_newer ids ?_ (by simp [h])
      by_contra hlt
      exact hc ⟨revision, ids, rfl, h, Nat.lt_of_not_le hlt⟩
    · rename_i last held hls
      obtain ⟨hk, hr, hd⟩ := h
      have hmem := mem_of_getLast? hls
      have hp : last ≤ revision ∧ (last = revision → held.toFinset = ids.toFinset) := by
        unfold BackendOrdered at ho
        rw [selectionReadings_concat, hrd, pairwise_append] at ho
        exact ho.2.2 (last, held) hmem (revision, ids) (by simp)
      by_cases hs : last = revision
      · rw [updateDesired_of_older ids (.inr ⟨hk, hs.symm.trans hr.symm⟩)]
        exact ⟨hk, hr.trans hs, hd.trans (hp.2 hs)⟩
      · exact updateDesired_of_newer ids (hr ▸ hp.1) fun _ heq => hs (hr.symm.trans heq)

theorem BackendOrdered.of_start {evs pre : List AppEvent} (h : BackendOrdered evs)
    (hb : pre <+: evs) : BackendOrdered pre := by
  obtain ⟨_, rfl⟩ := hb
  unfold BackendOrdered selectionReadings at h
  rw [filterMap_append] at h
  exact (pairwise_append.mp h).1

/-- The shell mirrors the newest reading unless the first is outrun. -/
theorem mirrors_run [Lowercase] (start : AppState) (hs : start.desiredKnown = false) :
    ∀ (evs : List AppEvent), BackendOrdered evs → (∀ pre e, pre ++ [e] <+: evs →
        ¬ outrunsReading (Mealy.run reduce start pre) e) →
      Mirrors (Mealy.run reduce start evs) (selectionReadings evs) := by
  intro evs
  induction evs using List.reverseRecOn with
  | nil => exact fun _ _ => hs
  | append_singleton evs e ih =>
    intro ho hc
    rw [Mealy.run_concat]
    have hf := ih (ho.of_start ⟨[e], rfl⟩) fun pre e' hb => hc pre e' (hb.trans ⟨[e], rfl⟩)
    exact mirrors_step hf e ho (hc evs e prefix_rfl)

/-- A reading that is outrun is lost. -/
theorem reduce_outrunsReading [Lowercase]
    (h : outrunsReading s e) : (reduce s e).1.desiredKnown = false := by
  obtain ⟨revision, ids, rfl, hk, hlt⟩ := h
  have hs := reduce_reading_selection s revision ids
  rw [updateDesired_of_older ids (.inl hlt)] at hs
  exact (congrArg SelectionCore.known hs).trans hk

/-- After every reading the selection is known and is that reading's,
exactly in the runs in which no reading finds the shell without one and
ahead of it. -/
theorem readings_kept_iff_not_outrun [Lowercase] (files : PreferencesRepository)
    (locale : ResolvedLocale) (events : List AppEvent) (hordered : BackendOrdered events) :
    (∀ before revision ids,
        before ++ [.controller (.desiredReceiversChanged revision ids)] <+: events →
        let s := Mealy.run reduce (initialState files.load locale)
          (before ++ [.controller (.desiredReceiversChanged revision ids)])
        s.desiredKnown = true ∧ s.desiredReceivers = ids.toFinset) ↔
      Mealy.Along reduce (fun s e => ¬ outrunsReading s e)
        (initialState files.load locale) events := by
  rw [Mealy.along_iff_forall_start]
  constructor
  · intro hp before e hb hl
    have hu := reduce_outrunsReading hl
    obtain ⟨revision, ids, rfl, -, -⟩ := hl
    have hk := (hp before revision ids hb).1
    rw [Mealy.run_concat, hu] at hk
    exact Bool.false_ne_true hk
  · intro hc before revision ids hb
    have hm := mirrors_run (initialState files.load locale) rfl _
      (hordered.of_start hb) fun before' e' hb' => hc before' e' (hb'.trans hb)
    simp only [Mirrors, selectionReadings_concat, AppEvent.selectionReading,
      toList_some, getLast?_append, getLast?_singleton, some_or]
      at hm
    exact ⟨hm.1, hm.2.2⟩

/-- A draft staged before the first reading, which then moves on. -/
theorem readings_kept_after_toggle :
    letI := asciiLowercase
    let evs : List AppEvent := [.toggleStagedReceiver ⟨2⟩,
      .controller (.desiredReceiversChanged 0 [⟨1⟩]), .discardStagedReceivers,
      .controller (.desiredReceiversChanged 1 [⟨1⟩, ⟨2⟩])]
    (Mealy.run reduce Sample.fresh evs).desiredKnown = true ∧
      (Mealy.run reduce Sample.fresh evs).desiredReceivers = {⟨1⟩, ⟨2⟩} := by
  let _ := asciiLowercase
  intro evs
  have ho : BackendOrdered evs := by
    unfold BackendOrdered
    decide
  have ha : Mealy.Along reduce (fun s e => ¬ outrunsReading s e) Sample.fresh evs := by
    refine ⟨by simp [outrunsReading], ?_, by simp [outrunsReading], ?_, trivial⟩
    · rintro ⟨revision, ids, -, -, hlt⟩
      exact absurd hlt (Nat.not_lt_zero revision)
    · rintro ⟨_, _, -, hu, -⟩
      exact absurd hu (by decide)
  exact (readings_kept_iff_not_outrun ⟨none, none⟩ .english evs ho).mpr ha
    [.toggleStagedReceiver ⟨2⟩, .controller (.desiredReceiversChanged 0 [⟨1⟩]),
      .discardStagedReceivers] 1 [⟨1⟩, ⟨2⟩] ⟨[], rfl⟩

/-- One Apply before the first reading, and the reading numbered zero is
lost. -/
theorem first_reading_lost_after_apply :
    letI := asciiLowercase
    ¬ ∀ evs, BackendOrdered evs → ∀ pre revision ids,
      pre ++ [.controller (.desiredReceiversChanged revision ids)] <+: evs →
      let s := Mealy.run reduce Sample.fresh
        (pre ++ [.controller (.desiredReceiversChanged revision ids)])
      s.desiredKnown = true ∧ s.desiredReceivers = ids.toFinset := by
  let _ := asciiLowercase
  intro h
  have ho : BackendOrdered
      [.applyStagedReceivers, .controller (.desiredReceiversChanged 0 [⟨1⟩])] := by
    unfold BackendOrdered
    decide
  have hk := (h _ ho [.applyStagedReceivers] 0 [⟨1⟩] ⟨[], rfl⟩).1
  exact absurd hk (by decide)

end OpenAirCast

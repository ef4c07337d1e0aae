/-
App.InventoryTheorems — the shell shows neither sound nor
receivers it does not have.

Active receivers exist only in a stream that plays, and receiver rows
have distinct ids: invariants of every event. A completed browse is then
described exactly (`mem_mergedReceivers`): the preferred record of every
reported id, and the missing rows somebody selected. The rows are in id
order with distinct ids, so the description leaves one list only, and the
order of the report cannot matter.
-/
import OpenAirCast.App.ReducerTheorems

namespace OpenAirCast

open List Keyed

variable {s : AppState}

/-! ## Active receivers -/

/-- Sound is shown only where a session plays. -/
def ActiveShown (s : AppState) : Prop :=
  s.activeReceivers ≠ ∅ → ∃ g, s.stream = .streaming g ∨ s.stream = .degraded g

theorem ArmMove.activeShown {e : AppEvent} {o : Outcome} (h : ArmMove s e o)
    (hs : ActiveShown s) : ActiveShown o.state := by
  have fields : ∀ {c : SessionCore}, o.state.core = c →
      o.state.activeReceivers = c.active ∧ o.state.stream = c.stream := fun hc =>
    ⟨congrArg SessionCore.active hc, congrArg SessionCore.stream hc⟩
  intro ht
  cases h with
  | quiet hr | redirected _ _ _ hr =>
    obtain ⟨ha, hst⟩ := fields hr
    rw [ha] at ht
    rw [hst]
    exact hs ht
  | answered _ _ _ hh _ hr =>
    obtain ⟨ha, hst⟩ := fields hr
    rw [ha] at ht
    rw [hst]
    exact hh ht
  | started _ _ hr | stopped _ _ hr | checkStarted _ _ _ _ hr
  | checkStopped _ _ _ _ hr => exact absurd (fields hr).1 ht

theorem ObserveMove.activeShown {event : HardwareCheckObservation} {o : Outcome}
    (h : ObserveMove s event o) (hs : ActiveShown s) : ActiveShown o.state := by
  cases h with
  | abandoned _ _ _ ha =>
    rw [ha]
    intro hc
    have hk : (if s.stream.isRunning then ∅ else s.activeReceivers) ≠ ∅ := hc
    split at hk
    · exact absurd rfl hk
    · rename_i hi
      obtain ⟨_, ht | ht⟩ := hs hk <;> simp [ht, StreamState.isRunning] at hi
  | resting _ ha | watching _ _ _ _ ha | complete _ _ _ _ _ ha
  | abandonedToStop _ _ ha | pending _ _ ha | released _ _ ha
  | kept _ _ _ ha | lost _ _ ha =>
    rw [ha]
    exact hs

theorem Reachable.activeShown [Lowercase] (h : Reachable s) : ActiveShown s := by
  obtain ⟨files, loc, evs, rfl⟩ := h
  induction evs using List.reverseRecOn with
  | nil => exact fun ha => absurd rfl ha
  | append_singleton evs e ih =>
    rw [Mealy.run_concat]
    have hr : Reachable (Mealy.run reduce (initialState files.load loc) evs) :=
      ⟨files, loc, evs, rfl⟩
    cases reduce_move (Mealy.run reduce (initialState files.load loc) evs) e with
    | refused _ _ heq =>
      rw [heq]
      exact ih
    | reacted _ _ ho _ hs =>
      rw [hs]
      exact ho.activeShown ((hr.dispatch_move e).activeShown ih)

/-! ## A completed browse -/

theorem receiverPrecedes_iff (a b : ReceiverState) :
    receiverPrecedes a b = true ↔ receiverPreferenceKey a < receiverPreferenceKey b := by
  simp [receiverPrecedes]

/-- Id and preference together are the whole record. -/
theorem receiverPreferenceKey_injective (a b : ReceiverState) (hi : a.id = b.id)
    (hk : receiverPreferenceKey a = receiverPreferenceKey b) : a = b := by
  obtain ⟨_, _, _, ava⟩ := a
  obtain ⟨_, _, _, avb⟩ := b
  simp only [receiverPreferenceKey, toLex_inj, Prod.mk.injEq] at hi hk
  obtain ⟨ha, hn, hm⟩ := hk
  have ha : ava = avb := by cases ava <;> cases avb <;> simp_all
  simp [hi, hn, hm, ha]

/-- The rows a browse missed and the shell keeps. -/
def IsKeptMissing (s : AppState) (report : List ReceiverState) (r : ReceiverState) : Prop :=
  ∃ previous ∈ s.receivers, previous.id ∉ report.map (·.id) ∧
    (previous.id ∈ s.desiredReceivers ∨ previous.id ∈ s.stagedReceivers) ∧
    r = { previous with availability := .unavailable }

theorem keepMissing_eq (s : AppState) (mrg : List ReceiverState) (prev : ReceiverState) :
    keepMissing s mrg prev = if prev.id ∉ mrg.map (·.id) ∧
          (prev.id ∈ s.desiredReceivers ∨ prev.id ∈ s.stagedReceivers)
        then mrg ++ [{ prev with availability := .unavailable }] else mrg := by
  have ha : (!mrg.any (fun r => r.id = prev.id)) = true ↔ prev.id ∉ mrg.map (·.id) := by
    simp [mem_map]
  simp only [keepMissing, ha]

theorem nodup_keepMissing {mrg : List ReceiverState}
    (h : (mrg.map (·.id)).Nodup) (prev : ReceiverState) :
    ((keepMissing s mrg prev).map (·.id)).Nodup := by
  rw [keepMissing_eq]
  split
  · rename_i hm
    rw [map_append, nodup_append]
    refine ⟨h, by simp, ?_⟩
    rintro a ha b hb rfl
    simp only [map_cons, map_nil, mem_singleton] at hb
    exact hm.1 (hb ▸ ha)
  · exact h

theorem nodup_foldl_keepMissing : ∀ (rows : List ReceiverState)
    {mrg : List ReceiverState}, (mrg.map (·.id)).Nodup →
      ((rows.foldl (keepMissing s) mrg).map (·.id)).Nodup
  | [], _, h => h
  | previous :: rows, _, h => nodup_foldl_keepMissing rows (nodup_keepMissing h previous)

theorem mem_foldl_keepMissing (r : ReceiverState) :
    ∀ (rows : List ReceiverState) {mrg : List ReceiverState}, (rows.map (·.id)).Nodup →
      (r ∈ rows.foldl (keepMissing s) mrg ↔ r ∈ mrg ∨ ∃ prev ∈ rows, prev.id ∉ mrg.map (·.id) ∧
          (prev.id ∈ s.desiredReceivers ∨ prev.id ∈ s.stagedReceivers) ∧
          r = { prev with availability := .unavailable })
  | [], _, _ => by simp
  | row :: rows, mrg, hn => by
      rw [map_cons, nodup_cons] at hn
      rw [foldl_cons, mem_foldl_keepMissing r rows hn.2, keepMissing_eq]
      -- a row added for `row` cannot hide a later one: ids are distinct
      have hf : ∀ prev ∈ rows, prev.id ≠ row.id := fun prev hp heq => hn.1 (heq ▸ mem_map_of_mem hp)
      split
      · rename_i ha
        simp only [mem_append, map_append, map_cons, map_nil,
          mem_cons, not_mem_nil, or_false, exists_eq_or_imp, not_or]
        constructor
        · rintro ((hr | hr) | ⟨prev, hp, ⟨hw, -⟩, hs, hr⟩)
          · exact .inl hr
          · exact .inr (.inl ⟨ha.1, ha.2, hr⟩)
          · exact .inr (.inr ⟨prev, hp, hw, hs, hr⟩)
        · rintro (hr | ⟨-, -, hr⟩ | ⟨prev, hp, hw, hs, hr⟩)
          · exact .inl (.inl hr)
          · exact .inl (.inr hr)
          · exact .inr ⟨prev, hp, ⟨hw, hf prev hp⟩, hs, hr⟩
      · rename_i hk
        simp only [mem_cons, exists_eq_or_imp]
        constructor
        · rintro (hr | hrs)
          · exact .inl hr
          · exact .inr (.inr hrs)
        · rintro (hr | ⟨hw, hs, -⟩ | hrs)
          · exact .inl hr
          · exact absurd ⟨hw, hs⟩ hk
          · exact .inr hrs

theorem nodup_mergedReceivers (s : AppState) (rep : List ReceiverState) :
    ((mergedReceivers s rep).map (·.id)).Nodup := by
  have hp := (perm_insertionSort (fun a b : ReceiverState => a.id ≤ b.id)
    (s.receivers.foldl (keepMissing s)
      (Keyed.mergeLeast (fun r : ReceiverState => r.id) receiverPrecedes rep))).map (·.id)
  exact hp.nodup_iff.mpr (nodup_foldl_keepMissing _ (nodup_mergeLeast _ _ rep))

theorem sorted_mergedReceivers (s : AppState) (rep : List ReceiverState) :
    (mergedReceivers s rep).Pairwise (fun a b => a.id ≤ b.id) := by
  have : Std.Total (fun a b : ReceiverState => a.id ≤ b.id) := ⟨fun a b => le_total a.id b.id⟩
  have : IsTrans ReceiverState (fun a b => a.id ≤ b.id) := ⟨fun _ _ _ => le_trans⟩
  exact pairwise_insertionSort _ _

/-- A completed browse, exactly: the preferred record of every reported
id, and the missing rows somebody selected. -/
theorem mem_mergedReceivers (hn : (s.receivers.map (·.id)).Nodup)
    (rep : List ReceiverState) (r : ReceiverState) :
    r ∈ mergedReceivers s rep ↔
      Keyed.IsLeast (fun r : ReceiverState => r.id) receiverPrecedes rep r ∨
        IsKeptMissing s rep r := by
  unfold mergedReceivers
  rw [mem_insertionSort, mem_foldl_keepMissing r _ hn,
    mem_mergeLeast receiverPrecedes_iff receiverPreferenceKey_injective]
  simp only [mem_map_key_mergeLeast]
  rfl

theorem mergedReceivers_perm (hn : (s.receivers.map (·.id)).Nodup)
    {rep report' : List ReceiverState} (h : rep.Perm report') :
    mergedReceivers s rep = mergedReceivers s report' := by
  refine eq_of_sorted_of_mem_iff (fun r : ReceiverState => r.id)
    (nodup_mergedReceivers s rep) (nodup_mergedReceivers s report')
    (sorted_mergedReceivers s rep) (sorted_mergedReceivers s report') fun r => ?_
  rw [mem_mergedReceivers hn, mem_mergedReceivers hn]
  simp only [Keyed.IsLeast, IsKeptMissing, h.mem_iff, (h.map _).mem_iff]

/-! ## Rows -/

theorem pruneIrrelevantUnavailable_receivers (s : AppState) :
    (pruneIrrelevantUnavailable s).1.receivers.Sublist s.receivers := filter_sublist

/-- Rows appear by a completed browse alone; every other arm keeps them
or drops some. -/
theorem dispatch_receivers [Lowercase] (s : AppState) (e : AppEvent) :
    (dispatch s e).state.receivers.Sublist s.receivers ∨
      ∃ rep, (dispatch s e).state.receivers = mergedReceivers s rep := by
  cases hr : e.footprint.rows with
  | false => exact .inl ((dispatch_within s e).state.receivers hr ▸ List.Sublist.refl _)
  | true =>
    cases e with
    | hardwareCheck action => cases action <;> cases hr
    | toggleStagedReceiver => exact .inl (pruneIrrelevantUnavailable_receivers _)
    | applyStagedReceivers =>
      simp only [dispatch, applyStaged]
      split
      · exact .inl ((groupRequested_within s _).state.receivers rfl ▸ List.Sublist.refl _)
      · rw [(redirectSession_within (adoptStaged s)).state.receivers rfl]
        exact .inl (pruneIrrelevantUnavailable_receivers _)
    | discardStagedReceivers =>
      simp only [dispatch, discardStaged]
      split
      · exact .inl (List.Sublist.refl _)
      · exact .inl (pruneIrrelevantUnavailable_receivers _)
    | controller event =>
      cases event with
      | discoveryCompleted _ rep =>
        simp only [dispatch, mergeDiscovery]
        split
        · exact .inl (List.Sublist.refl _)
        · exact .inr ⟨rep, rfl⟩
      | desiredReceiversChanged =>
        simp only [dispatch, updateDesired]
        split
        · exact .inl (List.Sublist.refl _)
        · exact .inl (pruneIrrelevantUnavailable_receivers _)
      | _ => cases hr
    | _ => cases hr

theorem reduce_receivers [Lowercase] {e : AppEvent}
    (hop : ¬ (s.hardwareCheck.phase = .stopPending ∧ startsPlayback e = true)) :
    (reduce s e).1.receivers = (dispatch s e).state.receivers := by
  cases reduce_move s e with
  | refused hp he => exact absurd ⟨hp, he⟩ hop
  | reacted _ _ ho _ hs =>
    rw [hs]
    exact ho.differ.receivers rfl

theorem reduce_receivers_nodup [Lowercase] (h : (s.receivers.map (·.id)).Nodup) (e : AppEvent) :
    ((reduce s e).1.receivers.map (·.id)).Nodup := by
  by_cases hop : s.hardwareCheck.phase = .stopPending ∧ startsPlayback e = true
  · rw [reduce_of_refused hop.1 hop.2]
    exact h
  · rw [reduce_receivers hop]
    rcases dispatch_receivers s e with hs | ⟨rep, heq⟩
    · exact h.sublist (hs.map _)
    · rw [heq]
      exact nodup_mergedReceivers s rep

theorem Reachable.receivers_nodup [Lowercase] (h : Reachable s) : (s.receivers.map (·.id)).Nodup :=
  Reachable.invariant (P := fun s => (s.receivers.map (·.id)).Nodup)
    (fun _ _ => by simp [initialState]) (fun _ e hs => reduce_receivers_nodup hs e) h

/-- A browse accepted under its own generation. -/
theorem reduce_discoveryCompleted [Lowercase] (s : AppState) (rep : List ReceiverState) :
    (reduce s (.controller (.discoveryCompleted s.generations.discovery rep))).1.receivers
      = mergedReceivers s rep := by
  rw [reduce_receivers (by simp [startsPlayback])]
  simp [dispatch, mergeDiscovery]

/-- In every reachable state, active receivers mean a stream that plays,
and rows have distinct ids. After a browse accepted for the current
generation the rows are in id order; they are the preferred record of
every reported id, once each, and the missing rows somebody selected,
unavailable; and a report in another order leaves the same rows. -/
theorem shows_only_what_it_has [Lowercase] (s : AppState) (hr : Reachable s) :
    (s.activeReceivers ≠ ∅ → ∃ g, s.stream = .streaming g ∨ s.stream = .degraded g) ∧
    (s.receivers.map (·.id)).Nodup ∧
    ∀ report, let after := (reduce s (.controller
        (.discoveryCompleted s.generations.discovery report))).1
      after.receivers.Pairwise (fun a b => a.id < b.id) ∧
      (∀ id ∈ report.map (·.id), (after.receivers.map (·.id)).count id = 1) ∧
      (∀ r, r ∈ after.receivers ↔
        Keyed.IsLeast (fun r : ReceiverState => r.id) receiverPrecedes report r ∨
          IsKeptMissing s report r) ∧
      ∀ report', report.Perm report' → (reduce s (.controller
          (.discoveryCompleted s.generations.discovery report'))).1.receivers
          = after.receivers := by
  refine ⟨hr.activeShown, hr.receivers_nodup, ?_⟩
  intro report
  have hn := hr.receivers_nodup
  simp only [reduce_discoveryCompleted]
  refine ⟨?_, fun id hi => ?_, mem_mergedReceivers hn report,
    fun report' hp => (mergedReceivers_perm hn hp).symm⟩
  · have hne : (mergedReceivers s report).Pairwise (fun a b => a.id ≠ b.id) :=
      pairwise_map.mp (nodup_mergedReceivers s report)
    exact ((sorted_mergedReceivers s report).and hne).imp fun h => lt_of_le_of_ne h.1 h.2
  · refine count_eq_one_of_mem (nodup_mergedReceivers s report) ?_
    obtain ⟨r, hmem, rfl⟩ := mem_map.mp hi
    have hex : ∃ least, Keyed.IsLeast (fun r : ReceiverState => r.id) receiverPrecedes report
        least ∧ least.id = r.id ∧ receiverPreferenceKey least ≤ receiverPreferenceKey r :=
      exists_isLeast receiverPrecedes_iff hmem
    obtain ⟨least, hl, hi', -⟩ := hex
    exact mem_map.mpr ⟨least, (mem_mergedReceivers hn report least).mpr (.inl hl), hi'⟩

/-- Two records of one id, reported in either order. -/
theorem shows_only_what_it_has_duplicate :
    letI := asciiLowercase
    let stale : ReceiverState := { Sample.kitchen with availability := .unavailable }
    (reduce Sample.fresh (.controller (.discoveryCompleted 0 [stale, Sample.kitchen]))).1.receivers
      = (reduce Sample.fresh
          (.controller (.discoveryCompleted 0 [Sample.kitchen, stale]))).1.receivers := by
  let _ := asciiLowercase
  intro stale
  have hr : Reachable Sample.fresh := Sample.reachable_run []
  exact ((shows_only_what_it_has Sample.fresh hr).2.2 [Sample.kitchen, stale]).2.2.2
    [stale, Sample.kitchen] (List.Perm.swap _ _ _)

end OpenAirCast

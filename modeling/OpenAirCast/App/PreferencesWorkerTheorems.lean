/-
App.PreferencesWorkerTheorems — the newest preferences reach the
disk, and each report names what was written.

What a pass can do is said once (`step_moved`). The saves that were attempted
and the one that waits are, in order, among the saves received, and end with
the newest of them (`Booked`); a flush attempts the one that waits.
-/
import OpenAirCast.App.PreferencesWorker
import OpenAirCast.Lib.Mealy

namespace OpenAirCast

open List Mealy

abbrev PreferencesTurn := Turn PreferencesWorker PreferencesPass PreferencesReport

/-- What an attempted write reports. -/
structure Reported (save : PreferencesSave) (before after : Option Preferences)
    (report : PreferencesReport) : Prop where
  once : report.events = [.persisted save.generation] ∧ report.written = true ∧
      after = some save.value ∨
    report.events = [.persistFailed save.generation] ∧ report.written = false ∧ after = before

/-- A pass that attempts a write reports that write, once; any other leaves
the file alone and reports nothing. -/
structure Truthful (t : PreferencesTurn) : Prop where
  attempted : ∀ save, t.output.attempt = some save →
    Reported save t.before.file t.after.file t.output
  idle : t.output.attempt = none → t.output.events = [] ∧ t.after.file = t.before.file
  exits : t.output.acknowledged = true → t.after.stopped = true

variable (turns : List PreferencesTurn)

/-- The saves received so far, in order. -/
def savesReceived : List PreferencesSave :=
  turns.filterMap (·.output.received)

def savesAttempted : List PreferencesSave :=
  turns.filterMap (·.output.attempt)

/-- The saves whose write replaced the file. -/
def savesWritten : List PreferencesSave :=
  turns.filterMap fun t => if t.output.written then t.output.attempt else none

abbrev Older (a b : PreferencesSave) : Prop := a.generation < b.generation

namespace PreferencesWorker

variable {w w' : PreferencesWorker} {r : PreferencesReport}

/-- The save that waits for its deadline. -/
def waiting (w : PreferencesWorker) : Option PreferencesSave :=
  w.debounce.pending.map (·.toPreferencesSave)

/-- What one pass can do: nothing, receive a save, write the waiting one, or
leave with none waiting. -/
inductive Moved (w w' : PreferencesWorker) (r : PreferencesReport) : Prop
  | rested (hs : w' = w) (hr : r = {})
  | received (save : PreferencesSave) (hr : r = { received := some save })
      (hf : w'.file = w.file) (hu : w'.stopped = false)
      (hw : (∀ old, w.waiting = some old → Older old save) → w'.waiting = some save)
  | wrote (save : PreferencesSave) (hw : w.waiting = some save) (ht : w'.waiting = none)
      (ha : r.attempt = some save) (hn : r.received = none)
      (hr : Reported save w.file w'.file r) (he : r.acknowledged = true → w'.stopped = true)
  | left (hw : w.waiting = none) (ht : w'.waiting = none) (hf : w'.file = w.file)
      (he : w'.stopped = true) (ha : r.attempt = none) (hn : r.received = none)
      (hr : r.written = false) (hv : r.events = [])

variable (w)

theorem commit_reported (saves : Bool) (save : PreferencesSave) :
    Reported save w.file (w.commit saves (some save)).1.file (w.commit saves (some save)).2 := by
  cases saves
  · exact ⟨.inr ⟨rfl, rfl, rfl⟩⟩
  · exact ⟨.inl ⟨rfl, rfl, rfl⟩⟩

/-- A due save is written, and nothing else happens. -/
theorem commitDue_moved (nowMs : Nat) (saves : Bool) :
    Moved w (w.commitDue nowMs saves).1 (w.commitDue nowMs saves).2 := by
  cases hd : w.debounce.isDue nowMs with
  | false => refine .rested ?_ ?_ <;> simp [commitDue, DebounceState.takeDue, hd, commit]
  | true =>
    cases hp : w.debounce.pending with
    | none => simp [DebounceState.isDue, hp] at hd
    | some pend =>
      have hc : w.commitDue nowMs saves
          = ({ ({ w with debounce := {} }.commit saves (some pend.toPreferencesSave)).1 with
              lastCommitted := if saves then some pend.value else w.lastCommitted },
            ({ w with debounce := {} }.commit saves (some pend.toPreferencesSave)).2) := by
        simp [commitDue, DebounceState.takeDue, hd, DebounceState.takePending, hp, commit]
      rw [hc]
      exact .wrote pend.toPreferencesSave (by simp [waiting, hp]) rfl rfl rfl
        (commit_reported { w with debounce := {} } saves _) (fun h => nomatch h)

/-- A flush writes the save that waits; the worker leaves. -/
theorem flush_moved (saves acknowledges : Bool) :
    Moved w (w.flush saves acknowledges).1 (w.flush saves acknowledges).2 := by
  cases hw : w.waiting with
  | none =>
    simp only [flush, DebounceState.takePending]
    rw [show w.debounce.pending.map (·.toPreferencesSave) = none from hw]
    exact .left hw rfl rfl rfl rfl rfl rfl rfl
  | some save =>
    simp only [flush, DebounceState.takePending]
    rw [show w.debounce.pending.map (·.toPreferencesSave) = some save from hw]
    refine .wrote save hw rfl rfl rfl ⟨?_⟩ (fun _ => rfl)
    exact (commit_reported { w with debounce := {}, stopped := true } saves save).once

theorem offer_waits {d : DebounceState} {save : PreferencesSave} (nowMs : Nat)
    (reference : Option Preferences)
    (h : ∀ old, d.pending.map (·.toPreferencesSave) = some old → Older old save) :
    (d.offer nowMs save reference).pending.map (·.toPreferencesSave) = some save := by
  unfold DebounceState.offer
  rw [if_neg]
  · rfl
  · cases hp : d.pending with
    | none => simp
    | some pend =>
      have hold : pend.generation < save.generation := h pend.toPreferencesSave (by simp [hp])
      simp [Nat.le_of_lt hold]

/-- Every pass of the loop is one of these moves. -/
theorem step_moved (pass : PreferencesPass) : Moved w (w.step pass).1 (w.step pass).2 := by
  unfold step
  split
  · exact .rested rfl rfl
  · rename_i hr
    split
    · exact w.commitDue_moved pass.topMs pass.saves
    · cases pass.received with
      | timeout nowMs => exact w.commitDue_moved nowMs pass.saves
      | save nowMs save => exact .received save rfl rfl (by simpa using hr) (offer_waits nowMs _)
      | flushAndShutdown => exact w.flush_moved pass.saves true
      | disconnected => exact w.flush_moved pass.saves false

/-- No pass reports a write it did not attempt. -/
theorem step_truthful (pass : PreferencesPass) : Truthful (turn step w pass) := by
  cases w.step_moved pass with
  | rested hs hr => refine ⟨?_, fun _ => ?_, ?_⟩ <;> simp [turn, hs, hr]
  | received save hr hf => refine ⟨?_, fun _ => ?_, ?_⟩ <;> simp [turn, hr, hf]
  | wrote save _ _ ha _ hr he =>
    refine ⟨fun other ho => ?_, fun hn => ?_, he⟩
    · cases ha.symm.trans ho
      exact hr
    · cases ha.symm.trans hn
  | left _ _ hf he ha _ _ hv =>
    refine ⟨fun other ho => ?_, fun _ => ⟨hv, hf⟩, fun _ => he⟩
    cases ha.symm.trans ho

theorem filterMap_concat {α β : Type} (f : α → Option β) (xs : List α) (x : α) :
    (xs ++ [x]).filterMap f = xs.filterMap f ++ (f x).toList := by
  cases hx : f x <;> simp [hx]

variable {w}

/-- What was attempted and what waits, against what was received. -/
structure Booked (file : Option Preferences) (turns : List PreferencesTurn)
    (w : PreferencesWorker) : Prop where
  order : (savesAttempted turns ++ w.waiting.toList).Sublist (savesReceived turns)
  newest : (savesAttempted turns ++ w.waiting.toList).getLast? = (savesReceived turns).getLast?
  exit : w.stopped = true → w.waiting = none
  holds : w.file = ((savesWritten turns).getLast?.map (·.value)).or file

/-- One more pass keeps the books. -/
theorem Booked.concat {file : Option Preferences} {turns : List PreferencesTurn}
    (hb : Booked file turns w) (pass : PreferencesPass)
    (hs : (savesReceived (turns ++ [turn step w pass])).Pairwise Older) :
    Booked file (turns ++ [turn step w pass]) (w.step pass).1 := by
  have hr : savesReceived (turns ++ [turn step w pass])
      = savesReceived turns ++ (w.step pass).2.received.toList := filterMap_concat ..
  have ha : savesAttempted (turns ++ [turn step w pass])
      = savesAttempted turns ++ (w.step pass).2.attempt.toList := filterMap_concat ..
  have hw : savesWritten (turns ++ [turn step w pass])
      = savesWritten turns ++ (if (w.step pass).2.written then (w.step pass).2.attempt
        else none).toList := filterMap_concat ..
  rw [hr] at hs
  cases w.step_moved pass with
  | rested hst hp =>
    rw [hp] at hr ha hw
    simp only [Option.toList_none, append_nil, Bool.false_eq_true, if_false] at hr ha hw
    rw [hst]
    exact ⟨ha ▸ hr ▸ hb.order, ha ▸ hr ▸ hb.newest, hb.exit, hw ▸ hb.holds⟩
  | received save hp hf hrn hwaits =>
    have he : (w.step pass).1.waiting = some save := by
      refine hwaits (fun old hold => ?_)
      have hmem : old ∈ savesReceived turns := hb.order.subset (by simp [hold])
      rw [hp] at hs
      exact (pairwise_append.mp hs).2.2 old hmem save (by simp)
    constructor
    · rw [ha, hr, he, hp]
      simp only [Option.toList_none, append_nil]
      exact ((sublist_append_left _ _).trans hb.order).append_right _
    · simp [ha, hr, he, hp]
    · simp [hrn]
    · simp [hw, hp, hf, hb.holds]
  | wrote save hwt ht hatt hn hp het =>
    have hm : savesAttempted (turns ++ [turn step w pass])
        ++ (w.step pass).1.waiting.toList = savesAttempted turns ++ w.waiting.toList := by
      simp [ha, hatt, ht, hwt]
    have hc : savesReceived (turns ++ [turn step w pass]) = savesReceived turns := by simp [hr, hn]
    refine ⟨hm ▸ hc ▸ hb.order, hm ▸ hc ▸ hb.newest, fun _ => ht, ?_⟩
    rcases hp.once with ⟨-, hy, hf⟩ | ⟨-, ho, hf⟩
    · simp [hw, hy, hatt, hf]
    · simp [hw, ho, hf, hb.holds]
  | left hwt ht hf het hatt hn ho =>
    constructor
    · simpa [ha, hr, hatt, hn, ht, hwt] using hb.order
    · simpa [ha, hr, hatt, hn, ht, hwt] using hb.newest
    · exact fun _ => ht
    · simp [hw, ho, hf, hb.holds]

/-- The books hold over every run whose saves come in order. -/
theorem booked (file : Option Preferences) (passes : List PreferencesPass) :
    let turns := trace step { file } passes
    (savesReceived turns).Pairwise Older → Booked file turns (run step { file } passes) := by
  refine trace_induction (P := fun turns w =>
    (savesReceived turns).Pairwise Older → Booked file turns w) ?_ ?_ passes
  · exact fun _ => ⟨.slnil, rfl, fun h => (nomatch h), rfl⟩
  · intro turns w pass ih hs
    refine (ih ?_).concat pass hs
    simp only [savesReceived, filterMap_append] at hs
    exact (pairwise_append.mp hs).1

theorem savesWritten_sublist : ∀ turns : List PreferencesTurn,
    (savesWritten turns).Sublist (savesAttempted turns)
  | [] => .slnil
  | t :: rest => by
      have ih := savesWritten_sublist rest
      simp only [savesWritten, savesAttempted, filterMap_cons] at ih ⊢
      cases t.output.written <;> cases t.output.attempt
      · exact ih
      · exact ih.cons _
      · exact ih
      · exact ih.cons_cons _

/-- Over every run of the worker whose saves arrive in the order of their
generations: each attempt is reported once and by its generation, the
attempts keep that order, the file holds the newest value written, and when
the worker is gone the newest save received was attempted. -/
theorem newest_preferences_reach_disk (file : Option Preferences) (passes : List PreferencesPass)
    (hsaves : (savesReceived (trace step { file } passes)).Pairwise Older) :
    let turns := trace step { file } passes
    let last := run step { file } passes
    (∀ t ∈ turns, Truthful t) ∧ (savesAttempted turns).Pairwise Older ∧
      (savesAttempted turns).Sublist (savesReceived turns) ∧
      (savesWritten turns).Pairwise Older ∧
      last.file = ((savesWritten turns).getLast?.map (·.value)).or file ∧
      (last.stopped = true → (savesAttempted turns).getLast? = (savesReceived turns).getLast?) := by
  intro turns last
  have hb : Booked file turns last := booked file passes hsaves
  have ha : (savesAttempted turns).Sublist (savesReceived turns) :=
    (sublist_append_left _ _).trans hb.order
  refine ⟨?_, hsaves.sublist ha, ha, ?_, hb.holds, fun hs => ?_⟩
  · have hk : ∀ (_ : PreferencesWorker) (_ : PreferencesPass), True → True := fun _ _ => id
    exact forall_turn hk (fun w pass _ => w.step_truthful pass) passes trivial
  · exact hsaves.sublist ((savesWritten_sublist turns).trans ha)
  · have hn := hb.newest
    rwa [hb.exit hs, Option.toList_none, append_nil] at hn

namespace Sample

/-- The defaults are saved twice; the second write fails. -/
def savedTwice : List PreferencesPass :=
  [{ topMs := 0, received := .save 0 ⟨1, {}⟩ }, { topMs := 0, received := .timeout 500 },
    { topMs := 500, received := .save 500 ⟨2, {}⟩ },
    { topMs := 500, received := .timeout 1500, saves := false },
    { topMs := 1500, received := .flushAndShutdown }]

end Sample

theorem newest_preferences_reach_disk_twice :
    (savesReceived (trace step { file := none } Sample.savedTwice)).Pairwise Older ∧
      ((run step { file := none } Sample.savedTwice).stopped = true →
        (savesAttempted (trace step { file := none } Sample.savedTwice)).getLast?
          = (savesReceived (trace step { file := none } Sample.savedTwice)).getLast?) :=
  ⟨by decide, (newest_preferences_reach_disk none Sample.savedTwice (by decide)).2.2.2.2.2⟩

/-- A write that fails while the file already holds the value is reported as
failed. -/
theorem failed_save_of_held_value : ¬ ∀ passes : List PreferencesPass,
      (savesReceived (trace step { file := none } passes)).Pairwise Older →
      ∀ t ∈ trace step { file := none } passes, ∀ save, t.output.attempt = some save →
        (t.output.events = [.persisted save.generation] ↔ t.after.file = some save.value) := by
  intro h
  have ht := @Mealy.turn_mem_trace _ _ _ step { file := none } (Sample.savedTwice.take 3)
    (Sample.savedTwice.drop 4)
    { topMs := 500, received := .timeout 1500, saves := false }
  have hf := (h Sample.savedTwice (by decide) _ ht ⟨2, {}⟩ rfl).mpr rfl
  cases hf

end PreferencesWorker

end OpenAirCast

/-
Backend.NetworkMonitorTheorems — no network change is lost, and
none is multiplied.

What is published is kept apart by windows (`Windowed`), and is one verdict
for each sample but the first (`Accounted`); both are invariants of every run.
That a pulse is followed by a sample and its publication needs a task that gets
on: `Served` says that it comes to wait again and again, that time goes on, and
that what it waits for comes. A pulse that is dropped finds a full queue, so
after any pulse something is queued (`pulse_queued`), and whatever the task is
doing then, its next sample is still to come (`samples_of_queued`).
-/
import OpenAirCast.Lib.Endless
import OpenAirCast.Backend.NetworkMonitor

namespace OpenAirCast.Backend.NetworkMonitor

open Mealy (stateAt turnAt)
open Filter List Nat IpHelperBindings

variable {s : NetworkMonitor}

variable {r : NetworkMonitor × Observed} {turns : List Turn} {s' : NetworkMonitor}
  {deadline : Instant} {t : Turn}

abbrev machine : NetworkMonitor → Event → NetworkMonitor × Observed := step

abbrev Turn : Type := Mealy.Turn NetworkMonitor Event Observed

def Opens (t : Turn) : Prop := t.output = .opened

def Samples (t : Turn) : Prop := ∃ bindings, t.output = .sampled bindings

def Publishes (t : Turn) : Prop := ∃ changed, t.output = .published changed

/-! ## What an operation of the task can do -/

inductive Does (s : NetworkMonitor) : NetworkMonitor × Observed → Prop where
  | baseline (hp : s.phase = .spawned) :
      Does s ({ s with last := s.bindings, phase := .idle }, .sampled s.bindings)
  | opens (hp : s.phase = .idle) (hq : 0 < s.pulses) : Does s ({ s with
        pulses := s.pulses - 1
        phase := .absorbing (s.now + NETWORK_SETTLE)
        expired := false }, .opened)
  | absorbs {deadline : Instant} (hp : s.phase = .absorbing deadline) (hq : 0 < s.pulses) :
      Does s ({ s with pulses := s.pulses - 1 }, .silent)
  | settles {deadline : Instant} (hp : s.phase = .absorbing deadline) (hn : s.pulses = 0) :
      Does s ({ s with phase := .settling deadline }, .silent)
  | closes {deadline : Instant} (hp : s.phase = .settling deadline) (he : s.expired = true) :
      Does s ({ s with phase := .sampling }, .silent)
  | wakes {deadline : Instant} (hp : s.phase = .settling deadline) (hq : 0 < s.pulses) :
      Does s ({ s with pulses := s.pulses - 1, phase := .absorbing deadline }, .silent)
  | samples (hp : s.phase = .sampling) :
      Does s ({ s with last := s.bindings, phase := .publishing (s.bindings != s.last) },
        .sampled s.bindings)
  | publishes {changed : Bool} (hp : s.phase = .publishing changed)
      (hr : s.out.length < s.capacity) :
      Does s ({ s with out := s.out ++ [changed], phase := .idle }, .published changed)
  | waits (hw : s.Waiting) : Does s (s, .silent)

theorem task_does (s : NetworkMonitor) : Does s s.task := by
  unfold task
  split
  · rename_i hp
    exact .baseline hp
  · rename_i hp
    split
    · exact .opens hp ‹_›
    · refine .waits ?_
      unfold Waiting
      rw [hp]
      omega
  · rename_i deadline hp
    split
    · exact .absorbs hp ‹_›
    · exact .settles hp (by omega)
  · rename_i deadline hp
    split
    · exact .closes hp ‹_›
    · split
      · exact .wakes hp ‹_›
      · refine .waits ?_
        unfold Waiting
        rw [hp]
        refine ⟨?_, by omega⟩
        simpa using ‹¬ s.expired = true›
  · rename_i hp
    exact .samples hp
  · rename_i chg hp
    split
    · exact .publishes hp ‹_›
    · refine .waits ?_
      unfold Waiting
      rw [hp]
      exact not_lt.mp ‹_›

theorem Does.of_spawned (h : Does s r)
    (hp : s.phase = .spawned) : r.1.phase = .idle ∧ r.1.pulses = s.pulses := by
  cases h with
  | baseline => exact ⟨rfl, rfl⟩
  | waits hw =>
    unfold Waiting at hw
    rw [hp] at hw
    cases hw
  | _ ho => rw [hp] at ho; cases ho

theorem Does.of_idle (h : Does s r) (hp : s.phase = .idle)
    (hq : 0 < s.pulses) : r.1.phase = .absorbing (s.now + NETWORK_SETTLE) := by
  cases h with
  | opens => rfl
  | waits hw =>
    unfold Waiting at hw
    rw [hp] at hw
    exact absurd hw hq.ne'
  | _ ho => rw [hp] at ho; cases ho

theorem Does.of_sampling (h : Does s r) (hp : s.phase = .sampling) :
    (∃ chg, r.1.phase = .publishing chg) ∧ r.2 = .sampled s.bindings := by
  cases h with
  | samples => exact ⟨⟨_, rfl⟩, rfl⟩
  | waits hw =>
    unfold Waiting at hw
    rw [hp] at hw
    cases hw
  | _ ho => rw [hp] at ho; cases ho

theorem Does.of_publishing (h : Does s r) {chg : Bool} (hp : s.phase = .publishing chg) :
    (r.1.phase = .idle ∧ r.1.pulses = s.pulses ∧ r.2 = .published chg) ∨
      (s.Waiting ∧ r = (s, .silent)) := by
  cases h with
  | publishes hc =>
    rw [hp] at hc
    cases hc
    exact .inl ⟨rfl, rfl, rfl⟩
  | waits hw => exact .inr ⟨hw, rfl⟩
  | _ ho => rw [hp] at ho; cases ho

/-- What the other events leave alone. -/
structure Beside (s s' : NetworkMonitor) : Prop where
  phase : s'.phase = s.phase
  last : s'.last = s.last
  now : s.now ≤ s'.now
  pulses : s.pulses ≤ s'.pulses
  capacity : s'.capacity = s.capacity
  expired : s'.expired = true → s.expired = true ∨ s'.due = true
  kept : s.expired = true → s'.expired = true
  out : s'.out.length ≤ s.out.length

/-- Only the task publishes. -/
theorem step_beside (s : NetworkMonitor) {ev : Event} (h : ev ≠ .task) :
    Beside s (s.step ev).1 ∧ (s.step ev).2 = .silent := by
  cases ev with
  | pulse =>
    unfold step
    dsimp only
    split
    · exact ⟨⟨rfl, rfl, le_refl _, le_succ _, rfl, .inl, id, le_refl _⟩, rfl⟩
    · exact ⟨⟨rfl, rfl, le_refl _, le_refl _, rfl, .inl, id, le_refl _⟩, rfl⟩
  | bind => exact ⟨⟨rfl, rfl, le_refl _, le_refl _, rfl, .inl, id, le_refl _⟩, rfl⟩
  | tick => exact ⟨⟨rfl, rfl, le_add_right _ _, le_refl _, rfl, .inl, id, le_refl _⟩, rfl⟩
  | expire =>
    refine ⟨⟨rfl, rfl, le_refl _, le_refl _, rfl, ?_, ?_, le_refl _⟩, rfl⟩
    · intro he
      exact Bool.or_eq_true_iff.mp he
    · intro he
      exact Bool.or_eq_true_iff.mpr (.inl he)
  | task => exact absurd rfl h
  | take =>
    refine ⟨⟨rfl, rfl, le_refl _, le_refl _, rfl, .inl, id, ?_⟩, rfl⟩
    show s.out.tail.length ≤ s.out.length
    rw [length_tail]
    exact sub_le _ _

/-! ## Windows -/

/-- When the window that is open, or was the last one, is over at the latest. -/
def closesAt (s : NetworkMonitor) : Option Instant :=
  match s.phase with
  | .spawned | .idle => none
  | .absorbing deadline | .settling deadline => some deadline
  | .sampling | .publishing _ => some s.now

/-- Since the last publication a window has begun, two seconds before it is
over. -/
structure Windowed (turns : List Turn) (s : NetworkMonitor) : Prop where
  opened : ∀ e, s.closesAt = some e →
    Mealy.Since (fun w => Opens w ∧ w.before.now + NETWORK_SETTLE ≤ e) (fun t => ¬ Publishes t)
      turns
  expired : s.expired = true → ∀ e, s.closesAt = some e → e ≤ s.now

theorem Windowed.quiet {turns : List Turn} (h : Windowed turns s) {t : Turn}
    (ho : ¬ Publishes t) {s' : NetworkMonitor}
    (hc : ∀ e', s'.closesAt = some e' → ∃ e, s.closesAt = some e ∧ e ≤ e')
    (hx : s'.expired = true → ∀ e, s'.closesAt = some e → e ≤ s'.now) :
    Windowed (turns ++ [t]) s' := by
  refine ⟨fun e' he' => ?_, hx⟩
  obtain ⟨e, he, hle⟩ := hc e' he'
  obtain ⟨front, w, late, hs, ⟨hop, hf⟩, hl⟩ := h.opened e he
  refine Mealy.since_concat.mpr (.inr ⟨ho, front, w, late, hs, ⟨hop, ?_⟩, hl⟩)
  exact hf.trans hle

theorem closesAt_beside (h : Beside s s') {e' : Instant}
    (he' : s'.closesAt = some e') : ∃ e, s.closesAt = some e ∧ e ≤ e' ∧ (e' = e ∨ e' = s'.now) := by
  unfold closesAt at he' ⊢
  rw [h.phase] at he'
  split at he'
  · cases he'
  · cases he'
  · exact ⟨e', he', le_refl _, .inl rfl⟩
  · exact ⟨e', he', le_refl _, .inl rfl⟩
  · obtain rfl := Option.some.inj he'
    exact ⟨s.now, rfl, h.now, .inr rfl⟩
  · obtain rfl := Option.some.inj he'
    exact ⟨s.now, rfl, h.now, .inr rfl⟩

theorem closesAt_due (h : s.due = true) {e : Instant} (he : s.closesAt = some e) : e ≤ s.now := by
  unfold due at h
  unfold closesAt at he
  split at h
  · rename_i deadline hp
    rw [hp] at he
    obtain rfl := Option.some.inj he
    exact of_decide_eq_true h
  · rename_i deadline hp
    rw [hp] at he
    obtain rfl := Option.some.inj he
    exact of_decide_eq_true h
  all_goals cases h

theorem Windowed.beside (h : Windowed turns s)
    (hb : Beside s s') (ho : ¬ Publishes t) : Windowed (turns ++ [t]) s' := by
  refine h.quiet ho (fun e' he' => ?_) (fun hx e' he' => ?_)
  · obtain ⟨e, he, hle, -⟩ := closesAt_beside hb he'
    exact ⟨e, he, hle⟩
  · rcases hb.expired hx with hl | hd
    · obtain ⟨e, he, -, rfl | rfl⟩ := closesAt_beside hb he'
      · exact (h.expired hl e' he).trans hb.now
      · exact le_refl _
    · exact closesAt_due hd he'

theorem Windowed.does (h : Windowed turns s) (hd : Does s r) (hb : t.before = s)
    (ho : t.output = r.2) : Windowed (turns ++ [t]) r.1 := by
  -- the phases before and after that belong to one window
  have hs : ∀ {s' : NetworkMonitor} {deadline : Instant}, r.2 = .silent →
      s'.now = s.now → s'.expired = s.expired → s.closesAt = some deadline →
      s'.closesAt = some deadline → Windowed (turns ++ [t]) s' := by
    intro s' deadline hl hn hx hc hc'
    refine h.quiet ?_ (fun e he => ?_) (fun hdn e he => ?_)
    · rintro ⟨chg, hp⟩
      rw [ho, hl] at hp
      cases hp
    · rw [hc'] at he
      exact ⟨deadline, hc, (Option.some.inj he).le⟩
    · rw [hc'] at he
      rw [hn]
      exact h.expired (hx ▸ hdn) e (hc.trans he)
  cases hd with
  | baseline => exact ⟨fun e he => (by cases he), fun _ e he => by cases he⟩
  | opens =>
    refine ⟨fun e he => ?_, fun hx => by cases hx⟩
    obtain rfl := Option.some.inj he
    exact Mealy.since_concat.mpr (.inl ⟨ho, (congrArg (·.now + NETWORK_SETTLE) hb).le⟩)
  | @absorbs deadline hh hq =>
    have hc : s.closesAt = some deadline := by
      unfold closesAt
      rw [hh]
    exact hs rfl rfl rfl hc hc
  | @settles deadline hh hnn =>
    have hc : s.closesAt = some deadline := by
      unfold closesAt
      rw [hh]
    exact hs rfl rfl rfl hc rfl
  | @closes deadline hh hx =>
    have hc : s.closesAt = some deadline := by
      unfold closesAt
      rw [hh]
    have hu := h.expired hx deadline hc
    refine h.quiet ?_ (fun e he => ⟨deadline, hc, ?_⟩) (fun _ e he => ?_)
    · rintro ⟨chg, hp⟩
      rw [ho] at hp
      cases hp
    · exact Option.some.inj he ▸ hu
    · exact (Option.some.inj he).ge
  | @wakes deadline hh hq =>
    have hc : s.closesAt = some deadline := by
      unfold closesAt
      rw [hh]
    exact hs rfl rfl rfl hc rfl
  | samples hh =>
    have hc : s.closesAt = some s.now := by
      unfold closesAt
      rw [hh]
    refine h.quiet ?_ (fun e he => ⟨s.now, hc, ?_⟩) (fun _ e he => ?_)
    · rintro ⟨chg, hp⟩
      rw [ho] at hp
      cases hp
    · exact (Option.some.inj he).le
    · exact (Option.some.inj he).ge
  | publishes => exact ⟨fun e he => (by cases he), fun _ e he => by cases he⟩
  | waits =>
    refine h.quiet ?_ (fun e he => ⟨e, he, le_refl e⟩) h.expired
    rintro ⟨_, hp⟩
    rw [ho] at hp
    cases hp

/-- One more event keeps the window where it began. -/
theorem Windowed.step {turns : List Turn} (h : Windowed turns s) (ev : Event) :
    Windowed (turns ++ [Mealy.turn machine s ev]) (machine s ev).1 := by
  by_cases ht : ev = .task
  · subst ht
    exact h.does (task_does s) rfl rfl
  · obtain ⟨hb, hs⟩ := step_beside s ht
    refine h.beside hb ?_
    rintro ⟨_, hp⟩
    rw [show (Mealy.turn machine s ev).output = .silent from hs] at hp
    cases hp

/-- A publication, and every one before it a full window earlier. -/
def Separated (turns : List Turn) (t : Turn) : Prop :=
  Publishes t → ∀ front p mid, turns = front ++ p :: mid → Publishes p →
    ∃ w ∈ mid, Opens w ∧ w.before.now + NETWORK_SETTLE ≤ t.before.now

/-- What comes after one entry and is not among those after another comes
before that other. -/
theorem mem_of_split {α : Type} {front mid early late : List α} {p w : α}
    (h : front ++ p :: mid = early ++ w :: late) (hp : p ∉ late) (hne : p ≠ w) : w ∈ mid := by
  rcases append_eq_append_iff.mp h with ⟨rest, _, hm⟩ | ⟨rest, _, hl⟩
  · cases rest with
    | nil =>
      rw [nil_append] at hm
      exact absurd (List.cons.inj hm).1 hne
    | cons =>
      obtain ⟨-, hm⟩ := List.cons.inj hm
      rw [hm]
      exact mem_append_right _ mem_cons_self
  · cases rest with
    | nil =>
      rw [nil_append] at hl
      exact absurd (List.cons.inj hl).1.symm hne
    | cons =>
      obtain ⟨-, hl⟩ := List.cons.inj hl
      rw [hl] at hp
      exact absurd (mem_append_right _ mem_cons_self) hp

theorem Windowed.separated (h : Windowed turns s) (ev : Event) :
    Separated turns (Mealy.turn machine s ev) := by
  rintro ⟨chg, hb⟩ _ p _ hs ⟨changed', hp⟩
  have hc : s.closesAt = some s.now := by
    by_cases ht : ev = .task
    · subst ht
      have hd := task_does s
      have ho : s.task.2 = .published chg := hb
      generalize s.task = r at hd ho
      cases hd with
      | publishes hh =>
        unfold closesAt
        rw [hh]
      | _ => cases ho
    · rw [show (Mealy.turn machine s ev).output = .silent from (step_beside s ht).2] at hb
      cases hb
  obtain ⟨_, w, late, hs', ⟨hop, hf⟩, hl⟩ := h.opened s.now hc
  have hpb : Publishes p := ⟨changed', hp⟩
  have hne : p ≠ w := by
    rintro rfl
    rw [show p.output = .opened from hop] at hp
    cases hp
  exact ⟨w, mem_of_split (hs.symm.trans hs') (fun hmem => hl p hmem hpb) hne, hop, hf⟩

/-! ## Verdicts -/

def sampledIn (turns : List Turn) : List BindingFingerprint :=
  turns.filterMap fun t => match t.output with
    | .sampled bindings => some bindings
    | _ => none

def publishedIn (turns : List Turn) : List Bool :=
  turns.filterMap fun t => match t.output with
    | .published changed => some changed
    | _ => none

/-- Of each sample but the first, whether it differs from the one before. -/
def verdicts : List BindingFingerprint → List Bool
  | before :: after :: rest => (after != before) :: verdicts (after :: rest)
  | _ => []

theorem verdicts_concat {last : BindingFingerprint} (next : BindingFingerprint) :
    ∀ {samples : List BindingFingerprint}, samples.getLast? = some last →
      verdicts (samples ++ [next]) = verdicts samples ++ [next != last]
  | [], h => by cases h
  | [only], h => by
      obtain rfl : only = last := by simpa using h
      rfl
  | before :: after :: rest, h => by
      have hr : (after :: rest).getLast? = some last := by simpa using h
      have ih := verdicts_concat next hr
      rw [cons_append] at ih
      simp only [cons_append, verdicts, ih]

/-- The verdict that is not published yet. -/
def pending (s : NetworkMonitor) : List Bool :=
  match s.phase with
  | .publishing changed => [changed]
  | .spawned | .idle | .absorbing _ | .settling _ | .sampling => []

/-- Each sample after the first has its verdict. -/
structure Accounted (turns : List Turn) (s : NetworkMonitor) : Prop where
  fresh : s.phase = .spawned → sampledIn turns = []
  last : s.phase ≠ .spawned → (sampledIn turns).getLast? = some s.last
  matched : verdicts (sampledIn turns) = publishedIn turns ++ s.pending

theorem Accounted.silent (h : Accounted turns s) (ho : t.output = .silent ∨ t.output = .opened)
    (hp : s'.phase = .spawned ↔ s.phase = .spawned) (hl : s'.last = s.last)
    (hn : s'.pending = s.pending) : Accounted (turns ++ [t]) s' := by
  have hs : sampledIn (turns ++ [t]) = sampledIn turns := by
    rcases ho with ho | ho <;> simp [sampledIn, ho]
  have hb : publishedIn (turns ++ [t]) = publishedIn turns := by
    rcases ho with ho | ho <;> simp [publishedIn, ho]
  refine ⟨?_, ?_, ?_⟩
  · rw [hs, hp]
    exact h.fresh
  · rw [hs, hl, ne_eq, hp]
    exact h.last
  · rw [hs, hb, hn]
    exact h.matched

theorem Accounted.sampled (ho : t.output = .sampled s.bindings) (hp : s'.phase ≠ .spawned)
    (hl : s'.last = s.bindings)
    (hv : verdicts (sampledIn turns ++ [s.bindings]) = publishedIn turns ++ s'.pending) :
    Accounted (turns ++ [t]) s' := by
  have hs : sampledIn (turns ++ [t]) = sampledIn turns ++ [s.bindings] := by simp [sampledIn, ho]
  have hb : publishedIn (turns ++ [t]) = publishedIn turns := by simp [publishedIn, ho]
  refine ⟨fun hsp => absurd hsp hp, fun _ => ?_, ?_⟩
  · rw [hs, hl, getLast?_append]
    rfl
  · rw [hs, hb]
    exact hv

theorem Accounted.does (h : Accounted turns s) (hd : Does s r) (ho : t.output = r.2) :
    Accounted (turns ++ [t]) r.1 := by
  cases hd with
  | baseline hp =>
    refine Accounted.sampled ho (by simp) rfl ?_
    have hv := h.matched
    unfold pending at hv ⊢
    rw [hp, h.fresh hp] at hv
    rw [h.fresh hp]
    exact hv
  | opens hp => exact h.silent (.inr ho) (by simp [hp]) rfl (by simp [pending, hp])
  | absorbs => exact h.silent (.inl ho) Iff.rfl rfl rfl
  | settles hp => exact h.silent (.inl ho) (by simp [hp]) rfl (by simp [pending, hp])
  | closes hp => exact h.silent (.inl ho) (by simp [hp]) rfl (by simp [pending, hp])
  | wakes hp => exact h.silent (.inl ho) (by simp [hp]) rfl (by simp [pending, hp])
  | samples hp =>
    refine Accounted.sampled ho (by simp) rfl ?_
    have hv := h.matched
    have hl := h.last (by simp [hp])
    unfold pending at hv
    rw [hp, append_nil] at hv
    rw [verdicts_concat s.bindings hl, hv]
    rfl
  | @publishes chg hp hr =>
    have hs : sampledIn (turns ++ [t]) = sampledIn turns := by simp [sampledIn, ho]
    have hb : publishedIn (turns ++ [t]) = publishedIn turns ++ [chg] := by simp [publishedIn, ho]
    have hv := h.matched
    unfold pending at hv
    rw [hp] at hv
    refine ⟨fun hsp => (by cases hsp), fun _ => ?_, ?_⟩
    · rw [hs]
      exact h.last (by simp [hp])
    · rw [hs, hb, hv]
      exact (append_nil _).symm
  | waits => exact h.silent (.inl ho) Iff.rfl rfl rfl

/-- One more event keeps the account. -/
theorem Accounted.step {turns : List Turn} (h : Accounted turns s) (ev : Event) :
    Accounted (turns ++ [Mealy.turn machine s ev]) (machine s ev).1 := by
  by_cases ht : ev = .task
  · subst ht
    exact h.does (task_does s) rfl
  · obtain ⟨hb, hs⟩ := step_beside s ht
    refine h.silent (.inl hs) (by rw [hb.phase]) hb.last ?_
    unfold pending
    rw [hb.phase]

/-! ## Endless runs -/

section

variable {s : NetworkMonitor} {inputs : Nat → Event}

/-- The scheduler, the clock and the owner of the edges do their part. The task
gets on as far as it can again and again, which it would not in a loop that
always finds another pulse; then time passes, timers expire and edges are
taken. -/
structure Served (s : NetworkMonitor) (inputs : Nat → Event) : Prop where
  waits : ∃ᶠ n in atTop, (stateAt machine s inputs n).Waiting
  clock : Tendsto (fun n => (stateAt machine s inputs n).now) atTop atTop
  timers : ∃ᶠ n in atTop, inputs n = .expire
  owner : ∃ᶠ n in atTop, inputs n = .take

theorem stateAt_task {n : Nat} (h : inputs n = .task) :
    Does (stateAt machine s inputs n) (stateAt machine s inputs (n + 1),
      (turnAt machine s inputs n).output) := by
  have ht : machine (stateAt machine s inputs n) (inputs n) =
      (stateAt machine s inputs n).task := by rw [h]; rfl
  have hd := task_does (stateAt machine s inputs n)
  rw [← ht] at hd
  exact hd

theorem stateAt_beside {n : Nat} (h : inputs n ≠ .task) :
    Beside (stateAt machine s inputs n) (stateAt machine s inputs (n + 1)) ∧
      (turnAt machine s inputs n).output = .silent :=
  step_beside (stateAt machine s inputs n) h

variable {m : Nat}

/-- A phase in which the task never waits ends with an operation of the task. -/
theorem Served.does (h : Served s inputs) {P : NetworkMonitor → Prop}
    (hk : ∀ s s', P s → Beside s s' → P s') (hb : ∀ s, P s → ¬ s.Waiting)
    (hm : P (stateAt machine s inputs m)) :
    ∃ l, m ≤ l ∧ inputs l = .task ∧ P (stateAt machine s inputs l) := by
  refine @Mealy.happens_first (fun n => P (stateAt machine s inputs n)) (fun n => inputs n = .task)
    (fun n => (stateAt machine s inputs n).Waiting) ?_ ?_ h.waits m hm
  · exact fun n hP ht => hk _ _ hP (stateAt_beside ht).1
  · exact fun n hP => hb _ hP

/-- The window of a deadline. -/
def InWindow (deadline : Instant) (s : NetworkMonitor) : Prop :=
  s.phase = .absorbing deadline ∨ s.phase = .settling deadline

theorem InWindow.beside (h : InWindow deadline s)
    (hb : Beside s s') : InWindow deadline s' := by
  unfold InWindow
  rw [hb.phase]
  exact h

theorem InWindow.does (h : InWindow deadline s) (hd : Does s r) :
    r.1.phase = .sampling ∨ (InWindow deadline r.1 ∧ r.1.expired = s.expired) := by
  cases hd with
  | closes => exact .inl rfl
  | absorbs hp hq | waits hw => exact .inr ⟨h, rfl⟩
  | settles hp =>
    rcases h with h | h
    · rw [hp] at h
      cases h
      exact .inr ⟨.inr rfl, rfl⟩
    · rw [hp] at h
      cases h
  | wakes hp =>
    rcases h with h | h
    · rw [hp] at h
      cases h
    · rw [hp] at h
      cases h
      exact .inr ⟨.inl rfl, rfl⟩
  | baseline hp | opens hp hq | samples hp | publishes hp hr =>
    rcases h with h | h <;> rw [hp] at h <;> cases h

theorem InWindow.busy (h : InWindow deadline s) (he : s.expired = true) : ¬ s.Waiting := by
  unfold Waiting
  rcases h with h | h
  · simp [h]
  · simp [h, he]

theorem InWindow.due (h : InWindow deadline s) (hle : deadline ≤ s.now) : s.due = true := by
  unfold NetworkMonitor.due
  rcases h with h | h
  · rw [h]
    exact decide_eq_true hle
  · rw [h]
    exact decide_eq_true hle

/-- Every window closes. -/
theorem Served.closes (h : Served s inputs) {deadline : Instant} {m : Nat}
    (hm : InWindow deadline (stateAt machine s inputs m)) :
    ∃ l, m ≤ l ∧ (stateAt machine s inputs l).phase = .sampling := by
  -- the event is that the window is closed by the next step
  have hx : ∀ n, InWindow deadline (stateAt machine s inputs n) →
      ¬ (stateAt machine s inputs (n + 1)).phase = .sampling →
        InWindow deadline (stateAt machine s inputs (n + 1)) ∧
          ((stateAt machine s inputs n).expired = true →
            (stateAt machine s inputs (n + 1)).expired = true) := by
    intro n hw hop
    by_cases ht : inputs n = .task
    · rcases hw.does (stateAt_task ht) with hc | ⟨hs, hp⟩
      · exact absurd hc hop
      · exact ⟨hs, fun hd => hp.trans hd⟩
    · have hb := (@stateAt_beside s inputs n ht).1
      exact ⟨hw.beside hb, hb.kept⟩
  obtain ⟨late, hl⟩ := eventually_atTop.mp (tendsto_atTop.mp h.clock deadline)
  obtain ⟨e, he, hex⟩ := frequently_atTop.mp h.timers (max m late)
  rcases @Mealy.kept_or_happened (fun n => InWindow deadline (stateAt machine s inputs n))
      (fun n => (stateAt machine s inputs (n + 1)).phase = .sampling)
      (fun n hw hop => (hx n hw hop).1) m e hm ((le_max_left m late).trans he)
    with ⟨l, hml, -, hc⟩ | hw
  · exact ⟨l + 1, le_succ_of_le hml, hc⟩
  · have hb := (@stateAt_beside s inputs e (by rw [hex]; simp)).1
    have hu := hl e ((le_max_right m late).trans he)
    have hp : (stateAt machine s inputs (e + 1)).expired = true := by
      have hsp : stateAt machine s inputs (e + 1) =
          ((stateAt machine s inputs e).step .expire).1 := by
        rw [← hex]
        rfl
      rw [hsp]
      exact Bool.or_eq_true_iff.mpr (.inr (hw.due hu))
    obtain ⟨l, _, hc⟩ := @Mealy.happens (fun n => InWindow deadline (stateAt machine s inputs n) ∧
        (stateAt machine s inputs n).expired = true)
      (fun n => (stateAt machine s inputs (n + 1)).phase = .sampling)
      (fun n => (stateAt machine s inputs n).Waiting)
      (fun n hn hop => ⟨(hx n hn.1 hop).1, (hx n hn.1 hop).2 hn.2⟩)
      (fun n hn => hn.1.busy hn.2) h.waits (e + 1) ⟨hw.beside hb, hp⟩
    exact ⟨l + 1, by omega, hc⟩

theorem Served.samples_of_idle (h : Served s inputs)
    (hp : (stateAt machine s inputs m).phase = .idle)
    (hq : 0 < (stateAt machine s inputs m).pulses) :
    ∃ l, m ≤ l ∧ (stateAt machine s inputs l).phase = .sampling := by
  obtain ⟨l, hm, ht, hi, hr⟩ := h.does (P := fun s => s.phase = .idle ∧ 0 < s.pulses)
    (fun s s' hs hb => ⟨hb.phase.trans hs.1, hs.2.trans_le hb.pulses⟩)
    (fun s hs hw => by
      unfold Waiting at hw
      rw [hs.1] at hw
      exact absurd hw hs.2.ne') ⟨hp, hq⟩
  obtain ⟨j, hj, hc⟩ := h.closes (.inl ((stateAt_task ht).of_idle hi hr))
  exact ⟨j, (hm.trans (le_succ l)).trans hj, hc⟩

/-- The queue of edges holds what it can, and can hold one. -/
structure Fits (s : NetworkMonitor) : Prop where
  bounded : s.out.length ≤ s.capacity
  positive : 1 ≤ s.capacity

/-- No event overfills the queue of edges. -/
theorem Fits.step (s : NetworkMonitor) (ev : Event) (h : Fits s) : Fits (machine s ev).1 := by
  by_cases ht : ev = .task
  · subst ht
    have hd := task_does s
    show Fits s.task.1
    generalize s.task = r at hd
    cases hd with
    | publishes _ hr =>
      refine ⟨?_, h.positive⟩
      rw [length_append]
      exact hr
    | _ => exact ⟨h.bounded, h.positive⟩
  · have hb := (step_beside s ht).1
    exact ⟨hb.capacity ▸ hb.out.trans h.bounded, hb.capacity ▸ h.positive⟩

/-- The task has a verdict to publish, and so many pulses at least are queued. -/
structure Verdict (changed : Bool) (least : Nat) (s : NetworkMonitor) : Prop where
  phase : s.phase = .publishing changed
  queued : least ≤ s.pulses

theorem Verdict.kept {chg : Bool} {least n : Nat}
    (h : Verdict chg least (stateAt machine s inputs n))
    (ho : (turnAt machine s inputs n).output ≠ .published chg) :
    Verdict chg least (stateAt machine s inputs (n + 1)) ∧
      (turnAt machine s inputs n).output = .silent ∧
      (stateAt machine s inputs (n + 1)).out.length ≤ (stateAt machine s inputs n).out.length ∧
      (stateAt machine s inputs (n + 1)).capacity = (stateAt machine s inputs n).capacity := by
  by_cases ht : inputs n = .task
  · rcases (stateAt_task ht).of_publishing h.phase with ⟨-, -, hp⟩ | ⟨-, hm⟩
    · exact absurd hp ho
    · obtain ⟨hst, hs⟩ := Prod.mk.inj hm
      rw [hst]
      exact ⟨h, hs, le_refl _, rfl⟩
  · obtain ⟨hb, hs⟩ := @stateAt_beside s inputs n ht
    exact ⟨⟨hb.phase.trans h.phase, h.queued.trans hb.pulses⟩, hs, hb.out, hb.capacity⟩

/-- A verdict is published some time. -/
theorem Served.publishes (h : Served s inputs) (hf : Fits s) {changed : Bool} {least m : Nat}
    (hm : Verdict changed least (stateAt machine s inputs m)) :
    ∃ l, m ≤ l ∧ (turnAt machine s inputs l).output = .published changed := by
  obtain ⟨t, ht, hk⟩ := frequently_atTop.mp h.owner m
  rcases @Mealy.kept_or_happened (fun n => Verdict changed least (stateAt machine s inputs n))
      (fun n => (turnAt machine s inputs n).output = .published changed)
      (fun n hn ho => (hn.kept ho).1) m t hm ht with ⟨l, hml, -, hp⟩ | hv
  · exact ⟨l, hml, hp⟩
  · -- an edge was taken, so there is room from now on
    have hb := (@stateAt_beside s inputs t (by rw [hk]; simp)).1
    have hf' := @Mealy.stateAt_invariant _ _ _ machine s inputs Fits Fits.step hf t
    have hr : (stateAt machine s inputs (t + 1)).out.length <
        (stateAt machine s inputs (t + 1)).capacity := by
      have hs : stateAt machine s inputs (t + 1) = ((stateAt machine s inputs t).step .take).1 := by
        rw [← hk]
        rfl
      rw [hs]
      show (stateAt machine s inputs t).out.tail.length < (stateAt machine s inputs t).capacity
      have hbn := hf'.bounded
      have hpos := hf'.positive
      rw [length_tail]
      omega
    obtain ⟨l, hl, hp⟩ := @Mealy.happens
      (fun n => Verdict changed least (stateAt machine s inputs n) ∧
        (stateAt machine s inputs n).out.length < (stateAt machine s inputs n).capacity)
      (fun n => (turnAt machine s inputs n).output = .published changed)
      (fun n => (stateAt machine s inputs n).Waiting)
      (fun n hn ho => by
        obtain ⟨hsl, -, hls, hc⟩ := hn.1.kept ho
        exact ⟨hsl, hc ▸ hls.trans_lt hn.2⟩)
      (fun n hn hw => by
        unfold Waiting at hw
        rw [hn.1.phase] at hw
        exact absurd hn.2 (not_lt.mpr hw)) h.waits (t + 1)
      ⟨⟨hb.phase.trans hv.phase, hv.queued.trans hb.pulses⟩, hr⟩
    exact ⟨l, ht.trans ((le_succ t).trans hl), hp⟩

/-- The first time, nothing else was said until then. -/
theorem Served.publishes_first (h : Served s inputs) (hf : Fits s) {changed : Bool}
    {least : Nat} (hm : Verdict changed least (stateAt machine s inputs m)) :
    ∃ l, m ≤ l ∧ (turnAt machine s inputs l).output = .published changed ∧
      (stateAt machine s inputs (l + 1)).phase = .idle ∧
      least ≤ (stateAt machine s inputs (l + 1)).pulses ∧
      ∀ i, m ≤ i → i < l → (turnAt machine s inputs i).output = .silent := by
  obtain ⟨l, hl, hp, hv, hb⟩ := @Mealy.first
    (fun n => Verdict changed least (stateAt machine s inputs n))
    (fun n => (turnAt machine s inputs n).output = .published changed)
    (fun n hn ho => (hn.kept ho).1) m hm (h.publishes hf hm)
  have ht : inputs l = .task := by
    by_contra hh
    rw [(@stateAt_beside s inputs l hh).2] at hp
    cases hp
  rcases (stateAt_task ht).of_publishing hv.phase with ⟨hd, hu, -⟩ | ⟨-, hs⟩
  · refine ⟨l, hl, hp, hd, ?_, ?_⟩
    · rw [show (stateAt machine s inputs (l + 1)).pulses = _ from hu]
      exact hv.queued
    · exact fun i hmi hi => ((hb i hmi hi).1.kept (hb i hmi hi).2).2.1
  · rw [(Prod.mk.inj hs).2] at hp
    cases hp

/-- Where something is queued, a sample is still to come. -/
theorem Served.samples_of_queued (h : Served s inputs) (hf : Fits s)
    (hq : 0 < (stateAt machine s inputs m).pulses) :
    ∃ l, m ≤ l ∧ (stateAt machine s inputs l).phase = .sampling := by
  cases hp : (stateAt machine s inputs m).phase with
  | spawned =>
    obtain ⟨l, hm, ht, hsp, hr⟩ := h.does (P := fun s => s.phase = .spawned ∧ 0 < s.pulses)
      (fun s s' hs hb => ⟨hb.phase.trans hs.1, hs.2.trans_le hb.pulses⟩)
      (fun s hs hw => by
        unfold Waiting at hw
        rw [hs.1] at hw
        exact hw) ⟨hp, hq⟩
    obtain ⟨hi, hl⟩ := (stateAt_task ht).of_spawned hsp
    obtain ⟨j, hj, ha⟩ := h.samples_of_idle hi (hl ▸ hr)
    exact ⟨j, hm.trans ((le_succ l).trans hj), ha⟩
  | idle => exact h.samples_of_idle hp hq
  | absorbing => exact h.closes (.inl hp)
  | settling => exact h.closes (.inr hp)
  | sampling => exact ⟨m, le_refl m, hp⟩
  | publishing =>
    obtain ⟨l, hm, -, hi, hr, -⟩ := h.publishes_first hf ⟨hp, hq⟩
    obtain ⟨j, hj, ha⟩ := h.samples_of_idle hi hr
    exact ⟨j, hm.trans ((le_succ l).trans hj), ha⟩

/-- After a pulse something is queued: the pulse, or those that left it no
room. -/
theorem pulse_queued (s : NetworkMonitor) : 0 < (machine s .pulse).1.pulses := by
  unfold machine NetworkMonitor.step
  dsimp only
  split
  · exact succ_pos _
  · rename_i hf
    exact lt_of_lt_of_le (by decide) (not_lt.mp hf)

/-- The bindings are sampled in turn `k`, and turn `l` publishes the verdict on
that sample. -/
structure Covers (s : NetworkMonitor) (inputs : Nat → Event) (k l : Nat) : Prop where
  order : k < l
  sampled : Samples (turnAt machine s inputs k)
  published : Publishes (turnAt machine s inputs l)
  between : ∀ i, k < i → i < l → (turnAt machine s inputs i).output = .silent

theorem Served.covers (h : Served s inputs) (hf : Fits s) {n : Nat} (hp : inputs n = .pulse) :
    ∃ k l, n < k ∧ Covers s inputs k l := by
  have hq : 0 < (stateAt machine s inputs (n + 1)).pulses := by
    have ht : stateAt machine s inputs (n + 1) =
        (machine (stateAt machine s inputs n) .pulse).1 := by
      rw [← hp]
      rfl
    rw [ht]
    exact pulse_queued _
  obtain ⟨m, hm, ha⟩ := h.samples_of_queued hf hq
  obtain ⟨k, hk, hts, hsl⟩ := h.does (P := fun s => s.phase = .sampling)
    (fun s s' hs hb => hb.phase.trans hs)
    (fun s hs hw => by
      unfold Waiting at hw
      rw [hs] at hw
      exact hw) ha
  obtain ⟨⟨_, hu⟩, hsm⟩ := (stateAt_task hts).of_sampling hsl
  obtain ⟨l, hl, hpb, -, -, he⟩ := h.publishes_first hf ⟨hu, zero_le _⟩
  exact ⟨k, l, hm.trans hk, hl, ⟨_, hsm⟩, ⟨_, hpb⟩, fun i hi hil => he i hi hil⟩

end

/-! ## The monitor -/

/-- Two publications have a whole window between them, each verdict is about one
sample and the one before it, and after every pulse there is a sample whose
verdict is published. -/
theorem changes_covered (now : Instant) (bindings : BindingFingerprint) {capacity : Nat}
    (hcapacity : 1 ≤ capacity) :
    (∀ before event, Separated (Mealy.trace machine (start now bindings capacity) before)
      (Mealy.turn machine (Mealy.run machine (start now bindings capacity) before) event)) ∧
    (∀ events, verdicts (sampledIn (Mealy.trace machine (start now bindings capacity) events)) =
        publishedIn (Mealy.trace machine (start now bindings capacity) events) ++
          (Mealy.run machine (start now bindings capacity) events).pending) ∧
    (∀ inputs, Served (start now bindings capacity) inputs → ∀ n, inputs n = .pulse →
      ∃ k l, n < k ∧ Covers (start now bindings capacity) inputs k l) := by
  refine ⟨fun before event => ?_, fun events => ?_, fun inputs hs n hp => ?_⟩
  · have hw := @Mealy.trace_induction _ _ _ machine Windowed (start now bindings capacity)
      ⟨fun e he => (by cases he), fun hx => by cases hx⟩
      (fun turns s event h => h.step event) before
    exact hw.separated event
  · have ha := @Mealy.trace_induction _ _ _ machine Accounted (start now bindings capacity)
      ⟨fun _ => rfl, fun hh => absurd rfl hh, rfl⟩
      (fun turns s event h => h.step event) events
    exact ha.matched
  · have hf : Fits (start now bindings capacity) := ⟨zero_le _, hcapacity⟩
    exact hs.covers hf hp

/-- One pulse, its window, and then nothing but time. -/
def onePulse : Nat → Event
  | 0 | 2 | 3 | 6 | 7 | 8 => .task
  | 1 => .pulse
  | 4 => .tick NETWORK_SETTLE
  | 5 => .expire
  | n + 9 =>
    match n % 3 with
    | 0 => .tick 1
    | 1 => .expire
    | _ => .take

theorem onePulse_rests : ∀ n, (stateAt machine (start 0 0 1) onePulse (n + 9)).phase = .idle ∧
      (stateAt machine (start 0 0 1) onePulse (n + 9)).pulses = 0 ∧
      (stateAt machine (start 0 0 1) onePulse (n + 9)).now = NETWORK_SETTLE + (n + 2) / 3
  | 0 => by decide
  | n + 1 => by
      obtain ⟨hp, hl, hw⟩ := onePulse_rests n
      have hs : stateAt machine (start 0 0 1) onePulse (n + 1 + 9) =
          (machine (stateAt machine (start 0 0 1) onePulse (n + 9)) (onePulse (n + 9))).1 := rfl
      rw [hs]
      have hc : n % 3 = 0 ∨ n % 3 = 1 ∨ n % 3 = 2 := by omega
      rcases hc with hm | hm | hm
      · have hi : onePulse (n + 9) = .tick 1 := by simp only [onePulse, hm]
        have hn : (n + 1 + 2) / 3 = (n + 2) / 3 + 1 := by omega
        rw [hi, hn]
        exact ⟨hp, hl, congrArg (· + 1) hw⟩
      · have hi : onePulse (n + 9) = .expire := by simp only [onePulse, hm]
        have hn : (n + 1 + 2) / 3 = (n + 2) / 3 := by omega
        rw [hi, hn]
        exact ⟨hp, hl, hw⟩
      · have hi : onePulse (n + 9) = .take := by simp only [onePulse, hm]
        have hn : (n + 1 + 2) / 3 = (n + 2) / 3 := by omega
        rw [hi, hn]
        exact ⟨hp, hl, hw⟩

theorem onePulse_served : Served (start 0 0 1) onePulse where
  waits := frequently_atTop.mpr fun m => by
    obtain ⟨hp, hl, -⟩ := onePulse_rests m
    refine ⟨m + 9, le_add_right m 9, ?_⟩
    unfold Waiting
    rw [hp]
    exact hl
  clock := tendsto_atTop.mpr fun b => eventually_atTop.mpr ⟨3 * b + 9, fun n hn => by
    obtain ⟨j, rfl⟩ : ∃ j, n = j + 9 := ⟨n - 9, by omega⟩
    have ht : ∀ c : Nat, 3 * c + 9 ≤ j + 9 → c ≤ (j + 2) / 3 := by
      intro c hc
      omega
    rw [(onePulse_rests j).2.2]
    exact (ht b hn).trans (le_add_left _ _)⟩
  timers := frequently_atTop.mpr fun m =>
    ⟨(3 * m + 1) + 9, by omega, by
      have hm : (3 * m + 1) % 3 = 1 := by omega
      simp only [onePulse, hm]⟩
  owner := frequently_atTop.mpr fun m =>
    ⟨(3 * m + 2) + 9, by omega, by
      have hm : (3 * m + 2) % 3 = 2 := by omega
      simp only [onePulse, hm]⟩

theorem changes_covered_onePulse : ∃ k l, 1 < k ∧ Covers (start 0 0 1) onePulse k l := by
  have hc : 1 ≤ 1 := by decide
  exact (changes_covered 0 0 hc).2.2 onePulse onePulse_served 1 rfl

/-! ## Bindings in another order -/

theorem absorb_comm (a : BindingAccumulator) (x y : UInt64) :
    (a.absorb x).absorb y = (a.absorb y).absorb x := by
  simp only [BindingAccumulator.absorb, UInt64.xor_assoc, UInt64.add_assoc, UInt64.xor_comm x,
    UInt64.add_comm x]

/-- All samples are the fingerprint. -/
structure Still (fp : BindingFingerprint) (s : NetworkMonitor) : Prop where
  bindings : s.bindings = fp
  last : s.phase ≠ .spawned → s.last = fp
  phase : s.phase ≠ .publishing true

theorem Still.task {fp : BindingFingerprint} (h : Still fp s) :
    Still fp s.task.1 ∧ s.task.2 ≠ .published true := by
  obtain ⟨hb, hl, hp⟩ := h
  have hd := task_does s
  generalize s.task = r at hd ⊢
  cases hd with
  | baseline => exact ⟨⟨hb, fun _ => hb, nofun⟩, nofun⟩
  | samples hs =>
    refine ⟨⟨hb, fun _ => hb, ?_⟩, nofun⟩
    simp [hb, hl (by simp [hs])]
  | @publishes chg hc =>
    refine ⟨⟨hb, fun _ => hl (by simp [hc]), nofun⟩, ?_⟩
    rw [hc] at hp
    simpa using hp
  | waits => exact ⟨⟨hb, hl, hp⟩, nofun⟩
  | opens ho | absorbs ho | settles ho | closes ho | wakes ho =>
    exact ⟨⟨hb, fun _ => hl (by simp [ho]), by simp [ho]⟩, nofun⟩

/-- The bindings are read from the same usable rows, in whatever order. -/
def Reorders [DefaultHasher] (table : List UnicastIpAddressRow) (event : Event) : Prop :=
  ∀ bindings, event = .bind bindings → ∃ table' : List UnicastIpAddressRow,
    (table'.filter (·.preferred)).Perm (table.filter (·.preferred)) ∧
      bindings = fingerprint (some table')

variable [DefaultHasher] {table : List UnicastIpAddressRow}

/-- Reordered rows leave the samples alone and publish nothing. -/
theorem Still.step (h : Still (fingerprint (some table)) s) {event : Event}
    (he : Reorders table event) : Still (fingerprint (some table))
      (machine s event).1 ∧ (machine s event).2 ≠ .published true := by
  cases event with
  | bind =>
    obtain ⟨_, hp, rfl⟩ := he _ rfl
    exact ⟨⟨congrArg BindingAccumulator.finish
      (hp.foldl_eq' (fun _ _ _ _ a => absorb_comm a _ _) {}), h.last, h.phase⟩, nofun⟩
  | task => exact h.task
  | pulse =>
    unfold machine NetworkMonitor.step
    dsimp only
    split <;> exact ⟨⟨h.bindings, h.last, h.phase⟩, nofun⟩
  | _ => exact ⟨⟨h.bindings, h.last, h.phase⟩, nofun⟩

theorem Still.publishes : ∀ {events : List Event} {s : NetworkMonitor},
    (∀ event ∈ events, Reorders table event) → Still (fingerprint (some table)) s →
      true ∉ publishedIn (Mealy.trace machine s events)
  | [], _, _, _ => by simp [Mealy.trace, publishedIn]
  | event :: rest, s, he, h => by
      obtain ⟨hs, hp⟩ := h.step (he event mem_cons_self)
      have hr := Still.publishes (fun other ho => he other (mem_cons_of_mem _ ho)) hs
      unfold publishedIn at hr ⊢
      rw [Mealy.trace, filterMap_cons]
      cases ho : (machine s event).2 with
      | published changed =>
        rw [ho] at hp
        simp only [Mealy.turn, ho, mem_cons, not_or]
        exact ⟨fun heq => hp (by rw [heq]), hr⟩
      | _ =>
        simp only [Mealy.turn, ho]
        exact hr

/-- While the rows of the table only change places, no edge says that a
binding changed. -/
theorem reordered_rows_move_nothing (table : List UnicastIpAddressRow) (now : Instant)
    (capacity : Nat) (events : List Event) (hr : ∀ event ∈ events, Reorders table event) :
    (publishedIn (Mealy.trace machine (start now (fingerprint (some table))
      capacity) events)).contains true = false := by
  have hs : Still (fingerprint (some table)) (start now (fingerprint (some table)) capacity) :=
    ⟨rfl, fun h => absurd rfl h, nofun⟩
  simpa using hs.publishes hr

omit [DefaultHasher] in
/-- Two addresses change places while a window is open: the edge is
published, and says that nothing changed. -/
theorem reordered_rows_move_nothing_swapped :
    letI : DefaultHasher := ⟨fun words => words.foldl (fun h w => 31 * h + UInt64.ofNat w) 7⟩
    let wired : UnicastIpAddressRow := ⟨true, 1, 24, 2, [10]⟩
    let wireless : UnicastIpAddressRow := ⟨true, 2, 24, 2, [20]⟩
    let published := publishedIn (Mealy.trace machine
      (start 0 (fingerprint (some [wired, wireless])) 1)
      [.task, .pulse, .bind (fingerprint (some [wireless, wired])), .task, .task,
        .tick NETWORK_SETTLE, .expire, .task, .task, .task])
    published = [false] ∧ published.contains true = false := by
  let : DefaultHasher := ⟨fun words => words.foldl (fun h w => 31 * h + UInt64.ofNat w) 7⟩
  intro wired wireless published
  refine ⟨by decide, reordered_rows_move_nothing [wired, wireless] 0 1 _ ?_⟩
  intro event he bindings hb
  subst hb
  obtain rfl : bindings = _ := by simpa using he
  exact ⟨[wireless, wired], .swap _ _ _, rfl⟩

end OpenAirCast.Backend.NetworkMonitor

/-
App.HandleTheorems — no published revision and no window
effect is left behind.

`Stepped` says once what an atomic step can do. `Live` is the invariant:
as long as the gate is closed somebody is about to ask for a frame or one
is to come, and as long as the window is behind, the gate is closed, or a
thread is about to close it, or the frame under way has not got to the
part that catches up. In a quiet handle none of these is left.
-/
import OpenAirCast.App.Handle

namespace OpenAirCast.Handle

open List AppHandle

variable {σ ε : Type} {h h' : AppHandle σ ε} {mark : Option (Mark σ ε)}

/-! ## What a step can do -/

inductive Stepped (h : AppHandle σ ε) : AppHandle σ ε → Option (Mark σ ε) → Prop
  | still : Stepped h h none
  | stored (snapshot : σ) (idle : h.threads .actor = .idle) :
      Stepped h ({ h with snapshot := snapshot }.goTo .actor .scheduling) (some (.stored snapshot))
  | pushed (thread : Thread) (effect : ε) (idle : h.threads thread = .idle) :
      Stepped h ({ h with queue := h.queue ++ [effect] }.goTo thread .scheduling)
        (some (.pushed effect))
  | refused (thread : Thread) (scheduling : h.threads thread = .scheduling)
      (closed : h.gate = true) : Stepped h (h.goTo thread .idle) none
  | won (thread : Thread) (opened : h.gate = false) :
      Stepped h ({ h with gate := true }.goTo thread .won) (some .won)
  | collected (thread : Thread) (won : h.threads thread = .won) :
      Stepped h (h.goTo thread (.waking h.callbacks)) none
  | called (thread : Thread) (callback : Nat) (rest : List Nat)
      (waking : h.threads thread = .waking (callback :: rest)) :
      Stepped h ({ h with requested := true }.goTo thread (.waking rest)) none
  | returned (thread : Thread) (last : h.threads thread = .waking []) :
      Stepped h (h.goTo thread .idle) none
  | installed (absent : h.frame = .absent) : Stepped h { h with
          callbacks := h.callbacks ++ [h.nextId]
          nextId := h.nextId + 1
          frame := .resting
          requested := true } none
  | begun (resting : h.frame = .resting) :
      Stepped h { h with frame := .begun, requested := false } none
  | rearmed (begun : h.frame = .begun) :
      Stepped h { h with frame := .rearmed, gate := false } (some .rearmed)
  | drained (rearmed : h.frame = .rearmed) :
      Stepped h { h with frame := .drained false, queue := [] } (some (.drained h.queue))
  | loaded (held : Bool) (drained : h.frame = .drained held) :
      Stepped h { h with frame := .drained true } (some (.loaded h.snapshot))
  | ended (drained : h.frame = .drained true) : Stepped h { h with frame := .resting } none

/-- `Stepped` covers every move. -/
theorem step_stepped (h : AppHandle σ ε) (move : Move σ ε) :
    Stepped h (step h move).1 (step h move).2 := by
  cases move with
  | store snap =>
    simp only [step, store]
    split
    · exact .stored snap ‹_›
    · exact .still
  | push thr eff =>
    simp only [step, push]
    split
    · rename_i hi
      exact .pushed thr eff hi.1
    · exact .still
  | exchange thr =>
    simp only [step, exchange]
    split
    · split
      · exact .refused thr ‹_› ‹_›
      · rename_i hg
        exact .won thr (by simpa using hg)
    · exact .still
  | collect thr =>
    simp only [step, collect]
    split
    · exact .collected thr ‹_›
    · exact .still
  | call thr =>
    simp only [step, call]
    split
    · exact .called thr _ _ ‹_›
    · exact .returned thr ‹_›
    · exact .still
  | install =>
    simp only [step, install]
    split
    · exact .installed ‹_›
    · exact .still
  | beginFrame =>
    simp only [step, beginFrame]
    split
    · exact .begun ‹_›
    · exact .still
  | rearm =>
    simp only [step, rearm]
    split
    · exact .rearmed ‹_›
    · exact .still
  | drain =>
    simp only [step, drain]
    split
    · exact .drained ‹_›
    · exact .still
  | load =>
    simp only [step, load]
    split
    · exact .loaded _ ‹_›
    · exact .still
  | endFrame =>
    simp only [step, endFrame]
    split
    · exact .ended ‹_›
    · exact .still

/-! ## The invariant -/

/-- A frame that has not reset the gate is to come. -/
def AppHandle.Due (h : AppHandle σ ε) : Prop :=
  h.frame = .absent ∨ h.frame = .begun ∨ h.requested = true

/-- A thread is about to ask for a frame. -/
def AppHandle.Waking (h : AppHandle σ ε) : Prop :=
  ∃ thread, h.threads thread = .won ∨ ∃ callback rest, h.threads thread = .waking (callback :: rest)

/-- The gate is closed or a thread is about to try it. -/
def AppHandle.Armed (h : AppHandle σ ε) : Prop :=
  h.gate = true ∨ ∃ thread, h.threads thread = .scheduling

/-- `seen` is the snapshot the window loaded last. -/
structure Live (h : AppHandle σ ε) (seen : Option σ) : Prop where
  registered : h.frame ≠ .absent → h.callbacks ≠ []
  closed : h.gate = true → h.Due ∨ h.Waking
  queued : h.queue ≠ [] → h.Armed ∨ h.frame = .rearmed
  behind : seen ≠ some h.snapshot → h.Due ∨ h.Armed ∨ h.frame = .rearmed ∨ h.frame = .drained false

@[simp] theorem goTo_self (h : AppHandle σ ε) (thr : Thread) (ph : Phase) :
    (h.goTo thr ph).threads thr = ph := Function.update_self ..

variable {thr other : Thread}

theorem goTo_other (h : AppHandle σ ε) (ph : Phase)
    (hne : other ≠ thr) : (h.goTo thr ph).threads other = h.threads other :=
  Function.update_of_ne hne ..

theorem waking_goTo {ph : Phase} (hn : h.threads thr ≠ .won)
    (hk : ∀ callback rest, h.threads thr ≠ .waking (callback :: rest))
    (hw : h.Waking) : (h.goTo thr ph).Waking := by
  obtain ⟨other, ho⟩ := hw
  have hne : other ≠ thr := by
    rintro rfl
    rcases ho with ho | ⟨callback, rest, ho⟩
    · exact hn ho
    · exact hk callback rest ho
  refine ⟨other, ?_⟩
  rw [goTo_other h ph hne]
  exact ho

theorem armed_scheduling (h : AppHandle σ ε) (thr : Thread) :
    (h.goTo thr .scheduling).Armed := .inr ⟨thr, goTo_self ..⟩

theorem armed_goTo {ph : Phase} (hne : h.threads thr ≠ .scheduling)
    (ha : h.Armed) : (h.goTo thr ph).Armed := by
  rcases ha with hg | ⟨other, ho⟩
  · exact .inl hg
  · refine .inr ⟨other, ?_⟩
    rwa [goTo_other h ph]
    rintro rfl
    exact hne ho

/-- The snapshot the window has after a step. -/
def seenAfter (seen : Option σ) : Option (Mark σ ε) → Option σ
  | some (.loaded snapshot) => some snapshot
  | _ => seen

/-- No step leaves the window behind with nothing to wake it. -/
theorem Live.stepped {seen : Option σ} (live : Live h seen) (hs : Stepped h h' mark) :
    Live h' (seenAfter seen mark) := by
  cases hs with
  | still => exact live
  | stored _ idle | pushed _ _ idle =>
    refine ⟨live.registered, ?_, ?_, ?_⟩
    · intro hg
      exact (live.closed hg).imp id (waking_goTo (by simp [idle]) (by simp [idle]))
    · intro _
      exact .inl (armed_scheduling ..)
    · intro _
      exact .inr (.inl (armed_scheduling ..))
  | refused _ scheduling closed =>
    refine ⟨live.registered, ?_, ?_, ?_⟩
    · intro hg
      exact (live.closed hg).imp id (waking_goTo (by simp [scheduling]) (by simp [scheduling]))
    · intro _
      exact .inl (.inl closed)
    · intro _
      exact .inr (.inl (.inl closed))
  | won thr =>
    refine ⟨live.registered, ?_, ?_, ?_⟩
    · intro _
      exact .inr ⟨thr, .inl (goTo_self ..)⟩
    · intro _
      exact .inl (.inl rfl)
    · intro _
      exact .inr (.inl (.inl rfl))
  | collected thr won =>
    have ha : h.Armed → (h.goTo thr (.waking h.callbacks)).Armed := armed_goTo (by simp [won])
    refine ⟨live.registered, ?_, ?_, ?_⟩
    · intro _
      -- with nothing registered the window is still to be built
      cases hc : h.callbacks with
      | nil => exact .inl (.inl (by_contra fun hf => live.registered hf hc))
      | cons callback rest => exact .inr ⟨thr, .inr ⟨callback, rest, goTo_self ..⟩⟩
    · intro hq
      exact (live.queued hq).imp ha id
    · intro hn
      exact (live.behind hn).imp id (Or.imp ha id)
  | called thr _ rest waking =>
    have ha : h.Armed → ({ h with requested := true }.goTo thr (.waking rest)).Armed :=
      armed_goTo (h := { h with requested := true }) (by simp [waking])
    refine ⟨live.registered, ?_, ?_, ?_⟩
    · intro _
      exact .inl (.inr (.inr rfl))
    · intro hq
      exact (live.queued hq).imp ha id
    · intro _
      exact .inl (.inr (.inr rfl))
  | returned thr last =>
    have ha : h.Armed → (h.goTo thr .idle).Armed := armed_goTo (by simp [last])
    refine ⟨live.registered, ?_, ?_, ?_⟩
    · intro hg
      exact (live.closed hg).imp id (waking_goTo (by simp [last]) (by simp [last]))
    · intro hq
      exact (live.queued hq).imp ha id
    · intro hn
      exact (live.behind hn).imp id (Or.imp ha id)
  | installed absent =>
    refine ⟨by simp, ?_, ?_, ?_⟩
    · intro _
      exact .inl (.inr (.inr rfl))
    · intro hq
      refine .inl ((live.queued hq).resolve_right ?_)
      simp [absent]
    · intro _
      exact .inl (.inr (.inr rfl))
  | begun resting =>
    refine ⟨fun _ => live.registered (by simp [resting]), ?_, ?_, ?_⟩
    · intro _
      exact .inl (.inr (.inl rfl))
    · intro hq
      refine .inl ((live.queued hq).resolve_right ?_)
      simp [resting]
    · intro _
      exact .inl (.inr (.inl rfl))
  | rearmed begun =>
    refine ⟨fun _ => live.registered (by simp [begun]), nofun, ?_, ?_⟩
    · intro _
      exact .inr rfl
    · intro _
      exact .inr (.inr (.inl rfl))
  | drained rearmed =>
    refine ⟨fun _ => live.registered (by simp [rearmed]), ?_, by simp, ?_⟩
    · intro hg
      refine (live.closed hg).imp ?_ id
      simp [Due, rearmed]
    · intro _
      exact .inr (.inr (.inr rfl))
  | loaded _ drained =>
    refine ⟨fun _ => live.registered (by simp [drained]), ?_, ?_, by simp [seenAfter]⟩
    · intro hg
      refine (live.closed hg).imp ?_ id
      simp [Due, drained]
    · intro hq
      refine .inl ((live.queued hq).resolve_right ?_)
      simp [drained]
  | ended drained =>
    refine ⟨fun _ => live.registered (by simp [drained]), ?_, ?_, ?_⟩
    · intro hg
      refine (live.closed hg).imp ?_ id
      simp [Due, drained]
    · intro hq
      refine .inl ((live.queued hq).resolve_right ?_)
      simp [drained]
    · intro hn
      rcases live.behind hn with hd | ha | hf | hf
      · refine .inl (.inr (.inr ?_))
        simpa [Due, drained] using hd
      · exact .inr (.inl ha)
      · simp [drained] at hf
      · simp [drained] at hf

/-- In a quiet handle the window has caught up. -/
theorem Live.quiet {seen : Option σ} (live : Live h seen) (quiet : h.Quiet) :
    seen = some h.snapshot ∧ h.queue = [] := by
  have hd : ¬ h.Due := by simp [Due, quiet.resting, quiet.unrequested]
  have hw : ¬ h.Waking := by simp [Waking, quiet.threads]
  have hg : h.gate ≠ true := fun hg => (live.closed hg).elim hd hw
  have ha : ¬ h.Armed := by simp [Armed, quiet.threads, hg]
  constructor
  · by_contra hs
    have hb := live.behind hs
    simp [hd, ha, quiet.resting] at hb
  · by_contra hq
    have hu := live.queued hq
    simp [ha, quiet.resting] at hu

/-! ## Whole runs -/

/-- What the marks so far say of the handle. -/
structure Accounted (initial : σ) (marks : List (Mark σ ε)) (h : AppHandle σ ε) : Prop where
  newest : newest initial marks = h.snapshot
  live : Live h (lastLoaded marks)
  fifo : delivered marks ++ h.queue = pushed marks

theorem lastLoaded_append (marks : List (Mark σ ε)) (mark : Option (Mark σ ε)) :
    lastLoaded (marks ++ mark.toList) = seenAfter (lastLoaded marks) mark := by
  cases mark with
  | none => simp [seenAfter]
  | some mark => cases mark <;> simp [lastLoaded, seenAfter]

/-- One more mark keeps the account. -/
theorem Accounted.stepped {initial : σ} {marks : List (Mark σ ε)}
    (acc : Accounted initial marks h) (hs : Stepped h h' mark) :
    Accounted initial (marks ++ mark.toList) h' := by
  obtain ⟨_, hl, hf⟩ := acc
  refine ⟨?_, ?_, ?_⟩
  · cases hs <;> simp_all [Handle.newest, goTo]
  · rw [lastLoaded_append]
    exact hl.stepped hs
  · cases hs with
    | pushed =>
      simp only [delivered, pushed] at hf
      simp [delivered, pushed, goTo, ← hf]
    | drained => simpa [delivered, pushed] using hf
    | _ => simpa [delivered, pushed, goTo] using hf

theorem marks_concat (h : AppHandle σ ε) (moves : List (Move σ ε)) (move : Move σ ε) :
    marks h (moves ++ [move]) = marks h moves ++ (step (Mealy.run step h moves) move).2.toList := by
  rw [marks, marks, Mealy.outputs, Mealy.outputs, Mealy.trace_concat, map_append, filterMap_append]
  cases hm : (step (Mealy.run step h moves) move).2 <;> simp [Mealy.turn, hm]

/-- The marks of every run account for the handle. -/
theorem run_accounted (initial : σ) (moves : List (Move σ ε)) :
    Accounted initial (marks (start initial) moves) (Mealy.run step (start initial) moves) := by
  induction moves using List.reverseRecOn with
  | nil =>
    refine ⟨rfl, ⟨?_, nofun, ?_, ?_⟩, rfl⟩
    · intro ha
      exact absurd rfl ha
    · intro hq
      exact absurd rfl hq
    · intro _
      exact .inl (.inl rfl)
  | append_singleton _ _ ih =>
    rw [marks_concat, Mealy.run_concat]
    exact ih.stepped (step_stepped ..)

/-! ## The gate -/

/-- How often the gate can still be won before the next drain. -/
def AppHandle.winsLeft (h : AppHandle σ ε) : Nat := if h.gate then 0 else 1

theorem Stepped.wins (hs : Stepped h h' mark) (hr : ∀ m ∈ mark.toList, m.isRearmed = false) :
    mark.toList.countP Mark.isWon + h'.winsLeft = h.winsLeft := by
  cases hs with
  | won _ opened =>
    simp only [winsLeft, goTo, opened]
    rfl
  | rearmed => simp [Mark.isRearmed] at hr
  | _ => exact Nat.zero_add _

theorem marks_cons (h : AppHandle σ ε) (move : Move σ ε) (moves : List (Move σ ε)) :
    marks h (move :: moves) = (step h move).2.toList ++ marks (step h move).1 moves := by
  simp only [marks, Mealy.outputs, Mealy.trace, map_cons, Mealy.turn, filterMap_cons]
  cases (step h move).2 <;> rfl

variable (moves : List (Move σ ε))

/-- Marks up to the next drain win the gate at most once, and not at all
while it is closed. -/
theorem wins_before_rearm : ∀ (h : AppHandle σ ε)
    (between : List (Mark σ ε)), between <+: marks h moves →
    (∀ mark ∈ between, mark.isRearmed = false) → between.countP Mark.isWon ≤ h.winsLeft := by
  induction moves with
  | nil =>
    intro h between hb _
    rw [prefix_nil.mp hb]
    exact Nat.zero_le _
  | cons move _ ih =>
    intro h between hb hr
    rw [marks_cons] at hb
    have hw := (step_stepped h move).wins
    cases hm : (step h move).2 with
    | none =>
      rw [hm] at hb hw
      have hs := ih (step h move).1 between hb hr
      simp at hw
      omega
    | some =>
      rw [hm] at hb hw
      cases between with
      | nil => exact Nat.zero_le _
      | cons _ rest =>
        obtain ⟨rfl, hs⟩ := cons_prefix_cons.mp hb
        rw [forall_mem_cons] at hr
        have hc := ih (step h move).1 rest hs hr.2
        have hf := hw (by simpa using hr.1)
        rw [← singleton_append, countP_append]
        simp only [Option.toList_some] at hf
        omega

/-- Between two drains the gate is won at most once. -/
theorem wins_between : ∀ (h : AppHandle σ ε)
    (between : List (Mark σ ε)), between <:+: marks h moves →
    (∀ mark ∈ between, mark.isRearmed = false) → between.countP Mark.isWon ≤ 1 := by
  induction moves with
  | nil =>
    intro h between hb _
    rw [infix_nil.mp hb]
    exact Nat.zero_le _
  | cons move moves ih =>
    intro h between hb hr
    have hl : h.winsLeft ≤ 1 := by
      unfold winsLeft
      split <;> omega
    rw [marks_cons] at hb
    cases hm : (step h move).2 with
    | none =>
      rw [hm] at hb
      exact ih (step h move).1 between hb hr
    | some =>
      rw [hm] at hb
      rcases infix_cons_iff.mp hb with hp | hi
      · refine Nat.le_trans (wins_before_rearm (move :: moves) h between ?_ hr) hl
        rw [marks_cons, hm]
        exact hp
      · exact ih (step h move).1 between hi hr

/-- The window is never left behind. In every quiet state a run reaches,
the snapshot the window loaded last is the newest one and the effect queue
is empty. In every state the effects delivered, followed by the ones still
queued, are the ones pushed, in their order. And between two drains the
gate is won at most once. -/
theorem window_catches_up (initial : σ) (moves : List (Move σ ε)) :
    ((Mealy.run step (start initial) moves).Quiet → lastLoaded (marks (start initial) moves) =
            some (newest initial (marks (start initial) moves)) ∧
          (Mealy.run step (start initial) moves).queue = []) ∧
      delivered (marks (start initial) moves) ++ (Mealy.run step (start initial) moves).queue =
        pushed (marks (start initial) moves) ∧
      ∀ between, between <:+: marks (start initial) moves →
        (∀ mark ∈ between, mark.isRearmed = false) → between.countP Mark.isWon ≤ 1 := by
  have ha := run_accounted initial moves
  refine ⟨?_, ha.fifo, wins_between moves (start initial)⟩
  intro quiet
  rw [ha.newest]
  exact ha.live.quiet quiet

/-- A publication and an effect race to the gate while the window starts,
and one frame takes both in. -/
def racingStart : List (Move Nat Nat) :=
  [.store 1, .install, .push (.sender 0) 7, .exchange (.sender 0), .exchange .actor,
    .collect (.sender 0), .call (.sender 0), .call (.sender 0), .beginFrame, .rearm, .drain,
    .load, .endFrame]

theorem racingStart_quiet : (Mealy.run step (start 0) racingStart).Quiet := by
  refine ⟨?_, rfl, rfl⟩
  intro thr
  cases thr with
  | actor => rfl
  | sender n => cases n <;> rfl

theorem window_catches_up_racing : lastLoaded (marks (start 0) racingStart) = some 1 ∧
      delivered (marks (start 0) racingStart) = [7] := by
  obtain ⟨hs, hq⟩ := (window_catches_up 0 racingStart).1 racingStart_quiet
  have hf := (window_catches_up 0 racingStart).2.1
  rw [hq, append_nil] at hf
  exact ⟨hs, hf⟩

end OpenAirCast.Handle

/-
Lib.Mealy — finite runs of a machine that answers each input
with a new state and an output.

`run` is the state after a list of inputs, `trace` the list of turns that
led there: each input with the states around it and the output. The two
induction rules are the ones a safety argument uses. `run_invariant`
carries a predicate on states. `trace_induction` carries a predicate on
the turns so far together with the state they led to, for properties that
speak of what happened earlier; `trace_induction_along` lets each step
assume something of the turns before it. `Along` says of every step of a run that
it met a condition, and `forall_start_iff_along` says that a property
holds at every point of a run exactly when its steps meet the condition
under which one step keeps it. `Since` looks back: some turn had a property,
and all turns after it another. In `SinceAt` the property may also speak of
the turns before that one.
-/
import Mathlib.Data.List.Induction

namespace OpenAirCast.Mealy

open List

/-- One turn: an input, the states around it, and the output. -/
structure Turn (σ ι ο : Type) where
  before : σ
  input : ι
  output : ο
  after : σ

variable {σ ι ο : Type} (step : σ → ι → σ × ο)

def turn (s : σ) (i : ι) : Turn σ ι ο := ⟨s, i, (step s i).2, (step s i).1⟩

/-- The state after the inputs. -/
def run (s : σ) : List ι → σ
  | [] => s
  | i :: rest => run (step s i).1 rest

/-- The turns of the run, first to last. -/
def trace (s : σ) : List ι → List (Turn σ ι ο)
  | [] => []
  | i :: rest => turn step s i :: trace (step s i).1 rest

/-- A machine that only moves, as one whose outputs say nothing. -/
def silent (move : σ → ι → σ) (s : σ) (i : ι) : σ × Unit := (move s i, ())

/-- The outputs of the run, first to last. -/
def outputs (s : σ) (inputs : List ι) : List ο := (trace step s inputs).map (·.output)

/-- Every step of the run meets the condition. -/
def Along (cond : σ → ι → Prop) (s : σ) : List ι → Prop
  | [] => True
  | i :: rest => cond s i ∧ Along cond (step s i).1 rest

instance decidableAlong {cond : σ → ι → Prop} [∀ s i, Decidable (cond s i)] :
    ∀ (s : σ) (inputs : List ι), Decidable (Along step cond s inputs)
  | _, [] => isTrue trivial
  | s, i :: rest =>
    @instDecidableAnd (cond s i) (Along step cond (step s i).1 rest) _
      (decidableAlong (step s i).1 rest)

variable (s : σ)

theorem run_append (s : σ) : ∀ (xs ys : List ι), run step s (xs ++ ys) = run step (run step s xs) ys
  | [], _ => rfl
  | x :: xs, ys => run_append (step s x).1 xs ys

theorem run_concat (xs : List ι) (i : ι) : run step s (xs ++ [i]) = (step (run step s xs) i).1 := by
  rw [run_append]
  rfl

theorem trace_append (s : σ) : ∀ (xs ys : List ι),
    trace step s (xs ++ ys) = trace step s xs ++ trace step (run step s xs) ys
  | [], _ => rfl
  | x :: xs, ys => by simp only [cons_append, trace, run, trace_append (step s x).1 xs ys]

theorem trace_concat (xs : List ι) (i : ι) :
    trace step s (xs ++ [i]) = trace step s xs ++ [turn step (run step s xs) i] := by
  rw [trace_append]
  rfl

variable {step}

/-- What one step preserves, a run preserves. -/
theorem run_invariant {Inv : σ → Prop} (hs : ∀ s i, Inv s → Inv (step s i).1) :
    ∀ {s : σ}, Inv s → ∀ ins, Inv (run step s ins)
  | _, h, [] => h
  | s, h, i :: rest => run_invariant hs (hs s i h) rest

/-- What one step preserves under a condition, a run that meets the
condition preserves. -/
theorem along_invariant {Inv : σ → Prop} {cond : σ → ι → Prop}
    (hs : ∀ s i, cond s i → Inv s → Inv (step s i).1) :
    ∀ (ins : List ι) {s : σ}, Along step cond s ins → Inv s → Inv (run step s ins)
  | [], _, _, h => h
  | i :: rest, s, ha, h => along_invariant hs rest ha.2 (hs s i ha.1 h)

/-- Where the condition is exactly what one step needs to keep `P`, it is
exactly what a run needs to keep `P` all along. -/
theorem forall_start_iff_along {I P : σ → Prop} {cond : σ → ι → Prop}
    (hi : ∀ s i, I s → I (step s i).1)
    (hs : ∀ s i, I s → P s → (P (step s i).1 ↔ cond s i)) :
    ∀ (ins : List ι) {s : σ}, I s → P s →
      ((∀ pre, pre <+: ins → P (run step s pre)) ↔ Along step cond s ins)
  | [], s, _, hP => by
      refine iff_of_true ?_ trivial
      intro pre hb
      rw [prefix_nil.mp hb]
      exact hP
  | i :: rest, s, hI, hP => by
      constructor
      · intro hall
        have hn : P (step s i).1 := hall [i] ⟨rest, rfl⟩
        refine ⟨(hs s i hI hP).mp hn, ?_⟩
        rw [← forall_start_iff_along hi hs rest (hi s i hI) hn]
        intro pre hb
        exact hall (i :: pre) (cons_prefix_cons.mpr ⟨rfl, hb⟩)
      · rintro ⟨hc, hr⟩ pre hb
        have hn := (hs s i hI hP).mpr hc
        cases pre with
        | nil => exact hP
        | cons j pre =>
          obtain ⟨rfl, he⟩ := cons_prefix_cons.mp hb
          exact (forall_start_iff_along hi hs rest (hi s j hI) hn).mpr hr pre he

variable {cond : σ → ι → Prop}

theorem along_iff_forall_start : ∀ (ins : List ι) {s : σ}, Along step cond s ins ↔
      ∀ pre i, pre ++ [i] <+: ins → cond (run step s pre) i
  | [], s => by
      refine iff_of_true trivial ?_
      intro pre i hb
      simp at hb
  | j :: rest, s => by
      constructor
      · rintro ⟨hc, hr⟩ pre i hb
        cases pre with
        | nil =>
          obtain rfl : i = j := by simpa using hb
          exact hc
        | cons _ pre =>
          obtain ⟨rfl, hs⟩ := cons_prefix_cons.mp hb
          exact (along_iff_forall_start rest).mp hr pre i hs
      · intro hall
        refine ⟨hall [] j ⟨rest, rfl⟩, (along_iff_forall_start rest).mpr ?_⟩
        intro pre i hb
        exact hall (j :: pre) i (cons_prefix_cons.mpr ⟨rfl, hb⟩)

theorem along_iff_forall_turn :
    ∀ (ins : List ι) {s : σ}, Along step cond s ins ↔ ∀ t ∈ trace step s ins, cond t.before t.input
  | [], _ => by simp [Along, trace]
  | i :: rest, s => by
      simp only [Along, trace, forall_mem_cons, along_iff_forall_turn rest]
      rfl

theorem along_and {p q : σ → ι → Prop} : ∀ (ins : List ι) {s : σ},
    Along step (fun s i => p s i ∧ q s i) s ins ↔ Along step p s ins ∧ Along step q s ins
  | [], _ => by simp [Along]
  | i :: rest, s => by
      simp only [Along, along_and rest]
      exact and_and_and_comm

/-- What every turn from a state of the invariant has, every turn of a run
has. -/
theorem forall_turn {Inv : σ → Prop} {P : Turn σ ι ο → Prop}
    (hs : ∀ s i, Inv s → Inv (step s i).1) (ht : ∀ s i, Inv s → P (turn step s i)) :
    ∀ (ins : List ι) {s : σ}, Inv s → ∀ t ∈ trace step s ins, P t
  | [], _, _ => by simp [trace]
  | i :: rest, s, h => by
      simp only [trace, forall_mem_cons]
      exact ⟨ht s i h, forall_turn hs ht rest (hs s i h)⟩

/-- A predicate on the turns so far and the state they led to. -/
theorem trace_induction {P : List (Turn σ ι ο) → σ → Prop} {s : σ} (hnil : P [] s)
    (hs : ∀ turns s' i, P turns s' → P (turns ++ [turn step s' i]) (step s' i).1)
    (ins : List ι) : P (trace step s ins) (run step s ins) := by
  induction ins using List.reverseRecOn with
  | nil => exact hnil
  | append_singleton _ i ih =>
    rw [trace_concat, run_concat]
    exact hs _ _ i ih

theorem trace_map_input (s : σ) : ∀ ins : List ι, (trace step s ins).map (·.input) = ins
  | [] => rfl
  | i :: rest => by
      simp only [trace, map_cons, trace_map_input (step s i).1 rest]
      rfl

theorem turn_mem_trace (s : σ) (pre after : List ι) (i : ι) :
    turn step (run step s pre) i ∈ trace step s (pre ++ i :: after) := by
  rw [trace_append]
  exact mem_append_right _ mem_cons_self

theorem trace_split : ∀ {ins : List ι} {s : σ} {front back : List (Turn σ ι ο)}
    {t : Turn σ ι ο}, trace step s ins = front ++ t :: back →
      ∃ xs ys, ins = xs ++ t.input :: ys ∧ t = turn step (run step s xs) t.input ∧
        front = trace step s xs ∧ back = trace step t.after ys
  | [], _, front, back, t, h => by simp [trace] at h
  | i :: rest, s, front, back, t, h => by
      cases front with
      | nil =>
        obtain ⟨rfl, rfl⟩ := List.cons.inj h
        exact ⟨[], rest, rfl, rfl, rfl, rfl⟩
      | cons =>
        obtain ⟨rfl, ht⟩ := List.cons.inj h
        obtain ⟨xs, ys, hi, hr, hf, hb⟩ := trace_split ht
        exact ⟨i :: xs, ys, by rw [hi]; rfl, hr, by rw [hf]; rfl, hb⟩

theorem run_silent (move : σ → ι → σ) : ∀ (ins : List ι) (s : σ),
    run (silent move) s ins = ins.foldl move s
  | [], _ => rfl
  | i :: rest, s => run_silent move rest (move s i)

/-- Some turn had `P` with the turns before it, and all turns after it `Q`. -/
def SinceAt (P : List (Turn σ ι ο) → Turn σ ι ο → Prop) (Q : Turn σ ι ο → Prop)
    (turns : List (Turn σ ι ο)) : Prop :=
  ∃ front t late, turns = front ++ t :: late ∧ P front t ∧ ∀ l ∈ late, Q l

/-- Some turn had `P`, and all turns after it `Q`. -/
def Since (P Q : Turn σ ι ο → Prop) (turns : List (Turn σ ι ο)) : Prop :=
  ∃ front t late, turns = front ++ t :: late ∧ P t ∧ ∀ l ∈ late, Q l

theorem not_since_nil (P Q : Turn σ ι ο → Prop) : ¬ Since P Q [] := by
  rintro ⟨_, t, _, h, -⟩
  simp at h

/-- Where a list that has grown by one is split. -/
theorem concat_eq_append_cons {α : Type} {xs front back : List α} {last x : α}
    (h : xs ++ [last] = front ++ x :: back) :
    (xs = front ∧ last = x ∧ back = []) ∨
      ∃ rest, back = rest ++ [last] ∧ xs = front ++ x :: rest := by
  rcases eq_nil_or_concat back with rfl | ⟨rest, final, rfl⟩
  · obtain ⟨hs, hl⟩ := append_inj' h rfl
    exact .inl ⟨hs, by simpa using hl, rfl⟩
  · have hc : xs ++ [last] = (front ++ x :: rest) ++ [final] := by simpa using h
    obtain ⟨hs, hl⟩ := append_inj' hc rfl
    obtain rfl : last = final := by simpa using hl
    exact .inr ⟨rest, by simp, hs⟩

theorem sinceAt_concat {P : List (Turn σ ι ο) → Turn σ ι ο → Prop} {Q : Turn σ ι ο → Prop}
    {turns : List (Turn σ ι ο)} {u : Turn σ ι ο} :
    SinceAt P Q (turns ++ [u]) ↔ P turns u ∨ (Q u ∧ SinceAt P Q turns) := by
  constructor
  · rintro ⟨front, t, late, hs, hP, hQ⟩
    rcases concat_eq_append_cons hs with ⟨rfl, rfl, -⟩ | ⟨late, rfl, rfl⟩
    · exact .inl hP
    · refine .inr ⟨hQ u (by simp), front, t, late, rfl, hP, ?_⟩
      exact fun l hl => hQ l (by simp [hl])
  · rintro (hP | ⟨hQ, front, t, late, rfl, hP, ha⟩)
    · exact ⟨turns, u, [], rfl, hP, by simp⟩
    · refine ⟨front, t, late ++ [u], by simp, hP, ?_⟩
      intro l hl
      rcases mem_append.mp hl with hl | hl
      · exact ha l hl
      · rw [mem_singleton.mp hl]
        exact hQ

theorem since_concat {P Q : Turn σ ι ο → Prop} {turns : List (Turn σ ι ο)} {u : Turn σ ι ο} :
    Since P Q (turns ++ [u]) ↔ P u ∨ (Q u ∧ Since P Q turns) :=
  @sinceAt_concat σ ι ο (fun _ => P) Q turns u

theorem trace_induction_along {P : List (Turn σ ι ο) → σ → Prop}
    {ok : List (Turn σ ι ο) → σ → ι → Prop} {s : σ} (hnil : P [] s)
    (hs : ∀ turns s' i, ok turns s' i → P turns s' → P (turns ++ [turn step s' i]) (step s' i).1)
    (ins : List ι)
    (ho : ∀ pre i, pre ++ [i] <+: ins → ok (trace step s pre) (run step s pre) i) :
    P (trace step s ins) (run step s ins) := by
  induction ins using List.reverseRecOn with
  | nil => exact hnil
  | append_singleton xs i ih =>
    rw [trace_concat, run_concat]
    refine hs _ _ i (ho xs i prefix_rfl) (ih ?_)
    exact fun pre j hb => ho pre j (hb.trans (prefix_append xs [i]))

end OpenAirCast.Mealy

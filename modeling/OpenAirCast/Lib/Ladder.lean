/-
Lib.Ladder — a failure counter that forgets after a while of
health.

A rung is how often something failed and since when it has been seen to
work. `Signal` is what can be reported of it: that it works, that it failed,
or that it ended without a failure. Seen to work for `healthy`, the counter
starts over; `Rung.meet` is what a signal at an instant does, and it lets an
end pass without a trace.

`window` is the instant of the oldest sighting since the last failure, or
since the last signal of any other kind. `between_failures` says what the
counter holds at a failure from the first of the two windows, and
`healthyAt_iff` what really was healthy from the second.
-/
import Mathlib.Data.List.Induction
import Mathlib.Order.Lattice

namespace OpenAirCast.Ladder

open List Option

inductive Signal where
  | streaming
  | failure
  | ended
  deriving DecidableEq

structure Rung where
  attempt : Nat := 0
  since : Option Nat := none

variable (healthy cap : Nat)

/-- Whether a window that opened at the instant is old enough. -/
def old (since : Option Nat) (now : Nat) : Bool :=
  since.any (fun since => decide (healthy ≤ now - since))

namespace Rung

variable (now : Nat) (rung : Rung)

/-- Opens the window, or starts over once it is old enough. -/
def seen : Rung :=
  match rung.since with
  | none => { rung with since := some now }
  | some _ => if old healthy rung.since now then { rung with attempt := 0 } else rung

/-- The counter a failure finds. -/
def found : Nat := (rung.seen healthy now).attempt

def fail : Rung := { attempt := min cap (rung.found healthy now + 1) }

def meet : Nat × Signal → Rung
  | (now, .streaming) => rung.seen healthy now
  | (now, .failure) => rung.fail healthy cap now
  | (_, .ended) => rung

end Rung

def climb (rung : Rung) (history : List (Nat × Signal)) : Rung :=
  history.foldl (Rung.meet healthy cap) rung

/-- The oldest sighting that no failure followed and, if `strict`, no end
either. -/
def window (strict : Bool) (history : List (Nat × Signal)) : Option Nat :=
  history.foldl (fun since signal => match signal.2 with
    | .streaming => since.or (some signal.1)
    | .failure => none
    | .ended => if strict then none else since) none

/-- It was seen to work `healthy` ago and nothing else was heard since. -/
def HealthyAt (history : List (Nat × Signal)) (now : Nat) : Prop :=
  ∃ front instant back, history = front ++ (instant, .streaming) :: back ∧
    instant + healthy ≤ now ∧ ∀ signal ∈ back, signal.2 = .streaming

/-- Instants never go back. -/
def Clock (history : List (Nat × Signal)) : Prop := history.Pairwise (fun a b => a.1 ≤ b.1)

/-- A failure that finds the counter at zero comes after real health; any
other leaves one more than `before`, which the failure before it left. -/
structure Counted (history : List (Nat × Signal)) (before now : Nat) : Prop where
  reset : (climb healthy cap {} history).found healthy now = 0 → HealthyAt healthy history now
  counted : (climb healthy cap {} history).found healthy now ≠ 0 →
    (climb healthy cap {} (history ++ [(now, .failure)])).attempt = before + 1

/-- A window that is old enough since the last failure is so since the last
signal of any other kind; and a counter that goes on is below its bound. -/
def unbroken (history : List (Nat × Signal)) (before now : Nat) : Bool :=
  if old healthy (window false history) now then old healthy (window true history) now
  else decide (before < cap)

/-! ## Windows -/

theorem window_concat (strict : Bool) (history : List (Nat × Signal)) (signal : Nat × Signal) :
    window strict (history ++ [signal]) = match signal.2 with
      | .streaming => (window strict history).or (some signal.1)
      | .failure => none
      | .ended => if strict then none else window strict history := by
  simp only [window, foldl_append, foldl_cons, foldl_nil]

theorem window_after_failure (strict : Bool) (front back : List (Nat × Signal)) (instant : Nat) :
    window strict (front ++ (instant, .failure) :: back) = window strict back := by
  simp only [window, foldl_append, foldl_cons]

theorem window_mem (strict : Bool) (history : List (Nat × Signal)) :
    ∀ since, window strict history = some since → ∃ signal ∈ history, signal.1 = since := by
  induction history using List.reverseRecOn with
  | nil =>
    intro since h
    simp [window] at h
  | append_singleton front signal ih =>
    obtain ⟨instant, kind⟩ := signal
    intro since h
    have hf : window strict front = some since →
        ∃ signal ∈ front ++ [(instant, kind)], signal.1 = since := by
      intro hs
      obtain ⟨x, hx, ha⟩ := ih since hs
      exact ⟨x, mem_append_left _ hx, ha⟩
    rw [window_concat] at h
    cases kind with
    | streaming =>
      cases hop : window strict front with
      | none =>
        simp only [hop, none_or, Option.some.injEq] at h
        exact ⟨(instant, .streaming), by simp, h⟩
      | some =>
        simp only [hop, some_or, Option.some.injEq] at h
        exact hf (by rw [hop, h])
    | failure => simp at h
    | ended =>
      cases strict with
      | true => simp at h
      | false => exact hf (by simpa using h)

theorem old_mono {since : Option Nat} {now later : Nat} (h : now ≤ later)
    (hold : old healthy since now = true) : old healthy since later = true := by
  cases since with
  | none => simp [old] at hold
  | some =>
    simp only [old, any_some, decide_eq_true_eq] at hold ⊢
    omega

theorem clock_concat {history : List (Nat × Signal)} {signal : Nat × Signal} :
    Clock (history ++ [signal]) ↔ Clock history ∧ ∀ x ∈ history, x.1 ≤ signal.1 := by
  simp [Clock, pairwise_append]

theorem healthyAt_concat (history : List (Nat × Signal)) (signal : Nat × Signal) (now : Nat) :
    HealthyAt healthy (history ++ [signal]) now ↔
      signal.2 = .streaming ∧ (signal.1 + healthy ≤ now ∨ HealthyAt healthy history now) := by
  constructor
  · rintro ⟨front, instant, back, hs, hold, hall⟩
    rcases eq_nil_or_concat back with rfl | ⟨back, last, rfl⟩
    · obtain ⟨rfl, rfl⟩ : history = front ∧ signal = (instant, .streaming) := by
        simpa using append_inj' hs rfl
      exact ⟨rfl, .inl hold⟩
    · have hc : history ++ [signal] = (front ++ (instant, .streaming) :: back) ++ [last] := by
        simpa using hs
      obtain ⟨hh, hl⟩ := append_inj' hc rfl
      obtain rfl : signal = last := by simpa using hl
      refine ⟨hall signal (by simp), .inr ⟨front, instant, back, hh, hold, ?_⟩⟩
      intro x hx
      exact hall x (by simp [hx])
  · rintro ⟨hk, hold | ⟨front, instant, back, rfl, hold, hall⟩⟩
    · obtain ⟨instant, kind⟩ := signal
      obtain rfl : kind = .streaming := hk
      exact ⟨history, instant, [], rfl, hold, by simp⟩
    · refine ⟨front, instant, back ++ [signal], by simp, hold, ?_⟩
      intro x hx
      rcases mem_append.mp hx with hb | hl
      · exact hall x hb
      · obtain rfl : x = signal := by simpa using hl
        exact hk

theorem healthyAt_iff (history : List (Nat × Signal)) (now : Nat) (hc : Clock history)
    (hn : ∀ x ∈ history, x.1 ≤ now) :
    HealthyAt healthy history now ↔ old healthy (window true history) now = true := by
  induction history using List.reverseRecOn with
  | nil => simp [HealthyAt, window, old]
  | append_singleton front signal ih =>
    obtain ⟨instant, kind⟩ := signal
    obtain ⟨hf, hb⟩ := clock_concat.mp hc
    have hl : instant ≤ now := hn (instant, kind) (by simp)
    have ih := ih hf (fun x hx => hn x (mem_append_left _ hx))
    rw [healthyAt_concat, window_concat, ih]
    cases kind with
    | failure => simp [old]
    | ended => simp [old]
    | streaming =>
      cases hop : window true front with
      | none =>
        simp only [old, any_none, none_or, any_some,
          decide_eq_true_eq, Bool.false_eq_true, or_false, true_and]
        omega
      | some opened =>
        obtain ⟨x, hx, _⟩ := window_mem true front opened hop
        have hopene := hb x hx
        simp only [old, some_or, any_some, decide_eq_true_eq, true_and]
        omega

/-! ## The counter -/

/-- Between two failures the counter is what the first one left, until the
window is old enough. -/
theorem found_between (attempt : Nat) (history : List (Nat × Signal)) (hc : Clock history)
    (hb : ∀ x ∈ history, x.2 ≠ .failure) :
    (climb healthy cap { attempt } history).since = window false history ∧
      ∀ now, (∀ x ∈ history, x.1 ≤ now) →
        (climb healthy cap { attempt } history).found healthy now =
          if old healthy (window false history) now then 0 else attempt := by
  induction history using List.reverseRecOn with
  | nil =>
    refine ⟨rfl, ?_⟩
    intro now _
    simp [climb, window, old, Rung.found, Rung.seen]
  | append_singleton front signal ih =>
    obtain ⟨instant, kind⟩ := signal
    obtain ⟨hr, hbe⟩ := clock_concat.mp hc
    obtain ⟨hs, hf⟩ := ih hr (fun x hx => hb x (mem_append_left _ hx))
    have ht : climb healthy cap { attempt } (front ++ [(instant, kind)]) =
        (climb healthy cap { attempt } front).meet healthy cap (instant, kind) := by
      simp [climb]
    rw [ht, window_concat]
    generalize climb healthy cap { attempt } front = rung at hs hf ⊢
    cases kind with
    | failure => exact absurd rfl (hb (instant, .failure) (by simp))
    | ended =>
      refine ⟨hs, ?_⟩
      intro now hn
      exact hf now (fun x hx => hn x (mem_append_left _ hx))
    | streaming =>
      obtain ⟨count, since⟩ := rung
      obtain rfl : since = window false front := hs
      have ha : ∀ now, (∀ x ∈ front ++ [(instant, Signal.streaming)], x.1 ≤ now) →
          instant ≤ now ∧ ∀ x ∈ front, x.1 ≤ now := by
        intro now hn
        exact ⟨hn (instant, .streaming) (by simp), fun x hx => hn x (mem_append_left _ hx)⟩
      cases hop : window false front with
      | none =>
        have hcn : count = attempt := by
          simpa [hop, Rung.found, Rung.seen, old] using hf instant hbe
        subst hcn
        refine ⟨rfl, ?_⟩
        intro now _
        exact apply_ite Rung.attempt _ _ _
      | some opened =>
        simp only [hop, Rung.found, Rung.seen] at hf
        simp only [Rung.meet, Rung.found, Rung.seen, some_or]
        refine ⟨by split <;> rfl, ?_⟩
        intro now hn
        obtain ⟨hat, hall⟩ := ha now hn
        have hh := hf now hall
        by_cases he : old healthy (some opened) instant = true
        · have hl := old_mono healthy hat he
          simp [he, hl]
        · rw [if_neg he]
          exact hh

/-- What the counter holds when a failure is counted, by the failure before
it and the window since. -/
theorem found_after_failure (front back : List (Nat × Signal)) (instant now : Nat)
    (hc : Clock (front ++ (instant, .failure) :: back))
    (hn : ∀ x ∈ front ++ (instant, .failure) :: back, x.1 ≤ now)
    (hb : ∀ x ∈ back, x.2 ≠ .failure) :
    (climb healthy cap {} (front ++ (instant, .failure) :: back)).found healthy now =
      if old healthy (window false (front ++ (instant, .failure) :: back)) now then 0
      else (climb healthy cap {} (front ++ [(instant, .failure)])).attempt := by
  have hbc : Clock back := (pairwise_cons.mp (pairwise_append.mp hc).2.1).2
  have hf : climb healthy cap {} (front ++ [(instant, .failure)]) =
      { attempt := (climb healthy cap {} (front ++ [(instant, .failure)])).attempt } := by
    simp [climb, Rung.meet, Rung.fail]
  have ht : climb healthy cap {} (front ++ (instant, .failure) :: back) =
      climb healthy cap (climb healthy cap {} (front ++ [(instant, .failure)])) back := by
    simp [climb]
  rw [ht, hf, window_after_failure]
  refine (found_between healthy cap _ back hbc hb).2 now ?_
  intro x hx
  exact hn x (by simp [hx])

/-- Before the first failure there is nothing to start over from. -/
theorem first_failure (hp : 0 < cap) (front : List (Nat × Signal)) (now : Nat)
    (hc : Clock front) (hn : ∀ x ∈ front, x.1 ≤ now) (hs : ∀ x ∈ front, x.2 ≠ .failure) :
    (climb healthy cap {} (front ++ [(now, .failure)])).attempt = 1 := by
  have hf := (found_between healthy cap 0 front hc hs).2 now hn
  rw [ite_self] at hf
  simp only [climb, foldl_append, foldl_cons, foldl_nil, Rung.meet, Rung.fail] at hf ⊢
  omega

theorem one_le_attempt (hc : 0 < cap) (front : List (Nat × Signal)) (instant : Nat) :
    0 < (climb healthy cap {} (front ++ [(instant, .failure)])).attempt := by
  simp only [climb, foldl_append, foldl_cons, foldl_nil, Rung.meet, Rung.fail]
  omega

/-- The failure is counted as it should be exactly when nothing has cut the
window. -/
theorem counted_iff (hp : 0 < cap) (front back : List (Nat × Signal)) (instant now : Nat)
    (hc : Clock (front ++ (instant, .failure) :: back))
    (hn : ∀ x ∈ front ++ (instant, .failure) :: back, x.1 ≤ now)
    (hb : ∀ x ∈ back, x.2 ≠ .failure) :
    Counted healthy cap (front ++ (instant, .failure) :: back)
        (climb healthy cap {} (front ++ [(instant, .failure)])).attempt now ↔
      unbroken healthy cap (front ++ (instant, .failure) :: back)
        (climb healthy cap {} (front ++ [(instant, .failure)])).attempt now = true := by
  have hf := found_after_failure healthy cap front back instant now hc hn hb
  have hh := healthyAt_iff healthy _ now hc hn
  have hpos := one_le_attempt healthy cap hp front instant
  generalize (climb healthy cap {} (front ++ [(instant, .failure)])).attempt = before at *
  generalize front ++ (instant, .failure) :: back = history at *
  have ha : (climb healthy cap {} (history ++ [(now, .failure)])).attempt =
      min cap ((climb healthy cap {} history).found healthy now + 1) := by
    simp only [climb, foldl_append, foldl_cons, foldl_nil, Rung.meet, Rung.fail]
  unfold unbroken
  cases hold : old healthy (window false history) now with
  | true =>
    rw [hold, if_pos rfl] at hf
    rw [if_pos rfl, ← hh]
    exact ⟨fun h => h.reset hf, fun h => ⟨fun _ => h, fun hne => absurd hf hne⟩⟩
  | false =>
    rw [hold, if_neg Bool.false_ne_true] at hf
    rw [if_neg Bool.false_ne_true, decide_eq_true_eq]
    constructor
    · intro h
      have ho := h.counted (by omega)
      omega
    · intro h
      refine ⟨by omega, ?_⟩
      intro _
      omega

/-! ## Signals of one instant -/

theorem old_now (hh : 0 < healthy) (now : Nat) : old healthy (some now) now = false := by
  simp only [old, any_some, decide_eq_false_iff_not, Nat.sub_self]
  omega

theorem climb_cons (rung : Rung) (signal : Nat × Signal) (rest : List (Nat × Signal)) :
    climb healthy cap rung (signal :: rest) =
      climb healthy cap (rung.meet healthy cap signal) rest := rfl

theorem old_seen (hh : 0 < healthy) (now : Nat) (rung : Rung) :
    old healthy (rung.seen healthy now).since now = old healthy rung.since now := by
  obtain ⟨_, since⟩ := rung
  cases since with
  | none => exact old_now healthy hh now
  | some =>
    simp only [Rung.seen]
    split <;> rfl

theorem attempt_seen (now : Nat) (rung : Rung) :
    (rung.seen healthy now).attempt = if old healthy rung.since now then 0 else rung.attempt := by
  obtain ⟨_, since⟩ := rung
  cases since with
  | none => rfl
  | some => exact apply_ite Rung.attempt _ _ _

/-- Without a failure the counter stays, or starts over. -/
theorem climb_without_failure (hh : 0 < healthy) (now : Nat) :
    ∀ (signals : List Signal) (rung : Rung), .failure ∉ signals →
      (climb healthy cap rung (signals.map (fun signal => (now, signal)))).attempt ≤ rung.attempt ∧
      (old healthy rung.since now = false →
        (climb healthy cap rung (signals.map (fun signal => (now, signal)))).attempt = rung.attempt)
  | [], rung, _ => ⟨Nat.le_refl _, fun _ => rfl⟩
  | .failure :: rest, rung, h => absurd mem_cons_self h
  | .ended :: rest, rung, h =>
    climb_without_failure hh now rest rung (fun hmem => h (mem_cons_of_mem _ hmem))
  | .streaming :: rest, rung, h => by
      obtain ⟨hle, hs⟩ := climb_without_failure hh now rest (rung.seen healthy now)
        (fun hmem => h (mem_cons_of_mem _ hmem))
      rw [old_seen healthy hh, attempt_seen] at hs
      rw [attempt_seen] at hle
      rw [map_cons, climb_cons]
      refine ⟨hle.trans (by split <;> omega), fun hy => ?_⟩
      have hk := hs hy
      rw [hy, if_neg Bool.false_ne_true] at hk
      exact hk

/-- Failures of one instant add up. -/
theorem climb_failures (hh : 0 < healthy) (now : Nat) :
    ∀ (signals : List Signal) (rung : Rung), .failure ∈ signals →
      (climb healthy cap rung (signals.map (fun signal => (now, signal)))).attempt
        = min cap ((if old healthy rung.since now then 0 else rung.attempt)
          + signals.count .failure)
  | .ended :: rest, rung, h => by
      have hr : .failure ∈ rest := by simpa using h
      have hl := climb_failures hh now rest rung hr
      rw [count_cons_of_ne (by decide)]
      exact hl
  | .streaming :: rest, rung, h => by
      have hr : .failure ∈ rest := by simpa using h
      have hl := climb_failures hh now rest (rung.seen healthy now) hr
      rw [old_seen healthy hh, attempt_seen] at hl
      rw [count_cons_of_ne (by decide), map_cons, climb_cons]
      refine hl.trans ?_
      split <;> rfl
  | .failure :: rest, rung, _ => by
      have hf : (rung.fail healthy cap now).attempt
          = min cap ((if old healthy rung.since now then 0 else rung.attempt) + 1) := by
        unfold Rung.fail Rung.found
        rw [attempt_seen]
      have hy : old healthy (rung.fail healthy cap now).since now = false := rfl
      rw [count_cons_self, map_cons, climb_cons]
      show (climb healthy cap (rung.fail healthy cap now) _).attempt = _
      by_cases hr : .failure ∈ rest
      · rw [climb_failures hh now rest _ hr, hy, if_neg Bool.false_ne_true, hf]
        omega
      · rw [(climb_without_failure healthy cap hh now rest _ hr).2 hy, hf, count_eq_zero.mpr hr]

/-- The counter is no higher than before exactly when nothing failed, when
it was at its bound, or when it starts over far enough below. -/
theorem climb_le_iff (hh : 0 < healthy) (now : Nat) (signals : List Signal) (rung : Rung) :
    (climb healthy cap rung (signals.map (fun signal => (now, signal)))).attempt ≤ rung.attempt ↔
      signals.count .failure = 0 ∨ cap ≤ rung.attempt ∨
        (old healthy rung.since now = true ∧ signals.count .failure ≤ rung.attempt) := by
  by_cases hmem : .failure ∈ signals
  · have hpos := count_pos_iff.mpr hmem
    rw [climb_failures healthy cap hh now signals rung hmem]
    cases old healthy rung.since now with
    | true => simp; omega
    | false => simp; omega
  · exact iff_of_true (climb_without_failure healthy cap hh now signals rung hmem).1
      (.inl (count_eq_zero.mpr hmem))

end OpenAirCast.Ladder

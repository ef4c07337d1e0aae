/-
Lib.Endless — endless runs of a machine, and what must happen in
them.

`stateAt` is the state after the first `n` of infinitely many inputs. A
liveness argument shows that something holds until an event happens
(`kept_or_happened`), that a process is not waiting as long as it holds, and
that the process waits again and again: then the event happens (`happens`), and
there is a first time that it does (`first`).
-/
import OpenAirCast.Lib.Mealy
import Mathlib.Order.Filter.AtTopBot.Basic

namespace OpenAirCast.Mealy

open Filter

section

variable {σ ι ο : Type} (step : σ → ι → σ × ο) (s : σ) (inputs : Nat → ι)

/-- The state after the first `n` inputs. -/
def stateAt : Nat → σ
  | 0 => s
  | n + 1 => (step (stateAt n) (inputs n)).1

/-- The turn that takes input `n`. -/
def turnAt (n : Nat) : Turn σ ι ο := turn step (stateAt step s inputs n) (inputs n)

variable {step s inputs}

theorem stateAt_invariant {Inv : σ → Prop} (hs : ∀ s i, Inv s → Inv (step s i).1) (h : Inv s) :
    ∀ n, Inv (stateAt step s inputs n)
  | 0 => h
  | n + 1 => hs _ _ (stateAt_invariant hs h n)

end

variable {P Q Waiting : Nat → Prop}

/-- What holds until an event still holds, or the event has happened. -/
theorem kept_or_happened (hk : ∀ n, P n → ¬ Q n → P (n + 1)) {m j : Nat} (h : P m)
    (hle : m ≤ j) : (∃ l, m ≤ l ∧ l < j ∧ Q l) ∨ P j := by
  induction j, hle using Nat.le_induction with
  | base => exact .inr h
  | succ j _ ih =>
    rcases ih with ⟨l, hm, hl, hQ⟩ | hP
    · exact .inl ⟨l, hm, Nat.lt_succ_of_lt hl, hQ⟩
    · by_cases hQ : Q j
      · exact .inl ⟨j, ‹m ≤ j›, Nat.lt_succ_self j, hQ⟩
      · exact .inr (hk j hP hQ)

/-- A process that waits again and again, but not while something holds that
holds until an event, lets the event happen. -/
theorem happens (hk : ∀ n, P n → ¬ Q n → P (n + 1)) (hb : ∀ n, P n → ¬ Waiting n)
    (hw : ∃ᶠ n in atTop, Waiting n) {m : Nat} (h : P m) : ∃ l, m ≤ l ∧ Q l := by
  obtain ⟨j, hj, hwaiti⟩ := frequently_atTop.mp hw m
  rcases kept_or_happened hk h hj with ⟨l, hm, -, hQ⟩ | hP
  · exact ⟨l, hm, hQ⟩
  · exact absurd hwaiti (hb j hP)

/-- There is a first time that the event happens, and all holds until then. -/
theorem first (hk : ∀ n, P n → ¬ Q n → P (n + 1)) {m : Nat} (h : P m) (hQ : ∃ l, m ≤ l ∧ Q l) :
    ∃ l, m ≤ l ∧ Q l ∧ P l ∧ ∀ i, m ≤ i → i < l → P i ∧ ¬ Q i := by
  classical
  have hn : ∀ l, m ≤ l → l < Nat.find hQ → ¬ Q l := by
    intro l hml hl hQl
    exact Nat.find_min hQ hl ⟨hml, hQl⟩
  have hall : ∀ i, m ≤ i → i ≤ Nat.find hQ → P i := by
    intro i hm hi
    rcases kept_or_happened hk h hm with ⟨l, hml, hli, hQl⟩ | hP
    · exact absurd hQl (hn l hml (hli.trans_le hi))
    · exact hP
  refine ⟨Nat.find hQ, (Nat.find_spec hQ).1, (Nat.find_spec hQ).2, ?_, fun i hm hi => ?_⟩
  · exact hall _ (Nat.find_spec hQ).1 (Nat.le_refl _)
  · exact ⟨hall i hm hi.le, hn i hm hi⟩

/-- The two together. -/
theorem happens_first (hk : ∀ n, P n → ¬ Q n → P (n + 1)) (hb : ∀ n, P n → ¬ Waiting n)
    (hw : ∃ᶠ n in atTop, Waiting n) {m : Nat} (h : P m) : ∃ l, m ≤ l ∧ Q l ∧ P l := by
  obtain ⟨l, hm, hQ, hP, -⟩ := first hk h (happens hk hb hw h)
  exact ⟨l, hm, hQ, hP⟩

end OpenAirCast.Mealy

/-
Lib.Exits — methods that leave early.

A method works on a state and returns it with a result. `exit` leaves with
an error after `abort` has changed the state; `attempt` goes on with what
another call returned, `required` with a value that has to be there and
`refuseIf` where a condition does not hold, and each of them exits
otherwise.

The `of_ok` lemmas read a success back: every attempt on the way to it
succeeded. `Aborts` says what every error leaves, the `kept` lemmas what
every outcome keeps. Their proofs follow the method's text.
-/
import Mathlib.Tactic.Common

namespace OpenAirCast

variable {σ α β δ ε : Type} (abort : σ → σ)

variable {refused : Prop}

def exit (s : σ) (error : ε) : σ × Except ε α := (abort s, .error error)

def attempt (s : σ) (result : Except δ α) (describe : δ → ε) (next : α → σ × Except ε β) :
    σ × Except ε β :=
  match result with
  | .ok a => next a
  | .error error => exit abort s (describe error)

/-- `ok_or_else`. -/
def required (s : σ) (value : Option α) (error : ε) (next : α → σ × Except ε β) : σ × Except ε β :=
  match value with
  | some a => next a
  | none => exit abort s error

def refuseIf (s : σ) (refused : Prop) [Decidable refused] (error : ε) (next : σ × Except ε β) :
    σ × Except ε β :=
  if refused then exit abort s error else next

variable {abort} {s : σ} {error : ε} {b : β}

/-! ## Reading a success back -/

variable {a : α}

theorem exit_ne_ok : (exit abort s error : σ × Except ε α).2 ≠ .ok a := by
  simp [exit]

variable {describe : δ → ε} {res : Except δ α}

theorem attempt_of_ok {next : α → σ × Except ε β}
    (h : (attempt abort s res describe next).2 = .ok b) :
    ∃ a, res = .ok a ∧ attempt abort s res describe next = next a ∧ (next a).2 = .ok b := by
  cases res with
  | ok a => exact ⟨a, rfl, rfl, h⟩
  | error => exact absurd h exit_ne_ok

variable {val : Option α}

theorem required_of_ok {next : α → σ × Except ε β}
    (h : (required abort s val error next).2 = .ok b) :
    ∃ a, val = some a ∧ required abort s val error next = next a ∧ (next a).2 = .ok b := by
  cases val with
  | some a => exact ⟨a, rfl, rfl, h⟩
  | none => exact absurd h exit_ne_ok

theorem refuseIf_of_ok [Decidable refused] {next : σ × Except ε β}
    (h : (refuseIf abort s refused error next).2 = .ok b) :
    ¬ refused ∧ refuseIf abort s refused error next = next ∧ next.2 = .ok b := by
  by_cases hr : refused
  · rw [refuseIf, if_pos hr] at h
    exact absurd h exit_ne_ok
  · rw [refuseIf, if_neg hr] at h ⊢
    exact ⟨hr, rfl, h⟩

/-! ## Going on -/

theorem attempt_ok {next : α → σ × Except ε β}
    (h : res = .ok a) : attempt abort s res describe next = next a := by
  rw [h]
  rfl

theorem required_some {next : α → σ × Except ε β}
    (h : val = some a) : required abort s val error next = next a := by
  rw [h]
  rfl

theorem refuseIf_neg [Decidable refused] {next : σ × Except ε β}
    (h : ¬ refused) : refuseIf abort s refused error next = next :=
  if_neg h

/-! ## Every error is an exit -/

/-- An error leaves a state on which `P` holds. -/
def Aborts (P : σ → Prop) (outcome : σ × Except ε β) : Prop :=
  ∀ error, outcome.2 = .error error → P outcome.1

section Aborts

variable {P : σ → Prop}

theorem aborts_ok (s : σ) (b : β) : Aborts P ((s, .ok b) : σ × Except ε β) := by
  intro error h
  cases h

variable (habort : P (abort s))
include habort

theorem aborts_exit (error : ε) : Aborts P (exit abort s error : σ × Except ε β) :=
  fun _ _ => habort

theorem aborts_attempt {next : α → σ × Except ε β}
    (h : ∀ a, Aborts P (next a)) : Aborts P (attempt abort s res describe next) := by
  cases res with
  | ok a => exact h a
  | error => exact aborts_exit habort _

theorem aborts_required {next : α → σ × Except ε β}
    (h : ∀ a, Aborts P (next a)) : Aborts P (required abort s val error next) := by
  cases val with
  | some a => exact h a
  | none => exact aborts_exit habort _

theorem aborts_refuseIf [Decidable refused] {next : σ × Except ε β}
    (h : Aborts P next) : Aborts P (refuseIf abort s refused error next) := by
  unfold refuseIf
  split
  · exact aborts_exit habort _
  · exact h

end Aborts

/-! ## What every outcome keeps -/

section Kept

variable {P : σ → Prop} (habort : P (abort s))
include habort

theorem kept_attempt {next : α → σ × Except ε β}
    (h : ∀ a, P (next a).1) : P (attempt abort s res describe next).1 := by
  cases res with
  | ok a => exact h a
  | error => exact habort

theorem kept_required {next : α → σ × Except ε β}
    (h : ∀ a, P (next a).1) : P (required abort s val error next).1 := by
  cases val with
  | some a => exact h a
  | none => exact habort

theorem kept_refuseIf [Decidable refused] {next : σ × Except ε β}
    (h : P next.1) : P (refuseIf abort s refused error next).1 := by
  unfold refuseIf
  split
  · exact habort
  · exact h

end Kept

end OpenAirCast

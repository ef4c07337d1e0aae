/-
Lib.Ring — a ring that remembers the last values of a sequence.

Value number `j` is put at place `j % size`. `Holds` says that every place
shows the last value that was put there; `Holds.push` is the step. A place
whose value is one of the last `size` is the place of that value alone.
-/
import Mathlib.Logic.Function.Basic
import Mathlib.Tactic.SplitIfs

namespace OpenAirCast.Ring

variable {α : Type} {size : Nat}

/-- Every place shows its last value, and none that is too old. -/
def Holds (ring : Fin size → Option α) (values : List α) : Prop :=
  ∀ i a, ring i = some a ↔ ∃ j, values[j]? = some a ∧ j % size = i ∧ values.length ≤ j + size

theorem holds_nil : Holds (fun _ : Fin size => (none : Option α)) [] := by
  intro i a
  simp

/-- A place comes round again only after `size` values. -/
theorem mod_ne_of_recent {n j : Nat} (hlt : j < n) (hr : n < j + size) : j % size ≠ n % size := by
  intro hm
  have hd : size ∣ n - j := Nat.dvd_of_mod_eq_zero (Nat.sub_mod_eq_zero_of_mod_eq hm.symm)
  have hle := Nat.le_of_dvd (by omega) hd
  omega

theorem Holds.push {ring : Fin size → Option α} {vals : List α} (h : Holds ring vals) (a : α)
    {i : Fin size} (hi : (i : Nat) = vals.length % size) :
    Holds (Function.update ring i (some a)) (vals ++ [a]) := by
  have hs : 0 < size := Nat.lt_of_le_of_lt (Nat.zero_le _) i.isLt
  intro k b
  rw [Function.update_apply, List.length_append, List.length_singleton]
  split
  · rename_i hk
    constructor
    · intro hb
      cases hb
      refine ⟨vals.length, List.getElem?_concat_length, ?_, by omega⟩
      rw [hk, hi]
    · rintro ⟨j, hj, hm, hr⟩
      by_cases hl : j = vals.length
      · rw [hl, List.getElem?_concat_length] at hj
        exact hj
      · have hlt : j < (vals ++ [a]).length := (List.getElem?_eq_some_iff.mp hj).1
        rw [List.length_append, List.length_singleton] at hlt
        have hne : j % size ≠ vals.length % size := mod_ne_of_recent (by omega) (by omega)
        exact absurd (by rw [hm, hk, hi]) hne
  · rename_i hk
    rw [h k b]
    constructor
    · rintro ⟨j, hj, hm, hr⟩
      have hlt : j < vals.length := (List.getElem?_eq_some_iff.mp hj).1
      refine ⟨j, by rw [List.getElem?_append_left hlt]; exact hj, hm, ?_⟩
      rcases Nat.lt_or_ge vals.length (j + size) with _ | _
      · omega
      · refine absurd ?_ hk
        have he' : vals.length = j + size := by omega
        apply Fin.ext
        rw [hi, he', Nat.add_mod_right, hm]
    · rintro ⟨j, hj, hm, _⟩
      have hlt : j < (vals ++ [a]).length := (List.getElem?_eq_some_iff.mp hj).1
      rw [List.length_append, List.length_singleton] at hlt
      have hne : j ≠ vals.length := by
        rintro rfl
        exact hk (Fin.ext (by rw [hi, hm]))
      rw [List.getElem?_append_left (by omega)] at hj
      exact ⟨j, hj, hm, by omega⟩

end OpenAirCast.Ring

/-
Lib.Pledge — a setting that takes effect with a later request.

Requests go out under numbers that do not go back, each with the setting of
its day. A pledge changes the setting and owes a number of its own; the next
request is minted for it and leaves a mark, and the pledge is kept once a
number from the mark on is live. `Move` is what the keeper of such a book may
do, with what is seen of it. A number is seen live when its report has been
dealt with.

`Honest` is what has to hold of everything seen: a pledge is kept by the time
a request made since is live, and no pledge is kept twice. `Moves.honest`
proves it of every sequence of moves, and `Inv.built` that a pledge is kept
only when what is live was built from the setting of the book.
-/
import OpenAirCast.Lib.Mealy
import Mathlib.Order.Lattice

namespace OpenAirCast.Pledge

open List
open Mealy (concat_eq_append_cons)

inductive Sight (P : Type) where
  | pledged
  | carried (number : Nat) (setting : P)
  | live (number : Nat)
  | kept
  deriving DecidableEq

structure Book (P : Type) where
  counter : Nat
  setting : P
  /-- The number a pledge waits for. -/
  mark : Option Nat := none
  /-- A pledge was made and no number minted for it yet. -/
  owes : Bool := false

variable {P : Type}

/-- One move, and what is seen of it. -/
inductive Move : Book P → Option (Sight P) → Book P → Prop
  | pledge (b : Book P) (setting : P) (unmarked : b.mark = none) :
      Move b (some .pledged) { b with setting, owes := true }
  | mint (b : Book P) (number : Nat) (owes : b.owes = true) (new : b.counter < number) :
      Move b (some (.carried number b.setting))
        { b with counter := number, mark := some number, owes := false }
  | carry (b : Book P) (number : Nat) (free : b.owes = false) (later : b.counter ≤ number) :
      Move b (some (.carried number b.setting)) { b with counter := number }
  | raise (b : Book P) (number : Nat) (later : b.counter ≤ number) :
      Move b none { b with counter := number }
  | keep (b : Book P) (mark : Nat) (marked : b.mark = some mark) :
      Move b (some .kept) { b with mark := none }
  | report (b : Book P) (number : Nat) (early : ∀ mark, b.mark = some mark → number < mark) :
      Move b (some (.live number)) b

/-- Several moves, and all that is seen of them. -/
inductive Moves : Book P → List (Sight P) → Book P → Prop
  | refl (b : Book P) : Moves b [] b
  | step {a b c : Book P} {seen : List (Sight P)} {sight : Option (Sight P)}
      (before : Moves a seen b) (move : Move b sight c) : Moves a (seen ++ sight.toList) c

theorem Move.moves {b c : Book P} {sight : Option (Sight P)} (h : Move b sight c) :
    Moves b sight.toList c :=
  (Moves.refl b).step h

theorem Moves.trans {a b c : Book P} {seen more : List (Sight P)} (ha : Moves a seen b)
    (hb : Moves b more c) : Moves a (seen ++ more) c := by
  induction hb with
  | refl => rwa [append_nil]
  | step _ move ih =>
    rw [← append_assoc]
    exact ih.step move

variable (seen : List (Sight P))

/-- What was built under the number: the setting of the newest request that
is not numbered above it. -/
def built (number : Nat) : Option P :=
  seen.reverse.findSome? (fun sight => match sight with
    | .carried carried setting => if carried ≤ number then some setting else none
    | .pledged | .live _ | .kept => none)

/-- Pledges are kept in time, and each once. -/
structure Honest (seen : List (Sight P)) : Prop where
  /-- A pledge is kept by the time a request made since is live. -/
  closed : ∀ front mid number back, seen = front ++ .pledged :: mid ++ .live number :: back →
    (∃ setting, .carried number setting ∈ mid) → .kept ∈ mid
  /-- What is kept is a pledge, and not one that was kept before. -/
  once : ∀ front back, seen = front ++ .kept :: back →
    ∃ older mid, front = older ++ .pledged :: mid ∧ .kept ∉ mid

/-- What the book says of everything seen so far. -/
structure Inv (seen : List (Sight P)) (b : Book P) : Prop where
  apart : b.owes = true → b.mark = none
  marked : ∀ mark, b.mark = some mark → mark ≤ b.counter
  bounded : ∀ number setting, .carried number setting ∈ seen → number ≤ b.counter
  current : ∀ front mid, seen = front ++ mid → .pledged ∉ mid →
    ∀ number setting, .carried number setting ∈ mid → setting = b.setting
  /-- A pledge that is not kept waits, and what went out since is numbered
  from the mark on. -/
  waits : ∀ front mid, seen = front ++ .pledged :: mid → .kept ∈ mid ∨
    ((b.owes = true ∨ b.mark ≠ none) ∧ ∀ number setting, .carried number setting ∈ mid →
      ∃ mark, b.mark = some mark ∧ mark ≤ number)
  waiting : b.owes = true ∨ b.mark ≠ none →
    ∃ front mid, seen = front ++ .pledged :: mid ∧ .kept ∉ mid
  built : ∀ mark number, b.mark = some mark → mark ≤ number → built seen number = some b.setting

/-! ## One sight more -/

theorem built_carried (carried num : Nat) (setting : P) :
    built (seen ++ [.carried carried setting]) num =
      if carried ≤ num then some setting else built seen num := by
  simp only [built, reverse_append, reverse_singleton, singleton_append, findSome?_cons]
  split
  · rename_i hf
    split at hf
    · rw [if_pos ‹_›, hf]
    · cases hf
  · rename_i hn
    split at hn
    · cases hn
    · rw [if_neg ‹_›]

theorem built_other {sight : Sight P} (num : Nat)
    (h : ∀ num setting, sight ≠ .carried num setting) :
    built (seen ++ [sight]) num = built seen num := by
  cases sight with
  | carried carried setting => exact absurd rfl (h carried setting)
  | pledged | live | kept => simp [built]

theorem concat_eq_append {seen front mid : List (Sight P)} {last : Sight P}
    (h : seen ++ [last] = front ++ mid) :
    mid = [] ∨ ∃ rest, mid = rest ++ [last] ∧ seen = front ++ rest := by
  rcases eq_nil_or_concat mid with rfl | ⟨rest, final, rfl⟩
  · exact .inl rfl
  · have hc : seen ++ [last] = (front ++ rest) ++ [final] := by simpa using h
    obtain ⟨hs, hl⟩ := append_inj' hc rfl
    obtain rfl : last = final := by simpa using hl
    exact .inr ⟨rest, by simp, hs⟩

/-! ## One move -/

variable {seen : List (Sight P)} {b : Book P}

section

variable (h : Inv seen b)
include h

theorem Inv.pledge (setting : P) (hu : b.mark = none) :
    Inv (seen ++ [.pledged]) { b with setting, owes := true } where
  apart _ := hu
  marked := h.marked
  bounded num setting hmem := h.bounded num setting (by simpa using hmem)
  current front mid hs hf num setting hmem := by
    rcases concat_eq_append hs with rfl | ⟨rest, rfl, -⟩
    · cases hmem
    · exact absurd (by simp) hf
  waits front mid hs := by
    rcases concat_eq_append_cons hs with ⟨-, -, rfl⟩ | ⟨rest, rfl, hn⟩
    · exact .inr ⟨.inl rfl, fun _ _ hmem => by cases hmem⟩
    · rcases h.waits front rest hn with hk | ⟨-, hl⟩
      · exact .inl (mem_append_left _ hk)
      · refine .inr ⟨.inl rfl, fun num setting hmem => ?_⟩
        exact hl num setting (by simpa using hmem)
  waiting _ := ⟨seen, [], rfl, by simp⟩
  built mark num hm := by
    rw [hu] at hm
    cases hm

variable (num : Nat)

/-- A request is numbered no lower than the ones before, and from the mark
on. -/
theorem Inv.request (mark : Option Nat)
    (ht : b.counter ≤ num) (hr : mark = b.mark ∧ b.owes = false ∨
      mark = some num ∧ b.owes = true ∧ b.counter < num) :
    Inv (seen ++ [.carried num b.setting]) { b with counter := num, mark, owes := false } where
  apart ho := by cases ho
  marked m hm := by
    rcases hr with ⟨rfl, -⟩ | ⟨rfl, -⟩
    · exact (h.marked m hm).trans ht
    · cases hm
      exact le_refl _
  bounded carried setting hmem := by
    rcases mem_append.mp hmem with hb | hw
    · exact (h.bounded carried setting hb).trans ht
    · obtain ⟨rfl, -⟩ : carried = num ∧ setting = b.setting := by simpa using hw
      exact le_refl _
  current front mid hsp hf carried setting hmem := by
    rcases concat_eq_append hsp with rfl | ⟨rest, rfl, hs⟩
    · cases hmem
    · rcases mem_append.mp hmem with hb | hw
      · exact h.current front rest hs (fun hp => hf (mem_append_left _ hp)) carried setting hb
      · obtain ⟨-, rfl⟩ : carried = num ∧ setting = b.setting := by simpa using hw
        rfl
  waits front mid hsp := by
    rcases concat_eq_append_cons hsp with ⟨-, hl, -⟩ | ⟨rest, rfl, hs⟩
    · cases hl
    · rcases h.waits front rest hs with hk | ⟨hop, hu⟩
      · exact .inl (mem_append_left _ hk)
      · refine .inr ?_
        rcases hr with ⟨rfl, hf⟩ | ⟨rfl, ho, _⟩
        · have ha : b.mark ≠ none := hop.resolve_left (by simp [hf])
          obtain ⟨m, hm⟩ := Option.ne_none_iff_exists'.mp ha
          refine ⟨.inr ha, fun carried setting hmem => ?_⟩
          rcases mem_append.mp hmem with hb | hl
          · exact hu carried setting hb
          · obtain ⟨rfl, -⟩ : carried = num ∧ setting = b.setting := by simpa using hl
            exact ⟨m, hm, (h.marked m hm).trans ht⟩
        · refine ⟨.inr (by simp), fun carried setting hmem => ?_⟩
          rcases mem_append.mp hmem with hb | hl
          · obtain ⟨m, hm, -⟩ := hu carried setting hb
            rw [h.apart ho] at hm
            cases hm
          · obtain ⟨rfl, -⟩ : carried = num ∧ setting = b.setting := by simpa using hl
            exact ⟨carried, rfl, le_refl _⟩
  waiting hop := by
    have hopene : b.owes = true ∨ b.mark ≠ none := by
      rcases hr with ⟨rfl, -⟩ | ⟨-, ho, -⟩
      · exact .inr (hop.resolve_left (by simp))
      · exact .inl ho
    obtain ⟨front, mid, hs, hk⟩ := h.waiting hopene
    exact ⟨front, mid ++ [.carried num b.setting], by simp [hs], by simpa using hk⟩
  built m n hm hn := by
    rw [built_carried]
    split
    · rfl
    · rcases hr with ⟨rfl, -⟩ | ⟨rfl, -⟩
      · exact h.built m n hm hn
      · cases hm
        exact absurd hn ‹_›

theorem Inv.raise (hl : b.counter ≤ num) : Inv seen { b with counter := num } where
  apart := h.apart
  marked mark hm := (h.marked mark hm).trans hl
  bounded carried setting hmem := (h.bounded carried setting hmem).trans hl
  current := h.current
  waits := h.waits
  waiting := h.waiting
  built := h.built

theorem Inv.keep (mark : Nat) (hr : b.mark = some mark) :
    Inv (seen ++ [.kept]) { b with mark := none } where
  apart _ := rfl
  marked m hm := by cases hm
  bounded number setting hmem := h.bounded number setting (by simpa using hmem)
  current front mid hs hf number setting hmem := by
    rcases concat_eq_append hs with rfl | ⟨rest, rfl, hn⟩
    · cases hmem
    · exact h.current front rest hn (fun hp => hf (mem_append_left _ hp)) number
        setting (by simpa using hmem)
  waits front mid hs := by
    rcases concat_eq_append_cons hs with ⟨-, hl, -⟩ | ⟨_, rfl, -⟩
    · cases hl
    · exact .inl (by simp)
  waiting hop := by
    have ho : b.owes = true := hop.resolve_right (by simp)
    rw [h.apart ho] at hr
    cases hr
  built m n hm := by cases hm

theorem Inv.report : Inv (seen ++ [.live num]) b where
  apart := h.apart
  marked := h.marked
  bounded carried setting hmem := h.bounded carried setting (by simpa using hmem)
  current front mid hl hf carried setting hmem := by
    rcases concat_eq_append hl with rfl | ⟨rest, rfl, hs⟩
    · cases hmem
    · exact h.current front rest hs (fun hp => hf (mem_append_left _ hp)) carried
        setting (by simpa using hmem)
  waits front mid hl := by
    rcases concat_eq_append_cons hl with ⟨-, hls, -⟩ | ⟨rest, rfl, hs⟩
    · cases hls
    · rcases h.waits front rest hs with hk | ⟨hop, hm⟩
      · exact .inl (mem_append_left _ hk)
      · refine .inr ⟨hop, fun carried setting hmem => ?_⟩
        exact hm carried setting (by simpa using hmem)
  waiting hop := by
    obtain ⟨front, mid, hs, hk⟩ := h.waiting hop
    exact ⟨front, mid ++ [.live num], by simp [hs], by simpa using hk⟩
  built mark n hr hn := by
    rw [built_other _ _ (fun _ _ hsm => by cases hsm)]
    exact h.built mark n hr hn

variable {sight : Option (Sight P)} {c : Book P}

theorem Move.inv (move : Move b sight c) : Inv (seen ++ sight.toList) c := by
  cases move with
  | pledge setting unmarked => exact h.pledge setting unmarked
  | mint num owes new => exact h.request num _ (Nat.le_of_lt new) (.inr ⟨rfl, owes, new⟩)
  | carry num free later =>
    have hr := h.request num b.mark later (.inl ⟨rfl, free⟩)
    rwa [← free] at hr
  | raise num later => simpa using h.raise num later
  | keep mark marked => exact h.keep mark marked
  | report num => exact h.report num

theorem Move.honest (hn : Honest seen) (move : Move b sight c) : Honest (seen ++ sight.toList) := by
  have hc : ∀ (last : Sight P), (∀ num, last ≠ .live num) →
      ∀ front mid num back, seen ++ [last] = front ++ .pledged :: mid ++ .live num :: back →
        (∃ setting, .carried num setting ∈ mid) → .kept ∈ mid := by
    intro last ht front mid num back hs hr
    rcases concat_eq_append_cons hs with ⟨-, hl, -⟩ | ⟨rest, -, hb⟩
    · exact absurd hl (ht num)
    · exact hn.closed front mid num rest hb hr
  have ho : ∀ (last : Sight P), last ≠ .kept →
      ∀ front back, seen ++ [last] = front ++ .kept :: back →
        ∃ older mid, front = older ++ .pledged :: mid ∧ .kept ∉ mid := by
    intro last ht front back hs
    rcases concat_eq_append_cons hs with ⟨-, hl, -⟩ | ⟨rest, -, hb⟩
    · exact absurd hl ht
    · exact hn.once front rest hb
  cases move with
  | pledge => exact ⟨hc _ (fun _ hm => by cases hm), ho _ (by simp)⟩
  | mint => exact ⟨hc _ (fun _ hm => by cases hm), ho _ (by simp)⟩
  | carry => exact ⟨hc _ (fun _ hm => by cases hm), ho _ (by simp)⟩
  | raise => simpa using hn
  | keep _ marked =>
    refine ⟨hc _ (fun _ hm => by cases hm), fun front back hs => ?_⟩
    rcases concat_eq_append_cons hs with ⟨rfl, -, -⟩ | ⟨rest, -, hb⟩
    · exact h.waiting (.inr (by simp [marked]))
    · exact hn.once front rest hb
  | report live early =>
    refine ⟨fun front mid num back hs hr => ?_, ho _ (by simp)⟩
    rcases concat_eq_append_cons hs with ⟨hb, hl, -⟩ | ⟨rest, -, hb⟩
    · obtain rfl : live = num := by simpa using hl
      obtain ⟨setting, hmem⟩ := hr
      rcases h.waits front mid hb with hk | ⟨-, hu⟩
      · exact hk
      · obtain ⟨mark, hmr, hle⟩ := hu live setting hmem
        exact absurd (early mark hmr) (Nat.not_lt.mpr hle)
    · exact hn.closed front mid num rest hb hr

end

/-! ## All moves -/

theorem Inv.fresh (counter : Nat) (setting : P) : Inv [] { counter, setting } where
  apart := by simp
  marked := by simp
  bounded := by simp
  current := by simp
  waits := by simp
  waiting := by simp
  built := by simp

theorem Honest.nil : Honest ([] : List (Sight P)) := ⟨by simp, by simp⟩

/-- Whatever the keeper of a fresh book does, what is seen of it is honest,
and the book says what there is to say of it. -/
theorem Moves.honest {a : Book P} (h : Moves a seen b)
    (hm : a.mark = none) (ho : a.owes = false) : Inv seen b ∧ Honest seen := by
  induction h with
  | refl =>
    obtain ⟨ctr, setting, mark, owes⟩ := a
    obtain rfl : mark = none := hm
    obtain rfl : owes = false := ho
    exact ⟨Inv.fresh ctr setting, Honest.nil⟩
  | step _ move ih =>
    obtain ⟨hi, hh⟩ := ih
    exact ⟨move.inv hi, move.honest hi hh⟩

end OpenAirCast.Pledge

/-
Lib.Fallible — a step that may fail, taken along a list.

The step returns its state with its result, so a failure keeps what was
done before it. `inOrder` stops at the first failure. Where every step
succeeds, `inOrder_append` and `inOrder_map` say what the whole run gives
from what its parts give. `inPlace` changes the elements of the list
themselves; `inPlace_ok` and `inPlace_error` say what is left of it. A step
without a state is `mapM`.
-/
import Mathlib.Data.List.Forall2

namespace OpenAirCast

open List

variable {σ α β γ ε : Type}

/-- The step for each element, first to last, up to the first failure. -/
def inOrder (step : σ → α → σ × Except ε β) (s : σ) : List α → σ × Except ε (List β)
  | [] => (s, .ok [])
  | a :: rest =>
    match step s a with
    | (s, .error error) => (s, .error error)
    | (s, .ok b) =>
      match inOrder step s rest with
      | (s, .error error) => (s, .error error)
      | (s, .ok bs) => (s, .ok (b :: bs))

variable {step : σ → α → σ × Except ε β} {s s' s'' : σ}

variable {a : α}

theorem inOrder_cons {b : β} {rest : List α} {bs : List β} (hf : step s a = (s', .ok b))
    (hr : inOrder step s' rest = (s'', .ok bs)) :
    inOrder step s (a :: rest) = (s'', .ok (b :: bs)) := by
  simp only [inOrder, hf, hr]

/-- A step that only changes its result afterwards. -/
theorem inOrder_map {step' : σ → α → σ × Except ε γ} {f : β → γ}
    (h : ∀ s a s' b, step s a = (s', .ok b) → step' s a = (s', .ok (f b))) :
    ∀ {xs : List α} {s s' : σ} {ys : List β}, inOrder step s xs = (s', .ok ys) →
      inOrder step' s xs = (s', .ok (ys.map f)) := by
  intro xs
  induction xs with
  | nil =>
    intro s s' ys hr
    cases hr
    rfl
  | cons a rest ih =>
    intro s s' ys hr
    simp only [inOrder] at hr
    split at hr
    · cases hr
    · rename_i mid b hf
      split at hr
      · cases hr
      · rename_i last bs hs
        cases hr
        exact inOrder_cons (h _ _ _ _ hf) (ih hs)

/-- Steps that add to a list when they succeed. -/
theorem inOrder_collect {step : List γ → α → List γ × Except ε β} {gives : α → List γ}
    (h : ∀ s a s' b, step s a = (s', .ok b) → s' = s ++ gives a) :
    ∀ {xs : List α} {s s' : List γ} {ys : List β}, inOrder step s xs = (s', .ok ys) →
      s' = s ++ xs.flatMap gives := by
  intro xs
  induction xs with
  | nil =>
    intro s s' ys hr
    cases hr
    exact (append_nil s).symm
  | cons a rest ih =>
    intro s s' ys hr
    simp only [inOrder] at hr
    split at hr
    · cases hr
    · rename_i mid b hf
      split at hr
      · cases hr
      · rename_i last bs hs
        cases hr
        rw [ih hs, h _ _ _ _ hf, flatMap_cons, append_assoc]

/-- What every step keeps holds of the state that is left, also after a
failure. -/
theorem inOrder_invariant {Inv : σ → Prop} {xs : List α}
    (h : ∀ s, ∀ a ∈ xs, Inv s → Inv (step s a).1) (hs : Inv s) :
    Inv (inOrder step s xs).1 := by
  induction xs generalizing s with
  | nil => exact hs
  | cons a rest ih =>
    have hf := h s a mem_cons_self hs
    have hr := ih (fun s x hx => h s x (mem_cons_of_mem _ hx)) hf
    unfold inOrder
    rcases ht : step s a with ⟨s', err | b⟩ <;> rw [ht] at hf hr
    · exact hf
    · dsimp only
      rcases hl : inOrder step s' rest with ⟨s'', err | bs⟩ <;> rw [hl] at hr <;> exact hr

/-! ## In place -/

/-- The step on each element in its place, up to the first failure. -/
def inPlace (step : α → α × Except ε β) : List α → List α × Except ε (List β)
  | [] => ([], .ok [])
  | a :: rest =>
    match step a with
    | (a, .error error) => (a :: rest, .error error)
    | (a, .ok b) =>
      match inPlace step rest with
      | (rest, .error error) => (a :: rest, .error error)
      | (rest, .ok bs) => (a :: rest, .ok (b :: bs))

/-- The step fails on the element. -/
def failsAt (step : α → α × Except ε β) (a : α) : Bool := (step a).2.toOption.isNone

variable {step : α → α × Except ε β}

theorem not_failsAt (h : failsAt step a = false) : ∃ b, (step a).2 = .ok b := by
  unfold failsAt at h
  cases hs : (step a).2 with
  | error =>
    rw [hs] at h
    cases h
  | ok b => exact ⟨b, rfl⟩

/-- Where no step fails, every element is changed and gives its result. -/
theorem inPlace_ok : ∀ {xs : List α}, (∀ a ∈ xs, failsAt step a = false) →
    ∃ bs, inPlace step xs = (xs.map (fun a => (step a).1), .ok bs) ∧
      List.Forall₂ (fun a b => (step a).2 = .ok b) xs bs
  | [], _ => ⟨[], rfl, .nil⟩
  | a :: rest, h => by
      obtain ⟨b, hb⟩ := not_failsAt (h a mem_cons_self)
      obtain ⟨bs, hr, hs⟩ := inPlace_ok (fun x hx => h x (mem_cons_of_mem _ hx))
      refine ⟨b :: bs, ?_, .cons hb hs⟩
      unfold inPlace
      have ht : step a = ((step a).1, .ok b) := by rw [← hb]
      rw [ht]
      dsimp only
      rw [hr]
      rfl

/-- At the first failure the elements before it are changed, and so may be
the one that fails; the others are not. -/
theorem inPlace_error : ∀ {front : List α} {a : α} {back : List α},
    (∀ x ∈ front, failsAt step x = false) → failsAt step a = true →
      ∃ error, inPlace step (front ++ a :: back) =
        (front.map (fun x => (step x).1) ++ (step a).1 :: back, .error error)
  | [], a, back, _, h => by
      unfold failsAt at h
      cases hs : step a with
      | mk _ result =>
        cases result with
        | ok =>
          rw [hs] at h
          cases h
        | error error =>
          refine ⟨error, ?_⟩
          rw [nil_append, inPlace, hs]
          rfl
  | x :: front, a, back, hf, h => by
      obtain ⟨b, hb⟩ := not_failsAt (hf x mem_cons_self)
      obtain ⟨error, hr⟩ := inPlace_error (fun y hy => hf y (mem_cons_of_mem _ hy)) h
      refine ⟨error, ?_⟩
      have hs : step x = ((step x).1, .ok b) := by rw [← hb]
      rw [cons_append, inPlace, hs]
      dsimp only
      rw [hr]
      rfl

variable {view : α → γ}

/-- Steps that agree on what `view` shows, along lists that show the same. -/
theorem inPlace_congr (h : ∀ a b, view a = view b →
      (step a).2 = (step b).2 ∧ view (step a).1 = view (step b).1) :
    ∀ {xs ys : List α}, xs.map view = ys.map view → (inPlace step xs).2 = (inPlace step ys).2 ∧
        (inPlace step xs).1.map view = (inPlace step ys).1.map view := by
  intro xs
  induction xs with
  | nil =>
    intro ys hviews
    rw [map_eq_nil_iff.mp hviews.symm]
    exact ⟨rfl, rfl⟩
  | cons a rest ih =>
    intro ys hviews
    cases ys with
    | nil => cases hviews
    | cons b others =>
      obtain ⟨hh, ht⟩ := List.cons.inj hviews
      obtain ⟨hr, hv⟩ := h a b hh
      obtain ⟨hs, hrt⟩ := ih ht
      unfold inPlace
      rcases ha : step a with ⟨a', err | x⟩ <;> rcases hb : step b with ⟨b', error' | y⟩ <;>
        rw [ha, hb] at hr hv <;> cases hr
      · exact ⟨rfl, by rw [map_cons, map_cons, hv, ht]⟩
      · rcases hx : inPlace step rest with ⟨xs', err | bs⟩ <;>
          rcases hy : inPlace step others with ⟨ys', error' | bs'⟩ <;>
          rw [hx, hy] at hs hrt <;> cases hs <;>
          exact ⟨rfl, by
            rw [map_cons, map_cons, hv]
            exact congrArg _ hrt⟩

theorem inPlace_kept (h : ∀ a, view (step a).1 = view a) :
    ∀ xs : List α, (inPlace step xs).1.map view = xs.map view
  | [] => rfl
  | a :: rest => by
      have ha := h a
      have hr := inPlace_kept h rest
      unfold inPlace
      rcases hs : step a with ⟨a', err | b⟩ <;> rw [hs] at ha
      · exact congrArg (· :: rest.map view) ha
      · rcases hl : inPlace step rest with ⟨rest', err | bs⟩ <;> rw [hl] at hr <;>
          exact cons_eq_cons.mpr ⟨ha, hr⟩

/-! ## Without a state -/

section Stateless

variable {f : α → Except ε β} {xs : List α} {ys : List β}

variable {rest : Except ε (List β)} {first : Except ε β}

theorem collect_eq_ok : (do let b ← first; let bs ← rest; return b :: bs) = .ok ys ↔
      ∃ b bs, first = .ok b ∧ rest = .ok bs ∧ ys = b :: bs := by
  cases first with
  | error => simp [bind, Except.bind]
  | ok =>
    cases rest with
    | error => simp [bind, Except.bind]
    | ok => simp [bind, Except.bind, pure, Except.pure, eq_comm]

theorem collect_eq_error {error : ε} :
    (do let b ← first; let bs ← rest; return b :: bs) = .error error ↔
      first = .error error ∨ (∃ b, first = .ok b) ∧ rest = .error error := by
  cases first with
  | error => simp [bind, Except.bind]
  | ok =>
    cases rest with
    | error => simp [bind, Except.bind]
    | ok => simp [bind, Except.bind, pure, Except.pure]

theorem mapM_cons_eq_ok : (a :: xs).mapM f = .ok ys ↔
      ∃ b bs, f a = .ok b ∧ xs.mapM f = .ok bs ∧ ys = b :: bs := by
  rw [mapM_cons]
  exact collect_eq_ok

theorem length_of_mapM_eq_ok (h : xs.mapM f = .ok ys) : ys.length = xs.length := by
  induction xs generalizing ys with
  | nil =>
    obtain rfl : [] = ys := by simpa [pure, Except.pure] using h
    rfl
  | cons _ _ ih =>
    obtain ⟨b, _, -, hr, rfl⟩ := mapM_cons_eq_ok.mp h
    simp [ih hr]

/-- The run succeeds exactly if every step does. -/
theorem exists_mapM_eq_ok : (∃ ys, xs.mapM f = .ok ys) ↔ ∀ a ∈ xs, ∃ b, f a = .ok b := by
  induction xs with
  | nil => simp [pure, Except.pure]
  | cons _ _ ih =>
    simp only [mapM_cons_eq_ok, forall_mem_cons, ← ih]
    constructor
    · rintro ⟨_, b, bs, hf, hr, rfl⟩
      exact ⟨⟨b, hf⟩, bs, hr⟩
    · rintro ⟨⟨b, hf⟩, bs, hr⟩
      exact ⟨b :: bs, b, bs, hf, hr, rfl⟩

/-- An error of the run is one of a step. -/
theorem mapM_ne_error {err : ε} (h : ∀ a, f a ≠ .error err) : xs.mapM f ≠ .error err := by
  induction xs with
  | nil => simp [pure, Except.pure]
  | cons a _ ih =>
    intro hr
    rw [mapM_cons, collect_eq_error] at hr
    obtain hf | ⟨-, hs⟩ := hr
    · exact h a hf
    · exact ih hs

end Stateless

end OpenAirCast

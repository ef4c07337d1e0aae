/-
Lib.Keyed — folding a report into a list with one record per
key, and picking a least element.

`upsertLeast` keeps, of two records with one key, the preferred one;
`mergeLeast` folds a whole report that way. Under a preference that is a
strict total order on the records of one key, the merged list holds
exactly the least record of every reported key (`mem_mergeLeast`), each
key once (`nodup_mergeLeast`), so its content depends on the set of
records reported and not on their order. Sorted by key, that makes the
list itself unique (`eq_of_sorted_of_mem_iff`).

`minByKey` is the first element of least key.
-/
import Mathlib.Data.List.Nodup
import Mathlib.Data.Set.Finite.Lemmas
import Mathlib.Order.Defs.LinearOrder

namespace OpenAirCast.Keyed

open List

variable {α κ : Type} [DecidableEq κ] (key : α → κ) (precedes : α → α → Bool)

/-- Replace the record of `a`'s key when `a` is preferred to it, append
`a` when its key is new. -/
def upsertLeast : List α → α → List α
  | [], a => [a]
  | e :: rest, a =>
    if key e = key a then (if precedes a e then a else e) :: rest
    else e :: upsertLeast rest a

/-- One record per reported key. -/
def mergeLeast (report : List α) : List α := report.foldl (upsertLeast key precedes) []

/-- The first element whose key is below every other's. -/
def minByKey {μ : Type} [LT μ] [DecidableLT μ] (f : α → μ) : List α → Option α
  | [] => none
  | a :: rest =>
    match minByKey f rest with
    | none => some a
    | some b => if f b < f a then some b else some a

/-! ## Keys of a merged list -/

theorem map_key_upsertLeast (a : α) : ∀ (l : List α), (upsertLeast key precedes l a).map key
      = if key a ∈ l.map key then l.map key else l.map key ++ [key a]
  | [] => by simp [upsertLeast]
  | e :: rest => by
      simp only [upsertLeast]
      by_cases he : key e = key a
      · rw [if_pos he]
        have hh : key (if precedes a e then a else e) = key e := by
          split
          · exact he.symm
          · rfl
        simp [hh, he]
      · rw [if_neg he]
        have he' : ¬ key a = key e := fun h => he h.symm
        simp only [map_cons, map_key_upsertLeast a rest, mem_cons, he', false_or]
        split <;> simp

theorem nodup_upsertLeast {l : List α} (a : α) (h : (l.map key).Nodup) :
    ((upsertLeast key precedes l a).map key).Nodup := by
  rw [map_key_upsertLeast]
  split
  · exact h
  · rename_i hn
    rw [nodup_append]
    exact ⟨h, by simp, by simpa using fun b hb ha => hn (by simpa [← ha] using ⟨b, hb, rfl⟩)⟩

theorem nodup_foldl_upsertLeast : ∀ (rep : List α) {l : List α}, (l.map key).Nodup →
    ((rep.foldl (upsertLeast key precedes) l).map key).Nodup
  | [], _, h => h
  | a :: rest, _, h => nodup_foldl_upsertLeast rest (nodup_upsertLeast key precedes a h)

theorem nodup_mergeLeast (rep : List α) : ((mergeLeast key precedes rep).map key).Nodup :=
  nodup_foldl_upsertLeast key precedes rep (by simp)

omit [DecidableEq κ] in
/-- Lists that hold each key once, sorted by key, are equal when they
hold the same records. -/
theorem eq_of_sorted_of_mem_iff [PartialOrder κ] {l l' : List α} (hn : (l.map key).Nodup)
    (hn' : (l'.map key).Nodup) (hs : l.Pairwise (fun a b => key a ≤ key b))
    (hs' : l'.Pairwise (fun a b => key a ≤ key b)) (h : ∀ a, a ∈ l ↔ a ∈ l') : l = l' := by
  have hp : l.Perm l' :=
    (perm_ext_iff_of_nodup (List.Nodup.of_map key hn) (List.Nodup.of_map key hn')).mpr h
  refine hp.eq_of_pairwise ?_ hs hs'
  intro a b ha hb hab hba
  exact inj_on_of_nodup_map hn ha ((h b).mpr hb) (le_antisymm hab hba)

/-! ## Content of a merged list -/

/-- Membership after one upsert: the records of other keys stay, and of
`a` and the record it met the preferred one is left. -/
theorem mem_upsertLeast (a r : α) : ∀ {l : List α}, (l.map key).Nodup →
    (r ∈ upsertLeast key precedes l a ↔ (r ∈ l ∧ (key r = key a → precedes a r = false)) ∨
      (r = a ∧ ∀ e ∈ l, key e = key a → precedes a e = true))
  | [], _ => by simp [upsertLeast]
  | e :: rest, h => by
      simp only [map_cons, nodup_cons] at h
      have ih := mem_upsertLeast a r h.2
      simp only [upsertLeast]
      by_cases he : key e = key a
      · -- the key is present: nothing further down shares it
        have hs : ∀ x ∈ rest, key x ≠ key a := fun x hx hxa =>
          h.1 (mem_map.mpr ⟨x, hx, hxa.trans he.symm⟩)
        rw [if_pos he]
        cases hp : precedes a e with
        | true =>
          simp only [if_true, mem_cons]
          constructor
          · rintro (rfl | hr)
            · exact .inr ⟨rfl, by
                rintro x (rfl | hx) hxa
                · exact hp
                · exact absurd hxa (hs x hx)⟩
            · exact .inl ⟨.inr hr, fun ha => absurd ha (hs r hr)⟩
          · rintro (⟨rfl | hr, hk⟩ | ⟨rfl, -⟩)
            · simp [hk he] at hp
            · exact .inr hr
            · exact .inl rfl
        | false =>
          simp only [Bool.false_eq_true, if_false, mem_cons]
          constructor
          · rintro (rfl | hr)
            · exact .inl ⟨.inl rfl, fun _ => hp⟩
            · exact .inl ⟨.inr hr, fun ha => absurd ha (hs r hr)⟩
          · rintro (⟨hr, -⟩ | ⟨-, hall⟩)
            · exact hr
            · simp [hall e (.inl rfl) he] at hp
      · rw [if_neg he, mem_cons, ih]
        constructor
        · rintro (rfl | ⟨hr, hk⟩ | ⟨ha, hall⟩)
          · exact .inl ⟨mem_cons_self, fun ha => absurd ha he⟩
          · exact .inl ⟨mem_cons_of_mem _ hr, hk⟩
          · refine .inr ⟨ha, ?_⟩
            intro x hx hxa
            rcases mem_cons.mp hx with rfl | hx
            · exact absurd hxa he
            · exact hall x hx hxa
        · rintro (⟨hr, hk⟩ | ⟨ha, hall⟩)
          · rcases mem_cons.mp hr with rfl | hr
            · exact .inl rfl
            · exact .inr (.inl ⟨hr, hk⟩)
          · exact .inr (.inr ⟨ha, fun x hx => hall x (mem_cons_of_mem _ hx)⟩)

/-- `r` is among the records of `report`, and none of its key is preferred
to it. -/
def IsLeast (report : List α) (r : α) : Prop :=
  r ∈ report ∧ ∀ r' ∈ report, key r' = key r → precedes r' r = false

section Ordered

variable {μ : Type} [LinearOrder μ] {rank : α → μ}
variable {key precedes}
variable (hrank : ∀ a b, precedes a b = true ↔ rank a < rank b)
variable (hinj : ∀ a b, key a = key b → rank a = rank b → a = b)

omit [DecidableEq κ] in
include hrank in
/-- Every reported key has a least record. -/
theorem exists_isLeast {rep : List α} {r : α} (hr : r ∈ rep) :
    ∃ e, IsLeast key precedes rep e ∧ key e = key r ∧ rank e ≤ rank r := by
  have hf : {x | x ∈ rep ∧ key x = key r}.Finite := (finite_toSet rep).subset fun x hx => hx.1
  obtain ⟨e, ⟨he, hk⟩, hm⟩ := Set.exists_min_image _ rank hf ⟨r, hr, rfl⟩
  refine ⟨e, ⟨he, ?_⟩, hk, hm r ⟨hr, rfl⟩⟩
  intro r' hr' hy
  rw [← Bool.not_eq_true, hrank, not_lt]
  exact hm r' ⟨hr', hy.trans hk⟩

include hrank hinj in
/-- One more report: the least records of `report ++ [a]` are the ones an
upsert of `a` leaves. -/
theorem isLeast_append_singleton {rep l : List α} (a : α)
    (hl : ∀ r, r ∈ l ↔ IsLeast key precedes rep r) (hn : (l.map key).Nodup) (r : α) :
    r ∈ upsertLeast key precedes l a ↔ IsLeast key precedes (rep ++ [a]) r := by
  have hle : ∀ a b, precedes a b = false ↔ rank b ≤ rank a := fun a b => by
    rw [← not_lt, ← hrank, Bool.not_eq_true]
  have hsl : precedes a a = false := (hle a a).mpr le_rfl
  rw [mem_upsertLeast key precedes a r hn]
  simp only [IsLeast, mem_append, mem_singleton]
  constructor
  · rintro (⟨hr, hk⟩ | ⟨rfl, hall⟩)
    · obtain ⟨hmem, hs⟩ := (hl r).mp hr
      refine ⟨.inl hmem, ?_⟩
      rintro r' (hr' | rfl) hy
      · exact hs r' hr' hy
      · exact hk hy.symm
    · refine ⟨.inr rfl, ?_⟩
      rintro r' (hr' | rfl) hy
      · -- some record of this key is already kept, and `r` beats it
        by_contra hc
        have hlt : rank r' < rank r := (hrank r' r).mp (by simpa using hc)
        have hex : ∃ e, IsLeast key precedes rep e ∧ key e = key r' ∧ rank e ≤ rank r' :=
          exists_isLeast hrank hr'
        obtain ⟨e, he, hek, hel⟩ := hex
        have hre := (hrank r e).mp (hall e ((hl e).mpr he) (hek.trans hy))
        exact absurd (hel.trans_lt hlt) (not_lt.mpr hre.le)
      · exact hsl
  · rintro ⟨hr | rfl, hs⟩
    · refine .inl ⟨(hl r).mpr ⟨hr, fun r' hr' => hs r' (.inl hr')⟩, ?_⟩
      intro hy
      exact hs a (.inr rfl) hy.symm
    · by_cases hin : r ∈ l
      · exact .inl ⟨hin, fun _ => hsl⟩
      · refine .inr ⟨rfl, ?_⟩
        intro e he hek
        have hre := hs e (.inl ((hl e).mp he).1) hek
        rw [hrank]
        refine lt_of_le_of_ne ((hle e r).mp hre) (fun heq => hin ?_)
        exact (hinj r e hek.symm heq) ▸ he

include hrank hinj in
theorem mem_foldl_upsertLeast : ∀ (rest : List α) {rep l : List α},
    (∀ r, r ∈ l ↔ IsLeast key precedes rep r) → (l.map key).Nodup → ∀ r,
      r ∈ rest.foldl (upsertLeast key precedes) l ↔ IsLeast key precedes (rep ++ rest) r
  | [], _, _, hl, _, r => by simpa using hl r
  | a :: rest, rep, l, hl, hn, r => by
      have hs := isLeast_append_singleton hrank hinj a hl hn
      have := mem_foldl_upsertLeast rest hs (nodup_upsertLeast key precedes a hn) r
      simpa using this

include hrank hinj in
/-- The merged list holds exactly the least record of every reported
key. -/
theorem mem_mergeLeast (rep : List α) (r : α) :
    r ∈ mergeLeast key precedes rep ↔ IsLeast key precedes rep r := by
  have hnil : ∀ r, r ∈ ([] : List α) ↔ IsLeast key precedes [] r := fun r => by simp [IsLeast]
  simpa [mergeLeast] using mem_foldl_upsertLeast hrank hinj rep hnil (by simp) r

/-- Keys that were reported are the keys of the merged list. -/
theorem mem_map_key_mergeLeast (rep : List α) (k : κ) :
    k ∈ (mergeLeast key precedes rep).map key ↔ k ∈ rep.map key := by
  have hg : ∀ (rest l : List α), k ∈ (rest.foldl (upsertLeast key precedes) l).map key ↔
        k ∈ l.map key ∨ k ∈ rest.map key := by
    intro rest
    induction rest with
    | nil => intro l; simp
    | cons a rest ih =>
      intro l
      rw [foldl_cons, ih, map_key_upsertLeast, map_cons, mem_cons]
      split
      · rename_i hin
        constructor
        · rintro (h | h)
          · exact .inl h
          · exact .inr (.inr h)
        · rintro (h | rfl | h)
          · exact .inl h
          · exact .inl hin
          · exact .inr h
      · rw [mem_append, mem_singleton, or_assoc]
  simpa [mergeLeast] using hg rep []

end Ordered

end OpenAirCast.Keyed

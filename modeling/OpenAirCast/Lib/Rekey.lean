/-
Lib.Rekey — sorted maps collected from pairs, and maps with
their keys renamed.

`collect` inserts pairs first to last, so a later pair of a key replaces an
earlier one. A renaming that is injective on the keys in question finds under
a renamed key what was there before (`get_collect_map`); one that keeps their
order also keeps the order of the entries (`entries_rekey`).
-/
import OpenAirCast.Lib.SortedMap
import Mathlib.Data.Set.Function
import Mathlib.Order.Monotone.Defs

namespace OpenAirCast.SortedMap

open List

variable {κ ν κ' ν' : Type} [LinearOrder κ] [LinearOrder κ']

/-- `Iterator::collect` into a `BTreeMap`. -/
def collect (entries : List (κ × ν)) : SortedMap κ ν :=
  entries.foldl (fun m entry => m.insert entry.1 entry.2) .empty

variable {k : κ}

/-- A key above all others goes to the end. -/
theorem insertEntry_last {v : ν} : ∀ {ents : List (κ × ν)},
    (∀ ent ∈ ents, ent.1 < k) → insertEntry k v ents = ents ++ [(k, v)]
  | [], _ => rfl
  | first :: rest, h => by
      have hf := h first mem_cons_self
      rw [insertEntry, if_neg (not_lt_of_gt hf), if_pos hf,
        insertEntry_last (fun ent he => h ent (mem_cons_of_mem _ he))]
      rfl

theorem foldl_insert_sorted : ∀ (ents : List (κ × ν)) (m : SortedMap κ ν),
    EntriesSorted (m.entries ++ ents) →
      (ents.foldl (fun m ent => m.insert ent.1 ent.2) m).entries = m.entries ++ ents
  | [], m, _ => by simp
  | ent :: rest, m, h => by
      have hb : ∀ pre ∈ m.entries, pre.1 < ent.1 := fun pre hf =>
        (pairwise_append.mp h).2.2 pre hf ent mem_cons_self
      have he : (m.insert ent.1 ent.2).entries = m.entries ++ [ent] := insertEntry_last hb
      have hs : EntriesSorted ((m.insert ent.1 ent.2).entries ++ rest) := by
        rw [he, append_assoc]
        exact h
      rw [foldl_cons, foldl_insert_sorted rest _ hs, he, append_assoc]
      rfl

variable {ents : List (κ × ν)}

theorem entries_collect (h : EntriesSorted ents) : (collect ents).entries = ents :=
  foldl_insert_sorted ents .empty h

variable {f : κ → κ'} {s : Set κ}

theorem foldl_insert_map {g : ν → ν'} (hf : Set.InjOn f s)
    (hk : k ∈ s) : ∀ (ents : List (κ × ν)) (m : SortedMap κ ν) (m' : SortedMap κ' ν'),
      (∀ ent ∈ ents, ent.1 ∈ s) → m'.get (f k) = (m.get k).map g →
        ((ents.map (fun ent => (f ent.1, g ent.2))).foldl
          (fun m ent => m.insert ent.1 ent.2) m').get (f k) =
            ((ents.foldl (fun m ent => m.insert ent.1 ent.2) m).get k).map g
  | [], _, _, _, hg => hg
  | ent :: rest, m, m', hy, hg => by
      rw [map_cons, foldl_cons, foldl_cons]
      refine foldl_insert_map hf hk rest _ _ (fun later hl => hy later (mem_cons_of_mem _ hl)) ?_
      have hs : f k = f ent.1 ↔ k = ent.1 := hf.eq_iff hk (hy ent mem_cons_self)
      rw [get_insert, get_insert]
      by_cases heq : k = ent.1
      · rw [if_pos (hs.mpr heq), if_pos heq]
        rfl
      · rw [if_neg (fun h => heq (hs.mp h)), if_neg heq]
        exact hg

variable (g : ν → ν')

theorem get_collect_map (hf : Set.InjOn f s)
    (hk : k ∈ s) (hy : ∀ ent ∈ ents, ent.1 ∈ s) :
    (collect (ents.map (fun ent => (f ent.1, g ent.2)))).get (f k) = ((collect ents).get k).map g :=
  foldl_insert_map hf hk ents .empty .empty hy rfl

theorem mem_foldl_insert {ent : κ × ν} : ∀ (ents : List (κ × ν)) (m : SortedMap κ ν),
    ent ∈ (ents.foldl (fun m ent => m.insert ent.1 ent.2) m).entries → ent ∈ m.entries ∨ ent ∈ ents
  | [], _, h => .inl h
  | first :: rest, m, h => by
      rcases mem_foldl_insert rest _ h with h | h
      · rcases mem_insertEntry h with h | h
        · exact .inr (mem_cons.mpr (.inl h))
        · exact .inl h
      · exact .inr (mem_cons_of_mem _ h)

theorem mem_of_get_collect {v : ν} (h : (collect ents).get k = some v) : (k, v) ∈ ents := by
  rcases mem_foldl_insert ents .empty (mem_entries.mpr h) with h | h
  · cases h
  · exact h

/-! ## Renamed keys -/

def rekey (f : κ → κ') (g : ν → ν') (m : SortedMap κ ν) : SortedMap κ' ν' :=
  collect (m.entries.map (fun entry => (f entry.1, g entry.2)))

theorem entries_rekey {m : SortedMap κ ν}
    (hf : StrictMonoOn f s) (hk : ∀ k ∈ m.keys, k ∈ s) :
    (m.rekey f g).entries = m.entries.map (fun ent => (f ent.1, g ent.2)) := by
  refine entries_collect ?_
  unfold EntriesSorted
  rw [pairwise_map]
  refine m.sorted.imp_of_mem (fun ha hb hlt => ?_)
  exact hf (hk _ (mem_map_of_mem ha)) (hk _ (mem_map_of_mem hb)) hlt

end OpenAirCast.SortedMap

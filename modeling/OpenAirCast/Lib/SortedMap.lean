/-
Lib.SortedMap — a finite map as its entries in key order.

An ordered map that a program iterates over is determined by its entries
first to last, so that is what a value of `SortedMap` is. The keys
strictly increase, so a key has at most one entry and equal maps are
equal lists. `insertEntry` is the insertion on bare lists; `SortedMap`
wraps it with its order proof. Every operation comes with the lemma that
says what `get` finds after it.
-/
import Mathlib.Data.List.Perm.Subperm
import Mathlib.Order.Lattice

namespace OpenAirCast

open List

variable {κ ν : Type} [LinearOrder κ]

/-! ## Entries -/

/-- The first entry of a key. -/
def findEntry (k : κ) (entries : List (κ × ν)) : Option ν :=
  (entries.find? (fun entry => entry.1 = k)).map (·.2)

/-- Put an entry in its place; an entry of the same key goes. -/
def insertEntry (k : κ) (v : ν) : List (κ × ν) → List (κ × ν)
  | [] => [(k, v)]
  | entry :: rest =>
    if k < entry.1 then (k, v) :: entry :: rest
    else if entry.1 < k then entry :: insertEntry k v rest
    else (k, v) :: rest

/-- The keys strictly increase. -/
def EntriesSorted (entries : List (κ × ν)) : Prop := entries.Pairwise (fun a b => a.1 < b.1)

theorem findEntry_cons (k : κ) (entry : κ × ν) (rest : List (κ × ν)) :
    findEntry k (entry :: rest) = if entry.1 = k then some entry.2 else findEntry k rest := by
  unfold findEntry
  rw [find?_cons]
  by_cases h : entry.1 = k <;> simp [h]

theorem findEntry_eq_none {k : κ} {ents : List (κ × ν)}
    (h : ∀ entry ∈ ents, k < entry.1) : findEntry k ents = none := by
  unfold findEntry
  rw [Option.map_eq_none_iff, find?_eq_none]
  intro entry he
  simpa using ne_of_gt (h entry he)

theorem mem_insertEntry {k : κ} {v : ν} {entry : κ × ν} : ∀ {ents : List (κ × ν)},
    entry ∈ insertEntry k v ents → entry = (k, v) ∨ entry ∈ ents
  | [], h => by simpa [insertEntry] using h
  | first :: rest, h => by
      simp only [insertEntry] at h
      split at h
      · simpa using h
      · split at h
        · rcases mem_cons.mp h with h | h
          · exact .inr (by simp [h])
          · exact (mem_insertEntry h).imp id (mem_cons_of_mem _)
        · rcases mem_cons.mp h with h | h
          · exact .inl h
          · exact .inr (mem_cons_of_mem _ h)

/-- An insertion adds its value and loses at most one. -/
theorem insertEntry_map_subperm {α : Type} (f : ν → α) (k : κ) (v : ν) :
    ∀ ents : List (κ × ν), ((insertEntry k v ents).map (fun entry => f entry.2)).Subperm
      (f v :: ents.map (fun entry => f entry.2))
  | [] => .refl _
  | entry :: rest => by
      have ih := insertEntry_map_subperm f k v rest
      unfold insertEntry
      split
      · exact .refl _
      · split
        · exact ((subperm_cons _).mpr ih).trans (List.Perm.swap _ _ _).subperm
        · exact ((sublist_cons_self _ _).cons_cons _).subperm

theorem sorted_insertEntry (k : κ) (v : ν) : ∀ {ents : List (κ × ν)},
    EntriesSorted ents → EntriesSorted (insertEntry k v ents)
  | [], _ => by simp [insertEntry, EntriesSorted]
  | entry :: rest, h => by
      obtain ⟨hf, hr⟩ := pairwise_cons.mp h
      simp only [insertEntry]
      split
      · rename_i hlt
        refine pairwise_cons.mpr ⟨?_, h⟩
        intro other ho
        rcases mem_cons.mp ho with rfl | ho
        · exact hlt
        · exact lt_trans hlt (hf other ho)
      · split
        · rename_i hlt
          refine pairwise_cons.mpr ⟨?_, sorted_insertEntry k v hr⟩
          intro other ho
          rcases mem_insertEntry ho with rfl | ho
          · exact hlt
          · exact hf other ho
        · rename_i hge hle
          have heq : entry.1 = k := le_antisymm (not_lt.mp hge) (not_lt.mp hle)
          refine pairwise_cons.mpr ⟨?_, hr⟩
          intro other ho
          simpa [heq] using hf other ho

theorem findEntry_insertEntry (k : κ) (v : ν) (j : κ) : ∀ {ents : List (κ × ν)},
    EntriesSorted ents →
      findEntry j (insertEntry k v ents) = if j = k then some v else findEntry j ents
  | [], _ => by simp [insertEntry, findEntry, eq_comm]
  | entry :: rest, h => by
      obtain ⟨-, hr⟩ := pairwise_cons.mp h
      have ih := findEntry_insertEntry k v j hr
      simp only [insertEntry]
      split
      · rw [findEntry_cons]
        simp [eq_comm]
      · split
        · rename_i hlt
          rw [findEntry_cons, ih, findEntry_cons]
          by_cases hj : entry.1 = j
          · have hne : ¬ j = k := by
              rintro rfl
              exact ne_of_lt hlt hj
            simp [hj, hne]
          · simp [hj]
        · rename_i hge hle
          have heq : entry.1 = k := le_antisymm (not_lt.mp hge) (not_lt.mp hle)
          rw [findEntry_cons, findEntry_cons, heq]
          have hc : k = j ↔ j = k := eq_comm
          by_cases hj : j = k <;> simp [hc, hj]

/-! ## Maps -/

structure SortedMap (κ ν : Type) [LinearOrder κ] where
  entries : List (κ × ν)
  sorted : EntriesSorted entries

namespace SortedMap

instance [BEq ν] [DecidableEq κ] : BEq (SortedMap κ ν) := ⟨fun a b => a.entries == b.entries⟩

instance [DecidableEq ν] : DecidableEq (SortedMap κ ν)
  | ⟨a, _⟩, ⟨b, _⟩ => decidable_of_iff (a = b) (by simp)

def empty : SortedMap κ ν := ⟨[], List.Pairwise.nil⟩

variable (m : SortedMap κ ν)

def get (k : κ) : Option ν := findEntry k m.entries

def insert (k : κ) (v : ν) : SortedMap κ ν :=
  ⟨insertEntry k v m.entries, sorted_insertEntry k v m.sorted⟩

/-- `BTreeMap::retain`. -/
def retain (keep : κ → ν → Bool) : SortedMap κ ν :=
  ⟨m.entries.filter (fun entry => keep entry.1 entry.2), m.sorted.filter _⟩

def erase (k : κ) : SortedMap κ ν := m.retain (fun j _ => j != k)

/-- Change every value, keys untouched. -/
def mapValues (f : κ → ν → ν) : SortedMap κ ν :=
  ⟨m.entries.map (fun entry => (entry.1, f entry.1 entry.2)), by
    unfold EntriesSorted
    rw [List.pairwise_map]
    exact m.sorted⟩

def keys : List κ := m.entries.map (·.1)

@[simp] theorem get_empty (k : κ) : (empty : SortedMap κ ν).get k = none := rfl

variable (m : SortedMap κ ν)

@[simp] theorem get_insert (k : κ) (v : ν) (j : κ) :
    (m.insert k v).get j = if j = k then some v else m.get j :=
  findEntry_insertEntry k v j m.sorted

variable (keep : κ → ν → Bool)

theorem findEntry_filter (keep : κ → ν → Bool) (j : κ) : ∀ {ents : List (κ × ν)},
    EntriesSorted ents → findEntry j (ents.filter (fun entry => keep entry.1 entry.2))
        = (findEntry j ents).filter (keep j)
  | [], _ => rfl
  | entry :: rest, h => by
      obtain ⟨hf, hr⟩ := pairwise_cons.mp h
      have ih := findEntry_filter keep j hr
      rw [filter_cons, findEntry_cons]
      by_cases hj : entry.1 = j
      · subst hj
        have hn : findEntry entry.1 rest = none := findEntry_eq_none hf
        by_cases hk : keep entry.1 entry.2
        · simp [hk, findEntry_cons, Option.filter]
        · rw [if_neg hk, ih, hn]
          simp [hk, Option.filter]
      · by_cases hk : keep entry.1 entry.2 <;> simp [hk, findEntry_cons, hj, ih]

@[simp] theorem get_retain (j : κ) : (m.retain keep).get j = (m.get j).filter (keep j) :=
  findEntry_filter keep j m.sorted

@[simp] theorem get_erase (k j : κ) : (m.erase k).get j = if j = k then none else m.get j := by
  rw [erase, get_retain]
  by_cases h : j = k
  · cases hg : m.get k <;> simp [h, hg]
  · cases hg : m.get j <;> simp [h]

variable (f : κ → ν → ν)

theorem findEntry_map (f : κ → ν → ν) (j : κ) : ∀ (ents : List (κ × ν)),
    findEntry j (ents.map (fun entry => (entry.1, f entry.1 entry.2)))
      = (findEntry j ents).map (f j)
  | [] => rfl
  | entry :: rest => by
      rw [map_cons, findEntry_cons, findEntry_cons, findEntry_map f j rest]
      by_cases h : entry.1 = j <;> simp [h]

@[simp] theorem get_mapValues (j : κ) : (m.mapValues f).get j = (m.get j).map (f j) :=
  findEntry_map f j m.entries

variable {k : κ}

variable {m}

theorem mem_keys : k ∈ m.keys ↔ (m.get k).isSome = true := by
  unfold get keys findEntry
  rw [Option.isSome_map, find?_isSome]
  simp

theorem mem_of_findEntry {v : ν} : ∀ {ents : List (κ × ν)},
    EntriesSorted ents → ((k, v) ∈ ents ↔ findEntry k ents = some v)
  | [], _ => by simp [findEntry]
  | first :: rest, h => by
      obtain ⟨hf, hr⟩ := pairwise_cons.mp h
      rw [findEntry_cons, mem_cons, mem_of_findEntry hr]
      split
      · -- the key has no second entry
        rename_i hk
        have hn : findEntry k rest = none := findEntry_eq_none (by
          rw [← hk]
          exact hf)
        rw [hn, ← hk]
        constructor
        · rintro (heq | hv)
          · rw [← heq]
          · cases hv
        · intro heq
          cases heq
          exact .inl rfl
      · rename_i hk
        constructor
        · rintro (heq | hd)
          · rw [← heq] at hk
            exact absurd rfl hk
          · exact hd
        · exact .inr

theorem mem_entries {v : ν} : (k, v) ∈ m.entries ↔ m.get k = some v := mem_of_findEntry m.sorted

end SortedMap

end OpenAirCast

/-
Diagnostics.GapTheorems — what a reported gap says.

Over the list of everything ever pushed, an event is overwritten when the
ring does not hold it any more; `Window.length_overwrittenAbove` counts
those above a cursor. `Window.gap_eq` gives the gap of a read: it counts from the
requested position, so it is one more than the events above it that are
gone. `Reader.accounted` adds up what a chain of reads delivered and what
its gaps say.
-/
import OpenAirCast.Diagnostics.RingTheorems
import Mathlib.Algebra.Ring.Nat

namespace OpenAirCast.Diagnostics

open DiagnosticsRing List

variable (ring : DiagnosticsRing)

/-- What was pushed and is not there any more. -/
def overwritten (drafts : List DiagnosticEventDraft) : List DiagnosticEvent :=
  (numbered 0 drafts).filter (· ∉ ring.entries)

/-- Of these, the events with a cursor above the requested one. -/
def overwrittenAbove (drafts : List DiagnosticEventDraft) (cursor : Nat) : List DiagnosticEvent :=
  (overwritten ring drafts).filter (cursor < ·.cursor)

/-! ## Counting -/

theorem length_filter_numbered (low high n : Nat) (drafts : List DiagnosticEventDraft) :
    ((numbered n drafts).filter (fun e => low < e.cursor ∧ e.cursor ≤ high)).length =
      min high (n + drafts.length) - max low n := by
  induction drafts generalizing n with
  | nil =>
    simp only [numbered, filter_nil, length_nil]
    omega
  | cons draft rest ih =>
    have hc : (draft.event (n + 1)).cursor = n + 1 := rfl
    rw [numbered, filter_cons, hc, length_cons]
    split
    · rename_i hin
      rw [decide_eq_true_eq] at hin
      rw [length_cons, ih]
      omega
    · rename_i ho
      rw [decide_eq_true_eq, not_and_or] at ho
      rw [ih]
      omega

theorem length_numbered_upto (high : Nat) (drafts : List DiagnosticEventDraft) :
    ((numbered 0 drafts).filter (·.cursor ≤ high)).length = min high drafts.length := by
  have hall := length_filter_numbered 0 high 0 drafts
  rw [Nat.zero_add, Nat.max_self, Nat.sub_zero] at hall
  rw [← hall]
  congr 1
  refine filter_congr (fun e he => ?_)
  have hpos := (mem_numbered.mp he).1
  simp [hpos]

/-- Where a slice of at most `k` places ends that begins at `start` or, if that is later,
at the cursor. -/
theorem position_eq {n start cur k : Nat} (hs : start ≤ n) (hc : cur ≤ n) :
    cur + min k (n - max cur start) + (start - cur) = min n (max cur start + k) := by
  omega

/-- What the gap of a read says without the requested position. -/
theorem lost_eq (cur start : Nat) :
    (if cur ≤ start ∧ 0 < start then some (EventGap.mk cur (start + 1) (start + 1 - cur))
      else none).elim 0 (·.overwrittenEvents - 1) = start - cur := by
  split
  · show start + 1 - cur - 1 = start - cur
    omega
  · show 0 = start - cur
    omega

/-! ## The ring -/

variable (drafts : List DiagnosticEventDraft)

theorem oldest_le : oldest drafts ≤ drafts.length :=
  Nat.sub_le _ _

theorem push_counts (draft : DiagnosticEventDraft) :
    (ring.push draft).1.entries.length + (ring.push draft).1.overwrittenTotal =
      ring.entries.length + ring.overwrittenTotal + 1 := by
  simp only [push, evict_eq, length_drop, length_append, length_singleton]
  omega

variable {drafts} {ring}

theorem push_overwrittenTotal (hlen : ring.entries.length + ring.overwrittenTotal = drafts.length)
    (ho : ring.overwrittenTotal = oldest drafts) (draft : DiagnosticEventDraft) :
    (ring.push draft).1.overwrittenTotal = oldest (drafts ++ [draft]) := by
  simp only [push, evict_eq, length_append, length_singleton, oldest] at ho ⊢
  omega

/-- The total counts the events before the window. -/
structure Counted (ring : DiagnosticsRing) (drafts : List DiagnosticEventDraft) : Prop where
  all : ring.entries.length + ring.overwrittenTotal = drafts.length
  overwritten : ring.overwrittenTotal = oldest drafts

theorem Counted.empty : Counted {} [] := ⟨rfl, rfl⟩

theorem Counted.push (h : Counted ring drafts) (draft : DiagnosticEventDraft) :
    Counted (ring.push draft).1 (drafts ++ [draft]) := by
  refine ⟨?_, push_overwrittenTotal h.all h.overwritten draft⟩
  rw [push_counts, h.all, length_append, length_singleton]

variable (drafts)

theorem filled_concat (draft : DiagnosticEventDraft) :
    filled (drafts ++ [draft]) = ((filled drafts).push draft).1 := by
  simp [filled]

theorem counted_filled : Counted (filled drafts) drafts := by
  induction drafts using List.reverseRecOn with
  | nil => exact .empty
  | append_singleton _ draft ih =>
    rw [filled_concat]
    exact ih.push draft

variable {drafts}

theorem window_filled (hf : drafts.length < 2 ^ 64) : Window (filled drafts) drafts := by
  induction drafts using List.reverseRecOn with
  | nil => exact .empty
  | append_singleton _ draft ih =>
    rw [length_append, length_singleton] at hf
    rw [filled_concat]
    exact (ih (by omega)).push draft hf

namespace Window

variable {ring : DiagnosticsRing} {drafts : List DiagnosticEventDraft}

section

variable (h : Window ring drafts)
include h

/-- The overwritten events are those before the window. -/
theorem overwritten_eq :
    overwritten ring drafts = (numbered 0 drafts).filter (·.cursor ≤ oldest drafts) := by
  refine filter_congr (fun e he => ?_)
  rw [decide_eq_decide, h.mem_entries]
  constructor
  · intro ho
    exact Nat.le_of_not_lt (fun hlt => ho ⟨hlt, he⟩)
  · rintro _ ⟨_, -⟩
    omega

theorem length_overwrittenAbove (cur : Nat) :
    (overwrittenAbove ring drafts cur).length = oldest drafts - cur := by
  have hle := oldest_le drafts
  have hc := length_filter_numbered cur (oldest drafts) 0 drafts
  rw [overwrittenAbove, h.overwritten_eq, filter_filter]
  simp only [Bool.decide_and] at hc
  rw [hc]
  omega

theorem oldestAvailable : ring.oldestAvailable = oldest drafts + 1 := by
  have hc : EVENT_RING_CAPACITY = 4096 := rfl
  cases hd : drafts.drop (oldest drafts) with
  | nil =>
    have he := congrArg List.length hd
    rw [length_drop, length_nil] at he
    have hz : drafts.length = 0 := by
      simp only [oldest] at he
      omega
    rw [DiagnosticsRing.oldestAvailable, h.entries, hd, oldest, hz]
    show ring.nextCursor = _
    rw [h.nextCursor, hz]
    rfl
  | cons =>
    rw [DiagnosticsRing.oldestAvailable, h.entries, hd]
    rfl

section

variable (ho : ring.overwrittenTotal = oldest drafts)
include ho

/-- The gap of a read counts from the requested position. -/
theorem gap_eq (cur lim : Nat) : (ring.eventsSince cur lim).gap =
      if cur ≤ oldest drafts ∧ 0 < oldest drafts then
        some ⟨cur, oldest drafts + 1, oldest drafts + 1 - cur⟩
      else none := by
  rw [eventsSince, h.oldestAvailable, ho]
  simp only [Nat.lt_succ_iff]

/-- A gap is there when the requested event, or one above it, is gone. -/
theorem gap_isSome_iff (cur lim : Nat) : (ring.eventsSince cur lim).gap.isSome = true ↔
      ∃ e ∈ overwritten ring drafts, cur ≤ e.cursor := by
  rw [h.gap_eq ho, h.overwritten_eq]
  constructor
  · intro hs
    split at hs
    · rename_i hg
      obtain ⟨draft, hd⟩ : ∃ draft, drafts[oldest drafts - 1]? = some draft := by
        have hlt : oldest drafts - 1 < drafts.length := by
          have hle := oldest_le drafts
          omega
        exact ⟨_, getElem?_eq_getElem hlt⟩
      -- the last of the overwritten events
      refine ⟨draft.event (oldest drafts),
        mem_filter.mpr ⟨?_, by simp [DiagnosticEventDraft.event]⟩,
        hg.1⟩
      refine mem_numbered.mpr ⟨hg.2, ?_⟩
      show (drafts[oldest drafts - 0 - 1]?).map _ = _
      rw [Nat.sub_zero, hd]
      rfl
    · cases hs
  · rintro ⟨e, he, hle⟩
    obtain ⟨hmem, hg⟩ := mem_filter.mp he
    have hpos := (mem_numbered.mp hmem).1
    rw [decide_eq_true_eq] at hg
    rw [if_pos ⟨hle.trans hg, by omega⟩]
    rfl

/-- What a read delivers, and what its gap says, take it to its next cursor. -/
theorem read_accounted
    (hf : drafts.length < 2 ^ 64) {cur : Nat} (hle : cur ≤ drafts.length) (lim : Nat) :
    cur + (ring.eventsSince cur lim).events.length +
        ((ring.eventsSince cur lim).gap.elim 0 (·.overwrittenEvents - 1)) =
      (ring.eventsSince cur lim).nextCursor := by
  have he : (ring.eventsSince cur lim).events.length =
      min (clampLimit lim) (drafts.length - max cur (oldest drafts)) := by
    rw [h.events, length_numbered, length_take, length_drop]
  have hg : (ring.eventsSince cur lim).gap.elim 0 (·.overwrittenEvents - 1) =
      oldest drafts - cur := by
    rw [h.gap_eq ho]
    exact lost_eq cur (oldest drafts)
  rw [h.nextCursor_eq hf, he, hg]
  exact position_eq (oldest_le drafts) hle

end

end

end Window

/-! ## A chain of reads -/

namespace Reader

@[simp] theorem gaps_read (rdr : Reader) (lim : Nat) (moves : List Move) :
    rdr.gaps (.read lim :: moves) = (rdr.ring.eventsSince rdr.cursor lim).gap.toList ++
        (rdr.step (.read lim)).1.gaps moves := by
  cases hg : (rdr.ring.eventsSince rdr.cursor lim).gap <;>
    simp [gaps, Mealy.outputs, Mealy.trace, Mealy.turn, step, hg]

/-- From a reader that is not ahead of the ring on. -/
theorem accounted {rdr : Reader} {drafts : List DiagnosticEventDraft}
    (h : Window rdr.ring drafts) (hc : Counted rdr.ring drafts)
    (hle : rdr.cursor ≤ drafts.length) {moves : List Move}
    (hf : (drafts ++ pushed moves).length < 2 ^ 64) :
    rdr.cursor + (rdr.delivered moves).length +
        ((rdr.gaps moves).map (·.overwrittenEvents - 1)).sum =
      (Mealy.run step rdr moves).cursor ∧
    (Mealy.run step rdr moves).cursor ≤ (drafts ++ pushed moves).length := by
  induction moves generalizing rdr drafts with
  | nil =>
    refine ⟨rfl, ?_⟩
    rw [show pushed [] = [] from rfl, append_nil]
    exact hle
  | cons move rest ih =>
    cases move with
    | push draft =>
      rw [pushed_push, append_cons] at hf ⊢
      have ho : drafts.length + 1 < 2 ^ 64 := by
        simp only [length_append, length_singleton] at hf
        omega
      refine @ih (rdr.step (.push draft)).1 _ (h.push draft ho) (hc.push draft) ?_ hf
      rw [length_append]
      exact hle.trans (Nat.le_add_right _ _)
    | read lim =>
      have hlen : drafts.length < 2 ^ 64 := by
        rw [length_append] at hf
        omega
      have hn := h.read_accounted hc.overwritten hlen hle lim
      have hx := h.nextCursor_eq hlen rdr.cursor lim
      have hr : (rdr.step (.read lim)).1.cursor =
        (rdr.ring.eventsSince rdr.cursor lim).nextCursor := rfl
      obtain ⟨_, hb⟩ := @ih (rdr.step (.read lim)).1 drafts h hc (by omega) hf
      refine ⟨?_, hb⟩
      rw [delivered_read, gaps_read, length_append, map_append, sum_append]
      have hg : (((rdr.ring.eventsSince rdr.cursor lim).gap.toList).map
          (·.overwrittenEvents - 1)).sum =
          (rdr.ring.eventsSince rdr.cursor lim).gap.elim 0 (·.overwrittenEvents - 1) := by
        cases (rdr.ring.eventsSince rdr.cursor lim).gap <;> simp
      show _ = (Mealy.run step (rdr.step (.read lim)).1 rest).cursor
      rw [hg]
      omega

end Reader

/-! ## Gaps -/

/-- A gap is reported where the requested event or one above it was
overwritten, and it counts the requested position with the events above that
were. Without that position, deliveries and gaps add up to the position of the
reader; the export accounts for everything. -/
theorem gaps_account (drafts : List DiagnosticEventDraft) (hfew : drafts.length < 2 ^ 64) :
    (∀ cursor limit, (((filled drafts).eventsSince cursor limit).gap.isSome = true ↔
        ∃ e ∈ overwritten (filled drafts) drafts, cursor ≤ e.cursor) ∧
      ∀ gap, ((filled drafts).eventsSince cursor limit).gap = some gap →
        gap.overwrittenEvents = (overwrittenAbove (filled drafts) drafts cursor).length + 1 ∧
          gap.overwrittenEvents = (filled drafts).oldestAvailable - cursor) ∧
    (∀ moves, pushed moves = drafts → ((Reader.start 0).delivered moves).length +
          (((Reader.start 0).gaps moves).map (·.overwrittenEvents - 1)).sum =
        ((numbered 0 drafts).filter
          (·.cursor ≤ (Mealy.run Reader.step (Reader.start 0) moves).cursor)).length) ∧
    (exportBatch (filled drafts)).1.length +
        (exportBatch (filled drafts)).2.elim 0 (·.overwrittenEvents) = drafts.length := by
  have hw := window_filled hfew
  have hc := counted_filled drafts
  refine ⟨fun cursor limit => ⟨hw.gap_isSome_iff hc.overwritten cursor limit, ?_⟩, ?_, ?_⟩
  · intro gap hg
    rw [hw.gap_eq hc.overwritten] at hg
    split at hg
    · rename_i hn
      obtain rfl := Option.some.inj hg
      rw [hw.length_overwrittenAbove, hw.oldestAvailable]
      refine ⟨?_, rfl⟩
      show oldest drafts + 1 - cursor = _
      omega
    · cases hg
  · rintro moves rfl
    have hh := @Reader.accounted (Reader.start 0) [] .empty .empty (Nat.le_refl 0) moves
      (by simpa using hfew)
    rw [nil_append] at hh
    rw [length_numbered_upto, Nat.min_eq_left hh.2, ← hh.1]
    show _ = 0 + _ + _
    omega
  · have hall := hc.all
    rw [exportBatch]
    split
    · exact hall
    · simp only [Option.elim_none]
      omega

/-- One event more than the ring holds. -/
def oneOver : List DiagnosticEventDraft :=
  List.replicate (EVENT_RING_CAPACITY + 1)
    ⟨0, 0, none, .info, .backend, .notice, "", .exportState .started⟩

theorem length_oneOver : oneOver.length = 4097 := length_replicate

theorem gaps_account_oneOver : (exportBatch (filled oneOver)).1.length +
      (exportBatch (filled oneOver)).2.elim 0 (·.overwrittenEvents) = 4097 := by
  rw [← length_oneOver]
  exact (gaps_account oneOver (by rw [length_oneOver]; decide)).2.2

/-- A reader that was given the one event that is overwritten is told of a
gap, though nothing above its cursor is gone. -/
theorem delivered_event_reported : 1 ≤ (filled oneOver).newestAssigned ∧
      ((filled oneOver).eventsSince 1 10).gap = some ⟨1, 2, 1⟩ ∧
      overwrittenAbove (filled oneOver) oneOver 1 = [] := by
  have hf : oneOver.length < 2 ^ 64 := by
    rw [length_oneOver]
    decide
  have hold : oldest oneOver = 1 := by
    rw [oldest, length_oneOver]
    rfl
  have hw := window_filled hf
  refine ⟨?_, ?_, ?_⟩
  · rw [hw.newestAssigned hf, length_oneOver]
    decide
  · rw [hw.gap_eq (counted_filled oneOver).overwritten, hold]
    rfl
  · rw [← length_eq_zero_iff, hw.length_overwrittenAbove, hold]

end OpenAirCast.Diagnostics

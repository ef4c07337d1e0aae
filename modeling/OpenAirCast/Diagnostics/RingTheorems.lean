/-
Diagnostics.RingTheorems — a reader of the event ring misses
nothing that is still retained.

The abstract side is the list of everything ever pushed: `numbered` gives
its events their cursors, and `Window` says that the ring holds the last
`EVENT_RING_CAPACITY` of them. A read then is a slice of that list
(`Window.events`, `Window.nextCursor`), and what happens over many reads is
arithmetic of positions.

Nothing here depends on what an event says.
-/
import OpenAirCast.Diagnostics.Ring
import Mathlib.Data.List.Basic

namespace OpenAirCast.Diagnostics

open List DiagnosticsRing Option

variable {e : DiagnosticEvent}

/-! ## Everything ever pushed -/

/-- The drafts as events, numbered upwards after `n`. -/
def numbered : Nat → List DiagnosticEventDraft → List DiagnosticEvent
  | _, [] => []
  | n, draft :: rest => draft.event (n + 1) :: numbered (n + 1) rest

@[simp] theorem length_numbered (n : Nat) (drafts : List DiagnosticEventDraft) :
    (numbered n drafts).length = drafts.length := by
  induction drafts generalizing n with
  | nil => rfl
  | cons _ _ ih => simp [numbered, ih]

theorem numbered_concat (n : Nat) (drafts : List DiagnosticEventDraft)
    (draft : DiagnosticEventDraft) :
    numbered n (drafts ++ [draft]) =
      numbered n drafts ++ [draft.event (n + drafts.length + 1)] := by
  induction drafts generalizing n with
  | nil => rfl
  | cons _ _ ih =>
    simp only [cons_append, numbered, ih, length_cons]
    congr 4
    omega

theorem drop_numbered (k n : Nat) (drafts : List DiagnosticEventDraft) :
    (numbered n drafts).drop k = numbered (n + k) (drafts.drop k) := by
  induction k generalizing n drafts with
  | zero => rfl
  | succ _ ih =>
    cases drafts with
    | nil => rfl
    | cons =>
      rw [numbered, drop_succ_cons, drop_succ_cons, ih]
      congr 1
      omega

variable {drafts : List DiagnosticEventDraft}

/-- An event is in the list exactly at the place its cursor names. -/
theorem mem_numbered {n : Nat} : e ∈ numbered n drafts ↔
      n < e.cursor ∧ (drafts[e.cursor - n - 1]?).map (·.event e.cursor) = some e := by
  induction drafts generalizing n with
  | nil => simp [numbered]
  | cons _ _ ih =>
    rw [numbered, mem_cons, ih]
    constructor
    · rintro (rfl | ⟨hlt, ha⟩)
      · simp [DiagnosticEventDraft.event]
      · refine ⟨by omega, ?_⟩
        rw [show e.cursor - n - 1 = (e.cursor - (n + 1) - 1) + 1 by omega]
        simpa using ha
    · rintro ⟨_, ha⟩
      by_cases hf : e.cursor = n + 1
      · left
        rw [hf, show n + 1 - n - 1 = 0 by omega] at ha
        simpa using ha.symm
      · right
        refine ⟨by omega, ?_⟩
        rw [show e.cursor - n - 1 = (e.cursor - (n + 1) - 1) + 1 by omega] at ha
        simpa using ha

theorem cursor_le_of_mem {n : Nat} (h : e ∈ numbered n drafts) : e.cursor ≤ n + drafts.length := by
  obtain ⟨_, ha⟩ := mem_numbered.mp h
  obtain ⟨_, hd, -⟩ := map_eq_some_iff.mp ha
  have hp := (List.getElem?_eq_some_iff.mp hd).1
  omega

/-- A slice of the list holds the events whose cursors lie in it. -/
theorem mem_slice {m lim : Nat} {drafts : List DiagnosticEventDraft} {e : DiagnosticEvent} :
    e ∈ numbered m ((drafts.drop m).take lim) ↔
      m < e.cursor ∧ e.cursor ≤ m + lim ∧ e ∈ numbered 0 drafts := by
  rw [mem_numbered, mem_numbered]
  constructor
  · rintro ⟨hlt, ha⟩
    obtain ⟨draft, hd, he⟩ := map_eq_some_iff.mp ha
    have hp := (List.getElem?_eq_some_iff.mp hd).1
    rw [length_take] at hp
    rw [getElem?_take_of_lt (by omega), getElem?_drop,
      show m + (e.cursor - m - 1) = e.cursor - 0 - 1 by omega] at hd
    exact ⟨hlt, by omega, by omega, map_eq_some_iff.mpr ⟨draft, hd, he⟩⟩
  · rintro ⟨hlt, _, -, ha⟩
    refine ⟨hlt, ?_⟩
    rw [getElem?_take_of_lt (by omega), getElem?_drop,
      show m + (e.cursor - m - 1) = e.cursor - 0 - 1 by omega]
    exact ha

theorem mem_numbered_drop {m : Nat} :
    e ∈ numbered m (drafts.drop m) ↔ m < e.cursor ∧ e ∈ numbered 0 drafts := by
  have hall := @mem_slice m drafts.length drafts e
  rw [take_of_length_le (by simp)] at hall
  rw [hall]
  constructor
  · rintro ⟨hlt, -, hmem⟩
    exact ⟨hlt, hmem⟩
  · rintro ⟨hlt, hmem⟩
    have hle := cursor_le_of_mem hmem
    exact ⟨hlt, by omega, hmem⟩

theorem mem_numbered_append {more : List DiagnosticEventDraft}
    (h : e ∈ numbered 0 drafts) : e ∈ numbered 0 (drafts ++ more) := by
  rw [mem_numbered] at h ⊢
  refine ⟨h.1, ?_⟩
  obtain ⟨_, hd, he⟩ := map_eq_some_iff.mp h.2
  rw [getElem?_append_left (List.getElem?_eq_some_iff.mp hd).1, hd, map_some, he]

theorem mem_numbered_of_le {more : List DiagnosticEventDraft}
    (h : e ∈ numbered 0 (drafts ++ more)) (hle : e.cursor ≤ drafts.length) :
    e ∈ numbered 0 drafts := by
  rw [mem_numbered] at h ⊢
  obtain ⟨hlt, ha⟩ := h
  rw [getElem?_append_left (by omega)] at ha
  exact ⟨hlt, ha⟩

theorem pairwise_numbered (n : Nat) (drafts : List DiagnosticEventDraft) :
    (numbered n drafts).Pairwise (fun a b => a.cursor < b.cursor) := by
  induction drafts generalizing n with
  | nil => exact List.Pairwise.nil
  | cons _ _ ih =>
    refine List.Pairwise.cons ?_ (ih (n + 1))
    intro e he
    exact (mem_numbered.mp he).1

/-! ## The ring as a window -/

namespace DiagnosticsRing

theorem evict_eq (events : List DiagnosticEvent) (overwritten : Nat) : evict events overwritten =
      (events.drop (events.length - EVENT_RING_CAPACITY),
        overwritten + (events.length - EVENT_RING_CAPACITY)) := by
  induction events generalizing overwritten with
  | nil => rfl
  | cons ev rest ih =>
    rw [evict]
    split
    · rename_i hf
      have hle : EVENT_RING_CAPACITY ≤ rest.length := Nat.le_of_lt_succ hf
      have ho : (ev :: rest).length - EVENT_RING_CAPACITY =
          (rest.length - EVENT_RING_CAPACITY) + 1 := Nat.succ_sub hle
      rw [ih, ho, drop_succ_cons, Nat.add_assoc, Nat.add_comm 1]
    · rename_i ht
      rw [length_cons, show rest.length + 1 - EVENT_RING_CAPACITY = 0 by omega]
      rfl

/-- Events up to the cursor are passed over. -/
theorem collect_skip (cur lim n next : Nat) (drafts : List DiagnosticEventDraft) :
    collect cur lim (numbered n drafts) [] next =
      collect cur lim (numbered (max cur n) (drafts.drop (cur - n))) [] next := by
  induction drafts generalizing n with
  | nil => simp [numbered]
  | cons draft _ ih =>
    by_cases hb : cur ≤ n
    · rw [show max cur n = n by omega, show cur - n = 0 by omega, drop_zero]
    · have hs : (draft.event (n + 1)).cursor ≤ cur := by
        show n + 1 ≤ cur
        omega
      rw [numbered, collect, if_pos hs, ih (n + 1), show max cur (n + 1) = max cur n by omega,
        show cur - n = (cur - (n + 1)) + 1 by omega, drop_succ_cons]

/-- From the cursor on, events are collected up to the limit. -/
theorem collect_from {cur lim n : Nat} (h : cur ≤ n) (drafts : List DiagnosticEventDraft)
    {events : List DiagnosticEvent} (hr : events.length ≤ lim) (next : Nat) :
    collect cur lim (numbered n drafts) events next =
      (events ++ numbered n (drafts.take (lim - events.length)),
        if drafts.take (lim - events.length) = [] then next
        else n + (drafts.take (lim - events.length)).length) := by
  induction drafts generalizing n events next with
  | nil => simp [numbered, collect]
  | cons draft rest ih =>
    have hn : ¬ (draft.event (n + 1)).cursor ≤ cur := by
      show ¬ n + 1 ≤ cur
      omega
    rw [numbered, collect, if_neg hn]
    split
    · rename_i hf
      simp [hf, numbered]
    · rename_i hfr
      have hlen : (events ++ [draft.event (n + 1)]).length = events.length + 1 := by simp
      rw [ih (by omega) (by omega), hlen,
        show lim - events.length = (lim - (events.length + 1)) + 1 by omega]
      simp only [take_succ_cons, numbered, append_assoc, singleton_append,
        cons_ne_nil, if_false, length_cons, Prod.mk.injEq, true_and]
      split
      · rename_i hl
        simp only [hl, length_nil]
        rfl
      · omega

end DiagnosticsRing

variable (drafts)

/-- Where the ring's window of the drafts begins. -/
def oldest : Nat := drafts.length - EVENT_RING_CAPACITY

/-- The ring holds the last of the drafts, and numbers the next one after them. -/
structure Window (ring : DiagnosticsRing) (drafts : List DiagnosticEventDraft) : Prop where
  entries : ring.entries = numbered (oldest drafts) (drafts.drop (oldest drafts))
  nextCursor : ring.nextCursor = (drafts.length + 1) % 2 ^ 64

namespace Window

variable {ring : DiagnosticsRing} {drafts : List DiagnosticEventDraft}

theorem empty : Window {} [] := ⟨rfl, rfl⟩

section

variable (h : Window ring drafts)
include h

theorem push (draft : DiagnosticEventDraft)
    (hf : drafts.length + 1 < 2 ^ 64) : Window (ring.push draft).1 (drafts ++ [draft]) := by
  have hc : ring.nextCursor = drafts.length + 1 := by rw [h.nextCursor, Nat.mod_eq_of_lt hf]
  have hle : oldest drafts ≤ drafts.length := Nat.sub_le _ _
  constructor
  · have hall : ring.entries ++ [draft.event ring.nextCursor] =
        numbered (oldest drafts) ((drafts ++ [draft]).drop (oldest drafts)) := by
      rw [drop_append_of_le_length hle, numbered_concat, h.entries, hc, length_drop,
        show oldest drafts + (drafts.length - oldest drafts) + 1 = drafts.length + 1 by omega]
    show (DiagnosticsRing.evict _ _).1 = _
    rw [evict_eq, hall]
    dsimp only
    rw [drop_numbered, drop_drop, length_numbered, length_drop, length_append, length_singleton]
    have hs : oldest drafts + (drafts.length + 1 - oldest drafts - EVENT_RING_CAPACITY) =
        oldest (drafts ++ [draft]) := by
      simp only [oldest, length_append, length_singleton]
      omega
    rw [hs]
  · show DiagnosticsRing.wrappingSucc ring.nextCursor = _
    rw [hc, length_append, length_singleton]
    rfl

theorem newestAssigned (hf : drafts.length < 2 ^ 64) : ring.newestAssigned = drafts.length := by
  rw [DiagnosticsRing.newestAssigned, DiagnosticsRing.wrappingPred, h.nextCursor]
  omega

theorem mem_entries : e ∈ ring.entries ↔ oldest drafts < e.cursor ∧ e ∈ numbered 0 drafts := by
  rw [h.entries, mem_numbered_drop]

/-- A read collects a slice of the drafts. -/
theorem page (cur lim next : Nat) : DiagnosticsRing.collect cur lim ring.entries [] next =
      (numbered (max cur (oldest drafts)) ((drafts.drop (max cur (oldest drafts))).take lim),
        if (drafts.drop (max cur (oldest drafts))).take lim = [] then next
        else max cur (oldest drafts) +
          ((drafts.drop (max cur (oldest drafts))).take lim).length) := by
  rw [h.entries, collect_skip, drop_drop,
    show oldest drafts + (cur - oldest drafts) = max cur (oldest drafts) by omega,
    collect_from (Nat.le_max_left _ _) _ (Nat.zero_le _)]
  rfl

theorem events (cur lim : Nat) : (ring.eventsSince cur lim).events =
      numbered (max cur (oldest drafts))
        ((drafts.drop (max cur (oldest drafts))).take (DiagnosticsRing.clampLimit lim)) := by
  rw [DiagnosticsRing.eventsSince, h.page]

theorem nextCursor_eq (hf : drafts.length < 2 ^ 64) (cur lim : Nat) :
    (ring.eventsSince cur lim).nextCursor =
      min drafts.length (max cur (oldest drafts) + DiagnosticsRing.clampLimit lim) := by
  have hl : 1 ≤ DiagnosticsRing.clampLimit lim := Nat.le_max_left _ _
  have hold : oldest drafts = drafts.length - EVENT_RING_CAPACITY := rfl
  have hc : EVENT_RING_CAPACITY = 4096 := rfl
  rw [DiagnosticsRing.eventsSince, h.page, h.newestAssigned hf]
  dsimp only
  split
  · rename_i hn
    have hlen := congrArg List.length hn
    rw [length_take, length_drop, length_nil] at hlen
    omega
  · rename_i hs
    have hlen : ((drafts.drop (max cur (oldest drafts))).take
        (DiagnosticsRing.clampLimit lim)).length ≠ 0 :=
      fun hz => hs (length_eq_zero_iff.mp hz)
    rw [length_take, length_drop] at hlen ⊢
    omega

theorem mem_events {cur lim : Nat} : e ∈ (ring.eventsSince cur lim).events ↔
      e ∈ ring.entries ∧ cur < e.cursor ∧
        e.cursor ≤ max cur (oldest drafts) + DiagnosticsRing.clampLimit lim := by
  rw [h.events, mem_slice, h.mem_entries]
  constructor
  · rintro ⟨hlt, hle, hmem⟩
    exact ⟨⟨by omega, hmem⟩, by omega, hle⟩
  · rintro ⟨⟨_, hmem⟩, _, hle⟩
    exact ⟨by omega, hle, hmem⟩

end

end Window

/-! ## Many reads -/

@[simp] theorem pushed_push (draft : DiagnosticEventDraft) (moves : List Move) :
    pushed (.push draft :: moves) = draft :: pushed moves := rfl

@[simp] theorem reads_read (lim : Nat) (moves : List Move) :
    reads (.read lim :: moves) = reads moves + 1 :=
  countP_cons_of_pos rfl

theorem pushed_append (pre after : List Move) :
    pushed (pre ++ after) = pushed pre ++ pushed after := by
  simp [pushed]

namespace Reader

@[simp] theorem delivered_read (rdr : Reader) (lim : Nat) (moves : List Move) :
    rdr.delivered (.read lim :: moves) = (rdr.ring.eventsSince rdr.cursor lim).events ++
        (rdr.step (.read lim)).1.delivered moves := rfl

/-- The window holds over any reads and pushes. -/
theorem run_window {rdr : Reader} {drafts : List DiagnosticEventDraft}
    (h : Window rdr.ring drafts) {moves : List Move}
    (hf : (drafts ++ pushed moves).length < 2 ^ 64) :
    Window (Mealy.run step rdr moves).ring (drafts ++ pushed moves) := by
  induction moves generalizing rdr drafts with
  | nil =>
    rw [show pushed [] = [] from rfl, append_nil]
    exact h
  | cons move _ ih =>
    cases move with
    | push draft =>
      rw [pushed_push, append_cons] at hf ⊢
      refine ih (h.push draft ?_) hf
      simp only [length_append, length_singleton] at hf
      omega
    | read => exact ih h hf

/-- Cursors increase over all reads, and no read goes back below the cursor
it was given or, where that is ahead of the ring, below the newest event. -/
theorem delivered_increasing {rdr : Reader} {drafts : List DiagnosticEventDraft}
    (h : Window rdr.ring drafts) {moves : List Move}
    (hf : (drafts ++ pushed moves).length < 2 ^ 64) :
    (rdr.delivered moves).Pairwise (fun a b => a.cursor < b.cursor) ∧
      ∀ e ∈ rdr.delivered moves, min rdr.cursor drafts.length < e.cursor := by
  induction moves generalizing rdr drafts with
  | nil => exact ⟨List.Pairwise.nil, by simp [delivered, Mealy.outputs, Mealy.trace]⟩
  | cons move rest ih =>
    cases move with
    | push draft =>
      rw [pushed_push, append_cons] at hf
      have ho : drafts.length + 1 < 2 ^ 64 := by
        simp only [length_append, length_singleton] at hf
        omega
      obtain ⟨hp, ht⟩ := @ih (rdr.step (.push draft)).1 _ (h.push draft ho) hf
      refine ⟨hp, ?_⟩
      intro e he
      have hlt := ht e he
      simp only [step, length_append, length_singleton] at hlt
      omega
    | read lim =>
      have hlen : drafts.length < 2 ^ 64 := by
        simp only [length_append] at hf
        omega
      have hn := h.nextCursor_eq hlen rdr.cursor lim
      obtain ⟨hp, ht⟩ := @ih (rdr.step (.read lim)).1 drafts h hf
      have hl : ∀ e ∈ (rdr.step (.read lim)).1.delivered rest,
          min drafts.length (max rdr.cursor (oldest drafts) +
            DiagnosticsRing.clampLimit lim) < e.cursor := by
        intro e he
        have hlt := ht e he
        simp only [step, hn] at hlt
        omega
      rw [delivered_read]
      constructor
      · refine pairwise_append.mpr ⟨?_, hp, ?_⟩
        · rw [h.events]
          exact pairwise_numbered _ _
        · intro a ha b hb
          obtain ⟨hin, -, _⟩ := h.mem_events.mp ha
          have hc := cursor_le_of_mem (h.mem_entries.mp hin).2
          have hlt := hl b hb
          omega
      · intro e he
        rcases mem_append.mp he with hw | hr
        · have hlt := (h.mem_events.mp hw).2.1
          omega
        · have hlt := hl e hr
          omega

/-- While an event waits, each read takes the reader one place nearer. -/
theorem delivered_or_waits {rdr : Reader} {drafts : List DiagnosticEventDraft}
    (h : Window rdr.ring drafts) {moves : List Move}
    (hf : (drafts ++ pushed moves).length < 2 ^ 64)
    (hmem : e ∈ numbered 0 drafts) (ha : rdr.cursor < e.cursor)
    (hk : oldest (drafts ++ pushed moves) < e.cursor) :
    e ∈ rdr.delivered moves ∨ ((Mealy.run step rdr moves).cursor < e.cursor ∧
        ∀ base ≤ oldest drafts, max rdr.cursor base + reads moves ≤
          max (Mealy.run step rdr moves).cursor base) := by
  induction moves generalizing rdr drafts with
  | nil => exact .inr ⟨ha, fun base _ => Nat.le_refl _⟩
  | cons move rest ih =>
    cases move with
    | push draft =>
      rw [pushed_push, append_cons] at hf hk
      have ho : drafts.length + 1 < 2 ^ 64 := by
        simp only [length_append, length_singleton] at hf
        omega
      rcases @ih (rdr.step (.push draft)).1 _ (h.push draft ho) hf
          (mem_numbered_append hmem) ha hk with hd | ⟨hw, hn⟩
      · exact .inl hd
      · refine .inr ⟨hw, ?_⟩
        intro base hb
        refine hn base (hb.trans ?_)
        simp only [oldest, length_append]
        omega
    | read lim =>
      have hlen : drafts.length < 2 ^ 64 := by
        simp only [length_append] at hf
        omega
      have hx := h.nextCursor_eq hlen rdr.cursor lim
      have hc := cursor_le_of_mem hmem
      have hold : oldest drafts < e.cursor := by
        refine Nat.lt_of_le_of_lt ?_ hk
        simp only [oldest, length_append]
        omega
      by_cases hno : e.cursor ≤ max rdr.cursor (oldest drafts) + DiagnosticsRing.clampLimit lim
      · left
        rw [delivered_read]
        refine mem_append_left _ (h.mem_events.mpr ⟨?_, ha, hno⟩)
        exact h.mem_entries.mpr ⟨hold, hmem⟩
      · have hs : (rdr.step (.read lim)).1.cursor =
            max rdr.cursor (oldest drafts) + DiagnosticsRing.clampLimit lim := by
          show (rdr.ring.eventsSince rdr.cursor lim).nextCursor = _
          omega
        have hm : 1 ≤ DiagnosticsRing.clampLimit lim := Nat.le_max_left _ _
        have hl : (rdr.step (.read lim)).1.cursor < e.cursor := by omega
        rcases @ih (rdr.step (.read lim)).1 drafts h hf hmem hl hk with
          hd | ⟨hw, hn⟩
        · left
          rw [delivered_read]
          exact mem_append_right _ hd
        · refine .inr ⟨hw, ?_⟩
          intro base hb
          have hbd := hn base hb
          rw [hs] at hbd
          rw [reads_read]
          show _ ≤ max (Mealy.run step (rdr.step (.read lim)).1 rest).cursor base
          omega

/-- Where the reader has passed, nothing retained is undelivered. -/
theorem delivered_or_ahead {rdr : Reader} {drafts : List DiagnosticEventDraft}
    (h : Window rdr.ring drafts) {moves : List Move}
    (hf : (drafts ++ pushed moves).length < 2 ^ 64) {e : DiagnosticEvent}
    (hmem : e ∈ numbered 0 (drafts ++ pushed moves)) (ha : rdr.cursor < e.cursor)
    (hk : oldest (drafts ++ pushed moves) < e.cursor) :
    e ∈ rdr.delivered moves ∨ (Mealy.run step rdr moves).cursor < e.cursor := by
  induction moves generalizing rdr drafts with
  | nil => exact .inr ha
  | cons move _ ih =>
    cases move with
    | push draft =>
      rw [pushed_push, append_cons] at hf hmem hk
      have ho : drafts.length + 1 < 2 ^ 64 := by
        simp only [length_append, length_singleton] at hf
        omega
      exact @ih (rdr.step (.push draft)).1 _ (h.push draft ho) hf hmem ha hk
    | read lim =>
      have hlen : drafts.length < 2 ^ 64 := by
        simp only [length_append] at hf
        omega
      have hn := h.nextCursor_eq hlen rdr.cursor lim
      have hs : (rdr.step (.read lim)).1.cursor =
        (rdr.ring.eventsSince rdr.cursor lim).nextCursor := rfl
      by_cases hp : e.cursor ≤ (rdr.step (.read lim)).1.cursor
      · left
        rw [delivered_read]
        refine mem_append_left _ (h.mem_events.mpr ⟨?_, ha, by omega⟩)
        refine h.mem_entries.mpr ⟨Nat.lt_of_le_of_lt ?_ hk, mem_numbered_of_le hmem (by omega)⟩
        simp only [oldest, length_append]
        omega
      · rcases @ih (rdr.step (.read lim)).1 drafts h hf hmem (by omega) hk with
          hd | hw
        · left
          rw [delivered_read]
          exact mem_append_right _ hd
        · exact .inr hw

/-- A reader that comes to an empty ring with any cursor. -/
def start (cursor : Nat) : Reader := ⟨{}, cursor⟩

theorem run_start {cur : Nat} {moves : List Move} (hf : (pushed moves).length < 2 ^ 64) :
    Window (Mealy.run step (start cur) moves).ring (pushed moves) := by
  have h := @run_window (start cur) [] .empty moves
  rw [nil_append] at h
  exact h hf

/-- After a read the reader is not ahead of the ring, and what it passed over is delivered. -/
theorem read_delivered_or_ahead {rdr : Reader} {drafts : List DiagnosticEventDraft}
    (h : Window rdr.ring drafts) {lim : Nat} {after : List Move}
    (hf : (drafts ++ pushed after).length < 2 ^ 64) {e : DiagnosticEvent}
    (hmem : e ∈ numbered 0 (drafts ++ pushed after))
    (ha : min rdr.cursor drafts.length < e.cursor)
    (hk : oldest (drafts ++ pushed after) < e.cursor) :
    e ∈ rdr.delivered (.read lim :: after) ∨
      (Mealy.run step rdr (.read lim :: after)).cursor < e.cursor := by
  by_cases hb : rdr.cursor < e.cursor
  · exact @delivered_or_ahead rdr drafts h (.read lim :: after) hf e hmem hb hk
  · have hlen : drafts.length < 2 ^ 64 := by
      simp only [length_append] at hf
      omega
    have hn := h.nextCursor_eq hlen rdr.cursor lim
    have hs : (rdr.step (.read lim)).1.cursor =
      (rdr.ring.eventsSince rdr.cursor lim).nextCursor := rfl
    rw [delivered_read]
    rcases @delivered_or_ahead (rdr.step (.read lim)).1 drafts h after hf e hmem
      (by omega) hk with hd | hw
    · exact .inl (mem_append_right _ hd)
    · exact .inr hw

/-- **A reader misses nothing that is still retained.** What one read leaves
out is delivered by a later one, or it waits, for fewer reads than the ring
has places, or it was overwritten. -/
theorem misses_nothing (cursor : Nat) (moves : List Move) (hfew : (pushed moves).length < 2 ^ 64) :
    ((start cursor).delivered moves).Pairwise (fun a b => a.cursor < b.cursor) ∧
      ∀ before limit after here batch last, moves = before ++ .read limit :: after →
        here = Mealy.run step (start cursor) before →
        batch = here.ring.eventsSince here.cursor limit →
        last = Mealy.run step (start cursor) moves →
        (∀ e ∈ here.ring.entries, here.cursor < e.cursor → e ∈ last.ring.entries →
          e ∈ here.delivered (.read limit :: after) ∨
            (last.cursor < e.cursor ∧ reads (.read limit :: after) < EVENT_RING_CAPACITY)) ∧
        here.ring.newestAssigned = (pushed before).length ∧
        batch.nextCursor ≤ here.ring.newestAssigned ∧
        (∀ e ∈ here.ring.entries, here.cursor < e.cursor → e.cursor ≤ batch.nextCursor →
          e ∈ batch.events) ∧
        (here.ring.newestAssigned < here.cursor → batch.nextCursor = here.ring.newestAssigned) ∧
        (∀ e ∈ last.ring.entries, min here.cursor here.ring.newestAssigned < e.cursor →
          e ∈ here.delivered (.read limit :: after) ∨ last.cursor < e.cursor) := by
  refine ⟨(@delivered_increasing (start cursor) [] .empty moves (by simpa using hfew)).1, ?_⟩
  rintro before limit after here _ _ rfl hh rfl rfl
  have hall : (pushed before ++ pushed (.read limit :: after)).length < 2 ^ 64 := by
    rw [← pushed_append]
    exact hfew
  have hlen : (pushed before).length < 2 ^ 64 := by
    rw [length_append] at hall
    omega
  have hw : Window here.ring (pushed before) := hh ▸ run_start hlen
  have hl := @run_start cursor _ hfew
  have hx := hw.nextCursor_eq hlen here.cursor limit
  have hr : Mealy.run step (start cursor) (before ++ .read limit :: after) =
      Mealy.run step here (.read limit :: after) := by
    rw [Mealy.run_append, hh]
  rw [hw.newestAssigned hlen]
  refine ⟨?_, rfl, by omega, ?_, by omega, ?_⟩
  · intro e hin ha hs
    obtain ⟨_, hmem⟩ := hw.mem_entries.mp hin
    have hk := (hl.mem_entries.mp hs).1
    rw [pushed_append] at hk
    have hc := cursor_le_of_mem hmem
    rcases delivered_or_waits hw hall hmem ha hk with hd | ⟨ht, hn⟩
    · exact .inl hd
    · right
      rw [hr]
      refine ⟨ht, ?_⟩
      have hb := hn _ (Nat.le_refl _)
      have ho : oldest (pushed before) = (pushed before).length - EVENT_RING_CAPACITY := rfl
      omega
  · intro e hin ha hle
    exact hw.mem_events.mpr ⟨hin, ha, by omega⟩
  · intro e hin ha
    obtain ⟨hk, hmem⟩ := hl.mem_entries.mp hin
    rw [pushed_append] at hk hmem
    rw [hr]
    exact @read_delivered_or_ahead here (pushed before) hw limit after hall e hmem ha hk

/-- Two events in pages of one, the second of them pushed between the reads,
by a reader that comes with a cursor ahead of the ring. -/
def sample : List Move :=
  let draft : DiagnosticEventDraft :=
    ⟨0, 0, none, .info, .backend, .notice, "", .exportState .started⟩
  [.push draft, .read 1, .push draft, .read 1]

theorem misses_nothing_sample :
    ((start 7).delivered sample).Pairwise (fun a b => a.cursor < b.cursor) :=
  (misses_nothing 7 sample (by decide)).1

end Reader

end OpenAirCast.Diagnostics

/-
Backend.ActivationTheorems — audio is released at current
levels.

The version counter stands in for the levels: it moves with every stored
level that differs from the one before it by `!=`. Inside a pass `Barred`
ties it to the levels the pass has captured: with no move since, the levels
are the captured ones up to the sign of a zero, and after some moves the
version is theirs plus the moves, modulo `2 ^ 64`. So a pass that ends on
the version it began with has seen no move at all, unless the counter has
gone round in the meantime.
-/
import OpenAirCast.Backend.Activation

namespace OpenAirCast.Backend

open EffectiveVolumes SortedMap

namespace EffectiveVolumes

variable (st : EffectiveVolumes)

theorem get_set (recv r : ReceiverId) (vol : F32) :
    (st.set recv vol).get r = if r = recv then vol.clamp F32.zero F32.one else st.get r := by
  unfold get set
  rw [get_insert]
  split <;> rfl

theorem version_set (recv : ReceiverId) (vol : F32) : (st.set recv vol).version =
      if st.moves recv vol then wrappingSucc st.version else st.version := by
  unfold set moves
  dsimp only
  cases st.values.get recv == some (vol.clamp F32.zero F32.one) <;> rfl

/-- A store that does not move the version leaves every level as `==` sees
it. -/
theorem canon_set {st : EffectiveVolumes} {recv : ReceiverId} {vol : F32}
    (h : st.moves recv vol = false) (r : ReceiverId) :
    ((st.set recv vol).get r).canon = (st.get r).canon := by
  rw [get_set]
  split
  · rename_i hr
    subst hr
    unfold moves at h
    unfold get
    cases hold : st.values.get r with
    | none => simp [hold] at h
    | some level =>
      rw [hold] at h
      have heq : (level == vol.clamp F32.zero F32.one) = true := by simpa using h
      exact (F32.canon_eq_of_eq heq).symm
  · rfl

end EffectiveVolumes

namespace Activation

variable {s : Activation}

/-- How the levels stand to the ones a pass has captured. -/
structure Tracks (snapshot volumes : EffectiveVolumes) (changes : Nat) : Prop where
  still : changes = 0 → volumes.version = snapshot.version ∧
    ∀ r, (volumes.get r).canon = (snapshot.get r).canon
  moved : 0 < changes → volumes.version = (snapshot.version + changes) % 2 ^ 64

theorem Tracks.refl (snap : EffectiveVolumes) : Tracks snap snap 0 :=
  ⟨fun _ => ⟨rfl, fun _ => rfl⟩, fun h => absurd h (lt_irrefl 0)⟩

variable {changes : Nat}

theorem Tracks.set {snap vols : EffectiveVolumes}
    (h : Tracks snap vols changes) (recv : ReceiverId) (vol : F32) :
    Tracks snap (vols.set recv vol) (changes + if vols.moves recv vol then 1 else 0) := by
  have hv := vols.version_set recv vol
  cases hm : vols.moves recv vol with
  | false =>
    rw [hm] at hv
    refine ⟨fun hz => ⟨?_, fun r => ?_⟩, fun hpos => ?_⟩
    · exact hv.trans (h.still hz).1
    · exact (canon_set hm r).trans ((h.still hz).2 r)
    · exact hv.trans (h.moved hpos)
  | true =>
    rw [hm] at hv
    simp only [if_true, wrappingSucc] at hv ⊢
    refine ⟨fun hz => absurd hz (Nat.succ_ne_zero changes), fun _ => ?_⟩
    rw [hv]
    rcases Nat.eq_zero_or_pos changes with rfl | hpos
    · rw [(h.still rfl).1]
    · rw [h.moved hpos]
      omega

/-- Short of a whole turn of the counter, the version tells whether a level
has moved. -/
theorem Tracks.isCurrent_iff {snap vols : EffectiveVolumes}
    (h : Tracks snap vols changes) (hb : changes < 2 ^ 64) :
    vols.isCurrent snap = true ↔ changes = 0 := by
  rw [EffectiveVolumes.isCurrent, beq_iff_eq]
  constructor
  · intro hs
    by_contra hne
    have hm := h.moved (Nat.pos_of_ne_zero hne)
    omega
  · exact fun hz => (h.still hz).1

/-- What holds between two moves. -/
structure Barred (s : Activation) : Prop where
  silent : s.stage ≠ .adopted → s.released = false
  written : ∀ barrier pass snapshot rest, s.stage = .writing barrier pass snapshot rest →
    (∃ done, s.targets barrier = done ++ rest ∧
      ∀ r ∈ done, s.accepted.get r = some (snapshot.get r)) ∧
    Tracks snapshot s.volumes s.changes

/-- Outside a pass there is only the signal to watch. -/
theorem barred_outside (hs : s.stage ≠ .adopted → s.released = false)
    (ho : ∀ barrier pass snap rest, s.stage ≠ .writing barrier pass snap rest) :
    Barred s :=
  ⟨hs, fun barrier pass snap rest h => absurd h (ho barrier pass snap rest)⟩

theorem again_spec (s : Activation) (barrier : Barrier) (pass : Nat) :
    (s.again barrier pass).released = s.released ∧ (s.again barrier pass).stage ≠ .adopted ∧
      ∀ barrier' pass' snap rest,
        (s.again barrier pass).stage ≠ .writing barrier' pass' snap rest := by
  unfold again
  split
  · exact ⟨rfl, nofun, nofun⟩
  · exact ⟨rfl, nofun, nofun⟩

/-- The end of a pass sends nothing, or it is the end of `activate` on the
levels it has captured. -/
theorem look_spec (s : Activation) (barrier : Barrier) (pass : Nat)
    (snap : EffectiveVolumes) (waiting : Bool) :
    (∀ barrier' pass' snapshot' rest,
      (s.look barrier pass snap waiting).stage ≠ .writing barrier' pass' snapshot' rest) ∧
    ((s.look barrier pass snap waiting).stage ≠ .adopted →
      (s.look barrier pass snap waiting).released = s.released) ∧
    (s.released = false → (s.look barrier pass snap waiting).released = true →
      barrier = .activate ∧ s.volumes.isCurrent snap = true ∧ s.look barrier pass snap waiting =
          { s with stage := .adopted, release := false, released := true }) := by
  unfold look releaseIfCurrent
  obtain ⟨hr, ht, ho⟩ := s.again_spec barrier pass
  cases barrier with
  | startWithVolumes =>
    dsimp only
    split
    · exact ⟨nofun, fun _ => rfl, fun hn hy => by simp [hn] at hy⟩
    · exact ⟨ho, fun _ => hr, fun hn hy => by simp [hr, hn] at hy⟩
  | activate =>
    dsimp only
    by_cases hc : s.volumes.isCurrent snap
    · cases he : s.release && waiting with
      | true =>
        rw [if_pos hc, if_pos rfl]
        exact ⟨nofun, fun h => absurd rfl h, fun _ _ => ⟨rfl, hc, by simp⟩⟩
      | false =>
        rw [if_pos hc, if_neg (by simp)]
        obtain ⟨hr, _, ho⟩ := again_spec
          { s with release := false, released := s.released || false } .activate pass
        have hs := hr.trans (Bool.or_false s.released)
        refine ⟨ho, fun _ => hs, fun hn hy => ?_⟩
        cases (hs.trans hn).symm.trans hy
    · rw [if_neg hc, if_neg (by simp)]
      exact ⟨ho, fun _ => hr, fun hn hy => by simp [hr, hn] at hy⟩

/-- No move releases audio before the adoption. -/
theorem step_barred (h : Barred s) (move : Move) : Barred (s.step move) := by
  cases move with
  | set recv vol =>
    refine ⟨h.silent, fun barrier pass snap rest hs => ?_⟩
    obtain ⟨hd, ht⟩ := h.written barrier pass snap rest hs
    exact ⟨hd, ht.set recv vol⟩
  | capture =>
    dsimp only [step]
    split
    · rename_i barrier pass hs
      refine ⟨fun _ => h.silent (by simp [hs]), fun barrier' pass' snap rest heq => ?_⟩
      cases heq
      exact ⟨⟨[], rfl, fun r hr => absurd hr List.not_mem_nil⟩, .refl _⟩
    · exact h
  | write outc =>
    dsimp only [step]
    split
    · rename_i barrier pass snap recv rest hs
      have hl : s.released = false := h.silent (by simp [hs])
      split
      · refine ⟨fun _ => hl, fun barrier' pass' snapshot' rest' heq => ?_⟩
        cases heq
        obtain ⟨⟨done, ha, hc⟩, ht⟩ := h.written _ _ _ _ hs
        have hm : s.targets barrier = (done ++ [recv]) ++ rest := by simpa using ha
        refine ⟨⟨done ++ [recv], hm, fun r hr => ?_⟩, ht⟩
        show (s.accepted.insert recv (snap.get recv)).get r = _
        rw [get_insert]
        split
        · rename_i hv
          rw [hv]
        · rename_i ho
          refine hc r ?_
          simpa [ho] using hr
      · exact barred_outside (fun _ => hl) nofun
    · exact h
  | look waiting =>
    dsimp only [step]
    split
    · rename_i barrier pass snap hs
      obtain ⟨hu, hq, _⟩ := s.look_spec barrier pass snap waiting
      refine barred_outside (fun hn => ?_) hu
      exact (hq hn).trans (h.silent (by simp [hs]))
    · exact h
  | prepare | activate =>
    dsimp only [step]
    split
    · rename_i hs
      have hl : s.released = false := h.silent (by simp [hs])
      split
      · exact barred_outside (fun _ => hl) nofun
      · exact barred_outside (fun _ => hl) nofun
    · exact h
  | drop =>
    dsimp only [step]
    split
    · exact h
    · rename_i hs
      exact barred_outside (fun _ => h.silent hs) nofun

theorem run_barred (h : Barred s) : ∀ moves : List Move, Barred (s.run moves) := by
  intro moves
  induction moves generalizing s with
  | nil => exact h
  | cons move _ ih => exact ih (step_barred h move)

theorem connect_barred (connected : List ReceiverId) (vols : EffectiveVolumes) :
    Barred (connect connected vols) :=
  barred_outside (fun _ => rfl) nofun

/-! ## Release -/

/-- The signal goes out at the end of a whole pass of `activate`. -/
theorem step_released {move : Move} (hn : s.released = false)
    (hy : (s.step move).released = true) : ∃ pass snap,
      s.stage = .writing .activate pass snap [] ∧ s.volumes.isCurrent snap = true ∧
      s.step move = { s with stage := .adopted, release := false, released := true } := by
  cases move with
  | look waiting =>
    dsimp only [step] at hy ⊢
    split at hy
    · rename_i barrier pass snap hs
      obtain ⟨rfl, hc, heq⟩ := (s.look_spec barrier pass snap waiting).2.2 hn hy
      exact ⟨pass, snap, hs, hc, heq⟩
    · rw [hn] at hy
      cases hy
  | set => exact absurd (hn.symm.trans hy) (by simp)
  | capture | activate | drop =>
    dsimp only [step] at hy
    (repeat' split at hy) <;> exact absurd (hn.symm.trans hy) (by simp)
  | write =>
    dsimp only [step] at hy
    (repeat' split at hy) <;> exact absurd (hn.symm.trans hy) (by simp)
  | prepare =>
    dsimp only [step] at hy
    (repeat' split at hy) <;> exact absurd (hn.symm.trans hy) (by simp)

theorem look_connected (s : Activation) (barrier : Barrier) (pass : Nat)
    (snap : EffectiveVolumes) (waiting : Bool) :
    (s.look barrier pass snap waiting).connected = s.connected := by
  unfold look releaseIfCurrent again
  cases barrier <;> dsimp only <;> (repeat' split) <;> rfl

/-- The connected receivers stay over a run. -/
theorem run_connected (s : Activation) : ∀ moves : List Move,
    (s.run moves).connected = s.connected := by
  have hs : ∀ (s : Activation) (move : Move), (s.step move).connected = s.connected := by
    intro s move
    cases move with
    | set | capture | write | prepare | activate | drop =>
      dsimp only [step] <;> (repeat' split) <;> rfl
    | look =>
      dsimp only [step]
      split
      · exact s.look_connected _ _ _ _
      · rfl
  intro moves
  induction moves generalizing s with
  | nil => rfl
  | cons move _ ih => exact (ih (s.step move)).trans (hs s move)

/-- What was refused stays silent. -/
theorem refused_silent (hs : s.stage = .refused)
    (hl : s.released = false) : ∀ later : List Move, (s.run later).released = false := by
  intro later
  induction later generalizing s with
  | nil => exact hl
  | cons move _ ih =>
    refine ih (s := s.step move) ?_ ?_
    · cases move <;> simp [step, hs]
    · cases move <;> simp [step, hs, hl]

/-- A receiver was not set, or the last pass has seen a level move. -/
inductive Spoils (s : Activation) : Move → Prop
  | write {barrier pass snapshot receiver rest outcome}
      (inside : s.stage = .writing barrier pass snapshot (receiver :: rest))
      (fails : outcome ≠ .accepted) : Spoils s (.write outcome)
  | look {barrier pass snapshot} (waiting : Bool)
      (inside : s.stage = .writing barrier pass snapshot [])
      (last : INITIAL_VOLUME_MAX_PASSES ≤ pass + 1) (moved : 0 < s.changes)
      (bound : s.changes < 2 ^ 64) : Spoils s (.look waiting)

theorem spoils_refused (h : Barred s) {move : Move} (hp : Spoils s move) :
    (s.step move).stage = .refused := by
  cases hp with
  | write inside fails => simp [step, inside, fails]
  | look waiting inside last moved bound =>
    rename_i barrier pass snap
    have hs : s.volumes.isCurrent snap = false := by
      have ht := (h.written _ _ _ _ inside).2
      by_contra hc
      have hz := (ht.isCurrent_iff bound).mp (by simpa using hc)
      omega
    have ha : (s.again barrier pass).stage = .refused := by
      unfold again
      rw [if_neg (by omega)]
    dsimp only [step]
    rw [inside]
    cases barrier with
    | startWithVolumes => simpa [look, hs] using ha
    | activate => simpa [look, releaseIfCurrent, hs] using ha

/-- For every interleaving of stores, passes and failures: when the release
signal goes out, every member was last set to its current level, up to the
sign of a zero, unless the version counter has gone once round since the
pass began; and once a set fails or times out, or the last pass sees a
level move, the signal never goes out. -/
theorem released_at_current_levels (connected : List ReceiverId) (volumes : EffectiveVolumes)
    (moves : List Move) :
    let s := (connect connected volumes).run moves
    (∀ move, s.released = false → (s.step move).released = true → s.changes < 2 ^ 64 →
      ∀ r ∈ connected, ∃ level, (s.step move).accepted.get r = some level ∧
        level.canon = ((s.step move).volumes.get r).canon) ∧
    (∀ move, Spoils s move → ∀ later, ((s.step move).run later).released = false) := by
  intro s
  have hb : Barred s := run_barred (connect_barred connected volumes) moves
  refine ⟨?_, ?_⟩
  · intro move hn hy hd r hr
    obtain ⟨_, snap, hg, hc, heq⟩ := step_released hn hy
    obtain ⟨⟨done, ht, ha⟩, htr⟩ := hb.written _ _ _ _ hg
    have hs := htr.still ((htr.isCurrent_iff hd).mp hc)
    have ho : s.connected = connected := run_connected _ moves
    have hmem : r ∈ done := by
      rw [List.append_nil] at ht
      rw [← ht]
      simpa [targets, ho] using hr
    rw [heq]
    exact ⟨snap.get r, ha r hmem, (hs.2 r).symm⟩
  · intro move hp later
    have hf := spoils_refused hb hp
    refine refused_silent hf ?_ later
    exact (step_barred hb move).silent (by simp [hf])

/-! ## Once round the counter -/

def speaker : ReceiverId := ⟨1⟩
def half : F32 := ⟨0x3F000000#32⟩
def quarter : F32 := ⟨0x3E800000#32⟩
def minusZero : F32 := ⟨0x80000000#32⟩

/-- A start with one receiver up to the last look of `activate`. -/
def primed : List Move :=
  [.capture, .write .accepted, .look true, .prepare true, .activate, .capture, .write .accepted]

/-- A slider that goes to and fro. -/
def toAndFro (n : Nat) : List Move :=
  (List.replicate n [Move.set speaker half, Move.set speaker quarter]).flatten

/-- `n` times to and fro are twice `n` changes. -/
theorem run_toAndFro : ∀ (n : Nat) (s : Activation), s.volumes.moves speaker half = true →
    s.volumes.version < 2 ^ 64 → ∃ volumes,
      s.run (toAndFro n) = { s with volumes, changes := s.changes + 2 * n } ∧
      volumes.version = (s.volumes.version + 2 * n) % 2 ^ 64 ∧
      (0 < n → volumes.get speaker = quarter)
  | 0, s, _, hb => ⟨s.volumes, rfl, (Nat.mod_eq_of_lt hb).symm, nofun⟩
  | n + 1, s, hm, hb => by
      have ht : (s.volumes.set speaker half).moves speaker quarter = true := by
        have hs : (s.volumes.set speaker half).values.get speaker = some half := by
          show (s.volumes.values.insert speaker _).get speaker = _
          rw [get_insert, if_pos rfl]
          decide
        unfold EffectiveVolumes.moves
        rw [hs]
        decide
      generalize hn : (s.volumes.set speaker half).set speaker quarter = next
      have hg : next.values.get speaker = some quarter := by
        rw [← hn]
        show ((s.volumes.set speaker half).values.insert speaker _).get speaker = _
        rw [get_insert, if_pos rfl]
        decide
      have hf : next.moves speaker half = true := by
        unfold EffectiveVolumes.moves
        rw [hg]
        decide
      have hv : next.version = (s.volumes.version + 2) % 2 ^ 64 := by
        rw [← hn, version_set, if_pos ht, version_set, if_pos hm]
        unfold wrappingSucc
        omega
      let s' : Activation := { s with volumes := next, changes := s.changes + 2 }
      have hp : s.run (toAndFro (n + 1)) = s'.run (toAndFro n) := by
        show (((s.step (.set speaker half)).step (.set speaker quarter)).run (toAndFro n)) = _
        simp only [step, hm, ht, hn, if_true]
        rfl
      obtain ⟨volumes, hr, hl, hq⟩ := run_toAndFro n s' hf (by
        show next.version < 2 ^ 64
        omega)
      refine ⟨volumes, ?_, ?_, fun _ => ?_⟩
      · rw [hp, hr]
        show { s with volumes := volumes, changes := s.changes + 2 + 2 * n } = _
        rw [Nat.mul_add, Nat.add_assoc, Nat.add_comm 2]
      · rw [hl]
        show (next.version + 2 * n) % 2 ^ 64 = _
        omega
      · rcases Nat.eq_zero_or_pos n with rfl | hpos
        · cases hr
          show (next.values.get speaker).getD F32.one = quarter
          rw [hg]
          rfl
        · exact hq hpos

/-- The last look of `activate` on a version that has come round to what it
was. -/
theorem primed_look {volumes : EffectiveVolumes}
    (hs : s = { (connect [speaker] {}).run primed with volumes, changes })
    (hv : volumes.version = 0) :
    s.released = false ∧ (s.step (.look true)).released = true ∧
      (s.step (.look true)).accepted.get speaker = some F32.one ∧
      (s.step (.look true)).volumes.get speaker = volumes.get speaker := by
  have hl : s.step (.look true) =
      { s with stage := .adopted, release := false, released := true } := by
    have ht : s.stage = .writing .activate 0 {} [] := by
      rw [hs]
      rfl
    have hr : s.release = true := by
      rw [hs]
      rfl
    have hc : s.volumes.isCurrent {} = true := by
      rw [hs]
      simp [EffectiveVolumes.isCurrent, hv]
    simp only [step, ht, look, releaseIfCurrent, hc, hr, if_true, Bool.and_self, Bool.or_true]
  have ha : ((connect [speaker] {}).run primed).accepted.get speaker = some F32.one := by decide
  rw [hl, hs]
  exact ⟨rfl, rfl, ha, rfl⟩

/-- A slider moved to and fro through all the versions comes back to the
first one at another level. -/
theorem toAndFro_stale {n : Nat} (hn : 2 * n = 2 ^ 64) :
    let s := (connect [speaker] {}).run (primed ++ toAndFro n)
    s.released = false ∧ (s.step (.look true)).released = true ∧
      (s.step (.look true)).accepted.get speaker = some F32.one ∧
      (s.step (.look true)).volumes.get speaker = quarter := by
  obtain ⟨volumes, hr, hv, hq⟩ :=
    run_toAndFro n ((connect [speaker] {}).run primed) (by decide) (by decide)
  have hz : ((connect [speaker] {}).run primed).volumes.version = 0 := by decide
  rw [hz, hn] at hv
  have hs : (connect [speaker] {}).run (primed ++ toAndFro n) =
      ((connect [speaker] {}).run primed).run (toAndFro n) := List.foldl_append
  rw [hs]
  obtain ⟨ho, hy, ha, hl⟩ := primed_look hr (by simpa using hv)
  exact ⟨ho, hy, ha, hl.trans (hq (by omega))⟩

/-- After `2 ^ 64` stores during the last pass audio is released at full
level for a receiver that should play at a quarter; and a store of `-0.0`
over `0.0` leaves the version alone. -/
theorem released_at_stale_level : (let s := (connect [speaker] {}).run (primed ++ toAndFro (2 ^ 63))
     s.released = false ∧ (s.step (.look true)).released = true ∧
       (s.step (.look true)).accepted.get speaker = some F32.one ∧
       (s.step (.look true)).volumes.get speaker = quarter) ∧
    (let s := (connect [speaker] {}).run
      (.set speaker F32.zero :: primed ++ [.set speaker minusZero])
     s.released = false ∧ (s.step (.look true)).released = true ∧
       (s.step (.look true)).accepted.get speaker = some F32.zero ∧
       (s.step (.look true)).volumes.get speaker = minusZero) :=
  ⟨toAndFro_stale (n := 2 ^ 63) (by omega), by decide⟩

end Activation

end OpenAirCast.Backend

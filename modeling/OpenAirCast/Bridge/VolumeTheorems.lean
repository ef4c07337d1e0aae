/-
Bridge.VolumeTheorems — a volume drag settles on the backend's
value.

A drag takes a generation of its own and is under way until its slot in
the echo is resolved; from then on the report that carries its generation
is. Reports reach the shell in the order they were made, and the last of
them carries the volume the bridge last projected. `Settles` keeps the
two together: while the newest drag is not under way, the last report
under a generation is its own, so a shell that has taken every report
waits for nothing and shows what was projected.
-/
import OpenAirCast.Bridge.FeedTheorems
import OpenAirCast.Bridge.LevelTheorems

namespace OpenAirCast.Bridge

open OpenAirCast.Backend List Projection VolumeCore

/-- The generation of the drag a write records. -/
def EchoWrite.volumeGeneration : EchoWrite → Option GenerationId
  | .holdVolume pending => some pending.generation
  | _ => none

/-- The snapshot a pass has projected. -/
def Stage.derived : Stage → Option DeviceSnapshot
  | .resting | .looked _ => none
  | .targeting snapshot _ | .grouping snapshot | .settingVolume snapshot
  | .listening snapshot => some snapshot

/-! ## What one call reports -/

def reports (events : List AppEvent) : List (GenerationId × F32) :=
  events.filterMap AppEvent.volume

theorem reports_append (a b : List AppEvent) : reports (a ++ b) = reports a ++ reports b :=
  filterMap_append

theorem reports_nil {evs : List AppEvent} (h : ∀ ev ∈ evs, ev.volume = none) :
    reports evs = [] := filterMap_eq_nil_iff.mpr h

theorem reports_map_nil {evs : List ControllerEvent}
    (h : ∀ ev ∈ evs, (AppEvent.controller ev).volume = none) :
    reports (evs.map .controller) = [] := by
  refine reports_nil ?_
  intro ev hmem
  obtain ⟨produced, hin, rfl⟩ := mem_map.mp hmem
  exact h produced hin

theorem tell_volumeless {α : Type} [BEq α] {last : Option α} {now : α}
    {ev : ControllerEvent} (h : (AppEvent.controller ev).volume = none) :
    reports ((Projection.tell last now ev).2.map .controller) = [] := by
  refine reports_map_nil ?_
  unfold Projection.tell
  split
  · simp
  · simpa using h

/-- A call reports the volume when it moved, and nothing else does. -/
theorem reports_project (p : Projection) (snap : DeviceSnapshot) (seen : GenerationsSeen) :
    reports ((p.project snap seen).2.map .controller)
      = reports ((Projection.tellVolume snap p.masterVolume).2.map .controller) := by
  have hd : reports ((Projection.tellDiscovery snap seen p.discovery).2.map .controller) = [] := by
    unfold Projection.tellDiscovery
    split
    · rfl
    · rename_i echo _
      exact tell_volumeless (by cases echo <;> rfl)
  have hs : reports ((Projection.tellSession snap seen p.session).2.map .controller) = [] := by
    unfold Projection.tellSession
    split
    · rfl
    · rename_i echo _
      split
      · cases echo <;> rfl
      · rfl
  have he : reports ((Projection.tellDesired snap p.desired).2.map .controller) = [] :=
    tell_volumeless rfl
  have hg : reports ((Projection.tellGroups snap p.groups).2.map .controller) = [] :=
    tell_volumeless rfl
  have hm : reports ((Projection.tellMute snap p.mute).2.map .controller) = [] :=
    tell_volumeless rfl
  have hl : reports ((Projection.tellLevels snap p.receiverLevels).2.map .controller)
      = [] := tell_volumeless rfl
  have ht : reports ((Projection.tellLatency snap p.latency).2.map .controller) = [] :=
    tell_volumeless rfl
  have ha : reports ((Projection.tellAudio snap p.endpoints p.audio).2.map .controller)
      = [] := tell_volumeless rfl
  rw [project_eq]
  simp only [map_append, reports_append, he, hg, hd, hs, hm, hl, ht, ha, append_nil]

/-- What a call does with the volume. -/
inductive VolumeTold (p : Projection) (snapshot : DeviceSnapshot) (seen : GenerationsSeen) : Prop
  | same (last : F32) (hl : p.masterVolume = some last)
      (he : (last == snapshot.masterVolume.get) = true)
      (hm : (p.project snapshot seen).1.masterVolume = some last)
      (hr : reports ((p.project snapshot seen).2.map .controller) = [])
  | moved (hm : (p.project snapshot seen).1.masterVolume = some snapshot.masterVolume.get)
      (hr : reports ((p.project snapshot seen).2.map .controller)
        = [(0, snapshot.masterVolume.get)])

theorem project_volume (p : Projection) (snap : DeviceSnapshot) (seen : GenerationsSeen) :
    VolumeTold p snap seen := by
  have hr := reports_project p snap seen
  have hmem : (p.project snap seen).1.masterVolume
      = (Projection.tellVolume snap p.masterVolume).1 := by
    rw [project_eq]
  unfold Projection.tellVolume Projection.tell at hr hmem
  split at hmem
  · rename_i hs
    rw [if_pos hs] at hr
    cases hl : p.masterVolume with
    | none =>
      rw [hl] at hs
      cases hs
    | some last =>
      rw [hl] at hs hmem
      exact .same last hl hs hmem hr
  · rename_i ho
    rw [if_neg ho] at hr
    exact .moved hmem hr

/-- What a look at the volume slot does. -/
inductive VolumeLook (echo : GenerationEcho) (channels : ReceiptId → Oneshot)
    (snapshot : DeviceSnapshot) (closed : Bool) : GenerationEcho × List ControllerEvent → Prop
  | free (hv : echo.volume = none) : VolumeLook echo channels snapshot closed (echo, [])
  | waits (pending : VolumePending) (receipt : Option CommandReceipt)
      (hv : echo.volume = some pending) :
      VolumeLook echo channels snapshot closed
        ({ echo with volume := some { pending with receipt } }, [])
  | settles (pending : VolumePending) (hv : echo.volume = some pending) :
      VolumeLook echo channels snapshot closed ({ echo with volume := none },
          [.volumeApplied pending.generation snapshot.masterVolume.get])

theorem volumeEvents_look (echo : GenerationEcho) (chans : ReceiptId → Oneshot)
    (snap : DeviceSnapshot) (closed : Bool) :
    VolumeLook echo chans snap closed (echo.volumeEvents chans snap closed) := by
  unfold GenerationEcho.volumeEvents
  cases hv : echo.volume with
  | none => exact .free hv
  | some pend =>
    simp only
    split
    · exact .waits pend _ hv
    · exact .settles pend hv

/-! ## What a report does to the shell -/

section Report

variable {s : AppState} {generation : GenerationId} {volume : F32}

theorem volumeApplied_generation :
    (volumeApplied s generation volume).state.volumes.generation = s.generations.volume := by
  unfold volumeApplied
  simp only
  split <;> rfl

/-- A report is taken when it answers the newest drag, or when none waits. -/
theorem volumeApplied_takes (hf : volume.isFinite = true)
    (hm : generation = s.generations.volume ∨ generation = 0 ∧ s.volumePending = false) :
    (volumeApplied s generation volume).state.volumes.master = volume ∧
      (volumeApplied s generation volume).state.volumes.pending
        = (if generation ≠ 0 then false else s.volumePending) := by
  have hc : (volume.isFinite && (decide (generation = s.generations.volume)
      || (decide (generation = 0) && !s.volumePending))) = true := by
    simpa [hf] using hm
  unfold volumeApplied
  simp only [hc, if_true]
  exact ⟨rfl, rfl⟩

/-- No report makes the shell wait. -/
theorem volumeApplied_pending
    (hp : (volumeApplied s generation volume).state.volumes.pending = true) :
    s.volumePending = true := by
  by_contra hi
  have hn : s.volumePending = false := by simpa using hi
  unfold volumeApplied at hp
  simp only at hp
  split at hp <;> simp [AppState.volumes, hn] at hp

end Report

namespace Feed

/-! ## Where a drag is -/

variable (s : Feed)

/-- The drags that have not been executed, or whose slot the port is still
about to fill. -/
def dragsAhead : List GenerationId :=
  volumeGenerations s.effects ++ s.writes.filterMap EchoWrite.volumeGeneration

/-- The drag held in the echo. -/
def dragHeld : List GenerationId := (s.echo.volume.map (·.generation)).toList

/-- The newest drag has not been resolved. -/
def DragUnderWay : Prop := s.shell.generations.volume ∈ s.dragsAhead ++ s.dragHeld

/-- The volumes on their way to the shell, oldest first. -/
def reported : List (GenerationId × F32) := reports s.inFlight

/-- The generation of the last report that answers a drag. -/
def lastDrag (reported : List (GenerationId × F32)) : Option GenerationId :=
  ((reported.map Prod.fst).filter (fun generation => generation ≠ 0)).getLast?

theorem lastDrag_concat (pre : List (GenerationId × F32)) (rep : GenerationId × F32) :
    lastDrag (pre ++ [rep]) = if rep.1 = 0 then lastDrag pre else some rep.1 := by
  by_cases h : rep.1 = 0 <;> simp [lastDrag, filter_append, h]

theorem lastDrag_cons {rep : GenerationId × F32} {rest : List (GenerationId × F32)}
    {generation : GenerationId} (h : lastDrag rest = some generation) :
    lastDrag (rep :: rest) = some generation := by
  unfold lastDrag at h ⊢
  rw [map_cons, filter_cons]
  split
  · rw [getLast?_cons, h]
    rfl
  · exact h

/-- The newest drag is the one reported in the end. -/
structure Settles (s : Feed) : Prop where
  newest : ∀ generation ∈ s.dragsAhead, generation = s.shell.generations.volume
  positive : ∀ generation ∈ s.dragsAhead ++ s.dragHeld, 0 < generation
  /-- A drag in the echo is the newest, or the newest is about to replace
  it. -/
  current : s.dragHeld ≠ [] → s.DragUnderWay
  latest : ¬ s.DragUnderWay → ∀ generation, lastDrag s.reported = some generation →
    generation = s.shell.generations.volume
  finite : ∀ report ∈ s.reported, report.2.isFinite = true
  /-- The last report carries the volume the projection remembers. -/
  told : ∀ report, s.reported.getLast? = some report →
    ∃ volume, s.projection.masterVolume = some volume ∧ (report.2 == volume) = true
  waiting : s.shell.volumePending = true →
    s.DragUnderWay ∨ ∃ volume, (s.shell.generations.volume, volume) ∈ s.reported
  counted : s.shell.volumePending = true → 0 < s.shell.generations.volume
  agrees : ¬ s.DragUnderWay → s.reported = [] → s.shell.volumePending = false ∧
    ∀ volume, s.projection.masterVolume = some volume → (s.shell.masterVolume == volume) = true
  seen : ∀ snapshot seen, s.projected = some (snapshot, seen) →
    ∃ volume, s.projection.masterVolume = some volume ∧ (volume == snapshot.masterVolume.get) = true
  staged : ∀ snapshot, s.stage.derived = some snapshot → ∃ seen, s.projected = some (snapshot, seen)

namespace Settles

variable {s s' : Feed}

section

variable (h : s.Settles)
include h

/-- A move that leaves drags and reports where they are. The shell may
give a drag up, and keeps the volume it waits for nothing with. -/
theorem frame (hg : s'.shell.generations.volume = s.shell.generations.volume)
    (hn : s'.shell.volumePending = true → s.shell.volumePending = true)
    (hs : s.shell.volumePending = false → s'.shell.masterVolume = s.shell.masterVolume)
    (ha : ∀ generation, generation ∈ s'.dragsAhead ↔ generation ∈ s.dragsAhead)
    (hh : s'.dragHeld = s.dragHeld) (hr : s'.reported = s.reported)
    (hm : s'.projection.masterVolume = s.projection.masterVolume)
    (hsn : ∀ snap seen, s'.projected = some (snap, seen) →
      ∃ volume, s.projection.masterVolume = some volume ∧ (volume == snap.masterVolume.get) = true)
    (ht : ∀ snap, s'.stage.derived = some snap →
      ∃ seen, s'.projected = some (snap, seen)) : s'.Settles := by
  have hu : s'.DragUnderWay ↔ s.DragUnderWay := by
    rw [DragUnderWay, DragUnderWay, mem_append, mem_append, ha, hh, hg]
  constructor
  · rw [hg]
    exact fun generation hmem => h.newest generation ((ha generation).mp hmem)
  · intro generation hmem
    rw [mem_append, ha, hh, ← mem_append] at hmem
    exact h.positive generation hmem
  · rw [hh, hu]
    exact h.current
  · rw [hu, hr, hg]
    exact h.latest
  · rw [hr]
    exact h.finite
  · rw [hr, hm]
    exact h.told
  · rw [hu, hr, hg]
    exact fun hp => h.waiting (hn hp)
  · rw [hg]
    exact fun hp => h.counted (hn hp)
  · rw [hu, hr, hm]
    intro hi he
    obtain ⟨hnn, hq⟩ := h.agrees hi he
    rw [hs hnn]
    refine ⟨?_, hq⟩
    cases hp : s'.shell.volumePending with
    | false => rfl
    | true =>
      rw [hn hp] at hnn
      cases hnn
  · rw [hm]
    exact hsn
  · exact ht

variable {generation : GenerationId} {volume : F32}

theorem last_taken (hi : ¬ s.DragUnderWay) (hr : s.reported = [(generation, volume)]) :
    generation = s.shell.generations.volume ∨ generation = 0 ∧ s.shell.volumePending = false := by
  by_cases hz : generation = 0
  · refine or_iff_not_imp_left.mpr fun ho => ⟨hz, ?_⟩
    by_contra hp
    rcases h.waiting (by simpa using hp) with hundWay | ⟨_, hmem⟩
    · exact hi hundWay
    · rw [hr, mem_singleton] at hmem
      exact ho (congrArg Prod.fst hmem).symm
  · refine .inl (h.latest hi generation ?_)
    rw [hr]
    simp [lastDrag, hz]

theorem still_waits (hf : volume.isFinite = true)
    (hp : (volumeApplied s.shell generation volume).state.volumes.pending = true) :
    s.shell.volumePending = true ∧ generation ≠ s.shell.generations.volume := by
  refine ⟨volumeApplied_pending hp, fun hm => ?_⟩
  have hn := (volumeApplied_takes hf (.inl hm)).2
  rw [hp] at hn
  by_cases hz : generation = 0
  · rw [if_neg (by simpa using hz)] at hn
    have hpos := h.counted hn.symm
    rw [← hm, hz] at hpos
    exact absurd hpos (Nat.lt_irrefl 0)
  · rw [if_pos hz] at hn
    cases hn

theorem taken (ha : s'.dragsAhead = s.dragsAhead) (hh : s'.dragHeld = s.dragHeld)
    (hv : s'.shell.volumes = (volumeApplied s.shell generation volume).state.volumes)
    (hr : s.reported = (generation, volume) :: s'.reported)
    (hm : s'.projection = s.projection) (hpr : s'.projected = s.projected)
    (hsg : s'.stage = s.stage) : s'.Settles := by
  have hf : volume.isFinite = true := h.finite (generation, volume) (by simp [hr])
  have hg : s'.shell.generations.volume = s.shell.generations.volume :=
    (congrArg VolumeCore.generation hv).trans volumeApplied_generation
  have hu : s'.DragUnderWay ↔ s.DragUnderWay := by rw [DragUnderWay, DragUnderWay, ha, hh, hg]
  have hs : s'.shell.volumePending = true →
      s.shell.volumePending = true ∧ generation ≠ s.shell.generations.volume :=
    fun hn => h.still_waits hf ((congrArg pending hv).symm.trans hn)
  constructor
  · rw [ha, hg]
    exact h.newest
  · rw [ha, hh]
    exact h.positive
  · rw [hh, hu]
    exact h.current
  · intro hi g hl
    rw [hg]
    rw [hu] at hi
    refine h.latest hi g ?_
    rw [hr]
    exact lastDrag_cons hl
  · exact fun rep hmem => h.finite rep (by rw [hr]; exact mem_cons_of_mem _ hmem)
  · intro rep hl
    rw [hm]
    refine h.told rep ?_
    rw [hr, getLast?_cons, hl]
    rfl
  · intro hn
    obtain ⟨hwt, ho⟩ := hs hn
    rw [hu, hg]
    refine (h.waiting hwt).imp_right ?_
    rintro ⟨v, hmem⟩
    rw [hr] at hmem
    rcases mem_cons.mp hmem with heq | hmem
    · exact absurd (congrArg Prod.fst heq).symm ho
    · exact ⟨v, hmem⟩
  · rw [hg]
    exact fun hn => h.counted (hs hn).1
  · intro hi he
    rw [hu] at hi
    rw [he] at hr
    rw [hm]
    obtain ⟨last, hl, hq⟩ := h.told (generation, volume) (by rw [hr]; rfl)
    have ht := h.last_taken hi hr
    obtain ⟨hma, hn⟩ := volumeApplied_takes hf ht
    refine ⟨(congrArg pending hv).trans (hn.trans ?_), fun w hw => ?_⟩
    · split
      · rfl
      · rename_i hz
        rcases ht with hc | hnn
        · by_contra hp
          have hpos := h.counted (by simpa using hp)
          rw [← hc] at hpos
          exact hz (Nat.ne_of_gt hpos)
        · exact hnn.2
    · have hsh : s'.shell.masterVolume = volume := (congrArg master hv).trans hma
      rw [hl] at hw
      rw [hsh, ← Option.some.inj hw]
      exact hq
  · rw [hpr, hm]
    exact h.seen
  · rw [hsg, hpr]
    exact h.staged

theorem dragged (hi : s.dragsAhead = [])
    (ha : s'.dragsAhead = [s.shell.generations.volume + 1]) (hh : s'.dragHeld = s.dragHeld)
    (hg : s'.shell.generations.volume = s.shell.generations.volume + 1)
    (hr : s'.reported = s.reported) (hm : s'.projection = s.projection)
    (hp : s'.projected = s.projected) (hs : s'.stage = s.stage) : s'.Settles := by
  have hu : s'.DragUnderWay := by
    rw [DragUnderWay, ha, hg]
    exact mem_cons_self
  constructor
  · rw [ha, hg]
    simp
  · intro generation hmem
    rw [ha, hh] at hmem
    rcases mem_cons.mp hmem with rfl | hmem
    · exact Nat.succ_pos _
    · refine h.positive generation ?_
      rw [hi]
      exact hmem
  · exact fun _ => hu
  · exact fun hn => absurd hu hn
  · rw [hr]
    exact h.finite
  · rw [hr, hm]
    exact h.told
  · exact fun _ => .inl hu
  · rw [hg]
    exact fun _ => Nat.succ_pos _
  · exact fun hn => absurd hu hn
  · rw [hp, hm]
    exact h.seen
  · rw [hs, hp]
    exact h.staged

theorem turned [Lowercase] {ev : AppEvent} {rest : List AppEvent}
    (hef : s.effects = []) (hw : s.writes = []) (hq : s.queue = ev :: rest) :
    Settles (s.afterTurn ev rest) := by
  set s' : Feed := s.afterTurn ev rest with hs'
  have hi : s.dragsAhead = [] := by
    rw [dragsAhead, hef, hw]
    rfl
  have ha : s'.dragsAhead = volumeGenerations s'.effects := by
    show _ ++ s.writes.filterMap _ = _
    rw [hw, filterMap_nil, append_nil]
  have hl : s.reported = reports [ev] ++ s'.reported := by
    rw [reported, reported, ← reports_append]
    simp only [Runtime.inFlight, hq, hs', cons_append, nil_append]
  have hs : ev.volume = none → s'.reported = s.reported := fun hn => by
    rw [hl, reports_nil (by simpa using hn), nil_append]
  have hm := reduce_readingMove s.shell ev
  change ReadingMove s.shell ev s'.shell s'.effects at hm
  cases hm with
  | kept he hv _ hf =>
    refine h.frame (congrArg generation hv) (fun hp => (congrArg pending hv).symm.trans hp)
      (fun _ => congrArg master hv) ?_ rfl (hs he) rfl h.seen h.staged
    intro generation
    rw [ha, hf, hi]
  | dragged _ _ he hv _ hf =>
    exact h.dragged hi (ha.trans hf) rfl (congrArg generation hv) (hs he) rfl rfl rfl
  | reported _ _ he hv _ hf =>
    refine h.taken (by rw [ha, hf, hi]) rfl hv ?_ rfl rfl rfl
    rw [hl]
    simp [reports, he]
  | givenUp he hv _ hf =>
    refine h.frame (congrArg generation hv) ?_ ?_ ?_ rfl (hs he) rfl h.seen h.staged
    · intro hp
      cases (congrArg pending hv).symm.trans hp
    · intro hn
      refine (congrArg master hv).trans ?_
      simp [hn]
    · intro generation
      rw [ha, hf, hi]

end

variable {wrs : List EchoWrite}

theorem volumeGenerations_apart (h : ∀ w ∈ wrs, w.isApart = true) :
    wrs.filterMap EchoWrite.volumeGeneration = [] := by
  refine filterMap_eq_nil_iff.mpr ?_
  intro write hmem
  have ha := h write hmem
  cases write <;> first | rfl | cases ha

theorem executed (h : s.Settles) {eff : AppEffect} {rest : List AppEffect}
    {sent : List CommandEnvelope} {fed : List AppEvent}
    (hw : s.writes = []) (he : s.effects = eff :: rest)
    (hp : Ported s.echo eff wrs) (hf : ∀ ev ∈ fed, IsAside ev) :
    Settles (s.afterEffect rest sent wrs fed) := by
  have hb : s.dragsAhead = eff.volumeGeneration.toList ++ volumeGenerations rest := by
    rw [dragsAhead, he, hw, filterMap_nil, append_nil, volumeGenerations, filterMap_cons]
    cases eff.volumeGeneration <;> rfl
  have ha : wrs.filterMap EchoWrite.volumeGeneration = eff.volumeGeneration.toList := by
    cases hp with
    | apart _ hv hap => rw [volumeGenerations_apart hap, hv]; rfl
    | volume _ hv => rw [hv]; rfl
    | group _ _ hv _ hb =>
      rw [filterMap_append, volumeGenerations_apart hb, hv]
      rfl
    | busy hg => cases eff <;> first | rfl | exact absurd rfl hg
  refine h.frame rfl id (fun _ => rfl) ?_ rfl ?_ rfl h.seen h.staged
  · intro generation
    show generation ∈ volumeGenerations rest ++ wrs.filterMap _ ↔ _
    rw [hb, ha, mem_append, mem_append, or_comm]
  · simp only [reported, Runtime.inFlight, reports_append,
      reports_nil fun ev hmem => (hf ev hmem).2, append_nil]

theorem wrote (h : s.Settles) {write : EchoWrite} {rest : List EchoWrite}
    (hw : s.writes = write :: rest) :
    Settles { s with echo := s.echo.write write, writes := rest } := by
  have ho : write.volumeGeneration = none → (s.echo.write write).volume = s.echo.volume →
      Settles { s with echo := s.echo.write write, writes := rest } := by
    intro hnn hv
    refine h.frame rfl id (fun _ => rfl) ?_ ?_ rfl rfl h.seen h.staged
    · intro generation
      rw [dragsAhead, dragsAhead, hw, filterMap_cons, hnn]
    · exact congrArg (fun slot => (Option.map _ slot).toList) hv
  cases write with
  | holdVolume pend =>
    -- the slot takes the newest drag
    have hb : s.dragsAhead = volumeGenerations s.effects
        ++ pend.generation :: rest.filterMap EchoWrite.volumeGeneration := by
      rw [dragsAhead, hw]
      rfl
    have he : pend.generation = s.shell.generations.volume := h.newest _ (by rw [hb]; simp)
    have hs : ∀ generation ∈ volumeGenerations s.effects
        ++ rest.filterMap EchoWrite.volumeGeneration, generation ∈ s.dragsAhead := by
      intro generation hmem
      rw [hb]
      rcases mem_append.mp hmem with hmem | hmem
      · exact mem_append_left _ hmem
      · exact mem_append_right _ (mem_cons_of_mem _ hmem)
    have hu : DragUnderWay { s with
        echo := s.echo.write (.holdVolume pend), writes := rest } :=
      mem_append_right _ (mem_singleton.mpr he.symm)
    constructor
    · exact fun generation hmem => h.newest generation (hs generation hmem)
    · intro generation hmem
      rcases mem_append.mp hmem with hmem | hmem
      · exact h.positive generation (mem_append_left _ (hs generation hmem))
      · obtain rfl : generation = pend.generation := mem_singleton.mp hmem
        exact h.positive _ (mem_append_left _ (by rw [hb]; simp))
    · exact fun _ => hu
    · exact fun hn => absurd hu hn
    · exact h.finite
    · exact h.told
    · exact fun _ => .inl hu
    · exact h.counted
    · exact fun hn => absurd hu hn
    · exact h.seen
    · exact h.staged
  | recordDiscovery => exact ho rfl rfl
  | recordSession => exact ho rfl rfl
  | holdGroup => exact ho rfl rfl
  | holdListening => exact ho rfl rfl

theorem projected (h : s.Settles) (snap : DeviceSnapshot) : Settles (s.afterProject snap) := by
  set s' : Feed := s.afterProject snap with hs'
  have hn : s'.reported = s.reported
      ++ reports ((s.projection.project snap s.echo.sample).2.map .controller) := by
    simp only [reported, Runtime.inFlight, hs', map_append, reports_append, append_assoc]
  have hs : ∀ other, s'.stage.derived = some other → ∃ seen, s'.projected = some (other, seen) := by
    intro other ho
    obtain rfl := Option.some.inj ho
    exact ⟨s.echo.sample, rfl⟩
  cases project_volume s.projection snap s.echo.sample with
  | same last hl hq hm hr =>
    refine h.frame rfl id (fun _ => rfl) (fun _ => Iff.rfl) rfl ?_ (hm.trans hl.symm) ?_ hs
    · rw [hn, hr, append_nil]
    · intro other seen ho
      obtain ⟨rfl, -⟩ := Prod.mk.inj (Option.some.inj ho)
      exact ⟨last, hl, hq⟩
  | moved hm hr =>
    have hsl : (snap.masterVolume.get == snap.masterVolume.get) = true :=
      F32.beq_self_of_not_nan (volume_not_nan snap.masterVolume)
    rw [hr] at hn
    constructor
    · exact h.newest
    · exact h.positive
    · exact h.current
    · intro hi generation hl
      rw [hn, lastDrag_concat, if_pos rfl] at hl
      exact h.latest hi generation hl
    · intro rep hmem
      rw [hn] at hmem
      rcases mem_append.mp hmem with hmem | hmem
      · exact h.finite rep hmem
      · rw [mem_singleton.mp hmem]
        exact snap.masterVolume.valid.1
    · intro rep hl
      rw [hn, getLast?_concat] at hl
      obtain rfl := Option.some.inj hl
      exact ⟨_, hm, hsl⟩
    · intro hp
      refine (h.waiting hp).imp_right ?_
      rintro ⟨volume, hmem⟩
      exact ⟨volume, by rw [hn]; exact mem_append_left _ hmem⟩
    · exact h.counted
    · intro _ he
      rw [hn] at he
      simp at he
    · intro other seen ho
      obtain ⟨rfl, -⟩ := Prod.mk.inj (Option.some.inj ho)
      exact ⟨_, hm, hsl⟩
    · exact hs

variable {snap : DeviceSnapshot}

theorem resolved (h : s.Settles) {pend : VolumePending}
    (hv : s.echo.volume = some pend) (ht : s.stage.derived = some snap)
    (hs : s'.shell = s.shell) (ha : s'.dragsAhead = s.dragsAhead)
    (hh : s'.dragHeld = [])
    (hl : s'.reported = s.reported ++ [(pend.generation, snap.masterVolume.get)])
    (hm : s'.projection = s.projection) (hp : s'.projected = s.projected)
    (hs' : s'.stage.derived = s.stage.derived) : s'.Settles := by
  have hsl : s.dragHeld = [pend.generation] := by
    rw [dragHeld, hv]
    rfl
  have hpos : 0 < pend.generation :=
    h.positive _ (by rw [hsl]; exact mem_append_right _ mem_cons_self)
  have hu : s.DragUnderWay := h.current (by rw [hsl]; simp)
  -- either a newer drag is ahead, or this was the newest
  have hc : s'.DragUnderWay ∨ pend.generation = s.shell.generations.volume := by
    rw [DragUnderWay, hsl] at hu
    rw [DragUnderWay, ha, hh, hs]
    rcases mem_append.mp hu with hmem | hmem
    · exact .inl (mem_append_left _ hmem)
    · exact .inr (mem_singleton.mp hmem).symm
  constructor
  · rw [ha, hs]
    exact h.newest
  · intro generation hmem
    rw [ha, hh, append_nil] at hmem
    exact h.positive generation (mem_append_left _ hmem)
  · exact fun hsm => absurd hh hsm
  · intro hi generation hls
    rw [hl, lastDrag_concat, if_neg (Nat.ne_of_gt hpos)] at hls
    rw [hs, ← Option.some.inj hls]
    exact hc.resolve_left hi
  · intro rep hmem
    rw [hl] at hmem
    rcases mem_append.mp hmem with hmem | hmem
    · exact h.finite rep hmem
    · rw [mem_singleton.mp hmem]
      exact snap.masterVolume.valid.1
  · intro rep hls
    rw [hl, getLast?_concat] at hls
    obtain rfl := Option.some.inj hls
    obtain ⟨seen, hn⟩ := h.staged snap ht
    obtain ⟨volume, ho, hq⟩ := h.seen snap seen hn
    rw [hm]
    exact ⟨volume, ho, F32.beq_symm hq⟩
  · intro _
    refine hc.imp_right ?_
    intro hw
    refine ⟨snap.masterVolume.get, ?_⟩
    rw [hl, hs, ← hw]
    simp
  · rw [hs]
    exact h.counted
  · intro _ he
    rw [hl] at he
    simp at he
  · rw [hp, hm]
    exact h.seen
  · rw [hs', hp]
    exact h.staged

theorem volumed (h : s.Settles) (ht : s.stage = .settingVolume snap) : Settles { s with
      echo := (s.echo.volumeEvents s.actor.channels snap s.stateClosed).1
      outbox := s.outbox ++ (s.echo.volumeEvents s.actor.channels snap s.stateClosed).2
      stage := .listening snap } := by
  have hd : s.stage.derived = some snap := by rw [ht]; rfl
  have hl := volumeEvents_look s.echo s.actor.channels snap s.stateClosed
  generalize s.echo.volumeEvents s.actor.channels snap s.stateClosed = result at hl
  have hs : ∀ other, Stage.derived (.listening snap) = some other →
      ∃ seen, s.projected = some (other, seen) := by
    intro other ho
    exact h.staged other (hd.trans ho)
  cases hl with
  | free =>
    refine h.frame rfl id (fun _ => rfl) (fun _ => Iff.rfl) rfl ?_ rfl h.seen hs
    simp only [reported, Runtime.inFlight, append_nil]
  | waits _ _ hv =>
    refine h.frame rfl id (fun _ => rfl) (fun _ => Iff.rfl) ?_ ?_ rfl h.seen hs
    · rw [dragHeld, dragHeld, hv]
      rfl
    · simp only [reported, Runtime.inFlight, append_nil]
  | settles _ hv =>
    refine h.resolved hv hd rfl rfl rfl ?_ rfl rfl hd.symm
    simp only [reported, Runtime.inFlight, map_append, reports_append, append_assoc]
    rfl

variable (echo : GenerationEcho)

theorem groupEvents_volume (chans : ReceiptId → Oneshot) (snap : DeviceSnapshot) (closed : Bool) :
    (echo.groupEvents chans snap closed).1.volume = echo.volume ∧
      reports ((echo.groupEvents chans snap closed).2.map .controller) = [] := by
  have hl := groupEvents_look echo chans snap closed
  generalize echo.groupEvents chans snap closed = result at hl ⊢
  cases hl with
  | free => exact ⟨rfl, rfl⟩
  | waits => exact ⟨rfl, rfl⟩
  | ends => exact ⟨rfl, rfl⟩

theorem observeListeningTarget_volume (snap : DeviceSnapshot) (evs : List ControllerEvent) :
    (echo.observeListeningTarget snap evs).volume = echo.volume := by
  unfold GenerationEcho.observeListeningTarget
  split
  · rfl
  · split <;> rfl

/-- No move strands a drag. -/
theorem step [Lowercase] (h : s.Settles) (hs : Fed s s') : s'.Settles := by
  -- moves that keep the shell, the drags and the projection
  have hp : ∀ {t : Feed} (produced : List ControllerEvent), t.shell = s.shell →
      t.effects = s.effects → t.writes = s.writes → t.echo.volume = s.echo.volume →
      t.queue = s.queue → t.outbox = s.outbox ++ produced →
      reports (produced.map .controller) = [] → t.projection = s.projection →
      t.projected = s.projected →
      (∀ snap, t.stage.derived = some snap → s.stage.derived = some snap) →
      t.Settles := by
    intro t produced hh he hw hv hq ho hr hm hpr ht
    refine h.frame (by rw [hh]) (by rw [hh]; exact id) (fun _ => by rw [hh]) ?_ ?_ ?_
      (by rw [hm]) (by rw [hpr]; exact h.seen) ?_
    · intro generation
      rw [dragsAhead, he, hw, dragsAhead]
    · rw [dragHeld, hv, dragHeld]
    · simp only [reported, Runtime.inFlight, hq, ho, map_append, reports_append, hr, append_nil]
    · rw [hpr]
      exact fun snap hd => h.staged snap (ht snap hd)
  cases hs with
  | same => exact h
  | raised ev haside =>
    refine h.frame rfl id (fun _ => rfl) (fun _ => Iff.rfl) rfl ?_ rfl h.seen h.staged
    simp only [reported, Runtime.inFlight, reports_append,
      reports_nil (by simpa using haside.2 : ∀ e ∈ [ev], e.volume = none), append_nil]
  | turned _ _ he hw hq => exact h.turned he hw hq
  | executed _ _ _ _ _ hw he hpt hf => exact h.executed hw he hpt hf
  | wrote _ _ hw => exact h.wrote hw
  | looked => exact hp [] rfl rfl rfl rfl rfl (by simp) rfl rfl rfl (by simp [Stage.derived])
  | projected snap => exact h.projected snap
  | targeted _ _ ht =>
    refine hp [] rfl rfl rfl (observeListeningTarget_volume _ _ _) rfl (by simp) rfl rfl rfl ?_
    rw [ht]
    exact fun other hot => hot
  | grouped snap ht =>
    obtain ⟨hv, hr⟩ := groupEvents_volume s.echo s.actor.channels snap s.stateClosed
    refine hp _ rfl rfl rfl hv rfl rfl hr rfl rfl ?_
    rw [ht]
    exact fun other hot => hot
  | volumed _ ht => exact h.volumed ht
  | listened snap =>
    obtain ⟨⟨_, hc, -⟩, hev⟩ :=
      Runtime.listeningEvents_result s.echo s.actor.channels snap s.stateClosed
    refine hp _ rfl rfl rfl (by rw [hc]) rfl (append_assoc ..) ?_ rfl rfl (by simp [Stage.derived])
    refine reports_map_nil ?_
    intro ev hmem
    rcases mem_append.mp hmem with hmem | hmem
    · obtain ⟨_, -, rfl⟩ := hev ev hmem
      rfl
    · unfold closure at hmem
      split at hmem
      · rw [mem_singleton.mp hmem]
        rfl
      · simp at hmem
  | flushed _ _ ho =>
    refine h.frame rfl id (fun _ => rfl) (fun _ => Iff.rfl) rfl ?_ rfl h.seen h.staged
    simp [reported, Runtime.inFlight, ho]
  | appended ev haside =>
    exact hp [ev] rfl rfl rfl rfl rfl rfl (reports_map_nil (by simpa using haside.2)) rfl
      rfl (fun _ hd => hd)
  | stirred => exact hp [] rfl rfl rfl rfl rfl (by simp) rfl rfl rfl (fun _ hd => hd)

end Settles

theorem settles_start (files : PreferencesRepository) (loc : ResolvedLocale)
    (first : DeviceSnapshot) : (start (initialState files.load loc) first).Settles where
  newest := by simp [dragsAhead, start, Runtime.start, volumeGenerations]
  positive := by simp [dragsAhead, dragHeld, start, Runtime.start, volumeGenerations]
  current := by simp [dragHeld, start, Runtime.start]
  latest := by simp [lastDrag, reported, reports, Runtime.inFlight, start, Runtime.start]
  finite := by simp [reported, reports, Runtime.inFlight, start, Runtime.start]
  told := by simp [reported, reports, Runtime.inFlight, start, Runtime.start]
  waiting := by simp [start, Runtime.start, initialState]
  counted := by simp [start, Runtime.start, initialState]
  agrees := by simp [start, Runtime.start, initialState]
  seen := by simp [start, Runtime.start]
  staged := by simp [start, Runtime.start, Stage.derived]

/-- A look at the slot will report the drag it holds: its receipt is answered
by this snapshot or lost, or the feed is closed. -/
def Reportable (snapshot : DeviceSnapshot) (pending : VolumePending) : Prop :=
  s.stateClosed = true ∨
    (GenerationEcho.pollReceipt s.actor.channels snapshot.revision pending.receipt).2 ≠
      some .pending

theorem volume_of_reportable [Lowercase] {s : Feed} {snap : DeviceSnapshot}
    {pending : VolumePending}
    (hs : s.stage = .settingVolume snap) (hp : s.echo.volume = some pending)
    (hr : s.Reportable snap pending) :
    (s.step .volume).dragHeld = [] ∧ (s.step .volume).outbox =
      s.outbox ++ [.volumeApplied pending.generation snap.masterVolume.get] := by
  have he : s.echo.volumeEvents s.actor.channels snap s.stateClosed =
      ({ s.echo with volume := none },
        [.volumeApplied pending.generation snap.masterVolume.get]) := by
    unfold GenerationEcho.volumeEvents
    rw [hp]
    dsimp only
    cases hst : (GenerationEcho.pollReceipt s.actor.channels snap.revision pending.receipt).2 with
    | none => simp
    | some state => rcases hr with hc | hne <;> simp_all
  simp [step, volume, hs, he, dragHeld]

/-- In every state of every run, a drag the shell waits for is an effect
that is not done, the entry held in the echo, or reported and on its way;
a look at the slot reports the drag it holds once its receipt is answered
or lost; and once the newest drag is resolved and no report is left, the shell
waits for nothing and shows the volume the bridge last projected. -/
theorem volume_drag_settles [Lowercase] (files : PreferencesRepository)
    (locale : ResolvedLocale) (first : DeviceSnapshot) (moves : List Move) :
    let s := run (start (initialState files.load locale) first) moves
    (s.shell.volumePending = true → s.DragUnderWay ∨
      ∃ volume, .controller (.volumeApplied s.shell.generations.volume volume) ∈ s.inFlight) ∧
    (¬ s.DragUnderWay →
      (∀ generation volume, .controller (.volumeApplied generation volume) ∉ s.inFlight) →
        s.shell.volumePending = false ∧ ∀ snap seen, s.projected = some (snap, seen) →
          (s.shell.masterVolume == snap.masterVolume.get) = true) ∧
    (∀ snap pending, s.stage = .settingVolume snap → s.echo.volume = some pending →
      s.Reportable snap pending → (s.step .volume).dragHeld = [] ∧ (s.step .volume).outbox =
        s.outbox ++ [.volumeApplied pending.generation snap.masterVolume.get]) := by
  intro s
  have ht : ∀ (s : Feed) (move : Move), s.Settles → (Mealy.silent step s move).1.Settles :=
    fun s move h => h.step (s.step_fed move)
  have hs : s.Settles := Mealy.run_invariant ht (settles_start files locale first) moves
  have hv : ∀ (ev : AppEvent) generation volume, ev.volume = some (generation, volume) →
        ev = .controller (.volumeApplied generation volume) := by
    intro ev generation volume heq
    unfold AppEvent.volume at heq
    split at heq
    · obtain ⟨rfl, rfl⟩ := Prod.mk.inj (Option.some.inj heq)
      rfl
    · cases heq
  refine ⟨?_, ?_, fun _ _ => volume_of_reportable⟩
  · intro hp
    refine (hs.waiting hp).imp_right ?_
    rintro ⟨volume, hmem⟩
    obtain ⟨ev, hin, heq⟩ := mem_filterMap.mp hmem
    exact ⟨volume, hv ev _ volume heq ▸ hin⟩
  · intro hi hn
    have he : s.reported = [] := by
      refine filterMap_eq_nil_iff.mpr ?_
      intro ev hin
      cases hr : ev.volume with
      | none => rfl
      | some rep => exact absurd (hv ev _ _ hr ▸ hin) (hn rep.1 rep.2)
    obtain ⟨hp, hq⟩ := hs.agrees hi he
    refine ⟨hp, ?_⟩
    intro snap seen hsn
    obtain ⟨volume, hm, hl⟩ := hs.seen snap seen hsn
    exact F32.beq_trans (hq volume hm) hl

end Feed

end OpenAirCast.Bridge

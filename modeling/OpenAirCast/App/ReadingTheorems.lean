/-
App.ReadingTheorems — what one event can do to the master
volume and to the other values the backend reports.

`ReadingMove` lists it, with the volume effects that go with it: a drag
takes a new generation and asks for it, a reported volume is taken or not,
the closure gives an unconfirmed drag up, and every other event leaves the
volume alone. A reading replaces the one before it, and nothing else writes
a reading.
-/
import OpenAirCast.App.TurnTheorems

namespace OpenAirCast

/-- The part of the state the master volume lives in. -/
structure VolumeCore where
  master : F32
  pending : Bool
  confirmed : Option F32
  generation : GenerationId

def AppState.volumes (s : AppState) : VolumeCore where
  master := s.masterVolume
  pending := s.volumePending
  confirmed := s.confirmedMasterVolume
  generation := s.generations.volume

/-- The readings the shell shows as the backend reports them. -/
structure Readings where
  muted : Option Bool
  latency : Option LatencyReading
  levels : Option LevelMap
  groups : Option (List SavedGroupReading)
  audio : Option AudioSourceReading

def AppState.readings (s : AppState) : Readings where
  muted := s.muted
  latency := s.latency
  levels := s.receiverLevels
  groups := s.savedGroups
  audio := s.audioSource

/-- The readings once a backend event has been taken. -/
def Readings.take (r : Readings) : ControllerEvent → Readings
  | .muteChanged muted => { r with muted := some muted }
  | .latencyChanged reading => { r with latency := some reading }
  | .receiverLevelsChanged levels => { r with levels := some levels }
  | .savedGroupsChanged groups => { r with groups := some groups }
  | .audioSourceChanged reading => { r with audio := some reading }
  | _ => r

def Readings.after (r : Readings) : AppEvent → Readings
  | .controller event => r.take event
  | _ => r

/-- The generation of the volume an effect asks for. -/
def AppEffect.volumeGeneration : AppEffect → Option GenerationId
  | .applyVolume generation _ => some generation
  | _ => none

def volumeGenerations (effects : List AppEffect) : List GenerationId :=
  effects.filterMap AppEffect.volumeGeneration

theorem volumeGenerations_append (a b : List AppEffect) :
    volumeGenerations (a ++ b) = volumeGenerations a ++ volumeGenerations b :=
  List.filterMap_append

/-- The volume an event reports, with its generation. -/
def AppEvent.volume : AppEvent → Option (GenerationId × F32)
  | .controller (.volumeApplied generation volume) => some (generation, volume)
  | _ => none

/-- What a turn does to the level shown. -/
inductive ReadingMove (s : AppState) (e : AppEvent) (s' : AppState) (effects : List AppEffect) :
    Prop
  | kept (he : e.volume = none) (hv : s'.volumes = s.volumes)
      (hr : s'.readings = s.readings.after e) (hf : volumeGenerations effects = [])
  | dragged (volume : F32) (confirmed : Option F32) (he : e.volume = none) (hv : s'.volumes =
        { master := volume, pending := true, confirmed, generation := s.generations.volume + 1 })
      (hr : s'.readings = s.readings.after e)
      (hf : volumeGenerations effects = [s.generations.volume + 1])
  | reported (generation : GenerationId) (volume : F32) (he : e.volume = some (generation, volume))
      (hv : s'.volumes = (volumeApplied s generation volume).state.volumes)
      (hr : s'.readings = s.readings.after e) (hf : volumeGenerations effects = [])
  /-- The controller is gone: what was confirmed last stands. -/
  | givenUp (he : e.volume = none) (hv : s'.volumes = { s.volumes with
          master := if s.volumePending then s.confirmedMasterVolume.getD s.masterVolume
            else s.masterVolume
          pending := false })
      (hr : s'.readings = s.readings.after e) (hf : volumeGenerations effects = [])

variable {fp : Footprint}

theorem Differ.readings {s t : AppState} (h : Differ fp s t)
    (hv : fp.volume = false) (hr : fp.readings = false) :
    t.volumes = s.volumes ∧ t.readings = s.readings := by
  rw [h]
  simp only [AppState.volumes, AppState.readings, AppState.within, hv, hr, cond_false, and_self]

theorem Within.volumeless {s : AppState} {o : Outcome} (h : Within fp s o)
    (hv : fp.volume = false) : volumeGenerations o.effects = [] := by
  refine List.filterMap_eq_nil_iff.mpr (fun eff hmem => ?_)
  have hp := List.all_eq_true.mp h.effects eff hmem
  cases eff <;> simp_all [Footprint.permits, AppEffect.volumeGeneration]

/-- An event whose arm leaves the volume and the readings alone reports
neither. -/
theorem AppEvent.unread {e : AppEvent} (hv : e.footprint.volume = false)
    (hr : e.footprint.readings = false) (r : Readings) :
    e.volume = none ∧ r.after e = r := by
  cases e with
  | controller ev => cases ev <;> first | exact ⟨rfl, rfl⟩ | simp [footprint] at hv hr
  | _ => exact ⟨rfl, rfl⟩

variable (s : AppState)

theorem masterVolumeChanged_readingMove (vol : F32) {e : AppEvent}
    (he : e.volume = none) (hr : s.readings.after e = s.readings) :
    ReadingMove s e (masterVolumeChanged s vol).state (masterVolumeChanged s vol).effects := by
  unfold masterVolumeChanged
  split
  · exact .kept he rfl hr.symm rfl
  · exact .dragged _ _ he rfl hr.symm rfl

theorem volumeApplied_kept (gen : GenerationId) (vol : F32) :
    (volumeApplied s gen vol).state.readings = s.readings ∧
      (volumeApplied s gen vol).effects = [] := by
  unfold volumeApplied
  simp only
  split
  · exact ⟨rfl, rfl⟩
  · exact ⟨rfl, rfl⟩

variable (e : AppEvent)

theorem dispatch_readingMove [Lowercase] :
    ReadingMove s e (dispatch s e).state (dispatch s e).effects := by
  have hw := dispatch_within s e
  cases hl : e.footprint.volume with
  | false =>
    cases hd : e.footprint.readings with
    | false =>
      obtain ⟨hu, ha⟩ := AppEvent.unread hl hd s.readings
      obtain ⟨hv, hr⟩ := hw.state.readings hl hd
      exact .kept hu hv (hr.trans ha.symm) (hw.volumeless hl)
    | true =>
      cases e with
      | hardwareCheck action => cases action <;> cases hd
      | controller ev => cases ev <;> first | exact .kept rfl rfl rfl rfl | cases hd
      | _ => cases hd
  | true =>
    cases e with
    | hardwareCheck action =>
      cases action with
      | lowerVolume =>
        simp only [dispatch, hardwareCheckRequested]
        split
        · exact .kept rfl rfl rfl rfl
        · exact masterVolumeChanged_readingMove s _ rfl rfl
      | _ => cases hl
    | masterVolumeChanged vol => exact masterVolumeChanged_readingMove s vol rfl rfl
    | controller ev =>
      cases ev with
      | volumeApplied gen vol =>
        have hk := volumeApplied_kept s gen vol
        exact .reported gen vol rfl rfl hk.1 (by rw [dispatch, hk.2]; rfl)
      | channelClosed => exact .givenUp rfl rfl rfl rfl
      | _ => cases hl
    | _ => cases hl

theorem ObserveMove.readingsKept {s : AppState} {ev : HardwareCheckObservation}
    {o : Outcome} (h : ObserveMove s ev o) :
    o.state.volumes = s.volumes ∧ o.state.readings = s.readings ∧
      volumeGenerations o.effects = [] := by
  obtain ⟨hv, hr⟩ := h.differ.readings rfl rfl
  refine ⟨hv, hr, ?_⟩
  rcases h.effects_cases with hf | ⟨gen, hf | hf⟩ <;> rw [hf] <;> rfl

theorem reduce_readingMove [Lowercase] : ReadingMove s e (reduce s e).1 (reduce s e).2.effects := by
  cases reduce_move s e with
  | refused _ he heq =>
    rw [heq]
    refine .kept ?_ rfl ?_ rfl
    · cases e <;> first | rfl | cases he
    · cases e <;> first | rfl | cases he
  | reacted _ _ ho _ hs hx =>
    obtain ⟨hobsVol, hobsRea, hobsFx⟩ := ho.readingsKept
    have hl : (reduce s e).1.volumes = (dispatch s e).state.volumes := by
      rw [hs]
      exact hobsVol
    have hd : (reduce s e).1.readings = (dispatch s e).state.readings := by
      rw [hs]
      exact hobsRea
    have hg : volumeGenerations (reduce s e).2.effects
        = volumeGenerations (dispatch s e).effects := by
      rw [hx, volumeGenerations_append, hobsFx, List.append_nil]
    cases dispatch_readingMove s e with
    | kept he hv hr hf => exact .kept he (hl.trans hv) (hd.trans hr) (hg.trans hf)
    | dragged vol confirmed he hv hr hf =>
      exact .dragged vol confirmed he (hl.trans hv) (hd.trans hr) (hg.trans hf)
    | reported gen vol he hv hr hf =>
      exact .reported gen vol he (hl.trans hv) (hd.trans hr) (hg.trans hf)
    | givenUp he hv hr hf => exact .givenUp he (hl.trans hv) (hd.trans hr) (hg.trans hf)

/-- A reading replaces the one before it, and nothing else does. -/
theorem reduce_readings [Lowercase] : (reduce s e).1.readings = s.readings.after e := by
  cases reduce_readingMove s e with
  | kept _ _ hr => exact hr
  | dragged _ _ _ _ hr => exact hr
  | reported _ _ _ _ hr => exact hr
  | givenUp _ _ hr => exact hr

end OpenAirCast

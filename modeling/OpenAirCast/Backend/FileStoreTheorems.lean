/-
Backend.FileStoreTheorems — device state and calibration never
overwrite each other.

`Sections` is what the file is for: two registers that are written
independently. `Holds` says which contents of the state file stand for
which sections; it is what the two document versions and the carrying
forward amount to. A write that succeeds moves both alike, a write that
fails moves neither (`perform_holds`), so what a launch finds is what was
last written to each register.
-/
import OpenAirCast.Backend.FileStore

namespace OpenAirCast.Backend

open Option List

/-- What the store relies on: whatever was serialized parses to itself, and
the version can be probed. -/
structure Codec.RoundTrips {Bytes : Type} (codec : Codec Bytes) : Prop where
  v1 : ∀ {state : PersistedState} {bytes : Bytes}, codec.toVecPrettyV1 state = .ok bytes →
    codec.versionProbe bytes = some state.version ∧ codec.fromSliceV1 bytes = some state
  v2 : ∀ {state : PersistedStateV2} {bytes : Bytes}, codec.toVecPrettyV2 state = .ok bytes →
    codec.versionProbe bytes = some state.version ∧ codec.fromSliceV2 bytes = .ok state

/-! ## The two registers -/

section

variable [Lowercase]

/-- One call that writes. -/
inductive Write where
  | save (state : LoadedState)
  | saveCalibration (calibration : Option CalibrationState)

/-- The two sections, as far as they were written. -/
structure Sections where
  state : Option LoadedState := none
  calibration : Option CalibrationState := none

/-- Clearing the calibration writes the zero profile. -/
def Sections.write (sections : Sections) : Write → Sections
  | .save state => { sections with state := some state }
  | .saveCalibration calibration => { sections with calibration := some (calibration.getD {}) }

/-- The saved states among the writes. -/
def savedStates (writes : List Write) : List PersistedState :=
  writes.filterMap (fun
    | .save state => some state.state
    | .saveCalibration _ => none)

/-- The saved calibrations among them. -/
def savedCalibrations (writes : List Write) : List CalibrationState :=
  writes.filterMap (fun
    | .save _ => none
    | .saveCalibration calibration => some (calibration.getD {}))

/-- After any writes a register holds the last value written to it. -/
theorem foldl_write (writes : List Write) : ∀ sections : Sections,
    (writes.foldl Sections.write sections).state.map (·.state) =
        (savedStates writes).getLast?.or (sections.state.map (·.state)) ∧
      (writes.foldl Sections.write sections).calibration =
        (savedCalibrations writes).getLast?.or sections.calibration := by
  induction writes with
  | nil => simp [savedStates, savedCalibrations]
  | cons w rest ih =>
    intro sections
    obtain ⟨hs, hc⟩ := ih (sections.write w)
    rw [foldl_cons, hs, hc]
    cases w with
    | save =>
      simp only [savedStates, savedCalibrations, Sections.write, filterMap_cons, getLast?_cons]
      cases (rest.filterMap _).getLast? <;> simp
    | saveCalibration =>
      simp only [savedStates, savedCalibrations, Sections.write, filterMap_cons, getLast?_cons]
      cases (rest.filterMap _).getLast? <;> simp

/-! ## The conversions -/

variable (state : LoadedState)

theorem LoadedState.version_eq : state.state.version = 1 := by
  have hv := state.valid
  unfold PersistedState.validate at hv
  split at hv
  · cases hv
  · omega

theorem LoadedState.preferences :
    validatePreferences state.state.latencyPreset state.state.savedGroups = .ok () := by
  have hv := state.valid
  unfold PersistedState.validate at hv
  rwa [if_neg (by rw [state.version_eq]; decide)] at hv

/-- The version 2 document with these sections. -/
def LoadedState.withCalibration (state : LoadedState) (calibration : CalibrationState) :
    PersistedStateV2 :=
  { PersistedStateV2.ofV1 state.state with calibration }

section

variable (state : LoadedState) (calibration : CalibrationState)

@[simp] theorem withCalibration_version : (state.withCalibration calibration).version = 2 := rfl

@[simp] theorem withCalibration_calibration :
    (state.withCalibration calibration).calibration = calibration := rfl

/-- Promotion and projection undo each other. -/
theorem withCalibration_projection :
    (state.withCalibration calibration).intoV1Projection = state.state := by
  have hv : 1 = state.state.version := state.version_eq.symm
  simp only [PersistedStateV2.intoV1Projection, LoadedState.withCalibration,
    PersistedStateV2.ofV1, hv]

theorem withCalibration_valid : (state.withCalibration calibration).validate = .ok () := by
  unfold PersistedStateV2.validate
  rw [withCalibration_version, if_neg (by decide)]
  exact state.preferences

end

theorem withCalibration_twice (first second : CalibrationState) :
    { state.withCalibration first with calibration := second } = state.withCalibration second := rfl

theorem defaults_withCalibration (calibration : CalibrationState) :
    ({ ({} : PersistedStateV2) with calibration } : PersistedStateV2) =
      LoadedState.defaults.withCalibration calibration := rfl

/-! ## What the file stands for -/

variable {Bytes : Type} {codec : Codec Bytes}

/-- The contents of the state file stand for the sections. -/
inductive Holds (codec : Codec Bytes) : Option Bytes → Sections → Prop
  | missing : Holds codec none {}
  | v1 (state : LoadedState) {bytes : Bytes}
      (hp : parseStateDocument codec bytes = .ok (.v1 state.state)) :
      Holds codec (some bytes) { state := some state }
  | v2 (state : Option LoadedState) (calibration : CalibrationState) {bytes : Bytes}
      (hp : parseStateDocument codec bytes =
        .ok (.v2 ((state.getD .defaults).withCalibration calibration))) :
      Holds codec (some bytes) ⟨state, some calibration⟩

theorem parse_toVecPrettyV1 (h : codec.RoundTrips) {state : LoadedState} {bs : Bytes}
    (hb : codec.toVecPrettyV1 state.state = .ok bs) :
    parseStateDocument codec bs = .ok (.v1 state.state) := by
  obtain ⟨hv, hp⟩ := h.v1 hb
  rw [state.version_eq] at hv
  simp only [parseStateDocument, hv, hp]

omit [Lowercase] in
theorem parse_toVecPrettyV2 (h : codec.RoundTrips) {state : PersistedStateV2} {bs : Bytes}
    (hs : state.version = 2) (hb : codec.toVecPrettyV2 state = .ok bs) :
    parseStateDocument codec bs = .ok (.v2 state) := by
  obtain ⟨hv, hp⟩ := h.v2 hb
  rw [hs] at hv
  simp only [parseStateDocument, hv, hp]

namespace Disk

variable {disk : Disk Bytes} {sections : Sections}

theorem carriedCalibration_holds (h : Holds codec disk.stateFile sections) :
    carriedCalibration codec disk.stateFile = sections.calibration := by
  generalize disk.stateFile = file at h
  cases h with
  | missing => rfl
  | v1 _ hp => simp [carriedCalibration, hp]
  | v2 _ _ hp => simp [carriedCalibration, hp]

variable (fs : FileSystem)

/-- A calibration is merged into the state that is held. -/
theorem migrated_holds (h : Holds codec disk.stateFile sections) (calibration : CalibrationState) :
    ∃ state, disk.migrated codec fs disk.stateFile = (disk, .ok state) ∧
      { state with calibration } = (sections.state.getD .defaults).withCalibration calibration := by
  unfold migrated
  generalize disk.stateFile = file at h ⊢
  cases h with
  | missing => exact ⟨{}, rfl, defaults_withCalibration calibration⟩
  | v1 state hp =>
    rw [map_some, hp]
    exact ⟨.ofV1 state.state, rfl, rfl⟩
  | v2 _ _ hp =>
    rw [map_some, hp]
    exact ⟨_, rfl, withCalibration_twice _ _ _⟩

omit [Lowercase] in
/-- A replacement that fails leaves the disk alone. -/
theorem replaceAtomically_cases (disk : Disk Bytes) (bs : Bytes) :
    (∃ err, disk.replaceAtomically fs bs = (disk, .error err)) ∨
      disk.replaceAtomically fs bs = ({ disk with stateFile := some bs }, .ok ()) := by
  unfold replaceAtomically
  split
  · exact .inl ⟨_, rfl⟩
  · exact .inr rfl

/-- A call that writes. -/
def perform (codec : Codec Bytes) (fs : FileSystem) (disk : Disk Bytes) :
    Write → Disk Bytes × Except PersistError Unit
  | .save state => disk.writeAtomicSync codec fs state.state
  | .saveCalibration calibration => disk.saveCalibration codec fs calibration

theorem writeAtomicSync_holds (codec_ok : codec.RoundTrips)
    (h : Holds codec disk.stateFile sections) (state : LoadedState) :
    (∃ error, disk.writeAtomicSync codec fs state.state = (disk, .error error)) ∨
      ∃ bytes, disk.writeAtomicSync codec fs state.state =
          ({ disk with stateFile := some bytes }, .ok ()) ∧
        Holds codec (some bytes) (sections.write (.save state)) := by
  unfold writeAtomicSync readStateBytes
  rw [state.valid]
  cases fs.read with
  | error => exact .inl ⟨_, rfl⟩
  | ok =>
    simp only [Except.map]
    rw [carriedCalibration_holds h]
    cases hc : sections.calibration with
    | none =>
      dsimp only
      cases hb : codec.toVecPrettyV1 state.state with
      | error => exact .inl ⟨_, rfl⟩
      | ok bytes =>
        obtain hf | hd := replaceAtomically_cases fs disk bytes
        · exact .inl hf
        · refine .inr ⟨bytes, hd, ?_⟩
          rw [Sections.write, hc]
          exact .v1 state (parse_toVecPrettyV1 codec_ok hb)
    | some calibration =>
      dsimp only
      cases hb : codec.toVecPrettyV2 (state.withCalibration calibration) with
      | error =>
        unfold LoadedState.withCalibration at hb
        rw [hb]
        exact .inl ⟨_, rfl⟩
      | ok bytes =>
        have hp := parse_toVecPrettyV2 codec_ok (withCalibration_version state calibration) hb
        unfold LoadedState.withCalibration at hb
        rw [hb]
        obtain hf | hd := replaceAtomically_cases fs disk bytes
        · exact .inl hf
        · refine .inr ⟨bytes, hd, ?_⟩
          rw [Sections.write, hc]
          exact .v2 (some state) calibration hp

theorem saveCalibration_holds (codec_ok : codec.RoundTrips)
    (h : Holds codec disk.stateFile sections) (calibration : Option CalibrationState) :
    (∃ error, disk.saveCalibration codec fs calibration = (disk, .error error)) ∨
      ∃ bytes, disk.saveCalibration codec fs calibration =
          ({ disk with stateFile := some bytes }, .ok ()) ∧
        Holds codec (some bytes) (sections.write (.saveCalibration calibration)) := by
  unfold saveCalibration readStateBytes
  cases fs.read with
  | error => exact .inl ⟨_, rfl⟩
  | ok =>
    obtain ⟨state, hm, hr⟩ := migrated_holds fs h (calibration.getD {})
    simp only [Except.map, hm]
    rw [hr]
    unfold writeAtomicSyncV2
    rw [withCalibration_valid]
    dsimp only
    cases hb : codec.toVecPrettyV2
        ((sections.state.getD .defaults).withCalibration (calibration.getD {})) with
    | error error => exact .inl ⟨_, rfl⟩
    | ok bytes =>
      have hp := parse_toVecPrettyV2 codec_ok (withCalibration_version _ _) hb
      obtain hf | hd := replaceAtomically_cases fs disk bytes
      · exact .inl hf
      · exact .inr ⟨bytes, hd, .v2 sections.state _ hp⟩

/-- One write: it fails and nothing changed, or the file holds what the
write makes of the sections. -/
theorem perform_holds (codec_ok : codec.RoundTrips) (h : Holds codec disk.stateFile sections)
    (w : Write) :
    (∃ err, disk.perform codec fs w = (disk, .error err)) ∨
      ∃ bs, disk.perform codec fs w = ({ disk with stateFile := some bs }, .ok ()) ∧
        Holds codec (some bs) (sections.write w) := by
  cases w with
  | save state => exact writeAtomicSync_holds fs codec_ok h state
  | saveCalibration calibration => exact saveCalibration_holds fs codec_ok h calibration

/-! ## Runs -/

/-- The writes one after the other, each with the file system it meets: the
disk afterwards, and the writes that succeeded. -/
def performAll (codec : Codec Bytes) (disk : Disk Bytes) :
    List (Write × FileSystem) → Disk Bytes × List Write
  | [] => (disk, [])
  | (w, fs) :: rest =>
    match disk.perform codec fs w with
    | (disk, .error _) => performAll codec disk rest
    | (disk, .ok _) => ((performAll codec disk rest).1, w :: (performAll codec disk rest).2)

theorem performAll_holds (codec_ok : codec.RoundTrips) (atts : List (Write × FileSystem)) :
    ∀ {disk : Disk Bytes} {sections : Sections}, Holds codec disk.stateFile sections →
      Holds codec (disk.performAll codec atts).1.stateFile
        ((disk.performAll codec atts).2.foldl Sections.write sections) := by
  induction atts with
  | nil => exact fun h => h
  | cons att _ ih =>
    intro disk sections h
    obtain ⟨w, fs⟩ := att
    unfold performAll
    obtain ⟨_, hf⟩ | ⟨_, hd, hh⟩ := perform_holds fs codec_ok h w
    · rw [hf]
      exact ih h
    · rw [hd]
      exact ih hh

theorem load_holds {fs : FileSystem} (h : Holds codec disk.stateFile sections)
    (hw : sections.state ≠ none ∨ sections.calibration ≠ none)
    (hr : fs.read = .ok ()) :
    disk.load codec fs = (disk, .ok (.loaded (sections.state.getD .defaults).state)) := by
  unfold load readStateBytes
  rw [hr]
  simp only [Except.map]
  generalize disk.stateFile = file at h
  cases h with
  | missing => simp at hw
  | v1 state hp => simp only [hp, state.valid, getD_some]
  | v2 _ _ hp => simp only [hp, withCalibration_valid, withCalibration_projection]

theorem loadCalibration_holds {fs : FileSystem} (h : Holds codec disk.stateFile sections)
    (hr : fs.read = .ok ()) :
    disk.loadCalibration codec fs = .ok sections.calibration := by
  unfold loadCalibration readStateBytes
  rw [hr]
  simp only [Except.map]
  generalize disk.stateFile = file at h
  cases h with
  | missing => rfl
  | v1 _ hp => simp only [hp]
  | v2 _ _ hp => simp only [hp, withCalibration_calibration]

/-- The device state in the file, the defaults where it is missing. -/
def deviceState (codec : Codec Bytes) (disk : Disk Bytes) : PersistedState :=
  match disk.stateFile.map (parseStateDocument codec) with
  | some (.ok (.v1 state)) => state
  | some (.ok (.v2 state)) => state.intoV1Projection
  | _ => {}

theorem deviceState_holds (h : Holds codec disk.stateFile sections) :
    disk.deviceState codec = (sections.state.getD .defaults).state := by
  unfold deviceState
  generalize disk.stateFile = file at h
  cases h with
  | missing => rfl
  | v1 _ hp => simp only [map_some, hp, getD_some]
  | v2 _ _ hp => simp only [map_some, hp, withCalibration_projection]

/-- A run of writes leaves a register written if any of them succeeded. -/
theorem written_of_succeeded : ∀ {writes : List Write}, writes ≠ [] →
    (writes.foldl Sections.write {}).state ≠ none ∨
      (writes.foldl Sections.write {}).calibration ≠ none := by
  have hk : ∀ (writes : List Write) (sections : Sections),
      sections.state ≠ none ∨ sections.calibration ≠ none →
        (writes.foldl Sections.write sections).state ≠ none ∨
          (writes.foldl Sections.write sections).calibration ≠ none := by
    intro writes
    induction writes with
    | nil => exact fun _ h => h
    | cons w _ ih =>
      intro sections h
      refine ih (sections.write w) ?_
      cases w <;> simp [Sections.write]
  intro writes hne
  obtain ⟨w, rest, rfl⟩ := exists_cons_of_ne_nil hne
  refine hk rest _ ?_
  cases w <;> simp [Sections.write]

/-- Whatever is written from a missing file on, with whatever failures: a
launch finds the last state and the last calibration that were saved, and no
write touches the other section or, failing, either. -/
structure Independent (codec : Codec Bytes) (disk : Disk Bytes) (succeeded : List Write) :
    Prop where
  loads : succeeded ≠ [] → ∀ fs : FileSystem, fs.read = .ok () →
    disk.load codec fs = (disk, .ok (.loaded ((savedStates succeeded).getLast?.getD {})))
  loadsCalibration : ∀ fs : FileSystem, fs.read = .ok () →
    disk.loadCalibration codec fs = .ok (savedCalibrations succeeded).getLast?
  /-- A save keeps the calibration. -/
  save : ∀ (fs reading : FileSystem) (state : LoadedState),
    (disk.writeAtomicSync codec fs state.state).1.loadCalibration codec reading =
      disk.loadCalibration codec reading
  /-- Saving a calibration keeps everything else. -/
  saveCalibration : ∀ (fs : FileSystem) (calibration : Option CalibrationState),
    (disk.saveCalibration codec fs calibration).1.deviceState codec = disk.deviceState codec
  failed : ∀ (fs : FileSystem) (w : Write) (error : PersistError),
    (disk.perform codec fs w).2 = .error error → (disk.perform codec fs w).1 = disk

theorem independent_of_holds (codec_ok : codec.RoundTrips) {succeeded : List Write}
    (h : Holds codec disk.stateFile (succeeded.foldl Sections.write {})) :
    Independent codec disk succeeded := by
  obtain ⟨hs, hc⟩ := foldl_write succeeded {}
  simp only [map_none, or_none] at hs hc
  refine ⟨?_, ?_, ?_, ?_, ?_⟩
  · intro hne fs hr
    rw [load_holds h (written_of_succeeded hne) hr, ← hs]
    cases (succeeded.foldl Sections.write {}).state <;> rfl
  · intro fs hr
    rw [loadCalibration_holds h hr, hc]
  · intro fs rdg state
    obtain ⟨error, hf⟩ | ⟨bytes, hd, hh⟩ := writeAtomicSync_holds fs codec_ok h state
    · rw [hf]
    · rw [hd]
      unfold loadCalibration
      cases hr : rdg.read with
      | error => simp only [readStateBytes, hr, Except.map]
      | ok =>
        have ha : Holds codec ({ disk with stateFile := some bytes } : Disk Bytes).stateFile _ := hh
        exact (loadCalibration_holds ha hr).trans (loadCalibration_holds h hr).symm
  · intro fs calibration
    obtain ⟨error, hf⟩ | ⟨bytes, hd, hh⟩ := saveCalibration_holds fs codec_ok h calibration
    · rw [hf]
    · have ha : Holds codec ({ disk with stateFile := some bytes } : Disk Bytes).stateFile _ := hh
      rw [hd, deviceState_holds h, deviceState_holds ha]
      rfl
  · intro fs w error he
    obtain ⟨_, hf⟩ | ⟨_, hd, -⟩ := perform_holds fs codec_ok h w
    · rw [hf]
    · rw [hd] at he
      cases he

/-- Saves of the device state and of the calibration, each succeeding or
failing, are independent of one another. -/
theorem sections_independent (codec_ok : codec.RoundTrips) (legacyVolume : Option Volume)
    (attempts : List (Write × FileSystem)) :
    Independent codec (performAll codec { legacyVolume } attempts).1
      (performAll codec { legacyVolume } attempts).2 :=
  independent_of_holds codec_ok (performAll_holds codec_ok attempts .missing)

end Disk

/-! ## A codec -/

/-- Documents are kept as they are: `serde_json` up to the text. -/
def documents : Codec StateDocument where
  versionProbe
    | .v1 state => some state.version
    | .v2 state => some state.version
  fromSliceV1
    | .v1 state => some state
    | .v2 state => some { state.intoV1Projection with version := state.version }
  fromSliceV2
    | .v1 _ => .error "missing field: calibration"
    | .v2 state => .ok state
  toVecPrettyV1 state := .ok (.v1 state)
  toVecPrettyV2 state := .ok (.v2 state)

omit [Lowercase] in
theorem documents_roundTrips : documents.RoundTrips where
  v1 h := by
    obtain rfl := Except.ok.inj h
    exact ⟨rfl, rfl⟩
  v2 h := by
    obtain rfl := Except.ok.inj h
    exact ⟨rfl, rfl⟩

/-- A state, a calibration, a state that cannot be put in place, and one
that is saved over the calibration. -/
def mixed : List (Write × FileSystem) :=
  [(.save .defaults, {}),
    (.saveCalibration (some { delaysNs := SortedMap.empty.insert ⟨1⟩ 5 }), {}),
    (.save ⟨{ muted := true }, rfl⟩, { replace := .error (.replace "denied") }),
    (.save ⟨{ autoConnect := true }, rfl⟩, {})]

end

namespace Disk

theorem sections_independent_mixed : @Independent asciiLowercase _ documents
    (@performAll asciiLowercase _ documents {} (@mixed asciiLowercase)).1
    (@performAll asciiLowercase _ documents {} (@mixed asciiLowercase)).2 :=
  @sections_independent asciiLowercase _ documents documents_roundTrips none (@mixed asciiLowercase)

/-- Saving no calibration stores the zero profile, which is then loaded. -/
theorem cleared_calibration_loads_zero_profile :
    let cleared := @saveCalibration _ asciiLowercase documents {} {} none
    cleared.2 = .ok () ∧ cleared.1.loadCalibration documents {} = .ok (some {}) ∧
      cleared.1.loadCalibration documents {} ≠ .ok none := by
  refine ⟨rfl, rfl, ?_⟩
  intro hn
  cases hn

end Disk

end OpenAirCast.Backend

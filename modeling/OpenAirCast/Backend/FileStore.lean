/-
Backend.FileStore — the state file, from `FileStore` in
`backend/persistence.rs`.

One file holds two documents' worth of state. Version 1 is the device state
alone; version 2 adds the calibration. Whoever writes one section reads the
file first and writes the other one back with it.

Translation notes.

* The state file is its content, `none` when it is missing. A replacement
  either happens or leaves the file as it was.
* `serde_json` is a third-party codec: `Codec` is what the code calls of it,
  over any type of contents.
* `FileSystem` is how the file system answers during one call; a read that
  fails does so for the whole call. The temporary file, the paths and the
  time stamp in the name of a quarantined file are left out.
-/
import OpenAirCast.Backend.Persistence

namespace OpenAirCast.Backend

/-! ## Schema version 2 -/

/-- `CalibrationStateV2`. -/
structure CalibrationState where
  reference : Option ReceiverId := none
  delaysNs : SortedMap ReceiverId Int64 := .empty

structure PersistedStateV2 where
  version : Nat := 2
  masterVolume : Volume := .DEFAULT_MASTER
  muted : Bool := false
  receiverLevels : SortedMap ReceiverId Volume := .empty
  savedGroups : List SavedGroup := []
  lastDesiredMembers : Finset ReceiverId := ∅
  audioEndpoint : AudioEndpointPreference := .systemDefault
  latencyPreset : LatencyPreset := .normal
  autoConnect : Bool := false
  calibration : CalibrationState := {}

/-- `PersistedStateV2::from`. -/
def PersistedStateV2.ofV1 (state : PersistedState) : PersistedStateV2 where
  version := 2
  masterVolume := state.masterVolume
  muted := state.muted
  receiverLevels := state.receiverLevels
  savedGroups := state.savedGroups
  lastDesiredMembers := state.lastDesiredMembers
  audioEndpoint := state.audioEndpoint
  latencyPreset := state.latencyPreset
  autoConnect := state.autoConnect
  calibration := {}

def PersistedStateV2.intoV1Projection (state : PersistedStateV2) : PersistedState where
  version := 1
  masterVolume := state.masterVolume
  muted := state.muted
  receiverLevels := state.receiverLevels
  savedGroups := state.savedGroups
  lastDesiredMembers := state.lastDesiredMembers
  audioEndpoint := state.audioEndpoint
  latencyPreset := state.latencyPreset
  autoConnect := state.autoConnect

def PersistedStateV2.validate [Lowercase] (state : PersistedStateV2) : Except Invalid Unit :=
  if state.version ≠ 2 then .error (.unsupportedVersion state.version)
  else validatePreferences state.latencyPreset state.savedGroups

/-! ## Reading a document -/

inductive PersistError where
  | createDirectory (error : String)
  | serialize (error : String)
  | writeTemporary (error : String)
  | sync (error : String)
  | replace (error : String)
  | invalid (reason : Invalid)
  /-- `Invalid` with "schema-v2 state is invalid". -/
  | invalidSchemaV2 (error : String)
  | io (error : String)

/-- What the code calls of `serde_json`. -/
structure Codec (Bytes : Type) where
  versionProbe : Bytes → Option Nat
  fromSliceV1 : Bytes → Option PersistedState
  fromSliceV2 : Bytes → Except String PersistedStateV2
  toVecPrettyV1 : PersistedState → Except String Bytes
  toVecPrettyV2 : PersistedStateV2 → Except String Bytes

inductive StateDocument where
  | v1 (state : PersistedState)
  | v2 (state : PersistedStateV2)

inductive ParseStateError where
  | unrecognizable
  | unknownVersion (version : Nat)
  | malformedSchemaV2 (error : String)

/-- `LoadOutcome`, without the paths it names. -/
inductive LoadOutcome where
  | loaded (state : PersistedState)
  | freshDefaults
  | recoveredCorrupt
  | migratedLegacyVolume (state : PersistedState)

structure Disk (Bytes : Type) where
  /-- The state file. -/
  stateFile : Option Bytes := none
  /-- The volume that can be read and parsed from `volume.txt`, if any. -/
  legacyVolume : Option Volume := none
  /-- What was renamed aside. -/
  quarantined : List Bytes := []

structure FileSystem where
  read : Except String Unit := .ok ()
  rename : Except String Unit := .ok ()
  replace : Except PersistError Unit := .ok ()

variable {Bytes : Type} [Lowercase]

def parseStateDocument (codec : Codec Bytes) (bytes : Bytes) :
    Except ParseStateError StateDocument :=
  match codec.versionProbe bytes with
  | none => .error .unrecognizable
  | some 1 =>
    match codec.fromSliceV1 bytes with
    | some state => .ok (.v1 state)
    | none => .error .unrecognizable
  | some 2 =>
    match codec.fromSliceV2 bytes with
    | .ok state => .ok (.v2 state)
    | .error error => .error (.malformedSchemaV2 error)
  | some other => .error (.unknownVersion other)

namespace Disk

variable (codec : Codec Bytes) (fs : FileSystem) (disk : Disk Bytes)

def readStateBytes : Except String (Option Bytes) :=
  fs.read.map (fun _ => disk.stateFile)

def quarantineCorrupt : Disk Bytes × Except PersistError LoadOutcome :=
  match fs.rename with
  | .error error => (disk, .error (.io error))
  | .ok _ =>
    ({ disk with stateFile := none, quarantined := disk.stateFile.toList ++ disk.quarantined },
      .ok .recoveredCorrupt)

/-! ## Writing -/

def replaceAtomically (bytes : Bytes) : Disk Bytes × Except PersistError Unit :=
  match fs.replace with
  | .error error => (disk, .error error)
  | .ok _ => ({ disk with stateFile := some bytes }, .ok ())

/-- The calibration that is carried forward over a save. -/
def carriedCalibration (bytes : Option Bytes) : Option CalibrationState :=
  match bytes.map (parseStateDocument codec) with
  | some (.ok (.v2 existing)) => some existing.calibration
  | _ => none

/-- `save`. -/
def writeAtomicSync (state : PersistedState) : Disk Bytes × Except PersistError Unit :=
  match state.validate with
  | .error reason => (disk, .error (.invalid reason))
  | .ok _ =>
    match disk.readStateBytes fs with
    | .error error => (disk, .error (.io error))
    | .ok current =>
      let bytes :=
        match carriedCalibration codec current with
        | some calibration => codec.toVecPrettyV2 { PersistedStateV2.ofV1 state with calibration }
        | none => codec.toVecPrettyV1 state
      match bytes with
      | .error error => (disk, .error (.serialize error))
      | .ok bytes => disk.replaceAtomically fs bytes

def writeAtomicSyncV2 (state : PersistedStateV2) : Disk Bytes × Except PersistError Unit :=
  match state.validate with
  | .error reason => (disk, .error (.invalid reason))
  | .ok _ =>
    match codec.toVecPrettyV2 state with
    | .error error => (disk, .error (.serialize error))
    | .ok bytes => disk.replaceAtomically fs bytes

/-- The document a calibration is merged into. -/
def migrated (current : Option Bytes) : Disk Bytes × Except PersistError PersistedStateV2 :=
  match current.map (parseStateDocument codec) with
  | none => (disk, .ok {})
  | some (.ok (.v1 state)) => (disk, .ok (.ofV1 state))
  | some (.ok (.v2 state)) => (disk, .ok state)
  | some (.error (.unknownVersion version)) =>
    (disk, .error (.invalid (.unsupportedVersion version)))
  | some (.error (.malformedSchemaV2 error)) => (disk, .error (.invalidSchemaV2 error))
  | some (.error .unrecognizable) =>
    match disk.quarantineCorrupt fs with
    | (disk, .error error) => (disk, .error error)
    | (disk, .ok _) => (disk, .ok {})

/-- `save_calibration_blocking`. -/
def saveCalibration (calibration : Option CalibrationState) :
    Disk Bytes × Except PersistError Unit :=
  match disk.readStateBytes fs with
  | .error error => (disk, .error (.io error))
  | .ok current =>
    match disk.migrated codec fs current with
    | (disk, .error error) => (disk, .error error)
    | (disk, .ok state) =>
      disk.writeAtomicSyncV2 codec fs { state with calibration := calibration.getD {} }

/-! ## Loading -/

/-- A seeded state that could not be written only reaches a log line. -/
def loadMissing : Disk Bytes × LoadOutcome :=
  match disk.legacyVolume with
  | none => (disk, .freshDefaults)
  | some volume =>
    let state : PersistedState := { masterVolume := volume }
    ((disk.writeAtomicSync codec fs state).1, .migratedLegacyVolume state)

/-- `load_blocking`. -/
def load : Disk Bytes × Except PersistError LoadOutcome :=
  match disk.readStateBytes fs with
  | .error _ => disk.quarantineCorrupt fs
  | .ok none =>
    let (disk, outcome) := disk.loadMissing codec fs
    (disk, .ok outcome)
  | .ok (some bytes) =>
    match parseStateDocument codec bytes with
    | .ok (.v1 state) =>
      match state.validate with
      | .error reason => (disk, .error (.invalid reason))
      | .ok _ => (disk, .ok (.loaded state))
    | .ok (.v2 state) =>
      match state.validate with
      | .error reason => (disk, .error (.invalid reason))
      | .ok _ => (disk, .ok (.loaded state.intoV1Projection))
    | .error _ => disk.quarantineCorrupt fs

/-- `load_calibration_blocking`. It leaves the disk alone. -/
def loadCalibration : Except PersistError (Option CalibrationState) :=
  match disk.readStateBytes fs with
  | .error error => .error (.io error)
  | .ok none => .ok none
  | .ok (some bytes) =>
    match parseStateDocument codec bytes with
    | .ok (.v2 state) => .ok (some state.calibration)
    | _ => .ok none

end Disk

end OpenAirCast.Backend

/-
Backend.Persistence — the durable device state and its
validation, from `backend/persistence.rs`.

`PersistedState` is `PersistedStateV1`, the document the controller keeps
and hands to the store. `validate` is what every candidate has to pass
before it is written and every file before it is loaded, so `LoadedState`
carries that proof.

Translation notes.

* `BTreeMap<ReceiverId, Volume>` is a `SortedMap`.
* `PartialEq` of a document is `BEq`: it compares volumes as floats, so
  two documents that differ in the sign of a zero are equal.
* `str::trim` takes off the characters of Unicode's `White_Space`.
* The texts of `PersistError::Invalid` only reach a log line. Their cases
  are the constructors of `Invalid`.
-/
import OpenAirCast.Backend.Model
import OpenAirCast.Lib.SortedMap
import OpenAirCast.Lib.Text

namespace OpenAirCast.Backend

/-! ## Levels -/

def Volume.UNITY : Volume := ⟨F32.one, by decide⟩
def Volume.MUTED : Volume := ⟨F32.zero, by decide⟩

/-- The level a receiver plays at. -/
def effectiveVolume (master level : Volume) (muted : Bool) : Volume :=
  if muted then .MUTED else (Volume.new (master.get.mul level.get)).getD .MUTED

/-! ## The document -/

structure SavedGroup where
  id : GroupId
  name : String
  members : List SavedGroupMember
  deriving BEq

def SavedGroup.snapshot (group : SavedGroup) : SavedGroupSnapshot :=
  ⟨group.id, group.name, group.members⟩

/-- `PersistedStateV1`, with the defaults of `PersistedStateV1::default`. -/
structure PersistedState where
  version : Nat := 1
  masterVolume : Volume := .DEFAULT_MASTER
  muted : Bool := false
  receiverLevels : SortedMap ReceiverId Volume := .empty
  savedGroups : List SavedGroup := []
  lastDesiredMembers : Finset ReceiverId := ∅
  audioEndpoint : AudioEndpointPreference := .systemDefault
  latencyPreset : LatencyPreset := .normal
  autoConnect : Bool := false
  deriving BEq

/-- What `PersistError::Invalid` can say. -/
inductive Invalid where
  | unsupportedVersion (version : Nat)
  | latencyPreset
  | groupName (name : String)
  | duplicateName (name : String)
  | noMembers (name : String)
  | duplicateMember (name : String) (receiver : ReceiverId)

/-- The receiver a group lists a second time, if any. -/
def duplicateReceiver (seen : List ReceiverId) : List SavedGroupMember → Option ReceiverId
  | [] => none
  | member :: rest =>
    if member.receiver ∈ seen then some member.receiver
    else duplicateReceiver (member.receiver :: seen) rest

variable [Lowercase]

/-- The loop over the saved groups; `seen` holds the names so far, lowered. -/
def validateGroups (seen : List String) : List SavedGroup → Except Invalid Unit
  | [] => .ok ()
  | group :: rest =>
    let trimmed := trim group.name
    if trimmed = "" ∨ trimmed ≠ group.name then .error (.groupName group.name)
    else if toLowercase trimmed ∈ seen then .error (.duplicateName trimmed)
    else if group.members.isEmpty then .error (.noMembers trimmed)
    else
      match duplicateReceiver [] group.members with
      | some receiver => .error (.duplicateMember trimmed receiver)
      | none => validateGroups (toLowercase trimmed :: seen) rest

def validatePreferences (latencyPreset : LatencyPreset) (savedGroups : List SavedGroup) :
    Except Invalid Unit :=
  if latencyPreset.isEnabled then validateGroups [] savedGroups else .error .latencyPreset

def PersistedState.validate (state : PersistedState) : Except Invalid Unit :=
  if state.version ≠ 1 then .error (.unsupportedVersion state.version)
  else validatePreferences state.latencyPreset state.savedGroups

/-- `LoadOutcome::into_state`: whatever a launch starts from passes its own
validation. -/
structure LoadedState where
  state : PersistedState
  valid : state.validate = .ok ()

/-- `FreshDefaults` and `RecoveredCorrupt`. -/
def LoadedState.defaults : LoadedState := ⟨{}, rfl⟩

end OpenAirCast.Backend

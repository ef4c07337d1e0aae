/-
Diagnostics.ExportTheorems — what the support export says of
whom.

A receiver, session or device that an input names is a `Mention`; the alias
walk is a fold over the mentions in order (`collectInput_eq`). A `Renaming`
puts other identities in place of the mentioned ones and blanks the texts and
retry deadlines. When it keeps the order of the receivers and confuses no two
sessions or devices, the two alias tables say the same of every mention
(`build_stable`), and so do the documents (`supportDocument_renamed`).
-/
import OpenAirCast.Diagnostics.Export

namespace OpenAirCast.Backend

/-! ## Texts and deadlines -/

def Lifecycle.withoutText : Lifecycle → Lifecycle
  | .retryWaiting attempt _ => .retryWaiting attempt 0
  | .failed retryable _ => .failed retryable ""
  | lifecycle => lifecycle

def FullPhase.withoutText : FullPhase → FullPhase
  | .failed generation _ => .failed generation ""
  | phase => phase

def FullDiscoveryPhase.withoutDeadline : FullDiscoveryPhase → FullDiscoveryPhase
  | .retrying attempt _ => .retrying attempt 0
  | phase => phase

end OpenAirCast.Backend

namespace OpenAirCast.Diagnostics

open Backend

theorem supportLifecycle_withoutText (lifecycle : Lifecycle) :
    supportLifecycle lifecycle.withoutText = supportLifecycle lifecycle := by
  cases lifecycle <;> rfl

theorem supportSessionPhase_withoutText (ph : FullPhase) :
    supportSessionPhase ph.withoutText = supportSessionPhase ph := by
  cases ph <;> rfl

theorem discoveryPhaseLabel_withoutDeadline (ph : FullDiscoveryPhase) :
    discoveryPhaseLabel ph.withoutDeadline = discoveryPhaseLabel ph := by
  cases ph <;> rfl

/-! ## Mentions -/

/-- An identity as an input names it. -/
inductive Mention where
  | receiver (id : ReceiverId)
  | session (id : SessionId)
  | device (id : DeviceId)
  deriving DecidableEq

def ReceiverSessionKey.mentions (key : ReceiverSessionKey) : List Mention :=
  [.receiver key.receiverId, .session key.sessionId]

def ReceiverTimingSource.mentions : ReceiverTimingSource → List Mention
  | .ptpSharedFromPrimary (some primary) => [.receiver primary]
  | _ => []

def DiagnosticError.mentions (error : DiagnosticError) : List Mention :=
  error.receiverSession.elim [] ReceiverSessionKey.mentions

def ReceiverDiagnosticsSnapshot.mentions (row : ReceiverDiagnosticsSnapshot) : List Mention :=
  row.key.mentions ++ row.timing.source.mentions ++ row.lastError.elim [] DiagnosticError.mentions

def memberMentions (member : ReceiverId × DeviceId) : List Mention :=
  [.receiver member.1, .device member.2]

def SessionDiagnosticsSnapshot.mentions (session : SessionDiagnosticsSnapshot) : List Mention :=
  .session session.sessionId :: (session.primary.elim [] (fun primary => [.receiver primary])
    ++ session.members.entries.flatMap memberMentions)

def DiagnosticsSnapshot.mentions (snapshot : DiagnosticsSnapshot) : List Mention :=
  snapshot.activeSessionId.elim [] (fun sessionId => [.session sessionId])
    ++ snapshot.session.elim [] SessionDiagnosticsSnapshot.mentions
    ++ snapshot.receivers.flatMap ReceiverDiagnosticsSnapshot.mentions

def DiagnosticPayload.mentions : DiagnosticPayload → List Mention
  | .discoveryReceiver receiver _
  | .receiverTransition receiver _
  | .setupPhaseDuration receiver _ _
  | .retry (some receiver) _ _ => [.receiver receiver]
  | _ => []

def StructuredDiagnosticPayload.mentions : StructuredDiagnosticPayload → List Mention
  | .backend payload => payload.mentions
  | .client event => event.deviceId.elim [] (fun device => [.device device])
  | .error cause => cause.mentions
  | _ => []

def DiagnosticEvent.mentions (event : DiagnosticEvent) : List Mention :=
  event.receiverSession.elim [] ReceiverSessionKey.mentions ++ event.payload.mentions

def SupportExportInput.mentions (input : SupportExportInput) : List Mention :=
  input.latestSnapshot.mentions ++ input.retainedEvents.flatMap DiagnosticEvent.mentions

def SupportCalibrationContext.mentions (calibration : SupportCalibrationContext) : List Mention :=
  calibration.referenceReceiver.elim [] (fun receiver => [.receiver receiver])
    ++ calibration.effective.effectiveDelayNs.keys.map Mention.receiver

def SupportExportContext.mentions (context : SupportExportContext) : List Mention :=
  context.calibration.elim [] SupportCalibrationContext.mentions

/-! ## The walk -/

namespace Identities

def note (ids : Identities) : Mention → Identities
  | .receiver receiver => ids.insertReceiver receiver
  | .session sessionId => ids.rememberSession sessionId
  | .device _ => ids

variable (ids : Identities)

@[simp] theorem note_receiver (recv : ReceiverId) :
    ids.note (.receiver recv) = ids.insertReceiver recv := rfl

@[simp] theorem note_session (sid : SessionId) :
    ids.note (.session sid) = ids.rememberSession sid := rfl

@[simp] theorem note_device (dev : DeviceId) : ids.note (.device dev) = ids := rfl

theorem collectTiming_eq (src : ReceiverTimingSource) (ids : Identities) :
    collectTimingIdentities src ids = src.mentions.foldl note ids := by
  rcases src with _ | _ | _ | _ | prim <;> rfl

theorem collectError_eq (err : DiagnosticError) (ids : Identities) :
    collectErrorIdentities err ids = err.mentions.foldl note ids := by
  unfold collectErrorIdentities DiagnosticError.mentions
  cases err.receiverSession <;> rfl

theorem collectRow_eq (row : ReceiverDiagnosticsSnapshot) (ids : Identities) :
    collectRowIdentities row ids = row.mentions.foldl note ids := by
  unfold collectRowIdentities ReceiverDiagnosticsSnapshot.mentions ReceiverSessionKey.mentions
  dsimp only
  rw [List.foldl_append, List.foldl_append, collectTiming_eq]
  cases row.lastError with
  | none => rfl
  | some err => exact collectError_eq err _

theorem foldl_members (mbrs : List (ReceiverId × DeviceId)) (ids : Identities) :
    (mbrs.map (·.1)).foldl insertReceiver ids = (mbrs.flatMap memberMentions).foldl note ids := by
  induction mbrs generalizing ids with
  | nil => rfl
  | cons _ _ ih => simp [memberMentions, ih]

theorem collectSession_eq (sess : SessionDiagnosticsSnapshot) (ids : Identities) :
    collectSessionIdentities sess ids = sess.mentions.foldl note ids := by
  unfold collectSessionIdentities SessionDiagnosticsSnapshot.mentions
  rw [List.foldl_cons, List.foldl_append, ← foldl_members]
  cases sess.primary <;> rfl

theorem foldl_flatMap_note {α : Type} (collect : α → Identities → Identities)
    (mens : α → List Mention)
    (h : ∀ x ids, collect x ids = (mens x).foldl note ids) (xs : List α) (ids : Identities) :
    xs.foldl (fun ids x => collect x ids) ids = (xs.flatMap mens).foldl note ids := by
  induction xs generalizing ids with
  | nil => rfl
  | cons _ _ ih => rw [List.foldl_cons, List.flatMap_cons, List.foldl_append, ih, h]

theorem collectSnapshot_eq (snap : DiagnosticsSnapshot) (ids : Identities) :
    collectSnapshotIdentities snap ids = snap.mentions.foldl note ids := by
  unfold collectSnapshotIdentities DiagnosticsSnapshot.mentions
  rw [List.foldl_append, List.foldl_append, ← foldl_flatMap_note _ _ collectRow_eq]
  cases snap.activeSessionId <;> cases snap.session with
  | none => rfl
  | some =>
    dsimp only
    rw [collectSession_eq]
    rfl

theorem collectBackend_eq (pay : DiagnosticPayload) (ids : Identities) :
    collectBackendIdentities pay ids = pay.mentions.foldl note ids := by
  cases pay with
  | retry recv => cases recv <;> rfl
  | _ => rfl

theorem collectPayload_eq (pay : StructuredDiagnosticPayload) (ids : Identities) :
    collectPayloadIdentities pay ids = pay.mentions.foldl note ids := by
  cases pay with
  | backend pay => exact collectBackend_eq pay ids
  | error error => exact collectError_eq error ids
  | client event =>
    unfold StructuredDiagnosticPayload.mentions
    dsimp only
    cases event.deviceId <;> rfl
  | _ => rfl

theorem collectEvent_eq (ev : DiagnosticEvent) (ids : Identities) :
    collectEventIdentities ev ids = ev.mentions.foldl note ids := by
  unfold collectEventIdentities DiagnosticEvent.mentions
  rw [List.foldl_append, collectPayload_eq]
  cases ev.receiverSession <;> rfl

theorem collectInput_eq (inp : SupportExportInput) (ids : Identities) :
    inp.retainedEvents.foldl (fun ids ev => collectEventIdentities ev ids)
      (collectSnapshotIdentities inp.latestSnapshot ids) = inp.mentions.foldl note ids := by
  unfold SupportExportInput.mentions
  rw [List.foldl_append, foldl_flatMap_note _ _ collectEvent_eq, collectSnapshot_eq]

end Identities

/-! ## Renamings -/

/-- Other identities for the ones an input mentions. -/
structure Renaming where
  receiver : ReceiverId → ReceiverId
  session : SessionId → SessionId
  device : DeviceId → DeviceId

namespace Renaming

/-- Every identity stays. -/
def refl : Renaming := ⟨id, id, id⟩

variable (ρ : Renaming)

def onMention : Mention → Mention
  | .receiver receiver => .receiver (ρ.receiver receiver)
  | .session sessionId => .session (ρ.session sessionId)
  | .device device => .device (ρ.device device)

def onKey (key : ReceiverSessionKey) : ReceiverSessionKey :=
  ⟨ρ.session key.sessionId, ρ.receiver key.receiverId⟩

def onTimingSource : ReceiverTimingSource → ReceiverTimingSource
  | .ptpSharedFromPrimary primary => .ptpSharedFromPrimary (primary.map ρ.receiver)
  | source => source

def onError (error : DiagnosticError) : DiagnosticError :=
  { error with
    receiverSession := error.receiverSession.map ρ.onKey
    publicMessage := ""
    technicalDetail := none }

def onRow (row : ReceiverDiagnosticsSnapshot) : ReceiverDiagnosticsSnapshot :=
  { row with
    key := ρ.onKey row.key
    lifecycle := row.lifecycle.withoutText
    timing := { row.timing with source := ρ.onTimingSource row.timing.source }
    lastError := row.lastError.map ρ.onError }

def onSession (session : SessionDiagnosticsSnapshot) : SessionDiagnosticsSnapshot :=
  { session with
    sessionId := ρ.session session.sessionId
    phase := session.phase.map FullPhase.withoutText
    primary := session.primary.map ρ.receiver
    members := session.members.rekey ρ.receiver ρ.device }

def onSnapshot (snapshot : DiagnosticsSnapshot) : DiagnosticsSnapshot :=
  { snapshot with
    activeSessionId := snapshot.activeSessionId.map ρ.session
    session := snapshot.session.map ρ.onSession
    receivers := snapshot.receivers.map ρ.onRow }

/-- Whether a command failed stays; its number and its error do not. -/
def onBackend : DiagnosticPayload → DiagnosticPayload
  | .message _ => .message ""
  | .discoveryGeneration generation phase => .discoveryGeneration generation phase.withoutDeadline
  | .discoveryReceiver receiver present => .discoveryReceiver (ρ.receiver receiver) present
  | .commandResult _ error => .commandResult 0 (error.map (fun _ => ""))
  | .receiverTransition receiver destination =>
    .receiverTransition (ρ.receiver receiver) destination.withoutText
  | .setupPhaseDuration receiver phase duration =>
    .setupPhaseDuration (ρ.receiver receiver) phase duration
  | .sessionTransition phase activeMembers => .sessionTransition phase.withoutText activeMembers
  | .retry receiver attempt _ => .retry (receiver.map ρ.receiver) attempt 0
  | payload => payload

def onPayload : StructuredDiagnosticPayload → StructuredDiagnosticPayload
  | .backend payload => .backend (ρ.onBackend payload)
  | .client event => .client { event with deviceId := event.deviceId.map ρ.device }
  | .error error => .error (ρ.onError error)
  | payload => payload

def onEvent (event : DiagnosticEvent) : DiagnosticEvent :=
  { event with
    receiverSession := event.receiverSession.map ρ.onKey
    publicMessage := ""
    payload := ρ.onPayload event.payload }

def onInput (input : SupportExportInput) : SupportExportInput :=
  { input with
    latestSnapshot := ρ.onSnapshot input.latestSnapshot
    retainedEvents := input.retainedEvents.map ρ.onEvent }

def onCalibration (calibration : SupportCalibrationContext) : SupportCalibrationContext :=
  { calibration with
    referenceReceiver := calibration.referenceReceiver.map ρ.receiver
    effective := { calibration.effective with
      effectiveDelayNs := calibration.effective.effectiveDelayNs.rekey ρ.receiver id } }

def onContext (context : SupportExportContext) : SupportExportContext :=
  { context with calibration := context.calibration.map ρ.onCalibration }

/-- The receivers keep their order, and no two sessions or devices become one. -/
structure Faithful (mentions : List Mention) : Prop where
  receivers : StrictMonoOn ρ.receiver {receiver | Mention.receiver receiver ∈ mentions}
  sessions : Set.InjOn ρ.session {sessionId | Mention.session sessionId ∈ mentions}
  devices : Set.InjOn ρ.device {device | Mention.device device ∈ mentions}

theorem Faithful.mono {ρ : Renaming} {mens part : List Mention} (h : ρ.Faithful mens)
    (hp : part ⊆ mens) : ρ.Faithful part where
  receivers := fun _ ha _ hb hlt => h.receivers (hp ha) (hp hb) hlt
  sessions := h.sessions.mono (fun _ hs => hp hs)
  devices := h.devices.mono (fun _ hd => hp hd)

theorem refl_faithful (mens : List Mention) : refl.Faithful mens where
  receivers := strictMonoOn_id
  sessions := Function.injective_id.injOn
  devices := Function.injective_id.injOn

end Renaming

/-! ## Mentions of a renamed input -/

variable {α : Type} {f : α → α} {x : Option α} {snap : DiagnosticsSnapshot}

section Renamed

variable {ρ : Renaming}

variable {mens : α → List Mention}

theorem elim_map (h : ∀ y ∈ x, mens (f y) = (mens y).map ρ.onMention) :
    (x.map f).elim [] mens = (x.elim [] mens).map ρ.onMention := by
  cases x with
  | none => rfl
  | some y => exact h y rfl

theorem flatMap_renamed {xs : List α} (h : ∀ x ∈ xs, mens (f x) = (mens x).map ρ.onMention) :
    (xs.map f).flatMap mens = (xs.flatMap mens).map ρ.onMention := by
  induction xs with
  | nil => rfl
  | cons x _ ih =>
    have hr := ih (fun y hy => h y (List.mem_cons_of_mem _ hy))
    simp [h x List.mem_cons_self, hr]

theorem mentions_onKey (key : ReceiverSessionKey) :
    (ρ.onKey key).mentions = key.mentions.map ρ.onMention := rfl

theorem mentions_onTimingSource (src : ReceiverTimingSource) :
    (ρ.onTimingSource src).mentions = src.mentions.map ρ.onMention := by
  rcases src with _ | _ | _ | _ | prim <;> rfl

theorem mentions_onError (err : DiagnosticError) :
    (ρ.onError err).mentions = err.mentions.map ρ.onMention :=
  elim_map (fun key _ => mentions_onKey key)

theorem mentions_onRow (row : ReceiverDiagnosticsSnapshot) :
    (ρ.onRow row).mentions = row.mentions.map ρ.onMention := by
  have he : (row.lastError.map ρ.onError).elim [] DiagnosticError.mentions
      = (row.lastError.elim [] DiagnosticError.mentions).map ρ.onMention :=
    elim_map (fun err _ => mentions_onError err)
  simp [ReceiverDiagnosticsSnapshot.mentions, Renaming.onRow, mentions_onKey,
    mentions_onTimingSource, he]

section

variable {sess : SessionDiagnosticsSnapshot}

theorem member_mentioned {mbr : ReceiverId × DeviceId} (h : mbr ∈ sess.members.entries) :
    Mention.receiver mbr.1 ∈ sess.mentions ∧ Mention.device mbr.2 ∈ sess.mentions := by
  have hm : ∀ men ∈ memberMentions mbr, men ∈ sess.mentions := by
    intro men hn
    have hb := List.mem_flatMap.mpr ⟨_, h, hn⟩
    exact List.mem_cons_of_mem _ (List.mem_append_right _ hb)
  constructor <;> apply hm <;> simp [memberMentions]

theorem entries_renamed (h : ρ.Faithful sess.mentions) :
    (sess.members.rekey ρ.receiver ρ.device).entries
      = sess.members.entries.map (fun mbr => (ρ.receiver mbr.1, ρ.device mbr.2)) := by
  refine SortedMap.entries_rekey ρ.device h.receivers (fun recv hr => ?_)
  obtain ⟨_, hm, rfl⟩ := List.mem_map.mp hr
  exact (member_mentioned hm).1

theorem mentions_onSession (h : ρ.Faithful sess.mentions) :
    (ρ.onSession sess).mentions = sess.mentions.map ρ.onMention := by
  have hm : ((sess.members.rekey ρ.receiver ρ.device).entries).flatMap memberMentions
      = (sess.members.entries.flatMap memberMentions).map ρ.onMention := by
    rw [entries_renamed h]
    exact flatMap_renamed (fun mbr _ => rfl)
  have hp : (sess.primary.map ρ.receiver).elim []
      (fun prim => [Mention.receiver prim]) = (sess.primary.elim []
        (fun prim => [Mention.receiver prim])).map ρ.onMention :=
    elim_map (fun prim _ => rfl)
  simp only [SessionDiagnosticsSnapshot.mentions, Renaming.onSession, hm, hp,
    List.map_cons, List.map_append]
  rfl

end

theorem mentions_onSnapshot (h : ρ.Faithful snap.mentions) :
    (ρ.onSnapshot snap).mentions = snap.mentions.map ρ.onMention := by
  have ha : (snap.activeSessionId.map ρ.session).elim []
      (fun sid => [Mention.session sid]) = (snap.activeSessionId.elim []
        (fun sid => [Mention.session sid])).map ρ.onMention :=
    elim_map (fun sid _ => rfl)
  have hs : (snap.session.map ρ.onSession).elim [] SessionDiagnosticsSnapshot.mentions
      = (snap.session.elim [] SessionDiagnosticsSnapshot.mentions).map ρ.onMention := by
    refine elim_map (fun sess hs => mentions_onSession (h.mono (fun men hm => ?_)))
    refine List.mem_append_left _ (List.mem_append_right _ ?_)
    rw [Option.mem_def.mp hs]
    exact hm
  have hr : (snap.receivers.map ρ.onRow).flatMap ReceiverDiagnosticsSnapshot.mentions
      = (snap.receivers.flatMap ReceiverDiagnosticsSnapshot.mentions).map ρ.onMention :=
    flatMap_renamed (fun row _ => mentions_onRow row)
  simp only [DiagnosticsSnapshot.mentions, Renaming.onSnapshot, ha, hs, hr, List.map_append]

theorem mentions_onBackend (pay : DiagnosticPayload) :
    (ρ.onBackend pay).mentions = pay.mentions.map ρ.onMention := by
  cases pay with
  | retry recv => cases recv <;> rfl
  | _ => rfl

theorem mentions_onPayload (pay : StructuredDiagnosticPayload) :
    (ρ.onPayload pay).mentions = pay.mentions.map ρ.onMention := by
  cases pay with
  | backend pay => exact mentions_onBackend pay
  | client => exact elim_map (fun dev _ => rfl)
  | error error => exact mentions_onError error
  | _ => rfl

theorem mentions_onEvent (ev : DiagnosticEvent) :
    (ρ.onEvent ev).mentions = ev.mentions.map ρ.onMention := by
  have hk : (ev.receiverSession.map ρ.onKey).elim [] ReceiverSessionKey.mentions
      = (ev.receiverSession.elim [] ReceiverSessionKey.mentions).map ρ.onMention :=
    elim_map (fun key _ => mentions_onKey key)
  simp only [DiagnosticEvent.mentions, Renaming.onEvent, hk, mentions_onPayload, List.map_append]

theorem mentions_onInput {inp : SupportExportInput} (h : ρ.Faithful inp.mentions) :
    (ρ.onInput inp).mentions = inp.mentions.map ρ.onMention := by
  have hs := mentions_onSnapshot (h.mono (List.subset_append_left _ _))
  have he : (inp.retainedEvents.map ρ.onEvent).flatMap DiagnosticEvent.mentions
      = (inp.retainedEvents.flatMap DiagnosticEvent.mentions).map ρ.onMention :=
    flatMap_renamed (fun ev _ => mentions_onEvent ev)
  simp only [SupportExportInput.mentions, Renaming.onInput, hs, he, List.map_append]

end Renamed

/-! ## The walk over a renamed input -/

namespace Identities

variable (ids : Identities)

/-- Everything met is mentioned. -/
def Within (mentions : List Mention) : Prop :=
  (∀ receiver ∈ ids.receivers, Mention.receiver receiver ∈ mentions)
    ∧ ∀ sessionId ∈ ids.sessions, Mention.session sessionId ∈ mentions

theorem mem_rememberSession {ids : Identities} {sid other : SessionId}
    (h : other ∈ (ids.rememberSession sid).sessions) :
    other = sid ∨ other ∈ ids.sessions := by
  unfold rememberSession at h
  split at h
  · exact .inr h
  · simpa [or_comm] using h

theorem rememberSession_receivers (sid : SessionId) :
    (ids.rememberSession sid).receivers = ids.receivers := by
  unfold rememberSession
  split <;> rfl

theorem within_note {ids : Identities} {mentions : List Mention} {mention : Mention}
    (h : ids.Within mentions) (hm : mention ∈ mentions) :
    (ids.note mention).Within mentions := by
  obtain ⟨hr, hs⟩ := h
  cases mention with
  | receiver =>
    refine ⟨fun other ho => ?_, hs⟩
    rcases Finset.mem_insert.mp ho with rfl | ho
    · exact hm
    · exact hr other ho
  | session =>
    refine ⟨fun receiver hc => ?_, fun other ho => ?_⟩
    · rw [note_session, rememberSession_receivers] at hc
      exact hr receiver hc
    · rcases mem_rememberSession ho with rfl | ho
      · exact hm
      · exact hs other ho
  | device => exact ⟨hr, hs⟩

theorem within_foldl {mens : List Mention} : ∀ (part : List Mention) {ids : Identities},
    ids.Within mens → part ⊆ mens → (part.foldl note ids).Within mens
  | [], _, h, _ => h
  | _ :: rest, _, h, hp =>
    within_foldl rest (within_note h (hp List.mem_cons_self))
      (fun _ hl => hp (List.mem_cons_of_mem _ hl))

theorem within_walk (mens : List Mention) : (mens.foldl note {}).Within mens :=
  within_foldl mens ⟨by simp, by simp⟩ (List.Subset.refl _)

end Identities

variable {men : Mention} {β : Type}

section Table

variable {ρ : Renaming}

def Renaming.onIdentities (ρ : Renaming) (ids : Identities) : Identities :=
  ⟨ids.receivers.image ρ.receiver, ids.sessions.map ρ.session⟩

theorem note_renamed {mens : List Mention} (h : ρ.Faithful mens) {ids : Identities}
    (hi : ids.Within mens) (hm : men ∈ mens) :
    (ρ.onIdentities ids).note (ρ.onMention men) = ρ.onIdentities (ids.note men) := by
  cases men with
  | receiver => simp [Renaming.onIdentities, Renaming.onMention, Identities.insertReceiver]
  | session sid =>
    -- the renamed session is known exactly when the session is
    have hk : ρ.session sid ∈ ids.sessions.map ρ.session ↔ sid ∈ ids.sessions := by
      refine ⟨fun hmem => ?_, List.mem_map_of_mem⟩
      obtain ⟨other, ho, heq⟩ := List.mem_map.mp hmem
      rwa [← h.sessions (hi.2 other ho) hm heq]
    simp only [Renaming.onIdentities, Renaming.onMention, Identities.note_session,
      Identities.rememberSession, hk]
    split <;> simp
  | device => rfl

theorem foldl_note_renamed {mens : List Mention} (h : ρ.Faithful mens) :
    ∀ (part : List Mention) {ids : Identities}, ids.Within mens → part ⊆ mens →
      (part.map ρ.onMention).foldl Identities.note (ρ.onIdentities ids)
        = ρ.onIdentities (part.foldl Identities.note ids)
  | [], _, _, _ => rfl
  | mention :: rest, ids, hi, hp => by
      have hm := hp List.mem_cons_self
      rw [List.map_cons, List.foldl_cons, note_renamed h hi hm]
      exact foldl_note_renamed h rest (Identities.within_note hi hm)
        (fun _ hl => hp (List.mem_cons_of_mem _ hl))

/-- What one export has met in the end. -/
def identities (input : SupportExportInput) : Identities :=
  input.mentions.foldl Identities.note {}

theorem identities_renamed {inp : SupportExportInput} (h : ρ.Faithful inp.mentions) :
    identities (ρ.onInput inp) = ρ.onIdentities (identities inp) := by
  unfold identities
  rw [mentions_onInput h]
  have he : ({} : Identities).Within inp.mentions := ⟨by simp, by simp⟩
  exact foldl_note_renamed h inp.mentions he (List.Subset.refl _)

theorem build_receivers (inp : SupportExportInput) :
    (AliasTable.build inp).receivers = .collect ((sortedIds (identities inp).receivers).mapIdx
      (fun idx recv => (recv, ReceiverAlias.numbered (idx + 1)))) := by
  unfold AliasTable.build identities
  dsimp only
  rw [Identities.collectInput_eq]

theorem build_sessions (inp : SupportExportInput) :
    (AliasTable.build inp).sessions = (identities inp).sessions.mapIdx
      (fun idx sid => (sid, SessionAlias.numbered (idx + 1))) := by
  unfold AliasTable.build identities
  dsimp only
  rw [Identities.collectInput_eq]

theorem mapIdx_renamed (f : α → α) (num : Nat → β) (xs : List α) :
    (xs.map f).mapIdx (fun idx x => (x, num idx))
      = (xs.mapIdx (fun idx x => (x, num idx))).map (fun ent => (f ent.1, ent.2)) := by
  apply List.ext_getElem <;> simp

variable {sid : SessionId}

theorem find_renamed {f : SessionId → SessionId} {s : Set SessionId} (hf : Set.InjOn f s)
    (hs : sid ∈ s) :
    ∀ {ents : List (SessionId × SessionAlias)}, (∀ ent ∈ ents, ent.1 ∈ s) →
      ((ents.map (fun ent => (f ent.1, ent.2))).find? (fun known => known.1 == f sid)).map (·.2)
        = (ents.find? (fun known => known.1 == sid)).map (·.2)
  | [], _ => rfl
  | ent :: rest, h => by
      have hm : f ent.1 = f sid ↔ ent.1 = sid := hf.eq_iff (h ent List.mem_cons_self) hs
      have ih := find_renamed hf hs (fun later hl => h later (List.mem_cons_of_mem _ hl))
      rw [List.map_cons, List.find?_cons, List.find?_cons]
      by_cases heq : ent.1 = sid
      · simp [heq]
      · have hne : ¬ f ent.1 = f sid := fun hf => heq (hm.mp hf)
        rw [beq_eq_false_iff_ne.mpr heq, beq_eq_false_iff_ne.mpr hne]
        exact ih

/-- The renamed table says of a renamed mention what the table says of it. -/
def Stable (ρ : Renaming) (aliases renamed : AliasTable) : Mention → Prop
  | .receiver receiver =>
    renamed.receivers.get (ρ.receiver receiver) = aliases.receivers.get receiver
  | .session sessionId => renamed.session (ρ.session sessionId) = aliases.session sessionId
  | .device device => renamed.device (ρ.device device) = aliases.device device

variable {recv : ReceiverId}

theorem Stable.receiver {aliases renamed : AliasTable}
    (h : Stable ρ aliases renamed (.receiver recv)) :
    renamed.receiver (ρ.receiver recv) = aliases.receiver recv :=
  congrArg (·.getD .unresolved) h

theorem Stable.knows {aliases renamed : AliasTable}
    (h : Stable ρ aliases renamed (.receiver recv)) :
    renamed.knows (ρ.receiver recv) = aliases.knows recv :=
  congrArg (·.isSome) h

section

variable {inp : SupportExportInput} {mens : List Mention} (h : ρ.Faithful mens)
  (hi : inp.mentions ⊆ mens)
include h hi

/-- Receivers that only the calibration names are not in the table, and stay out. -/
theorem receiver_stable (hr : Mention.receiver recv ∈ mens) :
    Stable ρ (.build inp) (.build (ρ.onInput inp)) (.receiver recv) := by
  have hw := Identities.within_walk inp.mentions
  have hs : sortedIds ((identities inp).receivers.image ρ.receiver)
      = (sortedIds (identities inp).receivers).map ρ.receiver :=
    sortedIds_image (fun a ha b hb hlt => h.receivers (hi (hw.1 a ha)) (hi (hw.1 b hb)) hlt)
  unfold Stable
  rw [build_receivers, build_receivers, identities_renamed (h.mono hi)]
  unfold Renaming.onIdentities
  rw [hs, mapIdx_renamed ρ.receiver (fun idx => ReceiverAlias.numbered (idx + 1))]
  have hk : ∀ ent ∈ (sortedIds (identities inp).receivers).mapIdx
      (fun idx recv => (recv, ReceiverAlias.numbered (idx + 1))),
      Mention.receiver ent.1 ∈ mens := by
    intro ent he
    obtain ⟨_, hd, rfl⟩ := List.mem_mapIdx.mp he
    exact hi (hw.1 _ (mem_sortedIds.mp (List.getElem_mem hd)))
  have hg := SortedMap.get_collect_map (id : ReceiverAlias → ReceiverAlias) h.receivers.injOn hr hk
  simpa using hg

theorem session_stable (hs : Mention.session sid ∈ mens) :
    Stable ρ (.build inp) (.build (ρ.onInput inp)) (.session sid) := by
  have hw := Identities.within_walk inp.mentions
  show (AliasTable.build (ρ.onInput inp)).session (ρ.session sid)
    = (AliasTable.build inp).session sid
  unfold AliasTable.session
  rw [build_sessions, build_sessions, identities_renamed (h.mono hi)]
  unfold Renaming.onIdentities
  rw [mapIdx_renamed ρ.session (fun idx => SessionAlias.numbered (idx + 1)),
    find_renamed h.sessions hs]
  intro ent he
  obtain ⟨_, hd, rfl⟩ := List.mem_mapIdx.mp he
  exact hi (hw.2 _ (List.getElem_mem hd))

theorem device_stable {dev : DeviceId} (hd : Mention.device dev ∈ mens) :
    Stable ρ (.build inp) (.build (ρ.onInput inp)) (.device dev) := by
  cases hs : inp.latestSnapshot.session with
  | none => simp [Stable, AliasTable.device, AliasTable.build, Renaming.onInput,
      Renaming.onSnapshot, hs, SortedMap.get, SortedMap.empty, findEntry]
  | some sess =>
    have hp : sess.mentions ⊆ inp.mentions := by
      intro men hn
      refine List.mem_append_left _ (List.mem_append_left _ (List.mem_append_right _ ?_))
      rw [hs]
      exact hn
    have ht : (AliasTable.build inp).deviceToReceiver
        = .collect (sess.members.entries.map (fun mbr => (mbr.2, mbr.1))) := by
      simp [AliasTable.build, hs]
    have hr : (AliasTable.build (ρ.onInput inp)).deviceToReceiver
        = .collect ((sess.members.entries.map (fun mbr => (mbr.2, mbr.1))).map
          (fun ent => (ρ.device ent.1, ρ.receiver ent.2))) := by
      simp [AliasTable.build, Renaming.onInput, Renaming.onSnapshot, Renaming.onSession, hs,
        entries_renamed (h.mono (List.Subset.trans hp hi)), Function.comp_def]
    have hk : ∀ ent ∈ sess.members.entries.map (fun mbr => (mbr.2, mbr.1)),
        Mention.device ent.1 ∈ mens := by
      intro ent he
      obtain ⟨mbr, hm, rfl⟩ := List.mem_map.mp he
      exact hi (hp (member_mentioned hm).2)
    have hg := SortedMap.get_collect_map ρ.receiver h.devices hd hk
    show (AliasTable.build (ρ.onInput inp)).device (ρ.device dev)
      = (AliasTable.build inp).device dev
    unfold AliasTable.device
    rw [hr, hg, ht, Option.map_map]
    refine Option.map_congr (fun recv hf => ?_)
    -- what a device leads to is a member, so its alias stays as well
    obtain ⟨_, hm, heq⟩ := List.mem_map.mp (SortedMap.mem_of_get_collect hf)
    obtain ⟨-, hsm⟩ := Prod.mk.inj heq
    have hc : Mention.receiver recv ∈ mens := by
      rw [← hsm]
      exact hi (hp (member_mentioned hm).1)
    exact (receiver_stable h hi hc).receiver

theorem build_stable : ∀ men ∈ mens, Stable ρ (.build inp) (.build (ρ.onInput inp)) men
  | .receiver _, hm => receiver_stable h hi hm
  | .session _, hm => session_stable h hi hm
  | .device _, hm => device_stable h hi hm

end

end Table

/-! ## The renamed document -/

section Document

variable {ρ : Renaming} {aliases renamed : AliasTable}

theorem map_receiver_renamed {recv : Option ReceiverId}
    (h : ∀ id ∈ recv, Stable ρ aliases renamed (.receiver id)) :
    (recv.map ρ.receiver).map renamed.receiver = recv.map aliases.receiver := by
  cases recv with
  | none => rfl
  | some id => exact congrArg some (h id rfl).receiver

theorem map_session_renamed {sid : Option SessionId}
    (h : ∀ id ∈ sid, Stable ρ aliases renamed (.session id)) :
    (sid.map ρ.session).map renamed.session = sid.map aliases.session := by
  cases sid with
  | none => rfl
  | some id => exact congrArg some (h id rfl)

theorem mem_elim {mens : α → List Mention} {y : α} (hy : y ∈ x) (h : men ∈ mens y) :
    men ∈ x.elim [] mens := by
  rw [Option.mem_def.mp hy]
  exact h

theorem map_key_renamed {key : Option ReceiverSessionKey}
    (h : ∀ men ∈ key.elim [] ReceiverSessionKey.mentions, Stable ρ aliases renamed men) :
    (key.map ρ.onKey).map (fun key => renamed.receiver key.receiverId)
        = key.map (fun key => aliases.receiver key.receiverId)
      ∧ (key.map ρ.onKey).map (fun key => renamed.session key.sessionId)
        = key.map (fun key => aliases.session key.sessionId) := by
  cases key with
  | none => exact ⟨rfl, rfl⟩
  | some key =>
    have hr : Stable ρ aliases renamed (.receiver key.receiverId) := h _ List.mem_cons_self
    have hs : Stable ρ aliases renamed (.session key.sessionId) :=
      h _ (List.mem_cons_of_mem _ List.mem_cons_self)
    exact ⟨congrArg some hr.receiver, congrArg some hs⟩

theorem map_renamed {convert convert' : α → β}
    (h : ∀ y ∈ x, convert' (f y) = convert y) : (x.map f).map convert' = x.map convert := by
  rw [Option.map_map]
  exact Option.map_congr h

theorem supportError_renamed {err : DiagnosticError}
    (h : ∀ men ∈ err.mentions, Stable ρ aliases renamed men) :
    supportError (ρ.onError err) renamed = supportError err aliases := by
  unfold supportError Renaming.onError
  rw [(map_key_renamed h).1]

theorem timingSourceLabel_renamed {src : ReceiverTimingSource}
    (h : ∀ men ∈ src.mentions, Stable ρ aliases renamed men) :
    timingSourceLabel (ρ.onTimingSource src) renamed = timingSourceLabel src aliases := by
  cases src with
  | ptpSharedFromPrimary =>
    refine congrArg (Prod.mk _) (map_receiver_renamed (fun id hi => h _ ?_))
    rw [Option.mem_def.mp hi]
    exact List.mem_cons_self
  | _ => rfl

theorem supportReceiver_renamed {row : ReceiverDiagnosticsSnapshot}
    (h : ∀ men ∈ row.mentions, Stable ρ aliases renamed men) :
    supportReceiver (ρ.onRow row) renamed = supportReceiver row aliases := by
  have hk : Stable ρ aliases renamed (.receiver row.key.receiverId) :=
    h _ (List.mem_append_left _ (List.mem_append_left _ List.mem_cons_self))
  have ht : supportTiming (ρ.onRow row).timing renamed = supportTiming row.timing aliases := by
    have hl := timingSourceLabel_renamed (fun men hm =>
      h men (List.mem_append_left _ (List.mem_append_right _ hm)))
    unfold supportTiming Renaming.onRow
    rw [hl]
  have he : (row.lastError.map ρ.onError).map (supportError · renamed)
      = row.lastError.map (supportError · aliases) :=
    map_renamed (fun err he => supportError_renamed (fun men hm =>
      h men (List.mem_append_right _ (mem_elim he hm))))
  unfold supportReceiver
  rw [ht]
  unfold Renaming.onRow Renaming.onKey
  rw [hk.receiver, he, supportLifecycle_withoutText]

theorem supportSession_renamed {sess : SessionDiagnosticsSnapshot} (hf : ρ.Faithful sess.mentions)
    (h : ∀ men ∈ sess.mentions, Stable ρ aliases renamed men) :
    supportSession (ρ.onSession sess) renamed = supportSession sess aliases := by
  have hs : renamed.session (ρ.session sess.sessionId) = aliases.session sess.sessionId :=
    h _ List.mem_cons_self
  have hp : (sess.primary.map ρ.receiver).map renamed.receiver
      = sess.primary.map aliases.receiver := by
    refine map_receiver_renamed (fun id hi => h _ ?_)
    exact List.mem_cons_of_mem _ (List.mem_append_left _ (by simp [Option.mem_def.mp hi]))
  have hb : (sess.members.rekey ρ.receiver ρ.device).keys.map renamed.receiver
      = sess.members.keys.map aliases.receiver := by
    unfold SortedMap.keys
    rw [entries_renamed hf, List.map_map, List.map_map, List.map_map]
    refine List.map_congr_left (fun mbr hm => ?_)
    exact (h _ (member_mentioned hm).1).receiver
  have hh : (sess.phase.map FullPhase.withoutText).map supportSessionPhase
      = sess.phase.map supportSessionPhase :=
    map_renamed (fun ph _ => supportSessionPhase_withoutText ph)
  unfold supportSession Renaming.onSession
  rw [hs, hp, hb, hh, entries_renamed hf, List.length_map]

theorem supportSnapshot_renamed (hf : ρ.Faithful snap.mentions)
    (h : ∀ men ∈ snap.mentions, Stable ρ aliases renamed men) :
    supportSnapshot (ρ.onSnapshot snap) renamed = supportSnapshot snap aliases := by
  have ha : (snap.activeSessionId.map ρ.session).map renamed.session
      = snap.activeSessionId.map aliases.session := by
    refine map_session_renamed (fun id hi => h _ ?_)
    refine List.mem_append_left _ (List.mem_append_left _ ?_)
    exact mem_elim hi List.mem_cons_self
  have hs : (snap.session.map ρ.onSession).map (supportSession · renamed)
      = snap.session.map (supportSession · aliases) := by
    refine map_renamed (fun sess hs => ?_)
    have hp : sess.mentions ⊆ snap.mentions := fun men hm =>
      List.mem_append_left _ (List.mem_append_right _ (mem_elim hs hm))
    exact supportSession_renamed (hf.mono hp) (fun men hm => h men (hp hm))
  have hr : (snap.receivers.map ρ.onRow).map (supportReceiver · renamed)
      = snap.receivers.map (supportReceiver · aliases) := by
    rw [List.map_map]
    refine List.map_congr_left (fun row hw => ?_)
    refine supportReceiver_renamed (fun men hm => ?_)
    exact h men (List.mem_append_right _ (List.mem_flatMap.mpr ⟨row, hw, hm⟩))
  unfold supportSnapshot Renaming.onSnapshot
  rw [ha, hs, hr]

theorem supportBackendPayload_renamed {pay : DiagnosticPayload}
    (h : ∀ men ∈ pay.mentions, Stable ρ aliases renamed men) :
    supportBackendPayload (ρ.onBackend pay) renamed = supportBackendPayload pay aliases := by
  cases pay with
  | discoveryGeneration =>
    simp only [supportBackendPayload, Renaming.onBackend, discoveryPhaseLabel_withoutDeadline]
  | discoveryReceiver recv =>
    have hr : Stable ρ aliases renamed (.receiver recv) := h _ List.mem_cons_self
    simp only [supportBackendPayload, Renaming.onBackend, hr.receiver]
  | commandResult _ err => cases err <;> rfl
  | receiverTransition recv =>
    have hr : Stable ρ aliases renamed (.receiver recv) := h _ List.mem_cons_self
    simp only [supportBackendPayload, Renaming.onBackend, hr.receiver, supportLifecycle_withoutText]
  | setupPhaseDuration recv =>
    have hr : Stable ρ aliases renamed (.receiver recv) := h _ List.mem_cons_self
    simp only [supportBackendPayload, Renaming.onBackend, hr.receiver]
  | sessionTransition =>
    simp only [supportBackendPayload, Renaming.onBackend, supportSessionPhase_withoutText]
  | retry recv =>
    have hr : (recv.map ρ.receiver).map renamed.receiver = recv.map aliases.receiver := by
      refine map_receiver_renamed (fun id hi => h _ ?_)
      rw [Option.mem_def.mp hi]
      exact List.mem_cons_self
    simp only [supportBackendPayload, Renaming.onBackend, hr]
  | _ => rfl

theorem supportPayload_renamed {pay : StructuredDiagnosticPayload}
    (h : ∀ men ∈ pay.mentions, Stable ρ aliases renamed men) :
    supportPayload (ρ.onPayload pay) renamed = supportPayload pay aliases := by
  cases pay with
  | backend => exact supportBackendPayload_renamed h
  | client event =>
    have hd : (event.deviceId.map ρ.device).bind renamed.device
        = event.deviceId.bind aliases.device := by
      cases hi : event.deviceId with
      | none => rfl
      | some dev => exact h (.device dev) (mem_elim hi List.mem_cons_self)
    simp only [supportPayload, Renaming.onPayload, hd]
  | error error => exact congrArg SupportEventPayload.error (supportError_renamed h)
  | _ => rfl

theorem supportEvent_renamed {ev : DiagnosticEvent}
    (h : ∀ men ∈ ev.mentions, Stable ρ aliases renamed men) :
    supportEvent (ρ.onEvent ev) renamed = supportEvent ev aliases := by
  have hk := map_key_renamed (fun men hm => h men (List.mem_append_left _ hm))
  have hp := supportPayload_renamed (fun men hm => h men (List.mem_append_right _ hm))
  unfold supportEvent Renaming.onEvent
  rw [hk.1, hk.2, hp]

theorem supportCalibration_renamed {cal : SupportCalibrationContext} (hf : ρ.Faithful cal.mentions)
    (h : ∀ men ∈ cal.mentions, Stable ρ aliases renamed men) :
    supportCalibration (ρ.onCalibration cal) renamed = supportCalibration cal aliases := by
  have hk : ∀ recv ∈ cal.effective.effectiveDelayNs.keys,
      Mention.receiver recv ∈ cal.mentions := fun recv hr =>
    List.mem_append_right _ (List.mem_map_of_mem hr)
  have hre : ((cal.referenceReceiver.map ρ.receiver).filter renamed.knows).map
      renamed.receiver = (cal.referenceReceiver.filter aliases.knows).map
        aliases.receiver := by
    cases hi : cal.referenceReceiver with
    | none => rfl
    | some recv =>
      have hs : Stable ρ aliases renamed (.receiver recv) :=
        h _ (List.mem_append_left _ (mem_elim hi List.mem_cons_self))
      simp only [Option.map_some, Option.filter_some, hs.knows]
      split
      · exact congrArg some hs.receiver
      · rfl
  have hn := SortedMap.entries_rekey (id : UInt64 → UInt64) hf.receivers hk
  -- one entry is dropped under one name exactly when it is under the other
  have hl : cal.effective.effectiveDelayNs.entries.foldl (fun dlys ent =>
        if renamed.knows (ρ.receiver ent.1) then
          (dlys.1.insert (renamed.receiver (ρ.receiver ent.1)) ent.2, dlys.2)
        else (dlys.1, dlys.2 + 1)) ((.empty, 0) : SortedMap ReceiverAlias UInt64 × Nat)
      = cal.effective.effectiveDelayNs.entries.foldl (fun dlys ent =>
        if aliases.knows ent.1 then
          (dlys.1.insert (aliases.receiver ent.1) ent.2, dlys.2)
        else (dlys.1, dlys.2 + 1)) (.empty, 0) := by
    refine List.foldl_ext _ _ _ (fun dlys ent he => ?_)
    have hs := h _ (hk ent.1 (List.mem_map_of_mem he))
    rw [hs.knows, hs.receiver]
  unfold supportCalibration Renaming.onCalibration
  rw [hre, hn, List.foldl_map]
  dsimp only [id]
  rw [hl]

end Document

/-! ## One export for all of them -/

section Export

variable {ρ : Renaming}

variable {inp : SupportExportInput}

theorem snapshot_renamed {mens : List Mention} (h : ρ.Faithful mens) (hi : inp.mentions ⊆ mens) :
    supportSnapshot (ρ.onSnapshot inp.latestSnapshot) (.build (ρ.onInput inp))
      = supportSnapshot inp.latestSnapshot (.build inp) := by
  have hp : inp.latestSnapshot.mentions ⊆ mens := fun men hm => hi (List.mem_append_left _ hm)
  exact supportSnapshot_renamed (h.mono hp) (fun men hm => build_stable h hi men (hp hm))

theorem supportDocument_renamed {context : SupportExportContext}
    (h : ρ.Faithful (inp.mentions ++ context.mentions)) :
    supportDocument (ρ.onInput inp) (ρ.onContext context) = supportDocument inp context := by
  have hi : inp.mentions ⊆ inp.mentions ++ context.mentions := List.subset_append_left _ _
  have hs := build_stable h hi
  have hn := snapshot_renamed h hi
  have hv : (inp.retainedEvents.map ρ.onEvent).map (supportEvent · (.build (ρ.onInput inp)))
        = inp.retainedEvents.map (supportEvent · (.build inp)) := by
    rw [List.map_map]
    refine List.map_congr_left (fun ev he => ?_)
    refine supportEvent_renamed (fun men hm => ?_)
    refine hs men (hi (List.mem_append_right _ ?_))
    exact List.mem_flatMap.mpr ⟨ev, he, hm⟩
  have hc : (context.calibration.map ρ.onCalibration).map
      (supportCalibration · (.build (ρ.onInput inp)))
        = context.calibration.map (supportCalibration · (.build inp)) := by
    refine map_renamed (fun cal hc => ?_)
    have hp : cal.mentions ⊆ inp.mentions ++ context.mentions :=
      fun men hm => List.mem_append_right _ (mem_elim hc hm)
    exact supportCalibration_renamed (h.mono hp) (fun men hm => hs men (hp hm))
  unfold supportDocument
  unfold Renaming.onContext
  dsimp only
  rw [hc]
  unfold Renaming.onInput at hn hv ⊢
  rw [hn, hv, List.length_map]
  rfl

theorem buildSupportSummary_renamed (h : ρ.Faithful inp.mentions) :
    buildSupportSummary (ρ.onInput inp) = buildSupportSummary inp := by
  have hs := snapshot_renamed h (List.Subset.refl _)
  unfold buildSupportSummary
  unfold Renaming.onInput at hs ⊢
  dsimp only at hs ⊢
  rw [hs, List.length_map]

/-- The second pair is the first with other identities, other texts and other
retry deadlines: with the texts and deadlines of both blanked, `ρ` leads from
one to the other. -/
structure DifferOnlyIn (ρ : Renaming) (input input' : SupportExportInput)
    (context context' : SupportExportContext) : Prop where
  faithful : ρ.Faithful (input.mentions ++ context.mentions)
  input : ρ.onInput input = Renaming.refl.onInput input'
  context : ρ.onContext context = Renaming.refl.onContext context'

/-- Neither the export nor the summary tells two such pairs apart. -/
theorem export_identifies_nobody (encode : SupportExportV1 → Option (List UInt8))
    {input input' : SupportExportInput} {context context' : SupportExportContext}
    (h : DifferOnlyIn ρ input input' context context') :
    buildSupportExport encode input' context' = buildSupportExport encode input context
      ∧ buildSupportSummary input' = buildSupportSummary input := by
  have hd : supportDocument input' context' = supportDocument input context := by
    rw [← supportDocument_renamed (Renaming.refl_faithful _), ← h.input, ← h.context,
      supportDocument_renamed h.faithful]
  refine ⟨?_, ?_⟩
  · unfold buildSupportExport
    rw [hd]
  · rw [← buildSupportSummary_renamed (Renaming.refl_faithful _), ← h.input,
      buildSupportSummary_renamed (h.faithful.mono (List.subset_append_left _ _))]

end Export

/-! ### Two receivers under other names -/

section Example

/-- Every number becomes four times as large and one more. -/
def moved : Renaming where
  receiver id := ⟨4 * id.octets + 1⟩
  session id := ⟨~~~id.uuid⟩
  device id := ⟨~~~id.octets⟩

/-- Two members, the first with an error of its own, and a failed command. -/
def observed (first second device device' : DeviceId) (sessionId : SessionId) (text : String) :
    SupportExportInput where
  latestSnapshot :=
    { capturedAtUtc := 951782400000000000
      processElapsedNs := 7
      activeSessionId := some sessionId
      session := some
        { sessionId := sessionId
          startedElapsedNs := 3
          phase := some (.failed 1 text)
          primary := some second
          members := .collect [(first, device), (second, device')] }
      receivers :=
        [{ key := ⟨sessionId, first⟩
           lifecycle := .failed true text
           timing := { source := .ptpSharedFromPrimary (some second) }
           lastError := some
             { code := .udpSendFailure
               component := .udpTransport
               severity := .error
               recoverability := .transient
               operation := "send"
               receiverSession := some ⟨sessionId, first⟩
               publicMessage := text
               technicalDetail := some text } }] }
  retainedEvents :=
    [{ cursor := 0
       occurredAtUtc := 951782400000000000
       processElapsedNs := 6
       receiverSession := none
       severity := .error
       component := .backend
       code := .notice
       publicMessage := text
       payload := .backend (.commandResult 9 (some text)) }]
  eventGap := none
  producerDropsTotal := 0

def calibrated (first second : DeviceId) : SupportExportContext where
  exportedAtUtc := 951782400000000000
  applicationVersion := "1.0.0"
  buildProfile := "release"
  platformOs := "windows"
  platformArch := "x86_64"
  windowsBuild := none
  audio := ⟨44100, 2, 352, 64⟩
  calibration := some
    { referenceReceiver := some first
      effective := ⟨0, .collect [(first, 0), (second, 5000000)]⟩
      applyState := some .applied }

/-- Stands in for the serializer: the stamp of the document. -/
def stampBytes (document : SupportExportV1) : Option (List UInt8) :=
  some document.exportedAtUtc.toUTF8.toList

theorem moved_differ : DifferOnlyIn moved (observed ⟨1⟩ ⟨2⟩ ⟨3⟩ ⟨4⟩ ⟨5⟩ "Kitchen at 10.0.0.7")
      (observed ⟨5⟩ ⟨9⟩ ⟨~~~3⟩ ⟨~~~4⟩ ⟨~~~5⟩ "Attic") (calibrated ⟨1⟩ ⟨2⟩)
      (calibrated ⟨5⟩ ⟨9⟩) where
  faithful :=
    { receivers := by
        have hm : ∀ id, Mention.receiver id ∈
            (observed ⟨1⟩ ⟨2⟩ ⟨3⟩ ⟨4⟩ ⟨5⟩ "Kitchen at 10.0.0.7").mentions
              ++ (calibrated ⟨1⟩ ⟨2⟩).mentions → id = ⟨1⟩ ∨ id = ⟨2⟩ := by
          intro id hi
          have hn : (observed ⟨1⟩ ⟨2⟩ ⟨3⟩ ⟨4⟩ ⟨5⟩ "Kitchen at 10.0.0.7").mentions
              ++ (calibrated ⟨1⟩ ⟨2⟩).mentions =
              [.session ⟨5⟩, .session ⟨5⟩, .receiver ⟨2⟩, .receiver ⟨1⟩, .device ⟨3⟩,
                .receiver ⟨2⟩, .device ⟨4⟩, .receiver ⟨1⟩, .session ⟨5⟩, .receiver ⟨2⟩,
                .receiver ⟨1⟩, .session ⟨5⟩, .receiver ⟨1⟩, .receiver ⟨1⟩, .receiver ⟨2⟩] := by
            rfl
          rw [hn] at hi
          simp only [List.mem_cons, Mention.receiver.injEq, reduceCtorEq, List.not_mem_nil,
            false_or, or_false] at hi
          tauto
        intro a ha b hb hlt
        rcases hm a ha with rfl | rfl <;> rcases hm b hb with rfl | rfl
        · exact absurd hlt (lt_irrefl _)
        · decide
        · exact absurd hlt (by decide)
        · exact absurd hlt (lt_irrefl _)
      sessions := by
        intro a _ b _ h
        cases a; cases b
        simpa [moved] using h
      devices := by
        intro a _ b _ h
        cases a; cases b
        simpa [moved] using h }
  input := by rfl
  context := by rfl

/-- The export of two receivers is the export of two others. -/
theorem export_identifies_nobody_moved :
    buildSupportExport stampBytes (observed ⟨5⟩ ⟨9⟩ ⟨~~~3⟩ ⟨~~~4⟩ ⟨~~~5⟩ "Attic")
          (calibrated ⟨5⟩ ⟨9⟩)
        = buildSupportExport stampBytes (observed ⟨1⟩ ⟨2⟩ ⟨3⟩ ⟨4⟩ ⟨5⟩ "Kitchen at 10.0.0.7")
          (calibrated ⟨1⟩ ⟨2⟩)
      ∧ buildSupportSummary (observed ⟨5⟩ ⟨9⟩ ⟨~~~3⟩ ⟨~~~4⟩ ⟨~~~5⟩ "Attic")
        = buildSupportSummary (observed ⟨1⟩ ⟨2⟩ ⟨3⟩ ⟨4⟩ ⟨5⟩ "Kitchen at 10.0.0.7") :=
  export_identifies_nobody _ moved_differ

end Example

end OpenAirCast.Diagnostics

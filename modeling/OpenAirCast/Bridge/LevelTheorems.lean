/-
Bridge.LevelTheorems — the projection is level-driven.

Every stage of `project` keeps one field and says something only when the
field moves: `project_eq` puts the nine stages side by side, each a
function of its own field. From it, projecting a snapshot twice says
nothing the second time (`project_again`). `Reader` is a shell behind the
projection: calls whose events are delivered, withheld in part, or
superseded, with other events in between. A field whose last event was
withheld is `missed` until a later call says something of it.
-/
import OpenAirCast.App.ReadingTheorems
import OpenAirCast.App.SnapshotTheorems
import OpenAirCast.Bridge.Projection

namespace OpenAirCast.Bridge

open OpenAirCast.Backend List EndpointTable Option Projection

/-! ## Endpoint keys -/

namespace EndpointTable

variable {endpoint : AudioEndpoint} {table : EndpointTable} {id : String}

/-- The key of a raw endpoint id. -/
def keyOf (table : EndpointTable) (id : String) : Option AudioEndpointKey :=
  (table.known.find? (fun entry => entry.id = id)).map (·.key)

/-- The entries with one name after the other refreshed. -/
def refreshNames (endpoints : List AudioEndpoint) (known : List EndpointEntry) :
    List EndpointEntry :=
  endpoints.foldl (fun known endpoint => refreshName endpoint known) known

def Knows (known : List EndpointEntry) (id : String) : Prop := ∃ entry ∈ known, entry.id = id

theorem refreshName_absorb (a b : AudioEndpoint) (h : a.id = b.id) :
    ∀ known, refreshName b (refreshName a known) = refreshName b known
  | [] => rfl
  | entry :: rest => by
      by_cases hi : entry.id = a.id
      · simp [refreshName, hi, h]
      · have hi' : ¬ entry.id = b.id := h ▸ hi
        simp [refreshName, hi, hi', refreshName_absorb a b h rest]

theorem refreshName_comm (a b : AudioEndpoint) (h : a.id ≠ b.id) :
    ∀ known, refreshName b (refreshName a known) = refreshName a (refreshName b known)
  | [] => rfl
  | entry :: rest => by
      by_cases ha : entry.id = a.id
      · have hb : ¬ entry.id = b.id := fun hb => h (ha.symm.trans hb)
        have hb' : ¬ a.id = b.id := h
        simp [refreshName, ha, hb']
      · by_cases hb : entry.id = b.id
        · have ha' : ¬ b.id = a.id := fun heq => h heq.symm
          simp [refreshName, hb, ha']
        · simp [refreshName, ha, hb, refreshName_comm a b h rest]

theorem find_refreshName (endpoint : AudioEndpoint) (id : String) :
    ∀ known, ((refreshName endpoint known).find? (fun ent => ent.id = id)).map (·.key)
      = (known.find? (fun ent => ent.id = id)).map (·.key)
  | [] => rfl
  | ent :: rest => by
      unfold refreshName
      split
      · by_cases hi : ent.id = id <;> simp [hi]
      · by_cases hi : ent.id = id
        · simp [hi]
        · simpa [find?_cons, hi] using find_refreshName endpoint id rest

theorem knows_refreshName : ∀ {known}, Knows known id → Knows (refreshName endpoint known) id
  | [], h => h
  | entry :: rest, h => by
      unfold refreshName
      obtain ⟨found, hmem, hi⟩ := h
      split
      · rcases mem_cons.mp hmem with rfl | hmem
        · exact ⟨_, mem_cons_self, hi⟩
        · exact ⟨found, mem_cons_of_mem _ hmem, hi⟩
      · rcases mem_cons.mp hmem with rfl | hmem
        · exact ⟨_, mem_cons_self, hi⟩
        · obtain ⟨other, ho, hi⟩ := knows_refreshName ⟨found, hmem, hi⟩
          exact ⟨other, mem_cons_of_mem _ ho, hi⟩

/-- A name that is refreshed again later does not show. -/
theorem refreshNames_absorb :
    ∀ {endps : List AudioEndpoint}, (∃ later ∈ endps, later.id = endpoint.id) →
      ∀ known, refreshNames endps (refreshName endpoint known) = refreshNames endps known
  | [], h, _ => by simp at h
  | first :: rest, h, known => by
      show refreshNames rest (refreshName first (refreshName endpoint known))
        = refreshNames rest (refreshName first known)
      by_cases hi : first.id = endpoint.id
      · rw [refreshName_absorb endpoint first hi.symm]
      · rw [refreshName_comm endpoint first (fun heq => hi heq.symm)]
        refine refreshNames_absorb ?_ (refreshName first known)
        obtain ⟨later, hmem, hl⟩ := h
        rcases mem_cons.mp hmem with rfl | hmem
        · exact absurd hl hi
        · exact ⟨later, hmem, hl⟩

theorem refreshNames_comm :
    ∀ {endps : List AudioEndpoint}, (∀ later ∈ endps, later.id ≠ endpoint.id) →
      ∀ known, refreshNames endps (refreshName endpoint known)
        = refreshName endpoint (refreshNames endps known)
  | [], _, _ => rfl
  | first :: rest, h, known => by
      show refreshNames rest (refreshName first (refreshName endpoint known)) = _
      rw [refreshName_comm endpoint first (fun heq => h first mem_cons_self heq.symm)]
      exact refreshNames_comm (fun later hmem => h later (mem_cons_of_mem _ hmem)) _

theorem refreshName_append (others : List EndpointEntry) :
    ∀ {known : List EndpointEntry}, Knows known endpoint.id →
      refreshName endpoint (known ++ others) = refreshName endpoint known ++ others
  | [], h => by
      obtain ⟨ent, hmem, -⟩ := h
      cases hmem
  | ent :: rest, h => by
      rw [cons_append]
      unfold refreshName
      split
      · rfl
      · rename_i hi
        obtain ⟨found, hmem, hf⟩ := h
        rcases mem_cons.mp hmem with rfl | hmem
        · exact absurd hf hi
        · rw [refreshName_append others ⟨found, hmem, hf⟩]
          rfl

theorem refreshNames_append (others : List EndpointEntry) :
    ∀ {endps : List AudioEndpoint} {known : List EndpointEntry},
      (∀ endpoint ∈ endps, Knows known endpoint.id) →
        refreshNames endps (known ++ others) = refreshNames endps known ++ others
  | [], _, _ => rfl
  | first :: rest, known, h => by
      show refreshNames rest (refreshName first (known ++ others)) = _
      rw [refreshName_append others (h first mem_cons_self)]
      exact refreshNames_append others fun endpoint hmem =>
        knows_refreshName (h endpoint (mem_cons_of_mem _ hmem))

theorem refreshName_unknown : ∀ {known : List EndpointEntry}, ¬ Knows known endpoint.id → ∀ others,
      refreshName endpoint (known ++ others) = known ++ refreshName endpoint others
  | [], _, _ => rfl
  | ent :: rest, h, others => by
      have hi : ¬ ent.id = endpoint.id := fun hi => h ⟨ent, mem_cons_self, hi⟩
      have hr : ¬ Knows rest endpoint.id := fun ⟨found, hmem, hf⟩ =>
        h ⟨found, mem_cons_of_mem _ hmem, hf⟩
      rw [cons_append, refreshName, if_neg hi, refreshName_unknown hr others]
      rfl

/-! ### Keying a list of endpoints -/

/-- The table after the endpoints have been keyed one after the other. -/
def keyAll (table : EndpointTable) (endpoints : List AudioEndpoint) : EndpointTable :=
  endpoints.foldl (fun table endpoint => (table.keyFor endpoint).1) table

theorem keyAll_concat (table : EndpointTable) (endps : List AudioEndpoint)
    (endpoint : AudioEndpoint) :
    table.keyAll (endps ++ [endpoint]) = ((table.keyAll endps).keyFor endpoint).1 := by
  rw [keyAll, foldl_append]
  rfl

theorem knows_iff_find {known : List EndpointEntry} :
    Knows known id ↔ (known.find? (fun ent => ent.id = id)).isSome := by
  simp [Knows]

theorem keyFor_of_known (h : Knows table.known endpoint.id) :
    (table.keyFor endpoint).1 = { table with known := refreshName endpoint table.known } := by
  obtain ⟨_, he⟩ := isSome_iff_exists.mp (knows_iff_find.mp h)
  simp [keyFor, he]

theorem keyFor_of_unknown (h : ¬ Knows table.known endpoint.id) : (table.keyFor endpoint).1 =
      { next := table.next + 1
        known := table.known ++
          [{ key := ⟨table.next⟩, id := endpoint.id, name := endpoint.name }] } := by
  have hn : table.known.find? (fun ent => ent.id = endpoint.id) = none := by
    rw [knows_iff_find, not_isSome_iff_eq_none] at h
    exact h
  simp [keyFor, hn]

/-- An id that has a key keeps it. -/
theorem keyOf_keyFor (endpoint : AudioEndpoint)
    (h : Knows table.known id) : (table.keyFor endpoint).1.keyOf id = table.keyOf id := by
  by_cases hk : Knows table.known endpoint.id
  · rw [keyFor_of_known hk]
    exact find_refreshName endpoint id table.known
  · obtain ⟨_, he⟩ := isSome_iff_exists.mp (knows_iff_find.mp h)
    rw [keyFor_of_unknown hk]
    simp [keyOf, find?_append, he]

theorem knows_keyFor (endpoint : AudioEndpoint)
    (h : Knows table.known id ∨ id = endpoint.id) : Knows (table.keyFor endpoint).1.known id := by
  by_cases hk : Knows table.known endpoint.id
  · rw [keyFor_of_known hk]
    rcases h with h | rfl
    · exact knows_refreshName h
    · exact knows_refreshName hk
  · rw [keyFor_of_unknown hk]
    rcases h with ⟨ent, hmem, hi⟩ | rfl
    · exact ⟨ent, mem_append_left _ hmem, hi⟩
    · exact ⟨_, mem_append_right _ (mem_singleton.mpr rfl), rfl⟩

/-- The key handed out is the one the table then has. -/
theorem keyFor_key (table : EndpointTable) (endpoint : AudioEndpoint) :
    (table.keyFor endpoint).1.keyOf endpoint.id = some (table.keyFor endpoint).2 := by
  by_cases hk : Knows table.known endpoint.id
  · rw [keyOf_keyFor endpoint hk]
    obtain ⟨ent, he⟩ := isSome_iff_exists.mp (knows_iff_find.mp hk)
    simp [keyOf, keyFor, he]
  · have hn : table.known.find? (fun ent => ent.id = endpoint.id) = none := by
      rw [knows_iff_find, not_isSome_iff_eq_none] at hk
      exact hk
    simp [keyOf, keyFor, find?_append, hn]

theorem keyOf_keyAll : ∀ (endps : List AudioEndpoint) {table : EndpointTable},
    Knows table.known id → (table.keyAll endps).keyOf id = table.keyOf id
  | [], _, _ => rfl
  | first :: rest, _, h =>
    (keyOf_keyAll rest (knows_keyFor first (.inl h))).trans (keyOf_keyFor first h)

theorem knows_keyAll : ∀ (endps : List AudioEndpoint) {table : EndpointTable},
    (Knows table.known id ∨ ∃ endpoint ∈ endps, endpoint.id = id) →
      Knows (table.keyAll endps).known id
  | [], _, .inl h => h
  | [], _, .inr ⟨_, hmem, _⟩ => by cases hmem
  | first :: rest, table, h => by
      refine knows_keyAll rest ?_
      rcases h with h | ⟨endpoint, hmem, hi⟩
      · exact .inl (knows_keyFor first (.inl h))
      · rcases mem_cons.mp hmem with rfl | hmem
        · exact .inl (knows_keyFor endpoint (.inr hi.symm))
        · exact .inr ⟨endpoint, hmem, hi⟩

/-- Endpoints the table knows only have their names refreshed. -/
theorem keyAll_of_known : ∀ {endps : List AudioEndpoint} {table : EndpointTable},
    (∀ endpoint ∈ endps, Knows table.known endpoint.id) →
      table.keyAll endps = { table with known := refreshNames endps table.known }
  | [], _, _ => rfl
  | first :: rest, table, h => by
      show ((table.keyFor first).1).keyAll rest = _
      rw [keyFor_of_known (h first mem_cons_self)]
      exact keyAll_of_known fun endpoint hmem =>
        knows_refreshName (h endpoint (mem_cons_of_mem _ hmem))

/-- The names a table has after keying a list are the ones the list gives
it again. -/
theorem refreshNames_keyAll (table : EndpointTable) (endps : List AudioEndpoint) :
    refreshNames endps (table.keyAll endps).known = (table.keyAll endps).known := by
  induction endps using List.reverseRecOn with
  | nil => rfl
  | append_singleton pre last ih =>
    set done := table.keyAll pre with hd
    have hall : ∀ endpoint ∈ pre, Knows done.known endpoint.id := fun endpoint hmem =>
      knows_keyAll pre (.inr ⟨endpoint, hmem, rfl⟩)
    have hf : ∀ known, refreshNames (pre ++ [last]) known
        = refreshName last (refreshNames pre known) := fun known => foldl_append ..
    rw [keyAll_concat, ← hd, hf]
    by_cases hk : Knows done.known last.id
    · rw [keyFor_of_known hk]
      by_cases hl : ∃ later ∈ pre, later.id = last.id
      · rw [refreshNames_absorb hl, ih]
      · have ho : ∀ later ∈ pre, later.id ≠ last.id := fun later hmem heq => hl ⟨later, hmem, heq⟩
        rw [refreshNames_comm ho, ih, refreshName_absorb last last rfl]
    · rw [keyFor_of_unknown hk]
      show refreshName last (refreshNames pre (done.known ++ _)) = _
      rw [refreshNames_append _ hall, ih, refreshName_unknown hk]
      simp [refreshName]

/-- Keying a list a second time changes nothing. -/
theorem keyAll_again (table : EndpointTable) (endps : List AudioEndpoint) :
    (table.keyAll endps).keyAll endps = table.keyAll endps := by
  rw [keyAll_of_known fun endpoint hmem => knows_keyAll endps (.inr ⟨endpoint, hmem, rfl⟩),
    refreshNames_keyAll]

theorem choices_eq : ∀ (endps : List AudioEndpoint) (table : EndpointTable),
    table.choices endps = (table.keyAll endps, endps.map (fun endpoint =>
      { key := ((table.keyAll endps).keyOf endpoint.id).getD ⟨0⟩, name := endpoint.name }))
  | [], _ => rfl
  | first :: rest, table => by
      have hk : (table.keyAll (first :: rest)).keyOf first.id = some (table.keyFor first).2 :=
        (keyOf_keyAll rest (knows_keyFor first (.inr rfl))).trans (keyFor_key table first)
      simp only [choices, choices_eq rest, map_cons, hk, getD_some]
      rfl

end EndpointTable

/-! ## The audio reading -/

/-- The endpoints a reading keys, in order. -/
def keyed (source : AudioSourceSnapshot) : List AudioEndpoint :=
  source.activeEndpoints.getD [] ++ source.capturedEndpoint.toList

/-- The reading of a source whose endpoints the table knows. -/
def readingUnder (source : AudioSourceSnapshot) (table : EndpointTable) : AudioSourceReading :=
  let choice := fun endpoint : AudioEndpoint => (table.keyOf endpoint.id).getD ⟨0⟩
  let endpoints := (source.activeEndpoints.getD []).map (fun endpoint =>
    ({ key := choice endpoint, name := endpoint.name } : AudioEndpointChoice))
  { refreshFailed := source.refreshFailed
    endpointsKnown := source.activeEndpoints.isSome
    endpoints
    selection := selectionEcho source endpoints
    capturedKey := source.capturedEndpoint.map choice
    capturedName := source.capturedEndpoint.map (·.name)
    state := captureState source.state }

theorem audioEcho_eq (src : AudioSourceSnapshot) (table : EndpointTable) : audioEcho src table
      = (table.keyAll (keyed src), readingUnder src (table.keyAll (keyed src))) := by
  cases hc : src.capturedEndpoint with
  | none =>
    have hk : keyed src = src.activeEndpoints.getD [] := by simp [keyed, hc]
    simp only [audioEcho, choices_eq, hc, hk, readingUnder, map_none]
  | some captured =>
    have hk : keyed src = src.activeEndpoints.getD [] ++ [captured] := by simp [keyed, hc]
    have hp : ∀ endpoint ∈ src.activeEndpoints.getD [], (table.keyAll (keyed src)).keyOf endpoint.id
          = (table.keyAll (src.activeEndpoints.getD [])).keyOf endpoint.id := by
      intro endpoint hmem
      rw [hk, keyAll_concat]
      exact keyOf_keyFor captured (knows_keyAll _ (.inr ⟨endpoint, hmem, rfl⟩))
    have hh : (src.activeEndpoints.getD []).map (fun endpoint =>
          ({ key := ((table.keyAll (keyed src)).keyOf endpoint.id).getD ⟨0⟩
             name := endpoint.name } : AudioEndpointChoice))
        = (src.activeEndpoints.getD []).map (fun endpoint =>
          { key := ((table.keyAll (src.activeEndpoints.getD [])).keyOf endpoint.id).getD ⟨0⟩
            name := endpoint.name }) :=
      map_congr_left fun endpoint hmem => by rw [hp endpoint hmem]
    have hcapKey : (table.keyAll (keyed src)).keyOf captured.id
        = some ((table.keyAll (src.activeEndpoints.getD [])).keyFor captured).2 := by
      rw [hk, keyAll_concat]
      exact keyFor_key _ captured
    simp only [audioEcho, choices_eq, hc, readingUnder, hh, map_some, hcapKey, getD_some]
    rw [hk, keyAll_concat]

/-- A source read a second time reads the same. -/
theorem audioEcho_again (src : AudioSourceSnapshot) (table : EndpointTable) :
    audioEcho src (audioEcho src table).1 = audioEcho src table := by
  rw [audioEcho_eq src table]
  rw [audioEcho_eq, keyAll_again]

/-! ## The stages side by side -/

namespace Projection

/-- What is said of one field: nothing while it is what was said last. -/
def tell {α : Type} [BEq α] (last : Option α) (now : α) (event : ControllerEvent) :
    Option α × List ControllerEvent :=
  if last == some now then (last, []) else (some now, [event])

/-- A value that equals itself is said once. -/
theorem tell_again {α : Type} [BEq α] (last : Option α) {now : α} (hs : (now == now) = true)
    (event : ControllerEvent) :
    tell (tell last now event).1 now event = ((tell last now event).1, []) := by
  by_cases h : (last == some now) = true
  · simp [tell, h]
  · simp [tell, h, hs]

variable (snapshot : DeviceSnapshot) (seen : GenerationsSeen)

def tellDiscovery (last : Option (GenerationId × DiscoveryEcho)) :
    Option (GenerationId × DiscoveryEcho) × List ControllerEvent :=
  match discoveryEcho snapshot.discovery snapshot.receivers with
  | none => (last, [])
  | some echo => tell last (seen.discovery, echo) (echo.event seen.discovery)

def tellSession (last : Option (GenerationId × SessionEcho)) :
    Option (GenerationId × SessionEcho) × List ControllerEvent :=
  match sessionEcho snapshot.session with
  | none => (last, [])
  | some echo =>
    if publishes last snapshot.session.phase seen echo then
      (some (seen.session, echo), [echo.event seen.session])
    else (last, [])

section Stages

variable (snapshot : DeviceSnapshot) (seen : GenerationsSeen)

def tellVolume (last : Option F32) : Option F32 × List ControllerEvent :=
  tell last snapshot.masterVolume.get (.volumeApplied 0 snapshot.masterVolume.get)

def tellDesired (last : Option (Nat × List DeviceId)) :
    Option (Nat × List DeviceId) × List ControllerEvent :=
  tell last (snapshot.desiredRevision, sortedIds snapshot.desiredMembers)
    (.desiredReceiversChanged snapshot.desiredRevision (sortedIds snapshot.desiredMembers))

def groupsOf : List SavedGroupReading := snapshot.savedGroups.map (groupReading snapshot.receivers)

def tellGroups (last : Option (List SavedGroupReading)) :
    Option (List SavedGroupReading) × List ControllerEvent :=
  tell last (groupsOf snapshot) (.savedGroupsChanged (groupsOf snapshot))

def tellMute (last : Option Bool) : Option Bool × List ControllerEvent :=
  tell last snapshot.muted (.muteChanged snapshot.muted)

def tellLevels (last : Option LevelMap) : Option LevelMap × List ControllerEvent :=
  tell last snapshot.receiverLevels.toLevels
    (.receiverLevelsChanged snapshot.receiverLevels.toLevels)

def latencyOf : LatencyReading := latencyEcho snapshot.latencyPreset snapshot.latencyPresets

def tellLatency (last : Option LatencyReading) : Option LatencyReading × List ControllerEvent :=
  tell last (latencyOf snapshot) (.latencyChanged (latencyOf snapshot))

/-- The reading of the source, under the table the projection has. -/
def audioOf (endpoints : EndpointTable) : AudioSourceReading :=
  (audioEcho snapshot.audioSource endpoints).2

def tellAudio (endpoints : EndpointTable) (last : Option AudioSourceReading) :
    Option AudioSourceReading × List ControllerEvent :=
  tell last (audioOf snapshot endpoints) (.audioSourceChanged (audioOf snapshot endpoints))

variable (p : Projection)

theorem projectVolume_eq : p.projectVolume snapshot
    = ({ p with masterVolume := (tellVolume snapshot p.masterVolume).1 },
      (tellVolume snapshot p.masterVolume).2) := by
  unfold projectVolume tellVolume tell
  simp only
  split <;> rfl

theorem projectDesired_eq : p.projectDesired snapshot
    = ({ p with desired := (tellDesired snapshot p.desired).1 },
      (tellDesired snapshot p.desired).2) := by
  unfold projectDesired tellDesired tell
  simp only [beq_iff_eq]
  split <;> rfl

theorem projectGroups_eq : p.projectGroups snapshot
    = ({ p with groups := (tellGroups snapshot p.groups).1 },
      (tellGroups snapshot p.groups).2) := by
  unfold projectGroups tellGroups tell groupsOf
  simp only
  split <;> rfl

theorem projectDiscovery_eq : p.projectDiscovery snapshot seen
    = ({ p with discovery := (tellDiscovery snapshot seen p.discovery).1 },
      (tellDiscovery snapshot seen p.discovery).2) := by
  unfold projectDiscovery tellDiscovery
  cases discoveryEcho snapshot.discovery snapshot.receivers with
  | none => rfl
  | some =>
    simp only [tell, beq_iff_eq]
    split <;> rfl

theorem projectSession_eq : p.projectSession snapshot seen
    = ({ p with session := (tellSession snapshot seen p.session).1 },
      (tellSession snapshot seen p.session).2) := by
  unfold projectSession tellSession
  cases sessionEcho snapshot.session with
  | none => rfl
  | some =>
    simp only
    split <;> rfl

theorem projectMute_eq : p.projectMute snapshot
    = ({ p with mute := (tellMute snapshot p.mute).1 }, (tellMute snapshot p.mute).2) := by
  unfold projectMute tellMute tell
  simp only [beq_iff_eq]
  split <;> rfl

theorem projectLevels_eq : p.projectLevels snapshot
    = ({ p with receiverLevels := (tellLevels snapshot p.receiverLevels).1 },
      (tellLevels snapshot p.receiverLevels).2) := by
  unfold projectLevels tellLevels tell
  simp only
  split <;> rfl

theorem projectLatency_eq : p.projectLatency snapshot
    = ({ p with latency := (tellLatency snapshot p.latency).1 },
      (tellLatency snapshot p.latency).2) := by
  unfold projectLatency tellLatency tell latencyOf
  simp only [beq_iff_eq]
  split <;> rfl

theorem projectAudio_eq : p.projectAudio snapshot = ({ p with
          endpoints := (audioEcho snapshot.audioSource p.endpoints).1
          audio := (tellAudio snapshot p.endpoints p.audio).1 },
      (tellAudio snapshot p.endpoints p.audio).2) := by
  unfold projectAudio tellAudio tell audioOf
  simp only [beq_iff_eq]
  split <;> rfl

/-- Each stage looks at its own field and at nothing the others wrote. -/
theorem project_eq : p.project snapshot seen
    = ({ masterVolume := (tellVolume snapshot p.masterVolume).1
         desired := (tellDesired snapshot p.desired).1
         groups := (tellGroups snapshot p.groups).1
         discovery := (tellDiscovery snapshot seen p.discovery).1
         session := (tellSession snapshot seen p.session).1
         mute := (tellMute snapshot p.mute).1
         receiverLevels := (tellLevels snapshot p.receiverLevels).1
         latency := (tellLatency snapshot p.latency).1
         audio := (tellAudio snapshot p.endpoints p.audio).1
         endpoints := (audioEcho snapshot.audioSource p.endpoints).1 },
      (tellVolume snapshot p.masterVolume).2 ++ (tellDesired snapshot p.desired).2
        ++ (tellGroups snapshot p.groups).2 ++ (tellDiscovery snapshot seen p.discovery).2
        ++ (tellSession snapshot seen p.session).2 ++ (tellMute snapshot p.mute).2
        ++ (tellLevels snapshot p.receiverLevels).2 ++ (tellLatency snapshot p.latency).2
        ++ (tellAudio snapshot p.endpoints p.audio).2) := by
  simp only [project, projectVolume_eq, projectDesired_eq, projectGroups_eq, projectDiscovery_eq,
    projectSession_eq, projectMute_eq, projectLevels_eq, projectLatency_eq, projectAudio_eq]

end Stages

/-! ## A second look -/

theorem volume_not_nan (vol : Volume) : vol.get.isNan = false := F32.not_nan_of_isFinite vol.valid.1

theorem levels_beq_self (levels : VolumeMap) : (levels.toLevels == levels.toLevels) = true := by
  refine LevelMap.beq_of_canon_eq ?_ rfl
  intro ent hmem
  obtain ⟨old, -, rfl⟩ := mem_map.mp hmem
  exact volume_not_nan old.2

theorem groups_beq_self : (groupsOf snapshot == groupsOf snapshot) = true := by
  refine beq_of_map_eq (f := SavedGroupReading.canon) ?_ rfl
  intro reading hmem other heq
  refine SavedGroupReading.beq_of_canon_eq ?_ heq
  intro mbr hm
  obtain ⟨_, -, rfl⟩ := mem_map.mp hmem
  obtain ⟨saved, -, rfl⟩ := mem_map.mp hm
  exact volume_not_nan saved.level

theorem tellDiscovery_again (last : Option (GenerationId × DiscoveryEcho)) :
    tellDiscovery snapshot seen (tellDiscovery snapshot seen last).1
      = ((tellDiscovery snapshot seen last).1, []) := by
  unfold tellDiscovery
  cases discoveryEcho snapshot.discovery snapshot.receivers with
  | none => rfl
  | some => exact tell_again last (beq_self_eq_true _) _

/-- An answer that was published is not published again under the same
request. -/
theorem publishes_again (ph : SessionPhase) (seen : GenerationsSeen) (echo : SessionEcho) :
    publishes (some (seen.session, echo)) ph seen echo = false := by
  unfold publishes
  split
  · simp
  · rfl
  · simp

theorem tellSession_again (last : Option (GenerationId × SessionEcho)) :
    tellSession snapshot seen (tellSession snapshot seen last).1
      = ((tellSession snapshot seen last).1, []) := by
  unfold tellSession
  cases sessionEcho snapshot.session with
  | none => rfl
  | some echo =>
    cases hr : publishes last snapshot.session.phase seen echo with
    | true => simp [hr, publishes_again]
    | false => simp [hr]

theorem tellAudio_again (endps : EndpointTable) (last : Option AudioSourceReading) :
    tellAudio snapshot (audioEcho snapshot.audioSource endps).1 (tellAudio snapshot endps last).1
      = ((tellAudio snapshot endps last).1, []) := by
  have hs : audioOf snapshot (audioEcho snapshot.audioSource endps).1
      = audioOf snapshot endps := by rw [audioOf, audioEcho_again, audioOf]
  rw [tellAudio, hs]
  exact tell_again last (beq_self_eq_true _) _

/-- The same snapshot under the same requests says nothing new, and leaves
the projection as it is. -/
theorem project_again (p : Projection) (snapshot : DeviceSnapshot) (seen : GenerationsSeen) :
    (p.project snapshot seen).1.project snapshot seen = ((p.project snapshot seen).1, []) := by
  have hv : tellVolume snapshot (tellVolume snapshot p.masterVolume).1
      = ((tellVolume snapshot p.masterVolume).1, []) :=
    tell_again _ (F32.beq_self_of_not_nan (volume_not_nan snapshot.masterVolume)) _
  have hd : tellDesired snapshot (tellDesired snapshot p.desired).1
      = ((tellDesired snapshot p.desired).1, []) := tell_again _ (beq_self_eq_true _) _
  have hg : tellGroups snapshot (tellGroups snapshot p.groups).1
      = ((tellGroups snapshot p.groups).1, []) := tell_again _ (groups_beq_self snapshot) _
  have hm : tellMute snapshot (tellMute snapshot p.mute).1
      = ((tellMute snapshot p.mute).1, []) := tell_again _ (beq_self_eq_true _) _
  have hl : tellLevels snapshot (tellLevels snapshot p.receiverLevels).1
      = ((tellLevels snapshot p.receiverLevels).1, []) := tell_again _ (levels_beq_self _) _
  have ht : tellLatency snapshot (tellLatency snapshot p.latency).1
      = ((tellLatency snapshot p.latency).1, []) := tell_again _ (beq_self_eq_true _) _
  rw [project_eq snapshot seen p]
  rw [project_eq]
  simp only [hv, hd, hg, tellDiscovery_again, tellSession_again, hm, hl,
    ht, tellAudio_again, audioEcho_again, append_nil]

end Projection

/-! ## The shell behind the projection -/

/-- The readings the shell keeps as they are reported. -/
inductive Reading where
  | muted
  | latency
  | levels
  | groups
  | audio
  deriving DecidableEq

/-- The reading an event replaces. -/
def readingOf : ControllerEvent → Option Reading
  | .muteChanged _ => some .muted
  | .latencyChanged _ => some .latency
  | .receiverLevelsChanged _ => some .levels
  | .savedGroupsChanged _ => some .groups
  | .audioSourceChanged _ => some .audio
  | _ => none

/-- The events of a call that replace one reading. -/
def saidOf (kind : Reading) (produced : List ControllerEvent) : List ControllerEvent :=
  produced.filter (fun event => readingOf event = some kind)

/-- A shell and the projection it hears from. -/
structure Reader where
  shell : AppState
  projection : Projection := {}
  /-- The readings whose newest event was never delivered. -/
  missed : Reading → Bool := fun _ => false

namespace Reader

variable {event : ControllerEvent} {α : Type}

inductive Move where
  /-- A projection whose events are delivered in order, save those that
  `delivers` leaves out. -/
  | call (snapshot : DeviceSnapshot) (seen : GenerationsSeen) (delivers : ControllerEvent → Bool)
  /-- The shell takes something else. -/
  | take (event : AppEvent)

/-- The shell after the events of a call, in order. -/
def deliver [Lowercase] (shell : AppState) (events : List ControllerEvent) : AppState :=
  events.foldl (fun shell event => (reduce shell (.controller event)).1) shell

def call [Lowercase] (s : Reader) (snapshot : DeviceSnapshot) (seen : GenerationsSeen)
    (delivers : ControllerEvent → Bool) : Reader :=
  let (projection, produced) := s.projection.project snapshot seen
  { shell := deliver s.shell (produced.filter delivers)
    projection
    missed := fun kind =>
      if (saidOf kind produced).isEmpty then s.missed kind
      else !(saidOf kind produced).any delivers }

/-- Readings come from the projection alone. -/
def isReading : AppEvent → Bool
  | .controller event => (readingOf event).isSome
  | _ => false

def step [Lowercase] (s : Reader) : Move → Reader
  | .call snapshot seen delivers => s.call snapshot seen delivers
  | .take event => if isReading event then s else { s with shell := (reduce s.shell event).1 }

def run [Lowercase] (s : Reader) (moves : List Move) : Reader :=
  Mealy.run (Mealy.silent step) s moves

/-! ### What a call delivers -/

def takeAll (r : Readings) (events : List ControllerEvent) : Readings :=
  events.foldl Readings.take r

theorem deliver_readings [Lowercase] : ∀ (evs : List ControllerEvent) (shell : AppState),
    (deliver shell evs).readings = takeAll shell.readings evs
  | [], _ => rfl
  | event :: rest, shell => by
      refine (deliver_readings rest (reduce shell (.controller event)).1).trans ?_
      rw [reduce_readings]
      rfl

theorem takeAll_append (r : Readings) (a b : List ControllerEvent) :
    takeAll r (a ++ b) = takeAll (takeAll r a) b := foldl_append ..

/-- The value a field shows once what was said of it has been delivered. -/
def heard (delivers : ControllerEvent → Bool) (said : List ControllerEvent)
    (now : α) (shown : Option α) : Option α :=
  if said.any delivers then some now else shown

theorem takeAll_tell [BEq α] (r : Readings) (delivers : ControllerEvent → Bool)
    (last : Option α) (now : α) (event : ControllerEvent) :
    takeAll r ((Projection.tell last now event).2.filter delivers)
      = if (Projection.tell last now event).2.any delivers then r.take event else r := by
  unfold Projection.tell
  split
  · rfl
  · cases h : delivers event <;> simp [takeAll, h]

variable {said : List ControllerEvent}

theorem takeAll_ignored (r : Readings) (delivers : ControllerEvent → Bool)
    (h : ∀ event ∈ said, readingOf event = none) :
    takeAll r (said.filter delivers) = r := by
  induction said generalizing r with
  | nil => rfl
  | cons event rest ih =>
    have hr := fun r => ih r fun e hmem => h e (mem_cons_of_mem _ hmem)
    have he : r.take event = r := by
      have hn := h event mem_cons_self
      cases event <;> first | rfl | cases hn
    rw [filter_cons]
    split
    · show takeAll (r.take event) (rest.filter delivers) = r
      rw [he, hr]
    · exact hr r

theorem tell_readingless [BEq α] {last : Option α} {now : α} (h : readingOf event = none) :
    ∀ e ∈ (Projection.tell last now event).2, readingOf e = none := by
  unfold Projection.tell
  split
  · simp
  · simpa using h

theorem tellDiscovery_readingless (snapshot : DeviceSnapshot) (seen : GenerationsSeen)
    (last : Option (GenerationId × DiscoveryEcho)) :
    ∀ e ∈ (Projection.tellDiscovery snapshot seen last).2, readingOf e = none := by
  unfold Projection.tellDiscovery
  split
  · simp
  · rename_i echo _
    exact tell_readingless (by cases echo <;> rfl)

theorem tellSession_readingless (snapshot : DeviceSnapshot) (seen : GenerationsSeen)
    (last : Option (GenerationId × SessionEcho)) :
    ∀ e ∈ (Projection.tellSession snapshot seen last).2, readingOf e = none := by
  unfold Projection.tellSession
  split
  · simp
  · rename_i echo _
    split
    · intro e hmem
      rw [mem_singleton.mp hmem]
      cases echo <;> rfl
    · simp

section Call

variable (p : Projection) (snapshot : DeviceSnapshot) (seen : GenerationsSeen)

/-- What a call says of one reading. -/
def told : Reading → List ControllerEvent
  | .muted => (Projection.tellMute snapshot p.mute).2
  | .latency => (Projection.tellLatency snapshot p.latency).2
  | .levels => (Projection.tellLevels snapshot p.receiverLevels).2
  | .groups => (Projection.tellGroups snapshot p.groups).2
  | .audio => (Projection.tellAudio snapshot p.endpoints p.audio).2

theorem takeAll_project (r : Readings) (delivers : ControllerEvent → Bool) :
    takeAll r ((p.project snapshot seen).2.filter delivers)
      = { muted := heard delivers (told p snapshot .muted) snapshot.muted r.muted
          latency := heard delivers (told p snapshot .latency) (Projection.latencyOf snapshot)
            r.latency
          levels := heard delivers (told p snapshot .levels) snapshot.receiverLevels.toLevels
            r.levels
          groups := heard delivers (told p snapshot .groups) (Projection.groupsOf snapshot) r.groups
          audio := heard delivers (told p snapshot .audio)
            (Projection.audioOf snapshot p.endpoints) r.audio } := by
  have hv : ∀ r, takeAll r ((Projection.tellVolume snapshot p.masterVolume).2.filter delivers)
      = r := fun r => takeAll_ignored r delivers (tell_readingless rfl)
  have hd : ∀ r, takeAll r ((Projection.tellDesired snapshot p.desired).2.filter delivers)
      = r := fun r => takeAll_ignored r delivers (tell_readingless rfl)
  have hs := fun r => takeAll_ignored r delivers
    (tellDiscovery_readingless snapshot seen p.discovery)
  have he := fun r => takeAll_ignored r delivers (tellSession_readingless snapshot seen p.session)
  rw [project_eq]
  simp only [filter_append, takeAll_append, hv, hd, hs, he]
  have hg : ∀ (r : Readings) (c : Bool) groups, (if c then r.take (.savedGroupsChanged groups)
      else r) = { r with groups := if c then some groups else r.groups } := by
    intro r c groups
    cases c <;> rfl
  have hm : ∀ (r : Readings) (c : Bool) muted, (if c then r.take (.muteChanged muted)
      else r) = { r with muted := if c then some muted else r.muted } := by
    intro r c muted
    cases c <;> rfl
  have hl : ∀ (r : Readings) (c : Bool) levels, (if c then r.take (.receiverLevelsChanged levels)
      else r) = { r with levels := if c then some levels else r.levels } := by
    intro r c levels
    cases c <;> rfl
  have ht : ∀ (r : Readings) (c : Bool) reading, (if c then r.take (.latencyChanged reading)
      else r) = { r with latency := if c then some reading else r.latency } := by
    intro r c reading
    cases c <;> rfl
  have ha : ∀ (r : Readings) (c : Bool) reading, (if c then r.take (.audioSourceChanged reading)
      else r) = { r with audio := if c then some reading else r.audio } := by
    intro r c reading
    cases c <;> rfl
  simp only [Projection.tellGroups, Projection.tellMute, Projection.tellLevels,
    Projection.tellLatency, Projection.tellAudio, takeAll_tell, told, heard, hg, hm,
    hl, ht, ha]
  rfl

variable (kind : Reading)

theorem saidOf_append (a b : List ControllerEvent) :
    saidOf kind (a ++ b) = saidOf kind a ++ saidOf kind b := filter_append ..

theorem saidOf_readingless {kind : Reading}
    (h : ∀ event ∈ said, readingOf event = none) : saidOf kind said = [] := by
  refine filter_eq_nil_iff.mpr ?_
  intro event hmem
  simp [h event hmem]

theorem saidOf_tell [BEq α] (last : Option α) (now : α) (event : ControllerEvent) :
    saidOf kind (Projection.tell last now event).2
      = if readingOf event = some kind then (Projection.tell last now event).2 else [] := by
  unfold Projection.tell
  split
  · simp [saidOf]
  · by_cases h : readingOf event = some kind <;> simp [saidOf, h]

theorem saidOf_project : saidOf kind (p.project snapshot seen).2 = told p snapshot kind := by
  have hv : saidOf kind (Projection.tellVolume snapshot p.masterVolume).2 = [] :=
    saidOf_readingless (tell_readingless rfl)
  have hd : saidOf kind (Projection.tellDesired snapshot p.desired).2 = [] :=
    saidOf_readingless (tell_readingless rfl)
  rw [project_eq]
  simp only [saidOf_append, hv, hd,
    saidOf_readingless (tellDiscovery_readingless snapshot seen p.discovery),
    saidOf_readingless (tellSession_readingless snapshot seen p.session),
    Projection.tellGroups, Projection.tellMute, Projection.tellLevels, Projection.tellLatency,
    Projection.tellAudio, saidOf_tell, readingOf]
  cases kind <;> simp [told, Projection.tellGroups, Projection.tellMute, Projection.tellLevels,
    Projection.tellLatency, Projection.tellAudio]

end Call

/-! ### Readings follow the projection -/

/-- The shell shows what the projection last said of the reading. -/
def Follows (s : Reader) : Reading → Prop
  | .muted => s.shell.muted = s.projection.mute
  | .latency => s.shell.latency = s.projection.latency
  | .levels => s.shell.receiverLevels = s.projection.receiverLevels
  | .groups => s.shell.savedGroups = s.projection.groups
  | .audio => s.shell.audioSource = s.projection.audio

section

variable [BEq α] {last : Option α} {now : α} {shown : Option α}

/-- What was said and delivered is shown, and what was not said stays. -/
theorem heard_follows (delivers : ControllerEvent → Bool) {missed : Bool}
    (h : missed = false → shown = last)
    (hm : (if (Projection.tell last now event).2.isEmpty then missed
      else !(Projection.tell last now event).2.any delivers) = false) :
    heard delivers (Projection.tell last now event).2 now shown
      = (Projection.tell last now event).1 := by
  unfold heard Projection.tell at *
  split at hm
  · rename_i hs
    simp [hs, h hm]
  · rename_i ho
    have hd : delivers event = true := by simpa using hm
    simp [ho, hd]

/-- A reading that was up to date, or is said now, shows what is said. -/
theorem heard_shows (hs : (now == now) = true)
    (h : shown = last ∨ (Projection.tell last now event).2 ≠ []) :
    (heard (fun _ => true) (Projection.tell last now event).2 now shown == some now) = true := by
  unfold heard Projection.tell at *
  split at h
  · rename_i hm
    rcases h with rfl | h
    · simp [hm]
    · exact absurd rfl h
  · rename_i ho
    simp [ho, hs]

theorem heard_shows_lawful [LawfulBEq α]
    (h : shown = last ∨ (Projection.tell last now event).2 ≠ []) :
    heard (fun _ => true) (Projection.tell last now event).2 now shown = some now :=
  eq_of_beq (heard_shows (beq_self_eq_true now) h)

end

variable [Lowercase]

theorem call_readings (s : Reader) (snapshot : DeviceSnapshot) (seen : GenerationsSeen)
    (delivers : ControllerEvent → Bool) :
    (s.call snapshot seen delivers).shell.readings
      = takeAll s.shell.readings ((s.projection.project snapshot seen).2.filter delivers) :=
  deliver_readings _ _

theorem call_follows {s : Reader} (h : ∀ kind, s.missed kind = false → s.Follows kind)
    (snapshot : DeviceSnapshot) (seen : GenerationsSeen) (delivers : ControllerEvent → Bool) :
    ∀ kind, (s.call snapshot seen delivers).missed kind = false →
      (s.call snapshot seen delivers).Follows kind := by
  intro kind hm
  have hr := call_readings s snapshot seen delivers
  rw [takeAll_project] at hr
  have hs := saidOf_project s.projection snapshot seen kind
  have hp : (s.call snapshot seen delivers).projection
      = (s.projection.project snapshot seen).1 := rfl
  simp only [call, hs] at hm
  rw [project_eq] at hp
  cases kind with
  | muted =>
    rw [Follows, hp]
    exact (congrArg Readings.muted hr).trans (heard_follows delivers (h .muted) hm)
  | latency =>
    rw [Follows, hp]
    exact (congrArg Readings.latency hr).trans (heard_follows delivers (h .latency) hm)
  | levels =>
    rw [Follows, hp]
    exact (congrArg Readings.levels hr).trans (heard_follows delivers (h .levels) hm)
  | groups =>
    rw [Follows, hp]
    exact (congrArg Readings.groups hr).trans (heard_follows delivers (h .groups) hm)
  | audio =>
    rw [Follows, hp]
    exact (congrArg Readings.audio hr).trans (heard_follows delivers (h .audio) hm)

/-- A move keeps every reading that was not missed. -/
theorem step_follows (s : Reader) (move : Move) (h : ∀ kind, s.missed kind = false →
    s.Follows kind) : ∀ kind, (s.step move).missed kind = false → (s.step move).Follows kind := by
  cases move with
  | call snapshot seen delivers => exact call_follows h snapshot seen delivers
  | take event =>
    simp only [step]
    split
    · exact h
    · rename_i ho
      have ha : s.shell.readings.after event = s.shell.readings := by
        cases event with
        | controller event => cases event <;> first | rfl | exact absurd rfl ho
        | _ => rfl
      have hr : (reduce s.shell event).1.readings = s.shell.readings :=
        (reduce_readings s.shell event).trans ha
      intro kind hm
      have hold := h kind hm
      cases kind with
      | muted => exact (congrArg Readings.muted hr).trans hold
      | latency => exact (congrArg Readings.latency hr).trans hold
      | levels => exact (congrArg Readings.levels hr).trans hold
      | groups => exact (congrArg Readings.groups hr).trans hold
      | audio => exact (congrArg Readings.audio hr).trans hold

/-- The shell follows each reading it did not miss. -/
theorem run_follows (files : PreferencesRepository) (loc : ResolvedLocale) (moves : List Move) :
    let s := run { shell := initialState files.load loc } moves
    ∀ kind, s.missed kind = false → s.Follows kind := by
  have ht : ∀ kind, ({ shell := initialState files.load loc } : Reader).missed kind = false →
      ({ shell := initialState files.load loc } : Reader).Follows kind := by
    intro kind _
    cases kind <;> rfl
  have hs : ∀ (s : Reader) (move : Move), (∀ kind, s.missed kind = false → s.Follows kind) →
      ∀ kind, (Mealy.silent step s move).1.missed kind = false →
        (Mealy.silent step s move).1.Follows kind := fun s move h => step_follows s move h
  exact Mealy.run_invariant hs ht moves

/-- The shell shows what the snapshot says, up to the sign of zero. The
endpoint keys of the audio reading are those of the projection's table. -/
structure Shows (shell : AppState) (snapshot : DeviceSnapshot) (endpoints : EndpointTable) :
    Prop where
  muted : shell.muted = some snapshot.muted
  latency : shell.latency = some (latencyEcho snapshot.latencyPreset snapshot.latencyPresets)
  levels : (shell.receiverLevels == some snapshot.receiverLevels.toLevels) = true
  groups : (shell.savedGroups
    == some (snapshot.savedGroups.map (groupReading snapshot.receivers))) = true
  audio : shell.audioSource = some (audioEcho snapshot.audioSource endpoints).2

/-- A call whose events are all delivered shows its snapshot, provided it
says something of every reading whose last event was not delivered. -/
theorem call_shows {s : Reader} (h : ∀ kind, s.missed kind = false → s.Follows kind)
    (snapshot : DeviceSnapshot) (seen : GenerationsSeen)
    (hs : ∀ kind, s.missed kind = true → saidOf kind (s.projection.project snapshot seen).2 ≠ []) :
    Shows (s.call snapshot seen (fun _ => true)).shell snapshot s.projection.endpoints := by
  have hr := call_readings s snapshot seen (fun _ => true)
  rw [takeAll_project] at hr
  have hc : ∀ kind, s.Follows kind ∨ told s.projection snapshot kind ≠ [] := by
    intro kind
    cases hm : s.missed kind with
    | false => exact .inl (h kind hm)
    | true => exact .inr (saidOf_project s.projection snapshot seen kind ▸ hs kind hm)
  constructor
  · exact (congrArg Readings.muted hr).trans (heard_shows_lawful (hc .muted))
  · exact (congrArg Readings.latency hr).trans (heard_shows_lawful (hc .latency))
  · have hl : (s.call snapshot seen (fun _ => true)).shell.receiverLevels = _ :=
      congrArg Readings.levels hr
    rw [hl]
    exact heard_shows (levels_beq_self _) (hc .levels)
  · have hg : (s.call snapshot seen (fun _ => true)).shell.savedGroups = _ :=
      congrArg Readings.groups hr
    rw [hg]
    exact heard_shows (groups_beq_self snapshot) (hc .groups)
  · exact (congrArg Readings.audio hr).trans (heard_shows_lawful (hc .audio))

end Reader

/-- The projection the calls lead to. -/
def projected (calls : List (DeviceSnapshot × GenerationsSeen)) : Projection :=
  calls.foldl (fun p call => (p.project call.1 call.2).1) {}

/-- A second call with the same snapshot says nothing and moves nothing.
And however the shell came to stand behind the projection, with earlier
events left out as long as this call supersedes them, the events of one
call make it show the snapshot. -/
theorem projection_level_driven [Lowercase] :
    (∀ calls snapshot seen, let p := ((projected calls).project snapshot seen).1
      p.project snapshot seen = (p, [])) ∧
    (∀ files loc moves snapshot seen,
      let s := Reader.run { shell := initialState (PreferencesRepository.load files) loc } moves
      let (_, produced) := s.projection.project snapshot seen
      (∀ kind, s.missed kind = true → saidOf kind produced ≠ []) →
        Reader.Shows (Reader.deliver s.shell produced) snapshot s.projection.endpoints) := by
  refine ⟨fun calls snapshot seen => project_again _ snapshot seen, ?_⟩
  intro files loc moves snapshot seen s hs
  have hh := Reader.call_shows (Reader.run_follows files loc moves) snapshot seen hs
  have hall : (s.projection.project snapshot seen).2.filter (fun _ => true)
      = (s.projection.project snapshot seen).2 := filter_eq_self.mpr (by simp)
  show Reader.Shows (Reader.deliver s.shell (s.projection.project snapshot seen).2) _ _
  rw [← hall]
  exact hh

end OpenAirCast.Bridge

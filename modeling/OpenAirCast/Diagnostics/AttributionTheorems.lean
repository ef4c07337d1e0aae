/-
Diagnostics.AttributionTheorems — whose transport counters a row
shows.

`Joined` says that a row shows what the entry of its device answers; the
client's snapshot and the registry's receiver rows both do. `Attributed` is
what a reader of the rows expects: the counters of a target are in the row
of the entry it was assigned to and in no other. An entry without an index
is joined with the first target, so `attributed_iff` says when the rows are
right: nobody is without an index, or the first target has no traffic.
-/
import OpenAirCast.Diagnostics.ClientSource
import OpenAirCast.Diagnostics.Registry

namespace OpenAirCast.Diagnostics

open Backend List

/-! ## Rows -/

/-- A row: its device, and the counters it shows. -/
abbrev Row := DeviceId × TargetTransportSnapshot

def connectionRows (client : ClientDiagnosticsSnapshot) : List Row :=
  client.connections.map (fun conn => (conn.deviceId, conn.transport))

/-- The counters of a receiver row under the client's names. -/
def ReceiverTransportSnapshot.counters (transport : ReceiverTransportSnapshot) :
    TargetTransportSnapshot where
  dataDatagramsAttemptedTotal := transport.dataDatagramsAttemptedTotal
  dataDatagramsAcceptedLocalTotal := transport.dataDatagramsAcceptedLocalTotal
  dataSendFailuresTotal := transport.dataDatagramSendFailuresTotal
  dataBytesSentTotal := transport.dataBytesAcceptedLocalTotal
  syncDatagramsAttemptedTotal := transport.syncDatagramsAttemptedTotal
  syncDatagramsAcceptedLocalTotal := transport.syncDatagramsAcceptedLocalTotal
  syncSendFailuresTotal := transport.syncDatagramSendFailuresTotal
  syncBytesSentTotal := transport.syncBytesAcceptedLocalTotal

/-- The registry's rows, each with the device of its member. -/
def receiverRows (w : WorkerState) (registration : SessionRegistration)
    (client : ClientDiagnosticsSnapshot) : List Row :=
  (registration.members.entries.zip (w.buildReceiverRows registration client)).map
    (fun row => (row.1.2, row.2.transport.counters))

theorem receiverRows_eq (w : WorkerState) (reg : SessionRegistration)
    (cli : ClientDiagnosticsSnapshot) :
    receiverRows w reg cli = reg.members.entries.map (fun mbr =>
      (mbr.2, ((cli.connections.find? (fun conn => conn.deviceId == mbr.2)).map
        (·.transport)).getD {})) := by
  rw [receiverRows, WorkerState.buildReceiverRows]
  induction reg.members.entries with
  | nil => rfl
  | cons _ _ ih =>
    rw [map_cons, zip_cons_cons, map_cons, map_cons, ih]
    rfl

namespace ClientDiagnosticsSource

variable (source : ClientDiagnosticsSource)

/-- The targets the client streams to. -/
def targets : List TargetTransportSnapshot :=
  (source.audio.map (·.targets)).getD []

/-- What the first target counts; nothing where there is none. -/
def firstTarget : TargetTransportSnapshot :=
  (source.targets[0]?).getD {}

/-- The counters of the target an entry was assigned. -/
def assigned (entry : EntryShared) :
    TargetTransportSnapshot :=
  (entry.senderTargetIndex.bind (source.targets[·]?)).getD {}

/-- The row counts like the target; an entry with a streamer counts by itself. -/
def Shows (target : TargetTransportSnapshot) (row : Row) :
    Prop :=
  row.2 = target ∧ ∀ entry ∈ source.entries, entry.deviceId = row.1 → entry.streamerAudio = none

/-- Counters are in the rows of the entries they were assigned to, and only there. -/
structure Attributed (source : ClientDiagnosticsSource) (rows : List Row) : Prop where
  own : ∀ entry ∈ source.entries, entry.streamerAudio = none → ∀ row ∈ rows,
    row.1 = entry.deviceId → row.2 = source.assigned entry
  absent : ∀ row ∈ rows, (∀ entry ∈ source.entries, entry.deviceId ≠ row.1) → row.2 = {}
  once : ∀ (i : Nat) (target : TargetTransportSnapshot), source.targets[i]? = some target →
    target ≠ {} → (∀ j : Nat, source.targets[j]? = some target → j = i) →
    rows.Pairwise (fun row row' => ¬ (source.Shows target row ∧ source.Shows target row'))

/-- What the code puts into a row. -/
structure Joined (source : ClientDiagnosticsSource) (rows : List Row) : Prop where
  devices : (rows.map (·.1)).Nodup
  shown : ∀ row ∈ rows, (∃ entry ∈ source.entries, entry.deviceId = row.1 ∧
      row.2 = entry.transportSnapshot (source.audio.map (·.targets))) ∨
    ((∀ entry ∈ source.entries, entry.deviceId ≠ row.1) ∧ row.2 = {})

end ClientDiagnosticsSource

/-! ## What the code joins -/

variable {source : ClientDiagnosticsSource}

theorem mem_connections {conn : ConnectionDiagnosticsSnapshot} :
    conn ∈ source.snapshot.connections ↔
      ∃ entry ∈ source.entries, entry.snapshot (source.audio.map (·.targets)) = conn := by
  show conn ∈ List.insertionSort _ _ ↔ _
  rw [mem_insertionSort, mem_map]

theorem connectionRows_joined (hd : (source.entries.map (·.deviceId)).Nodup) :
    source.Joined (connectionRows source.snapshot) where
  devices := by
    have hp : (source.snapshot.connections.map (·.deviceId)).Perm
        (source.entries.map (·.deviceId)) := by
      refine ((perm_insertionSort _ _).map _).trans ?_
      rw [map_map]
      exact .refl _
    rw [connectionRows, map_map]
    exact hp.nodup_iff.mpr hd
  shown := by
    intro row hr
    obtain ⟨conn, hc, rfl⟩ := mem_map.mp hr
    obtain ⟨entry, he, rfl⟩ := mem_connections.mp hc
    exact .inl ⟨entry, he, rfl, rfl⟩

theorem receiverRows_joined (w : WorkerState) {reg : SessionRegistration}
    (hm : (reg.members.entries.map (·.2)).Nodup) :
    source.Joined (receiverRows w reg source.snapshot) where
  devices := by
    rw [receiverRows_eq, map_map]
    exact hm
  shown := by
    intro row hr
    rw [receiverRows_eq] at hr
    obtain ⟨mbr, -, rfl⟩ := mem_map.mp hr
    cases hf : source.snapshot.connections.find? (fun conn => conn.deviceId == mbr.2) with
    | none =>
      refine .inr ⟨fun entry he heq => ?_, rfl⟩
      have hc := mem_connections.mpr ⟨entry, he, rfl⟩
      have ho := find?_eq_none.mp hf _ hc
      exact ho (by simpa [EntryShared.snapshot] using heq)
    | some =>
      obtain ⟨entry, he, hc⟩ := mem_connections.mp (mem_of_find?_eq_some hf)
      have hd := find?_some hf
      rw [beq_iff_eq, ← hc] at hd
      refine .inl ⟨entry, he, hd, ?_⟩
      rw [← hc]
      rfl

/-! ## When the rows are right -/

namespace ClientDiagnosticsSource

variable {source : ClientDiagnosticsSource}

/-- Without an index an entry is given the first target. -/
theorem transportSnapshot_eq_assigned_iff {entry : EntryShared} (hn : entry.streamerAudio = none) :
    entry.transportSnapshot (source.audio.map (·.targets)) = source.assigned entry ↔
      (entry.senderTargetIndex = none → source.firstTarget = {}) := by
  unfold EntryShared.transportSnapshot assigned firstTarget targets
  rw [hn]
  cases source.audio with
  | none => cases entry.senderTargetIndex <;> simp
  | some => cases entry.senderTargetIndex <;> simp

/-- Distinct entries have distinct devices. -/
theorem entry_of_device (hd : (source.entries.map (·.deviceId)).Nodup)
    {entry entry' : EntryShared} (he : entry ∈ source.entries)
    (he' : entry' ∈ source.entries) (heq : entry.deviceId = entry'.deviceId) :
    entry = entry' :=
  inj_on_of_nodup_map hd he he' heq

/-- Distinct entries have distinct indices. -/
theorem entry_of_index {ents : List EntryShared}
    (h : (ents.filterMap (·.senderTargetIndex)).Nodup) {entry entry' : EntryShared} {i : Nat}
    (he : entry ∈ ents) (he' : entry' ∈ ents)
    (hi : entry.senderTargetIndex = some i) (hi' : entry'.senderTargetIndex = some i) :
    entry = entry' := by
  induction ents with
  | nil => cases he
  | cons first rest ih =>
    have hl : ∀ other ∈ rest, other.senderTargetIndex = some i →
        first.senderTargetIndex ≠ some i := by
      intro other ho hs hf
      rw [filterMap_cons_some hf, nodup_cons] at h
      exact h.1 (mem_filterMap.mpr ⟨other, ho, hs⟩)
    have hr : (rest.filterMap (·.senderTargetIndex)).Nodup :=
      h.sublist ((sublist_cons_self first rest).filterMap _)
    rcases mem_cons.mp he with rfl | hin
    · rcases mem_cons.mp he' with heq | hin'
      · exact heq.symm
      · exact absurd hi (hl entry' hin' hi')
    · rcases mem_cons.mp he' with rfl | hin'
      · exact absurd hi' (hl entry hin hi)
      · exact ih hr hin hin'

variable {rows : List Row}

/-- Two rows that show one target are of entries with one index. -/
theorem Joined.once (h : source.Joined rows)
    (hin : (source.entries.filterMap (·.senderTargetIndex)).Nodup)
    (hf : ∀ entry ∈ source.entries, entry.streamerAudio = none →
      entry.senderTargetIndex = none → source.firstTarget = {})
    {i : Nat} {target : TargetTransportSnapshot} (hm : target ≠ {})
    (ho : ∀ j : Nat, source.targets[j]? = some target → j = i) :
    rows.Pairwise (fun row row' => ¬ (source.Shows target row ∧ source.Shows target row')) := by
  have hx : ∀ row ∈ rows, source.Shows target row →
      ∃ entry ∈ source.entries, entry.deviceId = row.1 ∧ entry.senderTargetIndex = some i := by
    rintro row hr ⟨hshown, hst⟩
    rcases h.shown row hr with ⟨entry, he, hd, hc⟩ | ⟨-, hz⟩
    · have hn := hst entry he hd
      rw [(transportSnapshot_eq_assigned_iff hn).mpr (hf entry he hn), hshown, assigned] at hc
      refine ⟨entry, he, hd, ?_⟩
      cases ha : entry.senderTargetIndex with
      | none =>
        rw [ha] at hc
        exact absurd hc hm
      | some j =>
        cases ht : source.targets[j]? with
        | none =>
          rw [ha, Option.bind_some, ht] at hc
          exact absurd hc hm
        | some =>
          rw [ha, Option.bind_some, ht] at hc
          rw [ho j (by rw [ht]; exact congrArg some hc.symm)]
    · exact absurd (hshown.symm.trans hz) hm
  refine (pairwise_map.mp h.devices).imp_of_mem ?_
  rintro row row' hr hr' hh ⟨hs, hs'⟩
  obtain ⟨_, he, hd, hi⟩ := hx row hr hs
  obtain ⟨_, he', hd', hi'⟩ := hx row' hr' hs'
  refine hh ?_
  rw [← hd, ← hd', entry_of_index hin he he' hi hi']

/-- Rows as the code joins them are right when every entry without a streamer and
an index is given no traffic. -/
theorem Joined.attributed (h : source.Joined rows)
    (hi : (source.entries.filterMap (·.senderTargetIndex)).Nodup)
    (hv : (source.entries.map (·.deviceId)).Nodup)
    (hf : ∀ entry ∈ source.entries, entry.streamerAudio = none →
      entry.senderTargetIndex = none → source.firstTarget = {}) : source.Attributed rows where
  own := by
    intro entry he hn row hr hd
    rcases h.shown row hr with ⟨entry', he', hd', hc⟩ | ⟨ho, -⟩
    · obtain rfl := entry_of_device hv he' he (hd'.trans hd)
      rw [hc]
      exact (transportSnapshot_eq_assigned_iff hn).mpr (hf entry' he' hn)
    · exact absurd hd.symm (ho entry he)
  absent := by
    intro row hr ho
    rcases h.shown row hr with ⟨entry, he, hd, -⟩ | ⟨-, hz⟩
    · exact absurd hd (ho entry he)
    · exact hz
  once := fun _ _ _ hs hon => h.once hi hf hs hon

/-- Rows are attributed, in the client's snapshot and in the registry, exactly
when no entry without a streamer and an index sees traffic of a first target. -/
theorem attributed_iff (source : ClientDiagnosticsSource) (w : WorkerState)
    (registration : SessionRegistration)
    (hindices : (source.entries.filterMap (·.senderTargetIndex)).Nodup)
    (hdevices : (source.entries.map (·.deviceId)).Nodup)
    (hmembers : (registration.members.entries.map (·.2)).Nodup) :
    (source.Attributed (connectionRows source.snapshot) ∧
        source.Attributed (receiverRows w registration source.snapshot)) ↔
      ∀ entry ∈ source.entries, entry.streamerAudio = none → entry.senderTargetIndex = none →
        source.firstTarget = {} := by
  constructor
  · rintro ⟨hr, -⟩ entry he hn
    refine (transportSnapshot_eq_assigned_iff hn).mp ?_
    exact hr.own entry he hn (entry.deviceId, _)
      (mem_map.mpr ⟨_, mem_connections.mpr ⟨entry, he, rfl⟩, rfl⟩) rfl
  · intro hf
    exact ⟨(connectionRows_joined hdevices).attributed hindices hdevices hf,
      (receiverRows_joined w hmembers).attributed hindices hdevices hf⟩

/-- A group of two. -/
def pair : ClientDiagnosticsSource :=
  .fromParts [{ deviceId := ⟨1⟩, senderTargetIndex := some 0 },
      { deviceId := ⟨2⟩, senderTargetIndex := some 1 }]
    (some { targets := [{ dataSendFailuresTotal := 3 }, {}] })

def pairRegistration : SessionRegistration :=
  ⟨⟨7⟩, 0, some ⟨1⟩, (SortedMap.empty.insert ⟨1⟩ ⟨1⟩).insert ⟨2⟩ ⟨2⟩, 0⟩

theorem attributed_pair :
    pair.Attributed (receiverRows (.start {}) pairRegistration pair.snapshot) :=
  ((attributed_iff pair (.start {}) pairRegistration (by decide) (by decide) (by decide)).mpr
    (by decide)).2

/-- One receiver that was connected by itself, while a group start streams to
it: only `connect_group` assigns an index, and the streamer is the client's. -/
def alone : ClientDiagnosticsSource :=
  .fromParts [{ deviceId := ⟨1⟩, senderTargetIndex := none }]
    (some { targets := [{ dataSendFailuresTotal := 3 }] })

def aloneRegistration : SessionRegistration := ⟨⟨7⟩, 0, some ⟨1⟩, SortedMap.empty.insert ⟨1⟩ ⟨1⟩, 0⟩

/-- The receiver has neither, and is credited with failures. -/
theorem stray_failures : (⟨1⟩, { dataSendFailuresTotal := 3 }) ∈ connectionRows alone.snapshot ∧
      (⟨1⟩, { dataSendFailuresTotal := 3 }) ∈
        receiverRows (.start {}) aloneRegistration alone.snapshot ∧
      ¬ alone.Attributed (connectionRows alone.snapshot) := by
  have hs : ((⟨1⟩, { dataSendFailuresTotal := 3 }) : Row) ∈ connectionRows alone.snapshot := by
    decide
  refine ⟨hs, by decide, fun h => ?_⟩
  have hz := h.own { deviceId := ⟨1⟩, senderTargetIndex := none } (by simp [alone, fromParts]) rfl _
    hs rfl
  exact absurd hz (by decide)

end ClientDiagnosticsSource

end OpenAirCast.Diagnostics

/-
Discovery.AdvertisementTheorems — which records show a
receiver, and what an unreadable field does to the rest of one.

`Field` names the fields of a device. Two tables describe the parsers:
`Field.keys`, the keys a field is read from, first one present, and
`Readable`, what the text must be. `airplay_same` and `raop_same` say that a
field is a function of its own key; `airplay_default` and `raop_default`
that an unreadable text leaves the default. With the shape `record` of the
parsers, `record_sound_iff` then decides when all of it holds together.
-/
import OpenAirCast.Discovery.TxtRecordTheorems
import Mathlib.Logic.Function.Basic

namespace OpenAirCast.Discovery

open Option

/-! ## Fields -/

inductive Field where
  | id | name | model | manufacturer | serialNumber | addresses | port | features
  | requiredSenderFeatures | publicKey | sourceVersion | firmwareVersion | osVersion
  | protocolVersion | requiresPassword | statusFlags | accessControl | pairingIdentity
  | systemPairingIdentity | bluetoothAddress | homekitHomeId | groupId | isGroupLeader
  | groupPublicName | groupContainsDiscoverableLeader | homeGroupId | householdId
  | parentGroupId | parentGroupContainsDiscoverableLeader | tightSyncId | raopPort
  | raopEncryptionTypes | raopCodecs | raopTransport | raopMetadataTypes | raopDigestAuth
  | vodkaVersion
  deriving DecidableEq

/-- Two devices have the same value in the field. -/
def Field.Same (d e : Device) : Field → Prop
  | .id => d.id = e.id
  | .name => d.name = e.name
  | .model => d.model = e.model
  | .manufacturer => d.manufacturer = e.manufacturer
  | .serialNumber => d.serialNumber = e.serialNumber
  | .addresses => d.addresses = e.addresses
  | .port => d.port = e.port
  | .features => d.features = e.features
  | .requiredSenderFeatures => d.requiredSenderFeatures = e.requiredSenderFeatures
  | .publicKey => d.publicKey = e.publicKey
  | .sourceVersion => d.sourceVersion = e.sourceVersion
  | .firmwareVersion => d.firmwareVersion = e.firmwareVersion
  | .osVersion => d.osVersion = e.osVersion
  | .protocolVersion => d.protocolVersion = e.protocolVersion
  | .requiresPassword => d.requiresPassword = e.requiresPassword
  | .statusFlags => d.statusFlags = e.statusFlags
  | .accessControl => d.accessControl = e.accessControl
  | .pairingIdentity => d.pairingIdentity = e.pairingIdentity
  | .systemPairingIdentity => d.systemPairingIdentity = e.systemPairingIdentity
  | .bluetoothAddress => d.bluetoothAddress = e.bluetoothAddress
  | .homekitHomeId => d.homekitHomeId = e.homekitHomeId
  | .groupId => d.groupId = e.groupId
  | .isGroupLeader => d.isGroupLeader = e.isGroupLeader
  | .groupPublicName => d.groupPublicName = e.groupPublicName
  | .groupContainsDiscoverableLeader =>
    d.groupContainsDiscoverableLeader = e.groupContainsDiscoverableLeader
  | .homeGroupId => d.homeGroupId = e.homeGroupId
  | .householdId => d.householdId = e.householdId
  | .parentGroupId => d.parentGroupId = e.parentGroupId
  | .parentGroupContainsDiscoverableLeader =>
    d.parentGroupContainsDiscoverableLeader = e.parentGroupContainsDiscoverableLeader
  | .tightSyncId => d.tightSyncId = e.tightSyncId
  | .raopPort => d.raopPort = e.raopPort
  | .raopEncryptionTypes => d.raopEncryptionTypes = e.raopEncryptionTypes
  | .raopCodecs => d.raopCodecs = e.raopCodecs
  | .raopTransport => d.raopTransport = e.raopTransport
  | .raopMetadataTypes => d.raopMetadataTypes = e.raopMetadataTypes
  | .raopDigestAuth => d.raopDigestAuth = e.raopDigestAuth
  | .vodkaVersion => d.vodkaVersion = e.vodkaVersion

/-- The keys of a field; the first one that is present counts. -/
def Field.keys : ServiceKind → Field → List String
  | .airplay, .id => ["deviceid"]
  | .airplay, .features => ["features"]
  | .airplay, .model => ["model"]
  | .airplay, .sourceVersion => ["srcvers"]
  | .airplay, .requiredSenderFeatures => ["rsf"]
  | .airplay, .statusFlags => ["flags", "sf"]
  | .airplay, .accessControl => ["acl"]
  | .airplay, .osVersion => ["osvers"]
  | .airplay, .protocolVersion => ["protovers"]
  | .airplay, .manufacturer => ["manufacturer"]
  | .airplay, .serialNumber => ["serialNumber"]
  | .airplay, .bluetoothAddress => ["btaddr"]
  | .airplay, .pairingIdentity => ["pi"]
  | .airplay, .systemPairingIdentity => ["psi"]
  | .airplay, .homekitHomeId => ["hkid"]
  | .airplay, .groupId => ["gid"]
  | .airplay, .isGroupLeader => ["igl"]
  | .airplay, .groupPublicName => ["gpn"]
  | .airplay, .groupContainsDiscoverableLeader => ["gcgl"]
  | .airplay, .homeGroupId => ["hgid"]
  | .airplay, .householdId => ["hmid"]
  | .airplay, .parentGroupId => ["pgid"]
  | .airplay, .parentGroupContainsDiscoverableLeader => ["pgcgl"]
  | .airplay, .tightSyncId => ["tsid"]
  | .raop, .features => ["ft", "sf"]
  | .raop, .model => ["am", "model"]
  | .raop, .sourceVersion => ["vs", "vn"]
  | .raop, .statusFlags => ["sf"]
  | .raop, .osVersion => ["ov"]
  | .raop, .raopEncryptionTypes => ["et"]
  | .raop, .raopCodecs => ["cn"]
  | .raop, .raopTransport => ["tp"]
  | .raop, .raopMetadataTypes => ["md"]
  | .raop, .raopDigestAuth => ["da"]
  | .raop, .vodkaVersion => ["vv"]
  | _, .publicKey => ["pk"]
  | _, .requiresPassword => ["pw"]
  | _, .firmwareVersion => ["fv"]
  | _, _ => []

variable (parseStr : String → Option Uuid)

/-- A text that gives the field a value. A string is kept as it stands, and
a list without the entries that are no numbers. -/
def Readable (key text : String) : Field → Prop
  | .features =>
    if key = "sf" then ∃ mask, parseLegacyFeatures text = .ok mask
    else ∃ mask, Features.fromTxtValue text = .ok mask
  | .requiredSenderFeatures => ∃ mask, Features.fromTxtValue text = .ok mask
  | .publicKey => ∃ bytes, parsePublicKey text = .ok bytes
  | .sourceVersion => ∃ version, Version.parse text = .ok version
  | .requiresPassword | .isGroupLeader | .groupContainsDiscoverableLeader
  | .parentGroupContainsDiscoverableLeader | .raopDigestAuth => isSet text = true
  | .statusFlags => ∃ n, number? text = some n
  | .accessControl => ∃ n, parseU8 text.toList = some n
  | .groupId | .parentGroupId | .tightSyncId => ∃ uuid, parseStr text = some uuid
  | _ => True

/-- The first of the keys that is present, with its text. -/
def firstOf (txt : Txt) (keys : List String) : Option (String × String) :=
  keys.findSome? (fun key => (txt key).map (fun text => (key, text)))

/-- The key a field is read from, with its text. -/
def Field.source (kind : ServiceKind) (txt : Txt) (f : Field) : Option (String × String) :=
  firstOf txt (f.keys kind)

/-! ## The first key present -/

section FirstOf

variable {txt txt' : Txt} {keys : List String} {k l key text : String}

theorem firstOf_one : firstOf txt [k] = some (key, text) ↔ k = key ∧ txt k = some text := by
  cases ht : txt k <;> simp [firstOf, ht]

theorem firstOf_two : firstOf txt [k, l] = some (key, text) ↔
    (k = key ∧ txt k = some text) ∨ (txt k = none ∧ l = key ∧ txt l = some text) := by
  cases hk : txt k <;> cases hl : txt l <;> simp [firstOf, hk, hl]

theorem firstOf_one_eq : firstOf txt [k] = firstOf txt' [k] ↔ txt k = txt' k := by
  cases hk : txt k <;> cases hk' : txt' k <;> simp [firstOf, hk, hk']

theorem firstOf_two_eq (hkl : k ≠ l) : firstOf txt [k, l] = firstOf txt' [k, l] ↔
    txt k = txt' k ∧ (txt k = none → txt l = txt' l) := by
  cases hk : txt k <;> cases hk' : txt' k <;> cases hl : txt l <;> cases hl' : txt' l <;>
    simp [firstOf, hk, hk', hl, hl', hkl, hkl.symm]

/-- Where both records answer from the same key, they give the same text. -/
theorem or_eq_of_firstOf_eq (hkl : k ≠ l) (h : firstOf txt [k, l] = firstOf txt' [k, l]) :
    (txt k).or (txt l) = (txt' k).or (txt' l) := by
  obtain ⟨hk, hl⟩ := (firstOf_two_eq hkl).mp h
  rw [← hk]
  cases hp : txt k with
  | none => simp [hl hp]
  | some => rfl

/-- The text of a key that is not the first does not count. -/
theorem firstOf_update (hp : (txt key).isSome)
    (h : ∀ text, firstOf txt keys ≠ some (key, text)) (text : String) :
    firstOf (Function.update txt key (some text)) keys = firstOf txt keys := by
  induction keys with
  | nil => rfl
  | cons k _ ih =>
    by_cases hy : k = key
    · subst hy
      obtain ⟨here, hh⟩ := isSome_iff_exists.mp hp
      exact absurd (by simp [firstOf, hh]) (h here)
    · unfold firstOf at ih h ⊢
      simp only [List.findSome?_cons, Function.update_of_ne hy] at h ⊢
      cases hk : txt k with
      | none => simpa [hk] using ih (by simpa [hk] using h)
      | some => rfl

end FirstOf

/-! ## What a field is read from -/

section Devices

variable {parseStr : String → Option Uuid} {name : String} {addresses : List IpAddr}
  {port : BitVec 16} {txt txt' : Txt} {id id' : DeviceId} {f : Field} {key text : String}

/-- A field of an AirPlay device is a function of its own key. -/
theorem airplay_same (hf : f ≠ .id) (h : f.source .airplay txt = f.source .airplay txt') :
    f.Same (airplayDevice parseStr name addresses port txt id)
      (airplayDevice parseStr name addresses port txt' id') := by
  cases f with
  | id => exact absurd rfl hf
  | statusFlags =>
    have ht := or_eq_of_firstOf_eq (by decide) h
    simp only [Field.Same, airplayDevice, ht]
  | name | addresses | port | raopPort | raopEncryptionTypes | raopCodecs | raopTransport
  | raopMetadataTypes | raopDigestAuth | vodkaVersion => rfl
  | _ =>
    have ht := firstOf_one_eq.mp h
    simp only [Field.Same, airplayDevice, ht]

theorem raop_same (hf : f ≠ .id) (h : f.source .raop txt = f.source .raop txt') :
    f.Same (raopDevice name addresses port txt id) (raopDevice name addresses port txt' id') := by
  cases f with
  | id => exact absurd rfl hf
  | features =>
    obtain ⟨hft, hs⟩ := (firstOf_two_eq (by decide)).mp h
    simp only [Field.Same, raopDevice]
    rw [← hft]
    cases hp : txt "ft" with
    | none => rw [hs hp]
    | some => rfl
  | model | sourceVersion =>
    have ht := or_eq_of_firstOf_eq (by decide) h
    simp only [Field.Same, raopDevice, ht]
  | publicKey | firmwareVersion | osVersion | requiresPassword | statusFlags
  | raopEncryptionTypes | raopCodecs | raopTransport | raopMetadataTypes | raopDigestAuth
  | vodkaVersion =>
    have ht := firstOf_one_eq.mp h
    simp only [Field.Same, raopDevice, ht]
  | _ => rfl

theorem read_eq_none {α : Type} {parse : String → Except Stop α}
    (h : ¬ ∃ value, parse text = .ok value) : read parse (some text) = none := by
  unfold read
  cases hp : parse text with
  | ok value => exact absurd ⟨value, hp⟩ h
  | error => simp [hp, Except.toOption]

theorem read_group_eq_none (h : ¬ ∃ uuid, parseStr text = some uuid) :
    read (parseGroupUuid parseStr) (some text) = none := by
  refine read_eq_none ?_
  rintro ⟨uuid, hu⟩
  unfold parseGroupUuid at hu
  cases hp : parseStr text with
  | none => simp [hp, orFail, fail] at hu
  | some value => exact h ⟨value, hp⟩

theorem bind_eq_none {α : Type} {parse : String → Option α}
    (h : ¬ ∃ value, parse text = some value) : (some text).bind parse = none := by
  simpa [eq_none_iff_forall_ne_some] using h

theorem any_isSet_eq_false (h : ¬ isSet text = true) : (some text).any isSet = false := by
  simpa using h

/-- A field of an AirPlay device whose text cannot be read is the default. -/
theorem airplay_default (hf : f ≠ .id) (h : f.source .airplay txt = some (key, text))
    (hr : ¬ Readable parseStr key text f) :
    f.Same (airplayDevice parseStr name addresses port txt id) { id := id } := by
  cases f with
  | id => exact absurd rfl hf
  | features =>
    obtain ⟨rfl, ht⟩ := firstOf_one.mp h
    simp only [Field.Same, airplayDevice, ht, read_eq_none hr]
    rfl
  | requiredSenderFeatures | publicKey =>
    obtain ⟨-, ht⟩ := firstOf_one.mp h
    simp only [Field.Same, airplayDevice, ht, read_eq_none hr]
  | sourceVersion =>
    obtain ⟨-, ht⟩ := firstOf_one.mp h
    simp only [Field.Same, airplayDevice, ht, read_eq_none hr]
    rfl
  | groupId | parentGroupId | tightSyncId =>
    obtain ⟨-, ht⟩ := firstOf_one.mp h
    simp only [Field.Same, airplayDevice, ht, read_group_eq_none hr]
  | requiresPassword | isGroupLeader | groupContainsDiscoverableLeader
  | parentGroupContainsDiscoverableLeader =>
    obtain ⟨-, ht⟩ := firstOf_one.mp h
    simp only [Field.Same, airplayDevice, ht, any_isSet_eq_false hr]
  | statusFlags =>
    obtain ⟨-, ht⟩ | ⟨hn, -, ht⟩ := firstOf_two.mp h
    · simp only [Field.Same, airplayDevice, ht, some_or, bind_eq_none hr]
      rfl
    · simp only [Field.Same, airplayDevice, hn, ht, none_or, bind_eq_none hr]
      rfl
  | accessControl =>
    obtain ⟨-, ht⟩ := firstOf_one.mp h
    simp only [Field.Same, airplayDevice, ht]
    exact bind_eq_none hr
  | raopDigestAuth => cases h
  | _ => exact absurd trivial hr

theorem raop_default (hf : f ≠ .id) (h : f.source .raop txt = some (key, text))
    (hr : ¬ Readable parseStr key text f) :
    f.Same (raopDevice name addresses port txt id) { id := id } := by
  cases f with
  | id => exact absurd rfl hf
  | features =>
    obtain ⟨rfl, ht⟩ | ⟨hn, rfl, ht⟩ := firstOf_two.mp h
    · simp only [Field.Same, raopDevice, ht, isSome_some, if_true, read_eq_none hr]
      rfl
    · simp only [Field.Same, raopDevice, hn, ht, isSome_none]
      rw [if_neg (by decide), read_eq_none hr]
      rfl
  | publicKey =>
    obtain ⟨-, ht⟩ := firstOf_one.mp h
    simp only [Field.Same, raopDevice, ht, read_eq_none hr]
  | sourceVersion =>
    obtain ⟨-, ht⟩ | ⟨hn, -, ht⟩ := firstOf_two.mp h
    · simp only [Field.Same, raopDevice, ht, some_or, read_eq_none hr]
      rfl
    · simp only [Field.Same, raopDevice, hn, ht, none_or, read_eq_none hr]
      rfl
  | requiresPassword | raopDigestAuth =>
    obtain ⟨-, ht⟩ := firstOf_one.mp h
    simp only [Field.Same, raopDevice, ht, any_isSet_eq_false hr]
  | statusFlags =>
    obtain ⟨-, ht⟩ := firstOf_one.mp h
    simp only [Field.Same, raopDevice, ht, bind_eq_none hr]
    rfl
  | requiredSenderFeatures | accessControl | groupId | parentGroupId | tightSyncId
  | isGroupLeader | groupContainsDiscoverableLeader
  | parentGroupContainsDiscoverableLeader => cases h
  | _ => exact absurd trivial hr

end Devices

/-! ## Whole records -/

/-- What the doc comment of `optional_field` promises of one record. The
parser, the text of its identity and the keys are those of one service
type. -/
structure Sound (kind : ServiceKind) (parseStr : String → Option Uuid)
    (parse : Txt → Except Stop Device) (identity : Option String) (txt : Txt) : Prop where
  /-- No slice is out of range or inside a character. -/
  survives : parse txt ≠ .error .panicked
  /-- The record is a receiver exactly if it has a documented identity. -/
  accepts : (∃ d, parse txt = .ok d) ↔ ∃ text, identity = some text ∧ Documented text
  /-- What cannot be read is the default. -/
  degrades : ∀ d (f : Field) key text, parse txt = .ok d → f ≠ .id →
    f.source kind txt = some (key, text) → ¬ Readable parseStr key text f → f.Same d { id := d.id }
  /-- Whatever the text of a key, the fields that are not read from it keep
  their values. -/
  keeps : ∀ d d' key text, (txt key).isSome → parse txt = .ok d →
    parse (Function.update txt key (some text)) = .ok d' →
      ∀ f : Field, (∀ text, f.source kind txt ≠ some (key, text)) → f.Same d d'

/-- The identity is not cut inside a character and not loosely spelled, and
beside an identity that is read the key is not cut inside a character. -/
def ReadsWell (identity key : Option String) : Prop :=
  ∀ text, identity = some text → ¬ CutsId text ∧ ¬ Loose text ∧
      ((∃ parts, Spells parts text) → ∀ key', key = some key' → ¬ CutsKey key')

section Record

variable {raw : Option String} {missing : ParseError} {key : Option String}
  {device : DeviceId → Device}

theorem record_some (text : String) : record (some text) missing key device = (do
      let id ← fromMacString text
      let _ ← optionalField key parsePublicKey
      return device id) := rfl

theorem optionalField_key (key : Option String) :
    (optionalField key parsePublicKey = .error .panicked ∧ ∃ text, key = some text ∧ CutsKey text) ∨
      (optionalField key parsePublicKey = .ok (read parsePublicKey key) ∧
        ∀ text, key = some text → ¬ CutsKey text) := by
  by_cases ht : ∃ text, key = some text ∧ CutsKey text
  · obtain ⟨text, rfl, hc⟩ := ht
    exact .inl ⟨optionalField_panics ((parsePublicKey_panics_iff text).mpr hc), text, rfl, hc⟩
  · refine .inr ⟨optionalField_eq fun text hx hp => ?_, fun text hx hc => ?_⟩
    · exact ht ⟨text, hx, (parsePublicKey_panics_iff text).mp hp⟩
    · exact ht ⟨text, hx, hc⟩

theorem record_panics_iff : record raw missing key device = .error .panicked ↔
      ∃ text, raw = some text ∧ (CutsId text ∨
        (∃ parts, Spells parts text) ∧ ∃ key', key = some key' ∧ CutsKey key') := by
  cases raw with
  | none => simp [record, orFail, fail, bind, Except.bind]
  | some text =>
    simp only [record_some, ← fromMacString_panics_iff, ← exists_fromMacString_iff,
      Option.some.injEq, exists_eq_left']
    cases fromMacString text with
    | error => simp [bind, Except.bind]
    | ok =>
      obtain ⟨hp, hc⟩ | ⟨hk, hw⟩ := optionalField_key key
      · simp [hp, hc, bind, Except.bind]
      · have hn : ¬ ∃ key', key = some key' ∧ CutsKey key' := by
          rintro ⟨key', heq, hc⟩
          exact hw key' heq hc
        simp [hk, hn, bind, Except.bind, pure, Except.pure]

theorem record_eq_ok_iff {d : Device} : record raw missing key device = .ok d ↔
      ∃ text id, raw = some text ∧ fromMacString text = .ok id ∧
        (∀ key', key = some key' → ¬ CutsKey key') ∧ d = device id := by
  cases raw with
  | none => simp [record, orFail, fail, bind, Except.bind]
  | some text =>
    simp only [record_some, Option.some.injEq, exists_and_left, exists_eq_left']
    cases fromMacString text with
    | error => simp [bind, Except.bind]
    | ok =>
      obtain ⟨hp, key', hk', hc⟩ | ⟨hk, hw⟩ := optionalField_key key
      · have hn : ¬ ∀ key', key = some key' → ¬ CutsKey key' := fun hall => hall key' hk' hc
        simp [hp, hn, bind, Except.bind]
      · simp only [hk, bind, Except.bind, pure, Except.pure, Except.ok.injEq, exists_eq_left']
        exact ⟨fun heq => ⟨hw, heq.symm⟩, fun heq => heq.2.symm⟩

end Record

/-- The tables describe how the device is built from the record. -/
structure Tabled (kind : ServiceKind) (parseStr : String → Option Uuid)
    (identity : Txt → Option String) (device : Txt → DeviceId → Device) : Prop where
  id : ∀ txt i, (device txt i).id = i
  identity : ∀ txt txt', Field.source kind txt .id = Field.source kind txt' .id →
    identity txt = identity txt'
  same : ∀ txt txt' i i' (f : Field), f ≠ .id → f.source kind txt = f.source kind txt' →
    f.Same (device txt i) (device txt' i')
  default : ∀ txt i (f : Field) key text, f ≠ .id → f.source kind txt = some (key, text) →
    ¬ Readable parseStr key text f → f.Same (device txt i) { id := i }

theorem airplay_tabled (name : String) (addresses : List IpAddr) (port : BitVec 16) :
    Tabled .airplay parseStr (fun txt => txt "deviceid")
      (airplayDevice parseStr name addresses port) where
  id _ _ := rfl
  identity _ _ h := firstOf_one_eq.mp h
  same _ _ _ _ _ hf h := airplay_same hf h
  default _ _ _ _ _ hf h hr := airplay_default hf h hr

theorem raop_tabled (name : String) (addresses : List IpAddr) (port : BitVec 16) :
    Tabled .raop parseStr (fun _ => beforeAt name) (raopDevice (afterAt name) addresses port) where
  id _ _ := rfl
  identity _ _ _ := rfl
  same _ _ _ _ _ hf h := raop_same hf h
  default _ _ _ _ _ hf h hr := raop_default hf h hr

variable {parseStr}

theorem record_sound_iff {kind : ServiceKind}
    {ident : Txt → Option String} {device : Txt → DeviceId → Device}
    (ht : Tabled kind parseStr ident device) (missing : ParseError) (txt : Txt) :
    Sound kind parseStr (fun txt => record (ident txt) missing (txt "pk") (device txt))
      (ident txt) txt ↔ ReadsWell (ident txt) (txt "pk") := by
  constructor
  · intro h text hr
    have hc : ¬ CutsId text := fun hc => h.survives (record_panics_iff.mpr ⟨text, hr, .inl hc⟩)
    have hk : (∃ parts, Spells parts text) → ∀ key', txt "pk" = some key' → ¬ CutsKey key' :=
      fun hs key' hk' hc => h.survives (record_panics_iff.mpr ⟨text, hr, .inr ⟨hs, key', hk', hc⟩⟩)
    refine ⟨hc, (reads_documented_iff text).mp ⟨?_, ?_⟩, hk⟩
    · rintro ⟨id, hi⟩
      -- the record is read, so its identity is documented
      have hw := hk ((exists_fromMacString_iff text).mp ⟨id, hi⟩)
      obtain ⟨other, hh, ho⟩ := h.accepts.mp ⟨_, record_eq_ok_iff.mpr ⟨text, id, hr, hi, hw, rfl⟩⟩
      obtain rfl : text = other := Option.some.inj (hr.symm.trans hh)
      exact ho
    · intro ho
      obtain ⟨parts, hs, -⟩ := documented_iff.mp ho
      exact (exists_fromMacString_iff text).mpr ⟨parts, hs⟩
  · intro h
    refine ⟨?_, ⟨?_, ?_⟩, ?_, ?_⟩
    · intro hn
      obtain ⟨text, hr, hc | ⟨hs, key', hk', hc⟩⟩ := record_panics_iff.mp hn
      · exact (h text hr).1 hc
      · exact (h text hr).2.2 hs key' hk' hc
    · rintro ⟨d, hd⟩
      obtain ⟨text, id, hr, hi, -⟩ := record_eq_ok_iff.mp hd
      exact ⟨text, hr, ((reads_documented_iff text).mpr (h text hr).2.1).mp ⟨id, hi⟩⟩
    · rintro ⟨text, hr, ho⟩
      obtain ⟨id, hi⟩ := ((reads_documented_iff text).mpr (h text hr).2.1).mpr ho
      have hw := (h text hr).2.2 ((exists_fromMacString_iff text).mp ⟨id, hi⟩)
      exact ⟨_, record_eq_ok_iff.mpr ⟨text, id, hr, hi, hw, rfl⟩⟩
    · intro d f key text hd hf hsr hrd
      obtain ⟨_, id, -, -, -, rfl⟩ := record_eq_ok_iff.mp hd
      rw [ht.id]
      exact ht.default txt id f key text hf hsr hrd
    · intro d d' key text hpr hd hd' f hsr
      obtain ⟨_, id, hr, hi, -, rfl⟩ := record_eq_ok_iff.mp hd
      obtain ⟨_, id', hr', hi', -, rfl⟩ := record_eq_ok_iff.mp hd'
      have hp := (firstOf_update hpr hsr text).symm
      by_cases hf : f = .id
      · -- the identity is read from the same text
        subst hf
        have hm := ht.identity _ _ hp
        obtain rfl := Option.some.inj (hr.symm.trans (hm.trans hr'))
        obtain rfl := Except.ok.inj (hi.symm.trans hi')
        simp only [Field.Same, ht.id]
      · exact ht.same _ _ id id' f hf hp

/-- A record is read as promised exactly if its identity and its key are cut
between characters and its identity is spelled in full, under either service
type. -/
theorem advertisement_sound_iff (parseStr : String → Option Uuid) (name : String) (txt : Txt)
    (addresses : List IpAddr) (port : BitVec 16) :
    (Sound .airplay parseStr (fun txt => parseAirplayTxt parseStr name txt addresses port)
        (txt "deviceid") txt ↔ ReadsWell (txt "deviceid") (txt "pk")) ∧
      (Sound .raop parseStr (fun txt => parseRaopTxt name txt addresses port)
        (beforeAt name) txt ↔ ReadsWell (beforeAt name) (txt "pk")) := by
  constructor
  · have hp : (fun txt => parseAirplayTxt parseStr name txt addresses port)
        = fun txt => record (txt "deviceid") (.missingField "deviceid") (txt "pk")
            (airplayDevice parseStr name addresses port txt) :=
      funext fun txt => parseAirplayTxt_eq parseStr name txt addresses port
    rw [hp]
    exact record_sound_iff (airplay_tabled parseStr name addresses port) _ txt
  · have hp : (fun txt => parseRaopTxt name txt addresses port)
        = fun txt => record (beforeAt name) (.invalidFormat "RAOP name must contain '@'")
            (txt "pk") (raopDevice (afterAt name) addresses port txt) :=
      funext fun txt => parseRaopTxt_eq name txt addresses port
    rw [hp]
    exact record_sound_iff (raop_tabled parseStr name addresses port) _ txt

/-- Ten characters in twelve bytes: the first slice ends inside the first of
them. -/
def euroTxt : Txt := fun key =>
  if key = "deviceid" then
    some (String.ofList ['€', 'B', 'B', 'C', 'C', 'D', 'D', 'E', 'E', 'F'])
  else none

theorem euro_deviceid_panics :
    parseAirplayTxt (fun _ => none) "Kitchen" euroTxt [] 7000 = .error .panicked ∧
      ¬ Sound .airplay (fun _ => none)
        (fun txt => parseAirplayTxt (fun _ => none) "Kitchen" txt [] 7000)
        (euroTxt "deviceid") euroTxt := by
  have hi : fromMacString (String.ofList ['€', 'B', 'B', 'C', 'C', 'D', 'D', 'E', 'E', 'F'])
      = .error .panicked := by
    unfold fromMacString
    rw [String.toList_ofList]
    rfl
  have hp : parseAirplayTxt (fun _ => none) "Kitchen" euroTxt [] 7000 = .error .panicked := by
    rw [parseAirplayTxt_eq]
    simp only [euroTxt, if_true, record_some, hi]
    rfl
  exact ⟨hp, fun h => h.survives hp⟩

end OpenAirCast.Discovery

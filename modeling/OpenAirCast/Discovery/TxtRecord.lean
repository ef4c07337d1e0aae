/-
Discovery.TxtRecord — TXT records read into devices, from
`airplay-discovery/parser.rs`, with `DeviceId::from_mac_string` and
`Version::parse` of `airplay-core/device.rs` and `Features::from_txt_value`
of `airplay-core/features.rs`.

Translation notes.

* A string is a `String` where it is stored and its characters where it is
  read. Lengths and positions count bytes, as the source does; a slice that
  starts or ends inside a character panics, which gives `panicked`.
* A record is the function from keys to values that its `HashMap` is.
* `Uuid::parse_str` belongs to the crate `uuid` and enters as `parseStr`.
  Everything proved here holds for every such function.
* Iterators are lazy: the pieces of a text are read up to the first error,
  and what is behind it is never sliced.
-/
import OpenAirCast.Discovery.ServiceIndex
import OpenAirCast.Lib.Slice
import OpenAirCast.Lib.Text

namespace OpenAirCast.Discovery

/-! ## Results -/

inductive ParseError where
  | invalidFormat (message : String)
  | missingField (field : String)
  | invalidHex (message : String)
  | invalidValue (message : String)

/-- How a parser ends without a value. -/
inductive Stop where
  | failed (error : ParseError)
  /-- The call panics and returns nothing. -/
  | panicked

section Results

variable {α : Type}

def fail (error : ParseError) : Except Stop α := .error (.failed error)

/-- A slice of a text, where the source indexes. -/
def sliced (piece : Option (List Char)) : Except Stop (List Char) :=
  match piece with
  | some piece => .ok piece
  | none => .error .panicked

/-- `ok_or`. -/
def orFail (value : Option α) (error : ParseError) : Except Stop α :=
  match value with
  | some value => .ok value
  | none => fail error

/-- Read an OPTIONAL TXT field, degrading to `none` when it cannot be
read. -/
def optionalField (raw : Option String) (parse : String → Except Stop α) : Except Stop (Option α) :=
  match raw with
  | none => .ok none
  | some raw =>
    match parse raw with
    | .ok value => .ok (some value)
    | .error (.failed _) => .ok none
    | .error .panicked => .error .panicked

end Results

/-! ## Identities and keys -/

/-- `u8::from_str_radix(part, 16)`. -/
def hexByte (part : List Char) : Except Stop UInt8 :=
  orFail ((parseHex 0xFF part).map UInt8.ofNat) (.invalidHex (String.ofList part))

/-- `DeviceId::from_mac_string` up to the count of the bytes:
colon-separated, hyphen-separated or bare hex. -/
def macBytes (s : List Char) : Except Stop Bytes :=
  if ':' ∈ s then (s.splitOn ':').mapM hexByte
  else if '-' ∈ s then (s.splitOn '-').mapM hexByte
  else if utf8Len s ≠ 12 then
    fail (.invalidFormat ("MAC address must be 12 hex characters, got " ++ toString (utf8Len s)))
  else readPieces .panicked hexByte 2 6 s

variable (s : String)

/-- `DeviceId::from_mac_string`. -/
def fromMacString : Except Stop DeviceId := do
  let bytes ← macBytes (trimChars s.toList)
  if bytes.length ≠ 6 then
    fail (.invalidFormat ("MAC address must have 6 bytes, got " ++ toString bytes.length))
  else return ⟨BitVec.ofNat 48 (fromBeBytes bytes)⟩

/-- `TxtRecordParser::parse_public_key`. -/
def parsePublicKey (hex : String) : Except Stop Bytes :=
  let hex := trimChars hex.toList
  if utf8Len hex ≠ 64 then
    fail (.invalidFormat ("public key must be 64 hex characters, got " ++ toString (utf8Len hex)))
  else readPieces .panicked hexByte 2 32 hex

variable (parseStr : String → Option Uuid)

/-- `parse_group_uuid`. -/
def parseGroupUuid (value : String) : Except Stop Uuid :=
  orFail (parseStr value) (.invalidValue ("invalid UUID: " ++ value))

/-! ## Numbers -/

/-- One part of a version. -/
def versionPart (which : String) (part : List Char) : Except Stop (BitVec 32) :=
  orFail ((parseUnsigned (2 ^ 32 - 1) part).map (BitVec.ofNat 32))
    (.invalidValue ("invalid " ++ which ++ " version: " ++ String.ofList part))

/-- `Version::parse`: the minor and the patch version default to 0. -/
def Version.parse : Except Stop Version := do
  let s := trimChars s.toList
  if s = [] then fail (.invalidFormat "empty version string")
  else
    let parts := s.splitOn '.'
    let first ← orFail parts[0]? (.invalidFormat "missing major version")
    let major ← versionPart "major" first
    let minor ← (parts[1]?.map (versionPart "minor")).getD (.ok 0)
    let patch ← (parts[2]?.map (versionPart "patch")).getD (.ok 0)
    return { major, minor, patch }

/-- The text starts with `0x` or `0X`. -/
def hasHexPrefix (s : List Char) : Bool :=
  ['0', 'x'].isPrefixOf s || ['0', 'X'].isPrefixOf s

/-- `parse_hex` of `Features::from_txt_value`. -/
def parseHexMask (part : List Char) : Except Stop (BitVec 64) :=
  let part := trimChars part
  let hexStr := if hasHexPrefix part then part.drop 2 else part
  if hexStr = [] then fail (.invalidHex "empty hex value")
  else orFail ((parseHex (2 ^ 64 - 1) hexStr).map (BitVec.ofNat 64))
    (.invalidHex (String.ofList part))

/-- `Features::from_txt_value`: `0xLOWER` or `0xLOWER,0xUPPER`. -/
def Features.fromTxtValue : Except Stop (BitVec 64) := do
  let s := trimChars s.toList
  if s = [] then fail (.invalidFormat "empty features string")
  else
    match splitOnce ',' s with
    | some (lowerStr, upperStr) =>
      let lower ← parseHexMask lowerStr
      let upper ← parseHexMask upperStr
      return lower ||| upper <<< 32
    | none =>
      let lower ← parseHexMask s
      return lower ||| 0 <<< 32

/-- `parse_hex_or_decimal`: what cannot be read is 0. -/
def parseHexOrDecimal : Except Stop (BitVec 64) := do
  let s := trimChars s.toList
  if hasHexPrefix s then
    let digits ← sliced (sliceFrom 2 s)
    return BitVec.ofNat 64 ((parseHex (2 ^ 64 - 1) digits).getD 0)
  else return BitVec.ofNat 64 ((parseUnsigned (2 ^ 64 - 1) s).getD 0)

/-- `parse_legacy_features`: the 32 bits of `sf`, hex or decimal. -/
def parseLegacyFeatures (sf : String) : Except Stop (BitVec 64) := do
  let sf := trimChars sf.toList
  let value ← ( if hasHexPrefix sf then do
      let digits ← sliced (sliceFrom 2 sf)
      orFail (parseHex (2 ^ 64 - 1) digits) (.invalidHex (String.ofList sf))
    else if sf.all Char.isDigit then
      orFail (parseUnsigned (2 ^ 64 - 1) sf)
        (.invalidValue ("invalid decimal: " ++ String.ofList sf))
    else orFail (parseHex (2 ^ 64 - 1) sf) (.invalidHex (String.ofList sf)))
  return BitVec.ofNat 64 value

/-- `str::parse::<u8>().ok()`. -/
def parseU8 (text : List Char) : Option UInt8 := (parseUnsigned 0xFF text).map UInt8.ofNat

variable (text : String)

/-- The numbers of a comma-separated list; what is none is left out. -/
def u8List : List UInt8 :=
  (text.toList.splitOn ',').filterMap (fun part => parseU8 (trimChars part))

/-- A flag that is set. -/
def isSet : Bool := text == "true" || text == "1"

/-! ## Records -/

abbrev Txt := String → Option String

variable (name : String) (txt : Txt) (addresses : List IpAddr) (port : BitVec 16)

/-- `TxtRecordParser::parse_airplay_txt`. -/
def parseAirplayTxt : Except Stop Device := do
  -- deviceid is required
  let deviceIdStr ← orFail (txt "deviceid") (.missingField "deviceid")
  let id ← fromMacString deviceIdStr
  let features ← optionalField (txt "features") Features.fromTxtValue
  let sourceVersion ← optionalField (txt "srcvers") Version.parse
  let publicKey ← optionalField (txt "pk") parsePublicKey
  let requiredSenderFeatures ← optionalField (txt "rsf") Features.fromTxtValue
  let statusFlags ← (((txt "flags").or (txt "sf")).map parseHexOrDecimal).getD (.ok 0)
  let groupId ← optionalField (txt "gid") (parseGroupUuid parseStr)
  let parentGroupId ← optionalField (txt "pgid") (parseGroupUuid parseStr)
  let tightSyncId ← optionalField (txt "tsid") (parseGroupUuid parseStr)
  return {
    id, name, addresses, port, publicKey, requiredSenderFeatures, statusFlags
    groupId, parentGroupId, tightSyncId
    model := (txt "model").getD ""
    manufacturer := txt "manufacturer"
    serialNumber := txt "serialNumber"
    features := features.getD 0
    sourceVersion := sourceVersion.getD {}
    firmwareVersion := txt "fv"
    osVersion := txt "osvers"
    protocolVersion := txt "protovers"
    requiresPassword := (txt "pw").any isSet
    accessControl := (txt "acl").bind (fun v => parseU8 v.toList)
    pairingIdentity := txt "pi"
    systemPairingIdentity := txt "psi"
    bluetoothAddress := txt "btaddr"
    homekitHomeId := txt "hkid"
    isGroupLeader := (txt "igl").any isSet
    groupPublicName := txt "gpn"
    groupContainsDiscoverableLeader := (txt "gcgl").any isSet
    homeGroupId := txt "hgid"
    householdId := txt "hmid"
    parentGroupContainsDiscoverableLeader := (txt "pgcgl").any isSet
    raopPort := none
    raopEncryptionTypes := none
    raopCodecs := none
    raopTransport := none
    raopMetadataTypes := none
    raopDigestAuth := false
    vodkaVersion := none }

/-- `TxtRecordParser::parse_raop_txt`: the name is `AABBCCDDEEFF@Device
Name`. -/
def parseRaopTxt :
    Except Stop Device := do
  let name := name.toList
  let atPos ← orFail (findChar '@' name) (.invalidFormat "RAOP name must contain '@'")
  let macHex ← sliced (sliceTo atPos name)
  let deviceName ← sliced (sliceFrom (atPos + 1) name)
  let id ← fromMacString (String.ofList macHex)
  -- `ft` has the full mask; the legacy `sf` counts only without it
  let features ← (
    if (txt "ft").isSome then optionalField (txt "ft") Features.fromTxtValue
    else optionalField (txt "sf") parseLegacyFeatures)
  let sourceVersion ← (
    if (txt "vs").isSome then optionalField (txt "vs") Version.parse
    else optionalField (txt "vn") Version.parse)
  let publicKey ← optionalField (txt "pk") parsePublicKey
  let statusFlags ← ((txt "sf").map parseHexOrDecimal).getD (.ok 0)
  return {
    id, addresses, port, publicKey, statusFlags
    name := String.ofList deviceName
    model := ((txt "am").or (txt "model")).getD ""
    manufacturer := none
    serialNumber := none
    features := features.getD 0
    requiredSenderFeatures := none
    sourceVersion := sourceVersion.getD {}
    firmwareVersion := txt "fv"
    osVersion := txt "ov"
    protocolVersion := none
    requiresPassword := (txt "pw").any isSet
    accessControl := none
    pairingIdentity := none
    systemPairingIdentity := none
    bluetoothAddress := none
    homekitHomeId := none
    groupId := none
    isGroupLeader := false
    groupPublicName := none
    groupContainsDiscoverableLeader := false
    homeGroupId := none
    householdId := none
    parentGroupId := none
    parentGroupContainsDiscoverableLeader := false
    tightSyncId := none
    raopPort := some port
    raopEncryptionTypes := (txt "et").map u8List
    raopCodecs := (txt "cn").map u8List
    raopTransport := txt "tp"
    raopMetadataTypes := (txt "md").map u8List
    raopDigestAuth := (txt "da").any isSet
    vodkaVersion := txt "vv" }

end OpenAirCast.Discovery

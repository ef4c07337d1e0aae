/-
Pairing.PairVerify — opening a session with a paired receiver,
from `airplay-pairing/src/pair_verify.rs`.

M1 and M2 exchange ephemeral keys; M2 and M3 carry a signature of either
side over both of them, M4 confirms. The messages come as TLV8 or, in
transient mode, as raw bytes.

Translation notes.

* A method returns the machine with its result. The exits of `Lib.Exits`
  take `abort` where the source sets `Failed` and `id` where it does not.
* The functions that draw an ephemeral key take its secret.
* Tracing output is left out.
-/
import OpenAirCast.Lib.Text
import OpenAirCast.Pairing.Controller

namespace OpenAirCast.Pairing

open Crypto

/-! ## State -/

inductive SignatureOrder where
  | signerIdPeer
  | signerPeerId
  | idSignerPeer
  | peerIdSigner
  | peerSignerId
  | idPeerSigner
  deriving DecidableEq

/-- The order in which a receiver's signature is tried. -/
def SignatureOrder.tried : List SignatureOrder :=
  [.signerIdPeer, .signerPeerId, .idSignerPeer, .peerIdSigner, .peerSignerId, .idPeerSigner]

def buildSignedMessage (order : SignatureOrder) (signerEcdh peerEcdh identifier : Bytes) : Bytes :=
  match order with
  | .signerIdPeer => signerEcdh ++ identifier ++ peerEcdh
  | .signerPeerId => signerEcdh ++ peerEcdh ++ identifier
  | .idSignerPeer => identifier ++ signerEcdh ++ peerEcdh
  | .peerIdSigner => peerEcdh ++ identifier ++ signerEcdh
  | .peerSignerId => peerEcdh ++ signerEcdh ++ identifier
  | .idPeerSigner => identifier ++ peerEcdh ++ signerEcdh

inductive PairVerifyState where
  | initial
  | m1Sent
  | m2Received
  | m3Sent
  | complete
  | failed
  deriving DecidableEq

/-- `as u8`. -/
def PairVerifyState.code : PairVerifyState → Nat
  | .initial => 0
  | .m1Sent => 1
  | .m2Received => 2
  | .m3Sent => 3
  | .complete => 4
  | .failed => 5

structure PairVerify where
  state : PairVerifyState := .initial
  identity : IdentityKeyPair
  customIdentifier : Option String := none
  ecdhKeypair : Option EcdhKeyPair := none
  ecdhPublic : Option Bytes := none
  serverPublic : Option Bytes := none
  sharedSecret : Option Bytes := none
  sessionKey : Option Bytes := none
  serverLtpk : Option Bytes := none
  signatureOrder : SignatureOrder := .signerIdPeer

def stateMismatch (expected : Nat) (actual : Nat) : Error :=
  .pairing (.stateMismatch expected actual)

namespace PairVerify

def new (identity : IdentityKeyPair) : PairVerify := { identity }

def setServerLtpk (v : PairVerify) (ltpk : Bytes) : PairVerify := { v with serverLtpk := some ltpk }

def abort (v : PairVerify) : PairVerify := { v with state := .failed }

/-- The pinned key stays. -/
def reset (v : PairVerify) : PairVerify :=
  { v with
    state := .initial
    ecdhKeypair := none
    ecdhPublic := none
    serverPublic := none
    sharedSecret := none
    sessionKey := none }

variable (prims : Primitives)

/-! ## M1 -/

/-- What every format of M1 does: a fresh ephemeral key, and a message made of it. -/
def sendM1 (v : PairVerify) (secret : Bytes) (m1 : Bytes → Bytes) :
    PairVerify × Except Error Bytes :=
  refuseIf id v (v.state ≠ .initial) (stateMismatch 0x00 v.state.code) <|
  let ecdh : EcdhKeyPair := ⟨secret⟩
  ({ v with
      ecdhPublic := some (ecdh.publicKey prims)
      ecdhKeypair := some ecdh
      state := .m1Sent }, .ok (m1 (ecdh.publicKey prims)))

def generateM1 (v : PairVerify) (secret : Bytes) : PairVerify × Except Error Bytes :=
  v.sendM1 prims secret fun ecdhPublic =>
    ((Tlv8.new.set .state [0x01]).set .publicKey ecdhPublic).encode

def generateM1Transient (v : PairVerify) (secret : Bytes) : PairVerify × Except Error Bytes :=
  v.sendM1 prims secret fun ecdhPublic =>
    ecdhPublic ++ v.identity.publicKey prims ++ [0x01, 0x00, 0x00, 0x00]

def generateM1TransientPrefix (v : PairVerify) (secret : Bytes) : PairVerify × Except Error Bytes :=
  v.sendM1 prims secret fun ecdhPublic =>
    [0x01, 0x00, 0x00, 0x00] ++ ecdhPublic ++ v.identity.publicKey prims

def generateM1TransientNoFlags (v : PairVerify) (secret : Bytes) :
    PairVerify × Except Error Bytes :=
  v.sendM1 prims secret fun ecdhPublic => ecdhPublic ++ v.identity.publicKey prims

def generateM1TransientSigned (v : PairVerify) (secret : Bytes) : PairVerify × Except Error Bytes :=
  v.sendM1 prims secret fun ecdhPublic =>
    [0x01, 0x00, 0x00, 0x00] ++ ecdhPublic ++ (v.identity.sign prims ecdhPublic).take 32

def generateM1TransientFullSig (v : PairVerify) (secret : Bytes) :
    PairVerify × Except Error Bytes :=
  v.sendM1 prims secret fun ecdhPublic =>
    [0x01, 0x00, 0x00, 0x00] ++ ecdhPublic ++ v.identity.sign prims ecdhPublic

def generateM1TransientTlv (v : PairVerify) (secret : Bytes) : PairVerify × Except Error Bytes :=
  v.sendM1 prims secret fun ecdhPublic =>
    ((((Tlv8.new.set .state [0x01]).set .publicKey ecdhPublic).set .identifier
      (v.identity.publicKey prims)).set .flags [0x01]).encode

/-! ## M2 -/

/-- The exchange of keys, and the plaintext of M2. `v` already has the
receiver's key. -/
def openM2 {β : Type} (v : PairVerify) (serverPublic encrypted : Bytes)
    (next : PairVerify → Bytes → PairVerify × Except Error β) : PairVerify × Except Error β :=
  required abort v v.ecdhKeypair (.pairing .srpVerificationFailed) fun ecdh =>
  let v := { v with ecdhKeypair := none }
  attempt abort v (ecdh.diffieHellman prims serverPublic) .crypto fun sharedSecret =>
  let v := { v with sharedSecret := some sharedSecret }
  attempt abort v (derivePairVerifyKey prims sharedSecret) .crypto fun sessionKey =>
  let v := { v with sessionKey := some sessionKey }
  attempt abort v
    (decryptWithNonce prims sessionKey (nonceFromString (ascii "PV-Msg02")) encrypted) .crypto
    fun decrypted => next v decrypted

/-- Identifier and signature of a TLV8 plaintext, if they have the lengths of
a key and of a signature. -/
def transientFields (decrypted : Bytes) : Option (Bytes × Bytes) :=
  match Tlv8.parse decrypted with
  | .error _ => none
  | .ok inner =>
    match inner.get .identifier, inner.get .signature with
    | some identifier, some signature =>
      if identifier.length = 32 ∧ signature.length = 64 then some (identifier, signature)
      else none
    | _, _ => none

/-- Accepts M2 if the key signed both ephemeral keys and itself. -/
def acceptSigned (v : PairVerify) (serverPublic clientPublic ltpk signature : Bytes) :
    PairVerify × Except Error Unit :=
  refuseIf abort v
    (prims.ed25519Verify ltpk (serverPublic ++ ltpk ++ clientPublic) signature = false)
    (.pairing .signatureInvalid) ({ v with state := .m2Received }, .ok ())

def processM2Transient (v : PairVerify) (response : Bytes) : PairVerify × Except Error Unit :=
  refuseIf id v (v.state ≠ .m1Sent) (stateMismatch 0x01 v.state.code) <|
  refuseIf abort v (response.length < 96)
    (.pairing (.tlvParse ("M2 response too short: expected 96 bytes, got "
      ++ toString response.length))) <|
  let serverPublic := response.take 32
  let v := { v with serverPublic := some serverPublic }
  required abort v v.ecdhPublic (.pairing .srpVerificationFailed) fun clientPublic =>
  v.openM2 prims serverPublic (response.drop 32) fun v decrypted =>
  match transientFields decrypted with
  | some (identifier, signature) =>
    v.acceptSigned prims serverPublic clientPublic identifier signature
  | none =>
    if decrypted.length = 64 then
      required abort v v.serverLtpk (.pairing (.tlvParse
          "M2 decrypted to 64 bytes (signature only) - call set_server_ltpk() first"))
        fun ltpk => v.acceptSigned prims serverPublic clientPublic ltpk decrypted
    else if decrypted.length = 96 then
      v.acceptSigned prims serverPublic clientPublic (decrypted.take 32) (decrypted.drop 32)
    else
      exit abort v (.pairing (.tlvParse ("M2 decrypted data has unexpected format: "
        ++ toString decrypted.length ++ " bytes")))

/-- The key M2 itself brings: a binary identifier of 32 bytes, or the
separate field. -/
def presentedLtpk (inner : Tlv8) (identifier : Bytes) : Option Bytes :=
  if identifier.length = 32 ∧ utf8 identifier = none then some identifier
  else (inner.get .publicKey).filter (fun key => key.length = 32)

def processM2 (v : PairVerify) (response : Bytes) : PairVerify × Except Error Unit :=
  refuseIf id v (v.state ≠ .m1Sent) (stateMismatch 0x01 v.state.code) <|
  attempt abort v (Tlv8.parse response)
    (fun e => .pairing (.tlvParse (parseErrorText e))) fun tlv =>
  refuseIf abort v (tlv.error ≠ none) (.pairing .rejected) <|
  refuseIf abort v (tlv.state ≠ some 0x02) (stateMismatch 0x02 (tlv.state.getD 0).toNat) <|
  required abort v (tlv.get .publicKey)
    (.pairing (.missingTlv TlvType.publicKey.byte)) fun serverPublic =>
  refuseIf abort v (serverPublic.length ≠ 32)
    (.crypto (.invalidKeyLength 32 serverPublic.length)) <|
  let v := { v with serverPublic := some serverPublic }
  required abort v (tlv.get .encryptedData)
    (.pairing (.missingTlv TlvType.encryptedData.byte)) fun encrypted =>
  v.openM2 prims serverPublic encrypted fun v decrypted =>
  attempt abort v (Tlv8.parse decrypted)
    (fun e => .pairing (.tlvParse (parseErrorText e))) fun inner =>
  required abort v (inner.get .identifier)
    (.pairing (.missingTlv TlvType.identifier.byte)) fun identifier =>
  required abort v (inner.get .signature)
    (.pairing (.missingTlv TlvType.signature.byte)) fun signature =>
  refuseIf abort v (signature.length ≠ 64) (.pairing .signatureInvalid) <|
  required abort v v.ecdhPublic (.pairing .srpVerificationFailed) fun clientPublic =>
  match (presentedLtpk inner identifier).or v.serverLtpk with
  | some ltpk =>
    required abort v (SignatureOrder.tried.find? (fun order => prims.ed25519Verify ltpk
        (buildSignedMessage order serverPublic clientPublic identifier) signature))
      (.pairing .signatureInvalid) fun order =>
    ({ v with signatureOrder := order, state := .m2Received }, .ok ())
  -- no key known: the signature is not looked at
  | none => ({ v with state := .m2Received }, .ok ())

/-! ## M3 -/

/-- What M3 needs of the exchange: both ephemeral keys and the session key. -/
def withExchange {β : Type} (v : PairVerify)
    (next : Bytes → Bytes → Bytes → PairVerify × Except Error β) : PairVerify × Except Error β :=
  refuseIf id v (v.state ≠ .m2Received) (stateMismatch 0x02 v.state.code) <|
  required id v v.ecdhPublic (.pairing .srpVerificationFailed) fun clientPublic =>
  required id v v.serverPublic (.pairing .srpVerificationFailed) fun serverPublic =>
  required id v v.sessionKey (.pairing .srpVerificationFailed) fun sessionKey =>
  next clientPublic serverPublic sessionKey

def generateM3WithIdentifier (v : PairVerify) (identifier : Option String) :
    PairVerify × Except Error Bytes :=
  v.withExchange fun clientPublic serverPublic sessionKey =>
  let pk := v.identity.publicKey prims
  let idBytes := textBytes (identifier.getD (derivedIdentifier pk))
  let signature := v.identity.sign prims
    (buildSignedMessage v.signatureOrder clientPublic serverPublic idBytes)
  let inner := ((Tlv8.new.set .identifier idBytes).set .publicKey pk).set .signature signature
  attempt id v
    (encryptWithNonce prims sessionKey (nonceFromString (ascii "PV-Msg03")) inner.encode) .crypto
    fun encrypted =>
  ({ v with state := .m3Sent },
    .ok ((Tlv8.new.set .state [0x03]).set .encryptedData encrypted).encode)

def generateM3 (v : PairVerify) : PairVerify × Except Error Bytes :=
  v.generateM3WithIdentifier prims v.customIdentifier

def generateM3Transient (v : PairVerify) : PairVerify × Except Error Bytes :=
  v.withExchange fun clientPublic serverPublic sessionKey =>
  attempt id v (encryptWithNonce prims sessionKey (nonceFromString (ascii "PV-Msg03"))
      (v.identity.sign prims (clientPublic ++ serverPublic))) .crypto fun encrypted =>
  ({ v with state := .m3Sent }, .ok (encrypted ++ [0x00, 0x00, 0x00, 0x00]))

/-! ## M4 -/

def deriveSessionKeys (v : PairVerify) : PairVerify × Except Error SessionKeys :=
  required abort v v.sharedSecret (.pairing .srpVerificationFailed) fun sharedSecret =>
  attempt abort v (SessionKeys.deriveControlKeys prims sharedSecret) .crypto fun keys =>
  ({ v with state := .complete }, .ok keys)

def processM4 (v : PairVerify) (response : Bytes) : PairVerify × Except Error SessionKeys :=
  refuseIf id v (v.state ≠ .m3Sent) (stateMismatch 0x03 v.state.code) <|
  attempt abort v (Tlv8.parse response)
    (fun e => .pairing (.tlvParse (parseErrorText e))) fun tlv =>
  refuseIf abort v (tlv.error ≠ none) (.pairing .rejected) <|
  refuseIf abort v (tlv.state ≠ some 0x04) (stateMismatch 0x04 (tlv.state.getD 0).toNat) <|
  v.deriveSessionKeys prims

variable (response : Bytes)

/-- What a TLV8 answer to M3 says: an error, the success, or nothing. -/
def tlvAnswer : Option Bool :=
  match Tlv8.parse response with
  | .error _ => none
  | .ok tlv =>
    if tlv.error ≠ none then some false
    else if tlv.state = some 0x04 then some true
    else none

/-- Four zero bytes, or at most eight bytes of which the first is zero. -/
def rawSuccess : Bool :=
  response == [0x00, 0x00, 0x00, 0x00] ||
    (decide (response.length ≤ 8) && (response.isEmpty || response.head? == some 0x00))

def processM4Transient (v : PairVerify) (response : Bytes) :
    PairVerify × Except Error SessionKeys :=
  refuseIf id v (v.state ≠ .m3Sent) (stateMismatch 0x03 v.state.code) <|
  match tlvAnswer response with
  | some false => exit abort v (.pairing .rejected)
  | some true => v.deriveSessionKeys prims
  | none =>
    if rawSuccess response then v.deriveSessionKeys prims
    else exit abort v (.pairing .rejected)

def isComplete (v : PairVerify) : Bool := v.state == .complete

/-! ## Calls -/

/-- The formats of M1. -/
inductive M1Format where
  | standard
  | transient
  | transientPrefix
  | transientNoFlags
  | transientSigned
  | transientFullSig
  | transientTlv

inductive Call where
  | generateM1 (format : M1Format) (secret : Bytes)
  | processM2 (response : Bytes)
  | processM2Transient (response : Bytes)
  | generateM3
  | generateM3WithIdentifier (identifier : Option String)
  | generateM3Transient
  | processM4 (response : Bytes)
  | processM4Transient (response : Bytes)
  | reset

/-- What a successful call returns. -/
inductive Reply where
  | message (bytes : Bytes)
  | accepted
  | keys (keys : SessionKeys)
  deriving DecidableEq

def generateM1As (v : PairVerify) (secret : Bytes) : M1Format → PairVerify × Except Error Bytes
  | .standard => v.generateM1 prims secret
  | .transient => v.generateM1Transient prims secret
  | .transientPrefix => v.generateM1TransientPrefix prims secret
  | .transientNoFlags => v.generateM1TransientNoFlags prims secret
  | .transientSigned => v.generateM1TransientSigned prims secret
  | .transientFullSig => v.generateM1TransientFullSig prims secret
  | .transientTlv => v.generateM1TransientTlv prims secret

def returning {α : Type} (reply : α → Reply) (outcome : PairVerify × Except Error α) :
    PairVerify × Except Error Reply :=
  (outcome.1, outcome.2.map reply)

def step (v : PairVerify) : Call → PairVerify × Except Error Reply
  | .generateM1 format secret => returning .message (v.generateM1As prims secret format)
  | .processM2 response => returning (fun _ => .accepted) (v.processM2 prims response)
  | .processM2Transient response =>
    returning (fun _ => .accepted) (v.processM2Transient prims response)
  | .generateM3 => returning .message (v.generateM3 prims)
  | .generateM3WithIdentifier identifier =>
    returning .message (v.generateM3WithIdentifier prims identifier)
  | .generateM3Transient => returning .message (v.generateM3Transient prims)
  | .processM4 response => returning .keys (v.processM4 prims response)
  | .processM4Transient response => returning .keys (v.processM4Transient prims response)
  | .reset => (v.reset, .ok .accepted)

end PairVerify

end OpenAirCast.Pairing

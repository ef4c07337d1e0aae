/-
Pairing.PairSetup — pairing with a PIN, from
`airplay-pairing/src/pair_setup.rs`.

The exchange has six messages. M2 brings the receiver's share of the
password exchange, M4 its proof that it knows the PIN, M6 its signed
long-term key. In transient mode M4 is the last.

Translation notes.

* A method returns the machine with its result. `abort` is what nearly
  every error exit does, and the exits of `Lib.Exits` are named after what
  makes the source leave.
* `generate_m1` draws the private key of the exchange; here it is an
  argument.
* `TransientPairSetup` is deprecated and left out.
-/
import OpenAirCast.Crypto.Srp
import OpenAirCast.Pairing.Controller

namespace OpenAirCast.Pairing

open Crypto

inductive PairSetupState where
  | initial
  | m1Sent
  | m2Received
  | m3Sent
  | m4Received
  | m5Sent
  | complete
  | failed
  deriving DecidableEq

structure PairSetup where
  state : PairSetupState := .initial
  pin : String
  srpClient : Option SrpClient := none
  srpProof : Option SrpProof := none
  sessionKey : Option Bytes := none
  transientMode : Bool := false
  serverIdentifier : Option Bytes := none
  serverLtpk : Option Bytes := none

namespace PairSetup

def new (pin : String) : PairSetup := { pin }

def newTransientWithPin (pin : String) : PairSetup := { pin, transientMode := true }

def abort (p : PairSetup) : PairSetup := { p with state := .failed }

variable (prims : Primitives)

/-! ## M1 to M3 -/

def generateM1Internal (p : PairSetup) (a : Nat) (withFlags : Bool) :
    PairSetup × Except Error Bytes :=
  refuseIf abort p (p.state ≠ .initial)
    (invalidState "M1 can only be generated from Initial state") <|
  let tlv := if withFlags then Tlv8.pairSetupM1WithFlags else Tlv8.pairSetupM1
  ({ p with
      srpClient := some (.new (ascii "Pair-Setup") (textBytes p.pin) a)
      state := .m1Sent }, .ok tlv.encode)

def generateM1 (p : PairSetup) (a : Nat) : PairSetup × Except Error Bytes :=
  p.generateM1Internal a p.transientMode

def generateM1WithFlags (p : PairSetup) (a : Nat) : PairSetup × Except Error Bytes :=
  p.generateM1Internal a true

/-- A short key has lost leading zeros. -/
def padKey (raw : Bytes) : Bytes := List.replicate (384 - raw.length) 0 ++ raw

def processM2 (p : PairSetup) (response : Bytes) : PairSetup × Except Error Unit :=
  refuseIf abort p (p.state ≠ .m1Sent) (invalidState "M2 can only be processed after M1") <|
  attempt abort p (Tlv8.parse response)
    (fun e => protocol ("Failed to parse M2: " ++ parseErrorText e)) fun tlv =>
  refuseIf abort p (tlv.error ≠ none) (protocol "Server returned error in M2") <|
  refuseIf abort p (tlv.state ≠ some 0x02) (protocol "M2 has wrong state value") <|
  required abort p (tlv.get .salt) (protocol "M2 missing salt") fun salt =>
  refuseIf abort p (salt.length ≠ 16)
    (protocol ("M2 salt has wrong length: " ++ toString salt.length ++ " (expected 16)")) <|
  required abort p (tlv.get .publicKey) (protocol "M2 missing server public key") fun raw =>
  refuseIf abort p (384 < raw.length)
    (protocol ("M2 public key too long: " ++ toString raw.length ++ " (expected <= 384)")) <|
  required abort p p.srpClient (protocol "SRP client not initialized") fun client =>
  attempt abort p (client.processChallenge prims ⟨salt, padKey raw⟩)
    (fun e => protocol ("Failed to process SRP challenge: " ++ cryptoErrorText e)) fun proof =>
  ({ p with srpProof := some proof, state := .m2Received }, .ok ())

def generateM3 (p : PairSetup) : PairSetup × Except Error Bytes :=
  refuseIf abort p (p.state ≠ .m2Received)
    (invalidState "M3 can only be generated after processing M2") <|
  required abort p p.srpClient (protocol "SRP client not initialized") fun client =>
  required abort p p.srpProof (protocol "SRP proof not computed") fun proof =>
  let tlv := ((Tlv8.new.set .state [0x03]).set .publicKey client.publicKeyBytes).set .proof
    proof.clientProof
  ({ p with state := .m3Sent }, .ok tlv.encode)

/-! ## M4 -/

def processM4 (p : PairSetup) (response : Bytes) : PairSetup × Except Error Unit :=
  refuseIf abort p (p.state ≠ .m3Sent) (invalidState "M4 can only be processed after M3") <|
  attempt abort p (Tlv8.parse response)
    (fun e => protocol ("Failed to parse M4: " ++ parseErrorText e)) fun tlv =>
  refuseIf abort p (tlv.error ≠ none) (protocol "Server returned error in M4 (wrong PIN?)") <|
  refuseIf abort p (tlv.state ≠ some 0x04) (protocol "M4 has wrong state value") <|
  required abort p (tlv.get .proof) (protocol "M4 missing server proof") fun serverProof =>
  required abort p p.srpClient (protocol "SRP client not initialized") fun _ =>
  required abort p p.srpProof (protocol "SRP proof not computed") fun proof =>
  refuseIf abort p (SrpClient.verifyServerProof serverProof proof.expectedServerProof = false)
    (protocol "Server proof verification failed") <|
  attempt abort p (derivePairSetupKey prims proof.sharedSecret)
    (fun e => protocol ("Failed to derive session key: " ++ cryptoErrorText e)) fun sessionKey =>
  ({ p with sessionKey := some sessionKey, state := .m4Received }, .ok ())

/-- Ends transient pairing with the shared secret. -/
def completeTransient (p : PairSetup) : PairSetup × Except Error Bytes :=
  refuseIf abort p (p.state ≠ .m4Received)
    (invalidState "complete_transient() can only be called after processing M4") <|
  -- this exit does not fail the machine
  refuseIf id p (p.transientMode = false)
    (invalidState "complete_transient() should only be called in transient mode") <|
  required abort p p.srpProof (protocol "SRP proof not computed") fun proof =>
  ({ p with state := .complete }, .ok proof.sharedSecret)

/-! ## M5 and M6 -/

def generateM5Internal (p : PairSetup) (pairingId : Bytes) (identity : IdentityKeyPair) :
    PairSetup × Except Error Bytes :=
  refuseIf abort p (p.state ≠ .m4Received)
    (invalidState "M5 can only be generated after processing M4") <|
  required abort p p.sessionKey (protocol "Session key not derived") fun sessionKey =>
  required abort p p.srpProof (protocol "SRP proof not computed") fun proof =>
  attempt abort p (deriveKey prims proof.sharedSecret (ascii "Pair-Setup-Controller-Sign-Salt")
      (ascii "Pair-Setup-Controller-Sign-Info") 32)
    (fun e => protocol ("Failed to derive signing key: " ++ cryptoErrorText e)) fun iosDeviceX =>
  let message := iosDeviceX ++ pairingId ++ identity.publicKey prims
  let innerTlv := ((Tlv8.new.set .identifier pairingId).set .publicKey
    (identity.publicKey prims)).set .signature (identity.sign prims message)
  attempt abort p
    (encryptWithNonce prims sessionKey (nonceFromString (ascii "PS-Msg05")) innerTlv.encode)
    (fun e => protocol ("Failed to encrypt M5: " ++ cryptoErrorText e)) fun encrypted =>
  ({ p with state := .m5Sent },
    .ok ((Tlv8.new.set .state [0x05]).set .encryptedData encrypted).encode)

def generateM5WithController (p : PairSetup) (controller : ControllerIdentity) :
    PairSetup × Except Error Bytes :=
  p.generateM5Internal prims (textBytes controller.id) controller.keypair

def generateM5 (p : PairSetup) (identity : IdentityKeyPair) : PairSetup × Except Error Bytes :=
  p.generateM5Internal prims (textBytes (derivedIdentifier (identity.publicKey prims))) identity

def processM6 (p : PairSetup) (response : Bytes) : PairSetup × Except Error Bytes :=
  refuseIf abort p (p.state ≠ .m5Sent) (invalidState "M6 can only be processed after M5") <|
  attempt abort p (Tlv8.parse response)
    (fun e => protocol ("Failed to parse M6: " ++ parseErrorText e)) fun tlv =>
  refuseIf abort p (tlv.error ≠ none) (protocol "Server returned error in M6") <|
  refuseIf abort p (tlv.state ≠ some 0x06) (protocol "M6 has wrong state value") <|
  required abort p p.sessionKey (protocol "Session key not derived") fun sessionKey =>
  required abort p p.srpProof (protocol "SRP proof not computed") fun proof =>
  required abort p (tlv.get .encryptedData) (protocol "M6 missing encrypted data") fun encrypted =>
  attempt abort p (decryptWithNonce prims sessionKey (nonceFromString (ascii "PS-Msg06")) encrypted)
    (fun e => protocol ("Failed to decrypt M6: " ++ cryptoErrorText e)) fun decrypted =>
  attempt abort p (Tlv8.parse decrypted)
    (fun e => protocol ("Failed to parse M6 inner TLV: " ++ parseErrorText e)) fun innerTlv =>
  required abort p (innerTlv.get .identifier)
    (protocol "M6 missing server identifier") fun serverId =>
  required abort p (innerTlv.get .publicKey)
    (protocol "M6 missing server public key") fun serverPk =>
  required abort p (innerTlv.get .signature)
    (protocol "M6 missing server signature") fun serverSig =>
  attempt abort p (deriveKey prims proof.sharedSecret (ascii "Pair-Setup-Accessory-Sign-Salt")
      (ascii "Pair-Setup-Accessory-Sign-Info") 32)
    (fun e => protocol ("Failed to derive accessory signing key: " ++ cryptoErrorText e))
    fun accessoryX =>
  refuseIf abort p (serverPk.length ≠ 32) (protocol "M6 server public key has wrong length") <|
  refuseIf abort p (serverSig.length ≠ 64) (protocol "M6 server signature has wrong length") <|
  refuseIf abort p
    (prims.ed25519Verify serverPk (accessoryX ++ serverId ++ serverPk) serverSig = false)
    (protocol "M6 server signature verification failed") <|
  ({ p with
      serverIdentifier := some serverId
      serverLtpk := some serverPk
      state := .complete }, .ok proof.sharedSecret)

/-! ## Calls -/

inductive Call where
  | generateM1 (a : Nat)
  | generateM1WithFlags (a : Nat)
  | processM2 (response : Bytes)
  | generateM3
  | processM4 (response : Bytes)
  | completeTransient
  | generateM5 (identity : IdentityKeyPair)
  | generateM5WithController (controller : ControllerIdentity)
  | processM6 (response : Bytes)

/-- What a successful call returns. -/
inductive Reply where
  | message (bytes : Bytes)
  | accepted
  | secret (bytes : Bytes)

def returning {α : Type} (reply : α → Reply) (outcome : PairSetup × Except Error α) :
    PairSetup × Except Error Reply :=
  (outcome.1, outcome.2.map reply)

def step (p : PairSetup) : Call → PairSetup × Except Error Reply
  | .generateM1 a => returning .message (p.generateM1 a)
  | .generateM1WithFlags a => returning .message (p.generateM1WithFlags a)
  | .processM2 response => returning (fun _ => .accepted) (p.processM2 prims response)
  | .generateM3 => returning .message p.generateM3
  | .processM4 response => returning (fun _ => .accepted) (p.processM4 prims response)
  | .completeTransient => returning .secret p.completeTransient
  | .generateM5 identity => returning .message (p.generateM5 prims identity)
  | .generateM5WithController controller =>
    returning .message (p.generateM5WithController prims controller)
  | .processM6 response => returning .secret (p.processM6 prims response)

end PairSetup

end OpenAirCast.Pairing

/-
Pairing.Session — the pairing session, from
`airplay-pairing/src/session.rs`.

A session drives pair-setup, transient pairing and pair-verify, each with
its own machine inside and a stage of its own beside it.

Translation notes.

* The random bytes of an exchange are an argument of the call that starts
  it.
* FairPlay is left out; its calls touch nothing of the rest. So is the
  authentication method, which nothing reads.
-/
import OpenAirCast.Lib.Mealy
import OpenAirCast.Pairing.PairSetup
import OpenAirCast.Pairing.PairVerify

namespace OpenAirCast.Pairing

open Crypto

inductive PairSetupStage where
  | notStarted
  | waitingM2
  | waitingM4
  | waitingM6
  | complete
  deriving DecidableEq

/-- The stages of pair-verify. -/
inductive PairVerifyStage where
  | notStarted
  | waitingM2
  | waitingM4
  | complete
  deriving DecidableEq

/-- The stages of transient pairing. -/
inductive TransientStage where
  | notStarted
  | waitingM2
  | waitingM4
  | complete
  deriving DecidableEq

inductive PairingStep where
  | send (message : Bytes)
  | complete (keys : SessionKeys)

structure PairingSession where
  identity : IdentityKeyPair
  pairSetup : Option PairSetup := none
  pairSetupState : PairSetupStage := .notStarted
  transientSetup : Option PairSetup := none
  transientState : TransientStage := .notStarted
  pairVerify : Option PairVerify := none
  pairVerifyState : PairVerifyStage := .notStarted
  sharedSecret : Option Bytes := none
  sessionKeys : Option SessionKeys := none

namespace PairingSession

def withIdentity (identity : IdentityKeyPair) : PairingSession := { identity }

def isPairSetupComplete (s : PairingSession) : Bool := s.pairSetupState == .complete

def isTransientComplete (s : PairingSession) : Bool := s.transientState == .complete

def isPairVerifyComplete (s : PairingSession) : Bool := s.pairVerifyState == .complete

variable (prims : Primitives)

/-! ## Pair-setup -/

def startPairSetup (s : PairingSession) (pin : String) (a : Nat) :
    PairingSession × Except Error Bytes :=
  if s.pairSetup.isSome then (s, .error (invalidState "Pair-setup already started"))
  else
    match (PairSetup.new pin).generateM1 a with
    | (_, .error error) => (s, .error error)
    | (pairSetup, .ok m1) =>
      ({ s with pairSetup := some pairSetup, pairSetupState := .waitingM2 }, .ok m1)

/-- `continue_pair_setup` on the machine inside. -/
def continuePairSetupWith (s : PairingSession) (pairSetup : PairSetup) (response : Bytes) :
    PairingSession × Except Error (Option Bytes) :=
  match s.pairSetupState with
  | .waitingM2 =>
    match pairSetup.processM2 prims response with
    | (p, .error error) => ({ s with pairSetup := some p }, .error error)
    | (p, .ok _) =>
      match p.generateM3 with
      | (p, .error error) => ({ s with pairSetup := some p }, .error error)
      | (p, .ok m3) => ({ s with pairSetup := some p, pairSetupState := .waitingM4 }, .ok (some m3))
  | .waitingM4 =>
    match pairSetup.processM4 prims response with
    | (p, .error error) => ({ s with pairSetup := some p }, .error error)
    | (p, .ok _) =>
      match p.generateM5 prims s.identity with
      | (p, .error error) => ({ s with pairSetup := some p }, .error error)
      | (p, .ok m5) => ({ s with pairSetup := some p, pairSetupState := .waitingM6 }, .ok (some m5))
  | .waitingM6 =>
    match pairSetup.processM6 prims response with
    | (p, .error error) => ({ s with pairSetup := some p }, .error error)
    | (p, .ok sharedSecret) =>
      ({ s with
          pairSetup := some p
          sharedSecret := some sharedSecret
          pairSetupState := .complete }, .ok none)
  | .notStarted | .complete => (s, .error (invalidState "Invalid pair-setup state for continue"))

def continuePairSetup (s : PairingSession) (response : Bytes) :
    PairingSession × Except Error (Option Bytes) :=
  match s.pairSetup with
  | none => (s, .error (invalidState "Pair-setup not started"))
  | some pairSetup => s.continuePairSetupWith prims pairSetup response

/-! ## Transient pairing -/

def startTransientPairingWithPin (s : PairingSession) (pin : String) (a : Nat) :
    PairingSession × Except Error Bytes :=
  if s.transientSetup.isSome then (s, .error (invalidState "Transient pairing already started"))
  else
    match (PairSetup.newTransientWithPin pin).generateM1 a with
    | (_, .error error) => (s, .error error)
    | (transient, .ok m1) =>
      ({ s with transientSetup := some transient, transientState := .waitingM2 }, .ok m1)

def startTransientPairing (s : PairingSession) (a : Nat) : PairingSession × Except Error Bytes :=
  if s.transientSetup.isSome then (s, .error (invalidState "Transient pairing already started"))
  else s.startTransientPairingWithPin "3939" a

def transientPairingStart (s : PairingSession) (pin : String) (a : Nat) :
    PairingSession × Except Error PairingStep :=
  let result := s.startTransientPairingWithPin pin a
  (result.1, result.2.map .send)

/-- `continue_transient_pairing` on the machine inside. -/
def continueTransientPairingWith (s : PairingSession) (transient : PairSetup) (response : Bytes) :
    PairingSession × Except Error (Option Bytes) :=
  match s.transientState with
  | .waitingM2 =>
    match transient.processM2 prims response with
    | (p, .error error) => ({ s with transientSetup := some p }, .error error)
    | (p, .ok _) =>
      match p.generateM3 with
      | (p, .error error) => ({ s with transientSetup := some p }, .error error)
      | (p, .ok m3) =>
        ({ s with transientSetup := some p, transientState := .waitingM4 }, .ok (some m3))
  | .waitingM4 =>
    match transient.processM4 prims response with
    | (p, .error error) => ({ s with transientSetup := some p }, .error error)
    | (p, .ok _) =>
      match p.completeTransient with
      | (p, .error error) => ({ s with transientSetup := some p }, .error error)
      | (p, .ok sharedSecret) =>
        match SessionKeys.deriveControlKeys prims sharedSecret with
        | .error error => ({ s with transientSetup := some p }, .error (.crypto error))
        | .ok keys =>
          ({ s with
              transientSetup := some p
              sharedSecret := some sharedSecret
              sessionKeys := some keys
              transientState := .complete }, .ok none)
  | .notStarted | .complete => (s, .error (invalidState "Invalid transient state for continue"))

def continueTransientPairing (s : PairingSession) (response : Bytes) :
    PairingSession × Except Error (Option Bytes) :=
  match s.transientSetup with
  | none => (s, .error (invalidState "Transient pairing not started"))
  | some transient => s.continueTransientPairingWith prims transient response

def takeSessionKeys (s : PairingSession) : PairingSession × Option SessionKeys :=
  ({ s with sessionKeys := none }, s.sessionKeys)

def transientPairingContinue (s : PairingSession) (response : Bytes) :
    PairingSession × Except Error PairingStep :=
  match s.continueTransientPairing prims response with
  | (s, .error error) => (s, .error error)
  | (s, .ok (some next)) => (s, .ok (.send next))
  | (s, .ok none) =>
    match s.takeSessionKeys with
    | (s, some keys) => (s, .ok (.complete keys))
    | (s, none) => (s, .error (protocol "Transient pairing completed without session keys"))

/-! ## Pair-verify -/

def startPairVerify (s : PairingSession) (secret : Bytes) : PairingSession × Except Error Bytes :=
  if s.pairVerify.isSome then (s, .error (invalidState "Pair-verify already started"))
  else
    match (PairVerify.new s.identity).generateM1 prims secret with
    | (_, .error error) => (s, .error error)
    | (pairVerify, .ok m1) =>
      ({ s with pairVerify := some pairVerify, pairVerifyState := .waitingM2 }, .ok m1)

/-- `continue_pair_verify` on the machine inside. -/
def continuePairVerifyWith (s : PairingSession) (pairVerify : PairVerify) (response : Bytes) :
    PairingSession × Except Error (Option Bytes) :=
  match s.pairVerifyState with
  | .waitingM2 =>
    match pairVerify.processM2 prims response with
    | (v, .error error) => ({ s with pairVerify := some v }, .error error)
    | (v, .ok _) =>
      match v.generateM3 prims with
      | (v, .error error) => ({ s with pairVerify := some v }, .error error)
      | (v, .ok m3) =>
        ({ s with pairVerify := some v, pairVerifyState := .waitingM4 }, .ok (some m3))
  | .waitingM4 =>
    match pairVerify.processM4 prims response with
    | (v, .error error) => ({ s with pairVerify := some v }, .error error)
    | (v, .ok sessionKeys) =>
      ({ s with
          pairVerify := some v
          sessionKeys := some sessionKeys
          pairVerifyState := .complete }, .ok none)
  | .notStarted | .complete => (s, .error (invalidState "Invalid pair-verify state for continue"))

def continuePairVerify (s : PairingSession) (response : Bytes) :
    PairingSession × Except Error (Option Bytes) :=
  match s.pairVerify with
  | none => (s, .error (invalidState "Pair-verify not started"))
  | some pairVerify => s.continuePairVerifyWith prims pairVerify response

/-! ## Calls -/

inductive Call where
  | startPairSetup (pin : String) (a : Nat)
  | continuePairSetup (response : Bytes)
  | startTransientPairing (a : Nat)
  | startTransientPairingWithPin (pin : String) (a : Nat)
  | transientPairingStart (pin : String) (a : Nat)
  | continueTransientPairing (response : Bytes)
  | transientPairingContinue (response : Bytes)
  | startPairVerify (secret : Bytes)
  | continuePairVerify (response : Bytes)
  | takeSessionKeys

/-- Whether the call returned an error. -/
def Failed {ε α : Type} : Except ε α → Bool
  | .ok _ => false
  | .error _ => true

/-- One call; the output says whether it returned an error. -/
def step (s : PairingSession) : Call → PairingSession × Bool
  | .startPairSetup pin a => ((s.startPairSetup pin a).1, Failed (s.startPairSetup pin a).2)
  | .continuePairSetup response =>
    ((s.continuePairSetup prims response).1, Failed (s.continuePairSetup prims response).2)
  | .startTransientPairing a =>
    ((s.startTransientPairing a).1, Failed (s.startTransientPairing a).2)
  | .startTransientPairingWithPin pin a =>
    ((s.startTransientPairingWithPin pin a).1, Failed (s.startTransientPairingWithPin pin a).2)
  | .transientPairingStart pin a =>
    ((s.transientPairingStart pin a).1, Failed (s.transientPairingStart pin a).2)
  | .continueTransientPairing response =>
    ((s.continueTransientPairing prims response).1,
      Failed (s.continueTransientPairing prims response).2)
  | .transientPairingContinue response =>
    ((s.transientPairingContinue prims response).1,
      Failed (s.transientPairingContinue prims response).2)
  | .startPairVerify secret =>
    ((s.startPairVerify prims secret).1, Failed (s.startPairVerify prims secret).2)
  | .continuePairVerify response =>
    ((s.continuePairVerify prims response).1, Failed (s.continuePairVerify prims response).2)
  | .takeSessionKeys => (s.takeSessionKeys.1, false)

end PairingSession

end OpenAirCast.Pairing

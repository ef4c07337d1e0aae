/-
Pairing.Controller — the controller's identity and the errors
of the pairing protocols, from `airplay-pairing/src/controller.rs` and
`airplay-core/src/error.rs`.
-/
import OpenAirCast.Crypto.Keys
import OpenAirCast.Crypto.Tlv
import OpenAirCast.Lib.Exits

namespace OpenAirCast.Pairing

open Crypto

/-! ## Errors -/

inductive PairingError where
  | rejected
  | srpVerificationFailed
  | signatureInvalid
  | stateMismatch (expected actual : Nat)
  | tlvParse (message : String)
  | missingTlv (typ : UInt8)
  | invalidState (message : String)
  | protocol (message : String)
  deriving DecidableEq

/-- `Error`, as far as the pairing protocols raise it. -/
inductive Error where
  | pairing (error : PairingError)
  | crypto (error : CryptoError)
  deriving DecidableEq

/-- The `Display` text. -/
def parseErrorText : ParseError → String
  | .invalidFormat message => "Invalid format: " ++ message

/-- The `Display` text. -/
def cryptoErrorText : CryptoError → String
  | .encryption message => "Encryption failed: " ++ message
  | .decryption message => "Decryption failed: " ++ message
  | .keyDerivation message => "Key derivation failed: " ++ message
  | .invalidKeyLength expected actual =>
    "Invalid key length: expected " ++ toString expected ++ ", got " ++ toString actual

variable (message : String)

def invalidState : Error := .pairing (.invalidState message)

def protocol : Error := .pairing (.protocol message)

/-! ## Identity -/

/-- `as_bytes` of a text. -/
def textBytes (text : String) : Bytes := text.toUTF8.toList

/-- A byte as `{:02X}`. -/
def hexUpper (byte : UInt8) : List Char :=
  let digit (n : Nat) : Char := if n < 10 then Char.ofNat (48 + n) else Char.ofNat (55 + n)
  [digit (byte.toNat / 16), digit (byte.toNat % 16)]

/-- The first 16 bytes of a public key, written as a UUID. -/
def derivedIdentifier (publicKey : Bytes) : String :=
  let hex (start count : Nat) := ((publicKey.drop start).take count).flatMap hexUpper
  String.ofList (hex 0 4 ++ ['-'] ++ hex 4 2 ++ ['-'] ++ hex 6 2 ++ ['-'] ++ hex 8 2 ++ ['-'] ++
    hex 10 6)

/-- The identity a controller pairs under. -/
structure ControllerIdentity where
  id : String
  keypair : IdentityKeyPair

end OpenAirCast.Pairing

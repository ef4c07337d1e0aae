/-
Crypto.Tlv — TLV8, the container format of the pairing
messages, from `airplay-crypto/src/tlv.rs`.

A record is a type, a length and that many bytes of value. A value longer
than a length can say is cut into records of the same type, so the reader
puts the values of a type together.

Translation notes.

* The `HashMap` from a type byte to its value is a function on the type
  bytes. The order of iteration matters in `encode` only, which sorts.
* The reading position is the rest of the data.
-/
import OpenAirCast.Lib.Bytes
import Mathlib.Logic.Function.Basic

namespace OpenAirCast.Crypto

inductive ParseError where
  | invalidFormat (message : String)

@[ext] structure Tlv8 where
  items : UInt8 → Option Bytes

namespace Tlv8

variable (items : UInt8 → Option Bytes) (lastType : Option UInt8) (typ : UInt8) (value : Bytes)

/-- What the reader does with the value of a record. -/
def appendValue : UInt8 → Option Bytes :=
  if some typ = lastType then
    match items typ with
    | some existing => Function.update items typ (some (existing ++ value))
    | none => items
  else Function.update items typ (some ((items typ).getD [] ++ value))

def truncatedValue (expected got : Nat) : ParseError :=
  .invalidFormat ("TLV8: truncated value (expected " ++ toString expected ++ " bytes, got "
    ++ toString got ++ ")")

/-- The loop of `parse`. -/
def parseFrom (items : UInt8 → Option Bytes) (lastType : Option UInt8) :
    Bytes → Except ParseError Tlv8
  | [] => .ok ⟨items⟩
  | [_] => .error (.invalidFormat "TLV8: truncated header")
  | typ :: len :: rest =>
    if rest.length < len.toNat then .error (truncatedValue len.toNat rest.length)
    else
      parseFrom (appendValue items lastType typ (rest.take len.toNat)) (some typ)
        (rest.drop len.toNat)
  termination_by data => data.length
  decreasing_by
    simp only [List.length_drop, List.length_cons]
    omega

def parse (data : Bytes) : Except ParseError Tlv8 := parseFrom (fun _ => none) none data

/-- The type bytes in order. -/
def types : List UInt8 := (List.range 256).map UInt8.ofNat

def encodeItem : Bytes :=
  if value = [] then [typ, 0]
  else (chunks 255 value).flatMap (fun chunk => typ :: UInt8.ofNat chunk.length :: chunk)

def encode (t : Tlv8) : Bytes :=
  types.flatMap (fun typ =>
    match t.items typ with
    | some value => encodeItem typ value
    | none => [])

end Tlv8

/-! ## Types by name -/

/-- `TlvType`, as far as the modelled messages use it. -/
inductive TlvType where
  | method
  | identifier
  | salt
  | publicKey
  | proof
  | encryptedData
  | state
  | error
  | signature
  | flags

def TlvType.byte : TlvType → UInt8
  | .method => 0x00
  | .identifier => 0x01
  | .salt => 0x02
  | .publicKey => 0x03
  | .proof => 0x04
  | .encryptedData => 0x05
  | .state => 0x06
  | .error => 0x07
  | .signature => 0x0A
  | .flags => 0x13

namespace Tlv8

def new : Tlv8 := ⟨fun _ => none⟩

variable (t : Tlv8) (typ : TlvType)

def get : Option Bytes := t.items typ.byte

def set (value : Bytes) : Tlv8 :=
  ⟨Function.update t.items typ.byte (some value)⟩

/-- The first byte of the state. -/
def state : Option UInt8 := (t.get .state).bind List.head?

/-- The first byte of the error. -/
def error : Option UInt8 := (t.get .error).bind List.head?

def pairSetupM1 : Tlv8 := (new.set .state [0x01]).set .method [0x00]

def pairSetupM1WithFlags : Tlv8 :=
  ((new.set .state [0x01]).set .method [0x00]).set .flags [0x10, 0x00, 0x00, 0x00]

end Tlv8

end OpenAirCast.Crypto

/-
Lib.Text — text as the standard library of the source takes it
apart.

The functions on characters are the ones that run on text from the network;
`decodeUtf8` reads that text off its bytes.
-/
import OpenAirCast.Lib.Bytes

namespace OpenAirCast

/-! ## White space and case -/

/-- `char::is_whitespace`. -/
def isWhitespace (c : Char) : Bool :=
  let n := c.toNat
  (9 ≤ n && n ≤ 13) || n == 0x20 || n == 0x85 || n == 0xA0 || n == 0x1680
    || (0x2000 ≤ n && n ≤ 0x200A) || n == 0x2028 || n == 0x2029 || n == 0x202F
    || n == 0x205F || n == 0x3000

/-- `str::trim` on characters. -/
def trimChars (text : List Char) : List Char :=
  ((text.dropWhile isWhitespace).reverse.dropWhile isWhitespace).reverse

/-- `str::trim`. -/
def trim (text : String) : String :=
  String.ofList ((text.toList.dropWhile isWhitespace).reverse.dropWhile isWhitespace).reverse

/-- `str::eq_ignore_ascii_case`. -/
def eqIgnoreAsciiCase (a b : String) : Bool :=
  a.toList.map Char.toLower == b.toList.map Char.toLower

/-- The same on characters. -/
def sameIgnoringCase (a b : List Char) : Bool := a.map Char.toLower == b.map Char.toLower

/-! ## Lines and fields -/

/-- A line without the carriage return in front of its end. -/
def stripCarriageReturn (line : List Char) : List Char :=
  if line.getLast? = some '\r' then line.dropLast else line

/-- The rest of `str::lines`, in the middle of a line. -/
def linesFrom (line : List Char) : List Char → List (List Char)
  | [] => if line = [] then [] else [line]
  | c :: rest =>
    if c = '\n' then stripCarriageReturn line :: linesFrom [] rest
    else linesFrom (line ++ [c]) rest

/-- `str::lines`. -/
def lines (text : List Char) : List (List Char) := linesFrom [] text

/-- `str::split_once`. -/
def splitOnce (separator : Char) : List Char → Option (List Char × List Char)
  | [] => none
  | c :: rest =>
    if c = separator then some ([], rest)
    else (splitOnce separator rest).map (fun (front, back) => (c :: front, back))

/-- `str::parse` for an unsigned number up to `max`. -/
def parseUnsigned (max : Nat) (text : List Char) : Option Nat :=
  let digits := if text.head? = some '+' then text.tail else text
  if digits ≠ [] ∧ digits.all Char.isDigit = true then
    let n := digits.foldl (fun n c => n * 10 + (c.toNat - '0'.toNat)) 0
    if n ≤ max then some n else none
  else none

/-- `char::to_digit(16)`. -/
def hexDigit (c : Char) : Option Nat :=
  if '0' ≤ c ∧ c ≤ '9' then some (c.toNat - '0'.toNat)
  else if 'a' ≤ c ∧ c ≤ 'f' then some (c.toNat - 'a'.toNat + 10)
  else if 'A' ≤ c ∧ c ≤ 'F' then some (c.toNat - 'A'.toNat + 10)
  else none

/-- `from_str_radix(text, 16)` for an unsigned number up to `max`. -/
def parseHex (max : Nat) (text : List Char) : Option Nat :=
  let digits := if text.head? = some '+' then text.tail else text
  if digits ≠ [] ∧ digits.all (fun c => (hexDigit c).isSome) = true then
    let n := digits.foldl (fun n c => n * 16 + (hexDigit c).getD 0) 0
    if n ≤ max then some n else none
  else none

/-! ## UTF-8 -/

/-- The payload of a continuation byte. -/
def continuation (b : UInt8) : Option Nat :=
  if 0x80 ≤ b ∧ b ≤ 0xBF then some (b.toNat - 0x80) else none

/-- A code point of at least `least` that is a character. -/
def codePoint (least n : Nat) : Option Char :=
  if least ≤ n ∧ n.isValidChar then some (Char.ofNat n) else none

/-- The first character of the bytes, with the rest of them. -/
def decodeChar : Bytes → Option (Char × Bytes)
  | [] => none
  | a :: rest =>
    if a < 0x80 then some (Char.ofNat a.toNat, rest)
    else if a < 0xE0 then
      match rest with
      | b :: rest => do
          let b ← continuation b
          let c ← codePoint 0x80 ((a.toNat - 0xC0) * 64 + b)
          return (c, rest)
      | _ => none
    else if a < 0xF0 then
      match rest with
      | b :: c :: rest => do
          let b ← continuation b
          let c ← continuation c
          let d ← codePoint 0x800 (((a.toNat - 0xE0) * 64 + b) * 64 + c)
          return (d, rest)
      | _ => none
    else
      match rest with
      | b :: c :: d :: rest => do
          let b ← continuation b
          let c ← continuation c
          let d ← continuation d
          let e ← codePoint 0x10000 ((((a.toNat - 0xF0) * 64 + b) * 64 + c) * 64 + d)
          return (e, rest)
      | _ => none

/-- At most `fuel` characters; a byte that starts none counts as U+FFFD. -/
def decodeLossy : (fuel : Nat) → Bytes → List Char
  | 0, _ => []
  | fuel + 1, data =>
    match data, decodeChar data with
    | [], _ => []
    | _ :: rest, none => '\uFFFD' :: decodeLossy fuel rest
    | _, some (c, rest) => c :: decodeLossy fuel rest

/-- `String::from_utf8_lossy`, up to how many U+FFFD stand for a broken
sequence. -/
def utf8Lossy (data : Bytes) : List Char := decodeLossy data.length data

/-- At most `fuel` characters of valid bytes. -/
def decodeStrict : (fuel : Nat) → Bytes → Option (List Char)
  | _, [] => some []
  | 0, _ => none
  | fuel + 1, data =>
    match decodeChar data with
    | none => none
    | some (c, rest) => (decodeStrict fuel rest).map (c :: ·)

/-- `str::from_utf8`. -/
def utf8 (data : Bytes) : Option (List Char) := decodeStrict data.length data

end OpenAirCast

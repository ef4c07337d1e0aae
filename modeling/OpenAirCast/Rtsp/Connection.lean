/-
Rtsp.Connection — requests and responses of one connection,
from `airplay-rtsp` (`request.rs`, `response.rs`, `connection.rs`).

`RtspConnection::send` numbers a request, writes it and reads a response
until it is whole or ten seconds are over. What a read has taken off the
stream when the time is over is gone. `Link` puts the receiver at the other
end: it answers every request that reaches it, and its answers wait on the
stream in order. How many bytes come within the time is up to the event.

Translation notes.

* A header map is a `HashMap`, whose order of iteration is not specified:
  `iteration` stands for it.
* The number of a request is a `u32` and a place in a buffer a `usize`; both
  wrap, as in a release build. What panics instead of returning gives
  `panicked`.
* The plaintext reader reads through a `BufReader` of its own, which may
  have taken more off the stream than the response (`readAhead`), and drops
  it with the reader.
-/
import OpenAirCast.Crypto.Chacha
import OpenAirCast.Lib.SortedMap
import OpenAirCast.Lib.Text
import Mathlib.Data.String.Basic

namespace OpenAirCast.Rtsp

open Crypto

/-- Why a send fails. -/
inductive SendError where
  | connectionRefused
  | crypto (error : CryptoError)
  | io
  | timeout
  | invalidResponse (message : String)
  /-- The call panics and returns nothing. -/
  | panicked
  deriving DecidableEq

/-! ## Requests -/

inductive RtspMethod where
  | options | announce | setup | record | pause | flush | teardown
  | getParameter | setParameter | post | get | setPeers

def RtspMethod.asStr : RtspMethod → String
  | .options => "OPTIONS"
  | .announce => "ANNOUNCE"
  | .setup => "SETUP"
  | .record => "RECORD"
  | .pause => "PAUSE"
  | .flush => "FLUSH"
  | .teardown => "TEARDOWN"
  | .getParameter => "GET_PARAMETER"
  | .setParameter => "SET_PARAMETER"
  | .post => "POST"
  | .get => "GET"
  | .setPeers => "SETPEERS"

structure RtspRequest where
  method : RtspMethod
  uri : String
  headers : SortedMap String String := .empty
  body : Option Bytes := none

def textBytes (text : String) : Bytes := text.toUTF8.toList

namespace RtspRequest

variable (request : RtspRequest)

def header (key value : String) : RtspRequest :=
  { request with headers := request.headers.insert key value }

/-- Request line, number, length of the body, headers by name, blank line,
body. -/
def serialize (cseq : BitVec 32) : Bytes :=
  textBytes (request.method.asStr ++ " " ++ request.uri ++ " RTSP/1.0\r\n")
    ++ textBytes ("CSeq: " ++ toString cseq.toNat ++ "\r\n")
    ++ (match request.body with
        | none => []
        | some body => textBytes ("Content-Length: " ++ toString body.length ++ "\r\n"))
    ++ request.headers.entries.flatMap (fun (key, value) =>
        textBytes (key ++ ": " ++ value ++ "\r\n"))
    ++ textBytes "\r\n" ++ request.body.getD []

end RtspRequest

/-! ## Responses -/

def USIZE_MAX : Nat := 18446744073709551615

/-- The most bytes that one allocation can have. -/
def ISIZE_MAX : Nat := 9223372036854775807

/-- `usize` addition. -/
def addUsize (a b : Nat) : Nat := (a + b) % (USIZE_MAX + 1)

abbrev Header := List Char × List Char

structure RtspResponse where
  statusCode : Nat
  statusText : List Char
  /-- In the order in which the map is gone through. -/
  headers : List Header
  body : Option Bytes
  deriving DecidableEq

/-- `HashMap::insert` on the headers so far. -/
def insertHeader (headers : List Header) (header : Header) : List Header :=
  headers.filter (fun other => other.1 != header.1) ++ [header]

/-- The place of the first blank line. -/
def headerEnd : Bytes → Option Nat
  | [] => none
  | b :: rest =>
    if (b :: rest).take 4 = [13, 10, 13, 10] then some 0 else (headerEnd rest).map (· + 1)

/-- `parse_status_line`. -/
def parseStatusLine (line : List Char) : Except SendError (Nat × List Char) :=
  match splitOnce ' ' line with
  | none => .error (.invalidResponse ("malformed status line: " ++ String.ofList line))
  | some (version, rest) =>
    let (code, text) := (splitOnce ' ' rest).getD (rest, [])
    if "RTSP/".toList.isPrefixOf version = false then
      .error (.invalidResponse ("not an RTSP response: " ++ String.ofList version))
    else
      match parseUnsigned 65535 code with
      | none => .error (.invalidResponse ("invalid status code: " ++ String.ofList code))
      | some statusCode => .ok (statusCode, text)

namespace RtspResponse

/-- The first header of this name, whatever its case. -/
def find (headers : List Header) (name : String) : Option (List Char) :=
  (headers.find? (fun header => sameIgnoringCase header.1 name.toList)).map (·.2)

def header (response : RtspResponse) (name : String) : Option (List Char) :=
  find response.headers name

def cseq (response : RtspResponse) : Option (BitVec 32) :=
  (response.header "CSeq").bind (fun value =>
    (parseUnsigned 4294967295 value).map (BitVec.ofNat 32))

variable (iteration : List Header → List Header)

/-- The headers of the lines, each in its trimmed parts. -/
def parseHeaders (lines : List (List Char)) : List Header :=
  iteration (lines.foldl (fun headers line =>
    match splitOnce ':' line with
    | none => headers
    | some (key, value) => insertHeader headers (trimChars key, trimChars value)) [])

/-- What stands above the body. -/
structure Head where
  /-- The place of the blank line. -/
  headerEnd : Nat
  statusCode : Nat
  statusText : List Char
  lines : List (List Char)
  deriving DecidableEq

variable (data : Bytes)

def parseHead : Except SendError Head := do
  let some headerEnd := headerEnd data
    | .error (.invalidResponse "missing header terminator")
  let some text := utf8 (data.take headerEnd)
    | .error (.invalidResponse "invalid UTF-8 in headers")
  let statusLine :: lines := lines text
    | .error (.invalidResponse "missing status line")
  let (statusCode, statusText) ← parseStatusLine statusLine
  return { headerEnd, statusCode, statusText, lines }

/-- The announced bytes from there on. -/
def parseBody (bodyStart contentLength : Nat) : Except SendError (Option Bytes) :=
  let bodyEnd := addUsize bodyStart contentLength
  if contentLength > 0 ∧ data.length ≥ bodyEnd then
    -- a slice that ends before it starts
    if bodyEnd < bodyStart then .error .panicked
    else .ok (some ((data.take bodyEnd).drop bodyStart))
  else if contentLength > 0 then
    .error (.invalidResponse ("body too short: expected " ++ toString contentLength
      ++ " bytes, got " ++ toString (data.length - bodyStart)))
  else .ok none

def parse : Except SendError RtspResponse := do
  let head ← parseHead data
  let headers := parseHeaders iteration head.lines
  let contentLength := ((find headers "Content-Length").bind (parseUnsigned USIZE_MAX ·)).getD 0
  let body ← parseBody data (head.headerEnd + 4) contentLength
  return { statusCode := head.statusCode, statusText := head.statusText, headers, body }

end RtspResponse

/-! ## Reading -/

/-- How far a read has come with the bytes that have arrived. -/
inductive Reading where
  | more
  | failed (error : SendError) (rest : Bytes)
  | done (response rest : Bytes)
  deriving DecidableEq

/-- The length that the header lines announce for the body. -/
def contentLength (header : Bytes) : Nat :=
  ((lines (utf8Lossy header)).findSome? (fun line =>
    (splitOnce ':' line).bind (fun (key, value) =>
      if sameIgnoringCase (trimChars key) "Content-Length".toList then
        parseUnsigned USIZE_MAX (trimChars value)
      else none))).getD 0

/-- A body of the announced length behind the header lines. -/
def readBody (header rest : Bytes) : Reading :=
  let length := contentLength header
  -- no buffer is that long
  if length > ISIZE_MAX then .failed .panicked rest
  else if rest.length < length then .more
  else .done (header ++ rest.take length) (rest.drop length)

/-- Line by line up to the first blank one; `header` are the lines before
this one, `line` is what there is of it. -/
def readLines (header line : Bytes) : Bytes → Reading
  | [] => .more
  | b :: rest =>
    let line := line ++ [b]
    if b ≠ 10 then readLines header line rest
    else if utf8 line = none then .failed .io rest
    else if line = [13, 10] then readBody (header ++ line) rest
    else readLines (header ++ line) [] rest

/-- `read_plaintext_response` on the bytes that arrive. -/
def readPlaintextResponse (data : Bytes) : Reading := readLines [] [] data

/-- The length of a response whose header ends at `place`. -/
def totalLen (data : Bytes) (place : Nat) : Nat :=
  addUsize (place + 4) (contentLength (data.take place))

/-- A response that is whole, without what comes behind it. -/
def wholeResponse (data : Bytes) : Option Bytes :=
  (headerEnd data).bind (fun place =>
    if totalLen data place ≤ data.length then some (data.take (totalLen data place)) else none)

/-- `read_encrypted_response` on the bytes that arrive, block by block;
`response` is what has been decrypted so far. -/
def readEncryptedResponse (aead : Aead) (c : ControlCipher) (response data : Bytes) :
    ControlCipher × Reading :=
  match data with
  | low :: high :: rest =>
    let blockLen := fromLeBytes [low, high]
    if rest.length < blockLen + TAG_LENGTH then (c, .more)
    else
      match c.decryptBlock aead (rest.take (blockLen + TAG_LENGTH)) blockLen with
      | (c, .error error) => (c, .failed (.crypto error) (rest.drop (blockLen + TAG_LENGTH)))
      | (c, .ok block) =>
        match wholeResponse (response ++ block) with
        | some whole => (c, .done whole (rest.drop (blockLen + TAG_LENGTH)))
        | none =>
          readEncryptedResponse aead c (response ++ block)
            (rest.drop (blockLen + TAG_LENGTH))
  | _ => (c, .more)
  termination_by data.length
  decreasing_by
    simp only [List.length_drop, List.length_cons]
    omega

/-! ## The connection -/

structure RtspConnection where
  cseq : BitVec 32 := 0
  cipher : Option ControlCipher := none
  connected : Bool := true
  /-- Added to all requests. -/
  sessionHeaders : SortedMap String String := .empty

/-- The connection and the stream to a receiver. -/
structure Link where
  connection : RtspConnection
  /-- The cipher at the receiver's end. -/
  peer : Option ControlCipher := none
  /-- What the receiver has answered and nobody has read, whether it has
  arrived or not. -/
  incoming : Bytes := []

/-- A call of `send` with all that is not up to the code. -/
structure Exchange where
  request : RtspRequest
  /-- The request goes out. -/
  written : Bool := true
  /-- What the receiver answers it. -/
  answer : Bytes
  /-- How much of the stream comes within the time. -/
  arrived : Nat
  /-- How much more than the response a plaintext read has taken. -/
  readAhead : Nat := 0

namespace RtspConnection

def withSessionHeaders (c : RtspConnection) (request : RtspRequest) : RtspRequest :=
  c.sessionHeaders.entries.foldl (fun request (key, value) => request.header key value) request

/-- The request as it goes on the wire. -/
def wireData (aead : Aead) (c : RtspConnection) (data : Bytes) :
    RtspConnection × Except SendError Bytes :=
  match c.cipher with
  | none => (c, .ok data)
  | some cipher =>
    let r := cipher.encrypt aead data
    ({ c with cipher := some r.1 }, r.2.mapError .crypto)

/-- The response read off the bytes that arrive, with what is left of
them. -/
def readResponse (aead : Aead) (c : RtspConnection) (data : Bytes) (readAhead : Nat) :
    RtspConnection × Bytes × Except SendError Bytes :=
  match c.cipher with
  | none =>
    match readPlaintextResponse data with
    | .more => (c, [], .error .timeout)
    | .failed error rest => (c, rest.drop readAhead, .error error)
    | .done response rest => (c, rest.drop readAhead, .ok response)
  | some cipher =>
    match readEncryptedResponse aead cipher [] data with
    | (cipher, .more) => ({ c with cipher := some cipher }, [], .error .timeout)
    | (cipher, .failed error rest) => ({ c with cipher := some cipher }, rest, .error error)
    | (cipher, .done response rest) => ({ c with cipher := some cipher }, rest, .ok response)

end RtspConnection

namespace Link

variable (aead : Aead) (link : Link)

/-- The receiver puts its answer on the stream. -/
def answered (answer : Bytes) : Link :=
  match link.peer with
  | none => { link with incoming := link.incoming ++ answer }
  | some peer =>
    let r := peer.encrypt aead answer
    { link with peer := some r.1, incoming := link.incoming ++ r.2.toOption.getD [] }

/-- The read of a call that has written its request. -/
def read (arrived readAhead : Nat) : Link × Except SendError Bytes :=
  let r := link.connection.readResponse aead (link.incoming.take arrived) readAhead
  ({ link with connection := r.1, incoming := r.2.1 ++ link.incoming.drop arrived }, r.2.2)

/-- `RtspConnection::send`, with the number of the request. A response of
another number is returned all the same. -/
def send (iteration : List Header → List Header) (link : Link) (call : Exchange) :
    Link × BitVec 32 × Except SendError RtspResponse :=
  if link.connection.connected = false then
    (link, link.connection.cseq, .error .connectionRefused)
  else
    let cseq := link.connection.cseq + 1
    let data := (link.connection.withSessionHeaders call.request).serialize cseq
    let wire := { link.connection with cseq }.wireData aead data
    let link := { link with connection := wire.1 }
    match wire.2 with
    | .error error => (link, cseq, .error error)
    | .ok _ =>
      if call.written = false then (link, cseq, .error .io)
      else
        let r := (link.answered aead call.answer).read aead call.arrived call.readAhead
        (r.1, cseq, r.2.bind (RtspResponse.parse iteration))

end Link

end OpenAirCast.Rtsp

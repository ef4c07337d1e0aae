/-
Rtsp.Closing — the plaintext reader on a stream that ends, from
`airplay-rtsp/src/connection.rs`.

`readPlaintextResponse` in `Rtsp.Connection` says what the reader makes of
the bytes that have arrived. Here the receiver has closed the connection
behind them, and the reader is taken read by read, since it may be that it
never gets to an end. A read at the end of the stream gives no bytes and is
no error.
-/
import OpenAirCast.Rtsp.ReaderTheorems

namespace OpenAirCast.Rtsp

/-- `read_line`: up to the next line end, or what there is. -/
def readLine : Bytes → Bytes × Bytes
  | [] => ([], [])
  | b :: rest => if b = 10 then ([b], rest) else (b :: (readLine rest).1, (readLine rest).2)

/-- The reader between two reads of its header loop. -/
structure HeaderLoop where
  responseData : Bytes := []
  /-- What is left of the stream. -/
  stream : Bytes

inductive Turn where
  | again (loop : HeaderLoop)
  | over (result : Except SendError Bytes)

/-- The body with `read_exact`, which does not put up with less. -/
def readExactBody (header rest : Bytes) : Except SendError Bytes :=
  let length := contentLength header
  -- no buffer is that long
  if length > ISIZE_MAX then .error .panicked
  else if rest.length < length then .error .io
  else .ok (header ++ rest.take length)

/-- One read of the loop. -/
def HeaderLoop.turn (loop : HeaderLoop) : Turn :=
  let read := readLine loop.stream
  if utf8 read.1 = none then .over (.error .io)
  else if read.1 = [13, 10] then .over (readExactBody (loop.responseData ++ read.1) read.2)
  else .again { responseData := loop.responseData ++ read.1, stream := read.2 }

/-- What has come of the reader after that many reads of lines. -/
def HeaderLoop.after (loop : HeaderLoop) : Nat → Option (Except SendError Bytes)
  | 0 => none
  | n + 1 =>
    match loop.turn with
    | .over result => some result
    | .again loop => loop.after n

/-- `read_plaintext_response` on a stream of these bytes. -/
def readClosed (data : Bytes) (reads : Nat) : Option (Except SendError Bytes) :=
  HeaderLoop.after { stream := data } reads

end OpenAirCast.Rtsp

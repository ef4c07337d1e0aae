/-
Lib.ChaChaPoly — the authenticated cipher ChaCha20-Poly1305
with a 32-byte key and a 12-byte nonce.

Sealing and opening change each byte of a message by the byte of the key
stream at its place, so they undo each other (`decrypt_encrypt`). The tag is
a polynomial in the ciphertext, evaluated modulo a prime with whole numbers.
-/
import OpenAirCast.Lib.Bytes

namespace OpenAirCast.ChaChaPoly

/-! ## The key stream -/

/-- The sixteen words of a block. -/
abbrev Words := Fin 16 → UInt32

def rotateLeft (word : UInt32) (by_ : UInt32) : UInt32 := (word <<< by_) ||| (word >>> (32 - by_))

variable (words : Words)

def setWord (i : Fin 16) (word : UInt32) : Words :=
  fun j => if j = i then word else words j

/-- One addition, one exclusive or and one rotation. -/
def mix (a b d : Fin 16) (by_ : UInt32) : Words :=
  let words := setWord words a (words a + words b)
  setWord words d (rotateLeft (words d ^^^ words a) by_)

def quarterRound (a b c d : Fin 16) : Words :=
  mix (mix (mix (mix words a b d 16) c d b 12) a b d 8) c d b 7

/-- Keeps a step of the computation as sixteen numbers. -/
def settle : List UInt32 := (List.finRange 16).map words

def ofList (words : List UInt32) : Words := fun i => words.getD i 0

def doubleRound (words : List UInt32) : List UInt32 :=
  let columns := quarterRound (quarterRound (quarterRound (quarterRound (ofList words)
    0 4 8 12) 1 5 9 13) 2 6 10 14) 3 7 11 15
  settle (quarterRound (quarterRound (quarterRound (quarterRound (ofList (settle columns))
    0 5 10 15) 1 6 11 12) 2 7 8 13) 3 4 9 14)

/-- The bytes as little-endian words. -/
def wordsOf (bytes : Bytes) : List UInt32 :=
  (chunks 4 bytes).map (fun word => UInt32.ofNat (fromLeBytes word))

variable (key nonce : Bytes)

def initialWords (counter : Nat) : List UInt32 :=
  [0x61707865, 0x3320646e, 0x79622d32, 0x6b206574] ++ wordsOf key
    ++ [UInt32.ofNat counter] ++ wordsOf nonce

def rounds : Nat → List UInt32 → List UInt32
  | 0, words => words
  | n + 1, words => rounds n (doubleRound words)

/-- One block of 64 bytes. -/
def block (counter : Nat) : Bytes :=
  let start := initialWords key nonce counter
  (List.zipWith (· + ·) (rounds 10 start) start).flatMap (fun word => toLeBytes 4 word.toNat)

/-- The key stream of a message; it starts with the second block. -/
def keyStream (length : Nat) : Bytes :=
  (List.range ((length + 63) / 64)).flatMap (fun i => block key nonce (1 + i))

/-- Byte by byte, as far as the stream goes. -/
def xorStream : Bytes → Bytes → Bytes
  | [], _ => []
  | bytes, [] => bytes
  | byte :: bytes, k :: stream => (byte ^^^ k) :: xorStream bytes stream

variable (msg : Bytes)

def applyKeyStream : Bytes :=
  xorStream msg (keyStream key nonce msg.length)

/-! ## The tag -/

def pad16 (bytes : Bytes) : Bytes := bytes ++ List.replicate ((16 - bytes.length % 16) % 16) 0

/-- The message polynomial at `r`. -/
def evaluate (r : Nat) (bytes : Bytes) : Nat :=
  (chunks 16 bytes).foldl
    (fun sum piece => ((sum + fromLeBytes (piece ++ [1])) * r) % (2 ^ 130 - 5)) 0

def tag (aad ciphertext : Bytes) : Bytes :=
  let once := block key nonce 0
  let r := fromLeBytes (once.take 16) &&& 0x0ffffffc0ffffffc0ffffffc0fffffff
  let s := fromLeBytes ((once.drop 16).take 16)
  toLeBytes 16 (evaluate r (pad16 aad ++ pad16 ciphertext ++ toLeBytes 8 aad.length
    ++ toLeBytes 8 ciphertext.length) + s)

/-! ## Sealing and opening -/

def encrypt (aad msg : Bytes) : Bytes :=
  let ciphertext := applyKeyStream key nonce msg
  ciphertext ++ tag key nonce aad ciphertext

def decrypt (aad msg : Bytes) : Option Bytes :=
  let ciphertext := msg.take (msg.length - 16)
  if msg.drop (msg.length - 16) = tag key nonce aad ciphertext then
    some (applyKeyStream key nonce ciphertext)
  else none

@[simp] theorem length_tag (aad ciphertext : Bytes) :
    (tag key nonce aad ciphertext).length = 16 := length_toLeBytes 16 _

@[simp] theorem length_xorStream : ∀ bs stream : Bytes, (xorStream bs stream).length = bs.length
  | [], _ => rfl
  | _ :: _, [] => rfl
  | _ :: bs, _ :: stream => congrArg (· + 1) (length_xorStream bs stream)

theorem xorStream_twice : ∀ bs stream : Bytes, xorStream (xorStream bs stream) stream = bs
  | [], _ => rfl
  | _ :: _, [] => rfl
  | byte :: bs, k :: stream => by
      simp only [xorStream, xorStream_twice bs stream, UInt8.xor_assoc, UInt8.xor_self,
        UInt8.xor_zero]

@[simp] theorem length_applyKeyStream :
    (applyKeyStream key nonce msg).length = msg.length := length_xorStream _ _

/-- The key stream undoes itself. -/
theorem applyKeyStream_twice : applyKeyStream key nonce (applyKeyStream key nonce msg) = msg := by
  unfold applyKeyStream
  rw [length_xorStream, xorStream_twice]

theorem length_encrypt (aad msg : Bytes) :
    (encrypt key nonce aad msg).length = msg.length + 16 := by
  simp [encrypt]

theorem decrypt_encrypt (aad msg : Bytes) :
    decrypt key nonce aad (encrypt key nonce aad msg) = some msg := by
  have hlen : (encrypt key nonce aad msg).length - 16 = (applyKeyStream key nonce msg).length := by
    rw [length_encrypt, length_applyKeyStream]
    omega
  unfold decrypt
  rw [hlen]
  simp [encrypt, applyKeyStream_twice]

/-- A known message has its known tag. -/
example : (encrypt ((List.range 32).map (fun i => UInt8.ofNat (0x80 + i)))
      [7, 0, 0, 0, 0x40, 0x41, 0x42, 0x43, 0x44, 0x45, 0x46, 0x47]
      [0x50, 0x51, 0x52, 0x53, 0xc0, 0xc1, 0xc2, 0xc3, 0xc4, 0xc5, 0xc6, 0xc7]
      (("Ladies and Gentlemen of the class of ".toList ++ [Char.ofNat 39]
        ++ "99: If I could offer you only one tip for the future, sunscreen would be it.".toList
        ).map (fun c => UInt8.ofNat c.toNat))).drop 114 =
    [0x1a, 0xe1, 0x0b, 0x59, 0x4f, 0x09, 0xe2, 0x6a, 0x7e, 0x90, 0x2e, 0xcb, 0xd0, 0x60, 0x06,
      0x91] := by
  decide +kernel

end OpenAirCast.ChaChaPoly

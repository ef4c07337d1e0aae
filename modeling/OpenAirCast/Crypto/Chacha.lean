/-
Crypto.Chacha — the cipher of the control channel, from
`airplay-crypto/src/chacha.rs`, and the framing that
`airplay-pairing/src/channel.rs` reads off it.

A message is cut into blocks of at most 1024 bytes. Each is sealed under
the next nonce, with its length as additional data, and put on the wire as
length, ciphertext and tag. The two directions count their blocks
separately; nothing else about a message goes over the wire.

Translation notes.

* `ChaCha20Poly1305` is a third-party cipher: `Aead` is what the code calls
  of it. A refused call gives `none`.
* A counter is a `u64` that wraps, as in a release build; a debug build
  panics instead.
* A method returns the cipher with its result, so that what an error leaves
  behind is there to see. `Sealed` is one call of the cipher by `encrypt`.
-/
import OpenAirCast.Lib.Bytes
import OpenAirCast.Lib.Fallible

namespace OpenAirCast.Crypto

/-- `CryptoError`, as far as the modelled code raises it. -/
inductive CryptoError where
  | encryption (message : String)
  | decryption (message : String)
  | keyDerivation (message : String)
  | invalidKeyLength (expected actual : Nat)
  deriving DecidableEq

/-- An authenticated cipher. -/
structure Aead where
  encrypt : (key nonce aad msg : Bytes) → Option Bytes
  decrypt : (key nonce aad msg : Bytes) → Option Bytes

/-- Length of the authentication tag. -/
def TAG_LENGTH : Nat := 16

def MAX_BLOCK : Nat := 0x400

def buildNonceFromCounter (counter : UInt64) : Bytes :=
  [0, 0, 0, 0] ++ toLeBytes 8 counter.toNat

structure ControlCipher where
  writeKey : Bytes
  readKey : Bytes
  encryptCounter : UInt64 := 0
  decryptCounter : UInt64 := 0

/-- One block as `encrypt` sealed it. -/
structure Sealed where
  nonce : Bytes
  block : Bytes
  ciphertextWithTag : Bytes

/-- A block as it goes over the wire. -/
def Sealed.frame (s : Sealed) : Bytes := toLeBytes 2 s.block.length ++ s.ciphertextWithTag

namespace ControlCipher

def new (writeKey readKey : Bytes) : ControlCipher := { writeKey, readKey }

def newUnidirectional (key : Bytes) : ControlCipher := new key key

variable (aead : Aead)

variable (c : ControlCipher)

def sealBlock (block : Bytes) : ControlCipher × Except CryptoError Sealed :=
  let nonce := buildNonceFromCounter c.encryptCounter
  match aead.encrypt c.writeKey nonce (toLeBytes 2 block.length) block with
  | none => (c, .error (.encryption "Encryption failed: aead::Error"))
  | some ciphertextWithTag =>
    ({ c with encryptCounter := c.encryptCounter + 1 }, .ok ⟨nonce, block, ciphertextWithTag⟩)

variable (plaintext : Bytes)

/-- The blocks `encrypt` seals. -/
def sealMessage : ControlCipher × Except CryptoError (List Sealed) :=
  if plaintext = [] then (c, .error (.encryption "Empty plaintext"))
  else inOrder (sealBlock aead) c (chunks MAX_BLOCK plaintext)

/-- The blocks one behind the other. -/
def encrypt : ControlCipher × Except CryptoError Bytes :=
  let result := sealMessage aead c plaintext
  (result.1, result.2.map (fun blocks => blocks.flatMap Sealed.frame))

/-- `blockLen` is what the frame says. -/
def decryptBlock (ciphertextWithTag : Bytes) (blockLen : Nat) :
    ControlCipher × Except CryptoError Bytes :=
  if ciphertextWithTag.length < blockLen + TAG_LENGTH then
    (c, .error (.decryption "Ciphertext block too short"))
  else
    match aead.decrypt c.readKey (buildNonceFromCounter c.decryptCounter) (toLeBytes 2 blockLen)
        ciphertextWithTag with
    | none => (c, .error (.decryption "Decryption/authentication failed"))
    | some plaintext => ({ c with decryptCounter := c.decryptCounter + 1 }, .ok plaintext)

/-- The loop of `decrypt`. -/
def decryptFrames (c : ControlCipher) (data : Bytes) : ControlCipher × Except CryptoError Bytes :=
  match data with
  | [] => (c, .ok [])
  | [_] => (c, .error (.decryption "Incomplete length prefix"))
  | low :: high :: rest =>
    let blockLen := fromLeBytes [low, high]
    if rest.length < blockLen + TAG_LENGTH then
      (c, .error (.decryption "Incomplete ciphertext block"))
    else
      match decryptBlock aead c (rest.take (blockLen + TAG_LENGTH)) blockLen with
      | (c, .error error) => (c, .error error)
      | (c, .ok plaintext) =>
        match decryptFrames c (rest.drop (blockLen + TAG_LENGTH)) with
        | (c, .error error) => (c, .error error)
        | (c, .ok more) => (c, .ok (plaintext ++ more))
  termination_by data.length
  decreasing_by
    simp only [List.length_drop, List.length_cons]
    omega

def decrypt (data : Bytes) : ControlCipher × Except CryptoError Bytes :=
  if data.length < 18 then (c, .error (.decryption "Data too short for HomeKit frame"))
  else decryptFrames aead c data

end ControlCipher

/-! ## Reading frame by frame -/

/-- `EncryptedChannel::parse_frame_length`. -/
def parseFrameLength : Bytes → Option Nat
  | low :: high :: _ => some (2 + fromLeBytes [low, high] + TAG_LENGTH)
  | _ => none

theorem parseFrameLength_pos {data : Bytes} {frame : Nat} (h : parseFrameLength data = some frame) :
    0 < frame := by
  unfold parseFrameLength at h
  split at h
  · rw [← Option.some.inj h]
    omega
  · cases h

/-- The frames a reader cuts off a buffer, as long as it holds a whole
one. -/
def splitFrames (data : Bytes) : List Bytes :=
  match _hframe : parseFrameLength data with
  | none => []
  | some frame =>
    if data.length < frame then []
    else data.take frame :: splitFrames (data.drop frame)
  termination_by data.length
  decreasing_by
    have hpos := parseFrameLength_pos _hframe
    simp only [List.length_drop]
    omega

/-- One frame, as `read_encrypted_response` hands it to `decrypt_block`. -/
def decryptFrame (aead : Aead) (c : ControlCipher) (frame : Bytes) :
    ControlCipher × Except CryptoError Bytes :=
  c.decryptBlock aead (frame.drop 2) (fromLeBytes (frame.take 2))

end OpenAirCast.Crypto

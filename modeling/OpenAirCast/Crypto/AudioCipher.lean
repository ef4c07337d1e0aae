/-
Crypto.AudioCipher — the cipher of audio packets, from
`airplay-crypto/src/chacha.rs`.

The nonce of a packet is its RTP sequence number, padded with zeros; eight
of its twelve bytes go over the wire. Timestamp and SSRC are the additional
data.
-/
import OpenAirCast.Crypto.Chacha

namespace OpenAirCast.Crypto

structure AudioCipher where
  key : Bytes

/-- The transmitted bytes are bytes 4 to 11. -/
def buildNonce12 (nonce8 : Bytes) : Bytes := [0, 0, 0, 0] ++ nonce8

def buildAad (rtpTimestamp ssrc : BitVec 32) : Bytes :=
  toBeBytes 4 rtpTimestamp.toNat ++ toBeBytes 4 ssrc.toNat

/-- Four zeros, the sequence number in little-endian order, six zeros. -/
def seqNonce (seqnum : BitVec 16) : Bytes :=
  [0, 0, 0, 0] ++ toLeBytes 2 seqnum.toNat ++ [0, 0, 0, 0, 0, 0]

namespace AudioCipher

variable (aead : Aead)

variable (c : AudioCipher)

/-- Ciphertext, the 8 bytes of the nonce, tag. -/
def encryptWithSeq (audioData : Bytes) (rtpTimestamp ssrc : BitVec 32)
    (seqnum : BitVec 16) : Except CryptoError (Bytes × Bytes × Bytes) :=
  match aead.encrypt c.key (seqNonce seqnum) (buildAad rtpTimestamp ssrc) audioData with
  | none => .error (.encryption "Encryption failed: aead::Error")
  | some ciphertextWithTag =>
    let tagStart := ciphertextWithTag.length - TAG_LENGTH
    .ok (ciphertextWithTag.take tagStart, (seqNonce seqnum).drop 4, ciphertextWithTag.drop tagStart)

def decrypt (ciphertext nonce tag : Bytes) (rtpTimestamp ssrc : BitVec 32) :
    Except CryptoError Bytes :=
  match aead.decrypt c.key (buildNonce12 nonce) (buildAad rtpTimestamp ssrc)
      (ciphertext ++ tag) with
  | none => .error (.decryption "Decryption/authentication failed")
  | some audioData => .ok audioData

end AudioCipher

end OpenAirCast.Crypto

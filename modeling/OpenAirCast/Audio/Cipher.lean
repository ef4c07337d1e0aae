/-
Audio.Cipher — the packet cipher of AirPlay 2 and whole RTP
packets, from `airplay-audio/cipher.rs` and `airplay-audio/rtp.rs`.
-/
import OpenAirCast.Audio.Rtp
import OpenAirCast.Crypto.AudioCipher

namespace OpenAirCast.Audio

open Crypto (Aead AudioCipher)

/-! ## The cipher -/

structure ChaChaPacketCipher (aead : Aead) where
  cipher : AudioCipher

/-- The cipher keeps no state. -/
def ChaChaPacketCipher.encryptPayload {aead : Aead} (c : ChaChaPacketCipher aead)
    (payload : Bytes) (timestamp ssrc : BitVec 32) (sequence : BitVec 16) :
    Except AudioError EncryptedPayload :=
  match c.cipher.encryptWithSeq aead payload timestamp ssrc sequence with
  | .error _ => .error .crypto
  | .ok (ciphertext, nonce, tag) => .ok { data := ciphertext, tag := some tag, nonce := some nonce }

instance (aead : Aead) : PacketCipher (ChaChaPacketCipher aead) where
  encryptPayload c payload timestamp ssrc sequence :=
    (c, c.encryptPayload payload timestamp ssrc sequence)

/-! ## Packets -/

structure RtpPacket where
  header : RtpHeader
  payload : Bytes
  /-- Of an encrypted packet, 8 bytes. -/
  nonce : Option Bytes := none
  /-- Of an encrypted packet, 16 bytes. -/
  tag : Option Bytes := none

namespace RtpPacket

def new (header : RtpHeader) (payload : Bytes) : RtpPacket := { header, payload }

variable (packet : RtpPacket)

def encrypt (aead : Aead) (cipher : AudioCipher) :
    Except AudioError RtpPacket :=
  match cipher.encryptWithSeq aead packet.payload packet.header.timestamp packet.header.ssrc
      packet.header.sequence with
  | .error _ => .error .crypto
  | .ok (ciphertext, nonce, tag) =>
    .ok { packet with payload := ciphertext, nonce := some nonce, tag := some tag }

/-- Header, payload, tag, nonce. -/
def serialize : Bytes :=
  packet.header.serialize ++ packet.payload ++ packet.tag.getD [] ++ packet.nonce.getD []

def parse (data : Bytes) : Option RtpPacket :=
  (RtpHeader.parse data).map (fun header => { header, payload := data.drop 12 })

/-- The last 24 bytes are tag and nonce. -/
def parseEncrypted (data : Bytes) : Option RtpPacket :=
  if data.length < 36 then none
  else
    let trailerStart := data.length - 24
    (RtpHeader.parse data).map (fun header =>
      { header
        payload := (data.take trailerStart).drop 12
        tag := some ((data.drop trailerStart).take 16)
        nonce := some (data.drop (trailerStart + 16)) })

end RtpPacket

end OpenAirCast.Audio

/-
Pairing.Channel — the encrypted channel that a verified pairing
leaves, from `airplay-pairing/src/channel.rs`.

A channel is two ciphers with one key each, and of each cipher only one
counter is used: the write cipher's for sealing, the read cipher's for
opening. `parse_frame_length` stands with the framing, in `Crypto.Chacha`.
-/
import OpenAirCast.Pairing.Controller

namespace OpenAirCast.Pairing

open Crypto

structure EncryptedChannel where
  writeCipher : ControlCipher
  readCipher : ControlCipher

namespace EncryptedChannel

def withKeys (writeKey readKey : Bytes) : EncryptedChannel :=
  { writeCipher := .newUnidirectional writeKey
    readCipher := .newUnidirectional readKey }

def new (keys : SessionKeys) : EncryptedChannel := withKeys keys.writeKey keys.readKey

variable (aead : Aead) (channel : EncryptedChannel)

def encrypt (plaintext : Bytes) : EncryptedChannel × Except Error Bytes :=
  let result := channel.writeCipher.encrypt aead plaintext
  ({ channel with writeCipher := result.1 }, result.2.mapError .crypto)

def decrypt (framed : Bytes) : EncryptedChannel × Except Error Bytes :=
  let result := channel.readCipher.decrypt aead framed
  ({ channel with readCipher := result.1 }, result.2.mapError .crypto)

def readNonce : UInt64 := channel.readCipher.decryptCounter

end EncryptedChannel

end OpenAirCast.Pairing

/-
Crypto.Keys — the keys of the pairing protocols, from `keys.rs`,
`hkdf.rs`, `ed25519.rs`, `curve25519.rs` and the free functions of
`chacha.rs` in `airplay-crypto`.

Translation notes.

* The third-party primitives are parameters, put together in `Primitives`.
  A call that can be refused gives `none`.
* Random bytes are an argument of the function that draws them.
* An array `[u8; n]` is a byte string; its length shows where the code
  checks it.
-/
import OpenAirCast.Crypto.Chacha

namespace OpenAirCast.Crypto

/-- The third-party primitives. -/
structure Primitives where
  sha512 : Bytes → Vector UInt8 64
  /-- HKDF-SHA512 of key material, salt, info and output length. -/
  hkdf : (ikm salt info : Bytes) → Nat → Option Bytes
  aead : Aead
  /-- The public key of an X25519 secret, and the exchange with a peer's. -/
  x25519PublicKey : (secret : Bytes) → Bytes
  x25519 : (secret peerPublic : Bytes) → Bytes
  /-- The public key of an Ed25519 seed. -/
  ed25519PublicKey : (seed : Bytes) → Bytes
  ed25519Sign : (seed message : Bytes) → Bytes
  ed25519Verify : (publicKey message signature : Bytes) → Bool

variable (prims : Primitives)

/-- The bytes of a text of the source. -/
def ascii (text : String) : Bytes := text.toList.map (fun c => UInt8.ofNat c.toNat)

/-! ## Key derivation -/

def deriveKey (ikm salt info : Bytes) (length : Nat) : Except CryptoError Bytes :=
  match prims.hkdf ikm salt info length with
  | some okm => .ok okm
  | none => .error (.keyDerivation "HKDF expand failed")

variable (sharedSecret : Bytes)

def derivePairSetupKey : Except CryptoError Bytes :=
  deriveKey prims sharedSecret (ascii "Pair-Setup-Encrypt-Salt")
    (ascii "Pair-Setup-Encrypt-Info") 32

def derivePairVerifyKey : Except CryptoError Bytes :=
  deriveKey prims sharedSecret (ascii "Pair-Verify-Encrypt-Salt")
    (ascii "Pair-Verify-Encrypt-Info") 32

def deriveControlWriteKey : Except CryptoError Bytes :=
  deriveKey prims sharedSecret (ascii "Control-Salt") (ascii "Control-Write-Encryption-Key") 32

def deriveControlReadKey : Except CryptoError Bytes :=
  deriveKey prims sharedSecret (ascii "Control-Salt") (ascii "Control-Read-Encryption-Key") 32

/-- The keys of one session's control channel. -/
structure SessionKeys where
  writeKey : Bytes
  readKey : Bytes
  deriving DecidableEq

def SessionKeys.deriveControlKeys : Except CryptoError SessionKeys :=
  match deriveControlWriteKey prims sharedSecret with
  | .error error => .error error
  | .ok writeKey =>
    match deriveControlReadKey prims sharedSecret with
    | .error error => .error error
    | .ok readKey => .ok ⟨writeKey, readKey⟩

/-! ## Sealing one message -/

/-- At most 12 bytes, with zeros before them. -/
def nonceFromString (s : Bytes) : Bytes :=
  List.replicate (12 - min s.length 12) 0 ++ s.take 12

def encryptWithNonce (key nonce plaintext : Bytes) : Except CryptoError Bytes :=
  match prims.aead.encrypt key nonce [] plaintext with
  | some ciphertext => .ok ciphertext
  | none => .error (.encryption "Encryption failed: aead::Error")

def decryptWithNonce (key nonce ciphertext : Bytes) : Except CryptoError Bytes :=
  if ciphertext.length < TAG_LENGTH then
    .error (.decryption "Ciphertext too short (missing tag)")
  else
    match prims.aead.decrypt key nonce [] ciphertext with
    | some plaintext => .ok plaintext
    | none => .error (.decryption "Decryption/authentication failed")

/-! ## Key pairs -/

/-- A long-term signing key, by its seed. -/
structure IdentityKeyPair where
  secret : Bytes

variable (identity : IdentityKeyPair)

def IdentityKeyPair.publicKey : Bytes :=
  prims.ed25519PublicKey identity.secret

def IdentityKeyPair.sign (message : Bytes) : Bytes :=
  prims.ed25519Sign identity.secret message

/-- An ephemeral key for one exchange, by its secret. -/
structure EcdhKeyPair where
  secret : Bytes

variable (pair : EcdhKeyPair)

def EcdhKeyPair.publicKey : Bytes := prims.x25519PublicKey pair.secret

def EcdhKeyPair.diffieHellman (peerPublic : Bytes) :
    Except CryptoError Bytes :=
  if peerPublic.all (· == 0) then
    .error (.encryption "Invalid peer public key: all zeros")
  else if (prims.x25519 pair.secret peerPublic).all (· == 0) then
    .error (.encryption "Weak ECDH: shared secret is all zeros (low-order point)")
  else .ok (prims.x25519 pair.secret peerPublic)

end OpenAirCast.Crypto

/-
Crypto.Srp — the client of the password exchange SRP-6a, from
`airplay-crypto/src/srp.rs`, and the receiver its tests check it against.

Translation notes.

* A `BigUint` is a natural number; `to_bytes_be` has no leading zeros and
  writes zero as one zero byte.
* `SrpClient::new` draws its private key; here it is an argument.
* The receiver is `MockSrpServer` of the tests, with the two proofs a
  receiver computes from the same key.
-/
import OpenAirCast.Crypto.Keys
import OpenAirCast.Lib.ModPow
import Mathlib.Data.Nat.Log

namespace OpenAirCast.Crypto

/-- Length of the modulus in bytes. -/
def N_BYTES : Nat := 384

/-- The number whose hexadecimal digits the source has in rows of 56, the last of 40. -/
def RFC5054_N_3072 : Nat :=
  let rows :=
    [0xFFFFFFFFFFFFFFFFC90FDAA22168C234C4C6628B80DC1CD129024E08,
     0x8A67CC74020BBEA63B139B22514A08798E3404DDEF9519B3CD3A431B,
     0x302B0A6DF25F14374FE1356D6D51C245E485B576625E7EC6F44C42E9,
     0xA637ED6B0BFF5CB6F406B7EDEE386BFB5A899FA5AE9F24117C4B1FE6,
     0x49286651ECE45B3DC2007CB8A163BF0598DA48361C55D39A69163FA8,
     0xFD24CF5F83655D23DCA3AD961C62F356208552BB9ED529077096966D,
     0x670C354E4ABC9804F1746C08CA18217C32905E462E36CE3BE39E772C,
     0x180E86039B2783A2EC07A28FB5C55DF06F4C52C9DE2BCBF695581718,
     0x3995497CEA956AE515D2261898FA051015728E5A8AAAC42DAD33170D,
     0x04507A33A85521ABDF1CBA64ECFB850458DBEF0A8AEA71575D060C7D,
     0xB3970F85A6E1E4C7ABF5AE8CDB0933D71E8C94E04A25619DCEE3D226,
     0x1AD2EE6BF12FFA06D98A0864D87602733EC86A64521F2B18177B200C,
     0xBBE117577A615D6C770988C0BAD946E208E24FA074E5AB3143DB5BFC]
  rows.foldl (fun n row => n <<< 224 + row) 0 <<< 160 + 0xE0FD108E4B82D120A93AD2CAFFFFFFFFFFFFFFFF

structure SrpParams where
  n : Nat
  g : Nat

/-- `SrpParams::default`. -/
def SrpParams.default : SrpParams := ⟨RFC5054_N_3072, 5⟩

/-- `BigUint::to_bytes_be`. -/
def bytesBe (n : Nat) : Bytes := toBeBytes (Nat.log 256 n + 1) n

/-- The last `N_BYTES` bytes, with zeros before them if there are fewer. -/
def padToN (value : Nat) : Bytes :=
  let bytes := bytesBe value
  if N_BYTES ≤ bytes.length then bytes.drop (bytes.length - N_BYTES)
  else List.replicate (N_BYTES - bytes.length) 0 ++ bytes

section Hashes

variable (prims : Primitives)

def hash (message : Bytes) : Bytes := (prims.sha512 message).toList

variable (params : SrpParams)

def computeK : Nat :=
  fromBeBytes (hash prims (padToN params.n ++ padToN params.g))

def computeU (a b : Nat) : Nat := fromBeBytes (hash prims (padToN a ++ padToN b))

def computeX (salt identity password : Bytes) : Nat :=
  fromBeBytes (hash prims (salt ++ hash prims (identity ++ ascii ":" ++ password)))

/-- The client's proof. The generator is hashed without padding. -/
def computeM1 (identity salt : Bytes) (a b : Nat) (k : Bytes) : Bytes :=
  let xorResult := List.zipWith (· ^^^ ·) (hash prims (padToN params.n))
    (hash prims (bytesBe params.g))
  hash prims (xorResult ++ hash prims identity ++ salt ++ padToN a ++ padToN b ++ k)

/-- The receiver's proof. -/
def computeM2 (a : Nat) (clientProof sharedSecret : Bytes) : Bytes :=
  hash prims (padToN a ++ clientProof ++ sharedSecret)

end Hashes

/-! ## The client -/

structure SrpChallenge where
  salt : Bytes
  serverPublicKey : Bytes

structure SrpProof where
  clientProof : Bytes
  sharedSecret : Bytes
  expectedServerProof : Bytes

structure SrpClient where
  params : SrpParams
  identity : Bytes
  password : Bytes
  privateKey : Bytes
  publicKey : Nat

namespace SrpClient

/-- A client with the given group and private key. -/
def withParams (params : SrpParams) (identity password : Bytes) (a : Nat) : SrpClient where
  params := params
  identity := identity
  password := password
  privateKey := bytesBe a
  publicKey := modpow params.g a params.n

def new (identity password : Bytes) (a : Nat) : SrpClient :=
  withParams .default identity password a

/-- The public key as it goes over the wire. -/
def publicKeyBytes (client : SrpClient) : Bytes := padToN client.publicKey

def processChallenge (prims : Primitives) (client : SrpClient) (challenge : SrpChallenge) :
    Except CryptoError SrpProof :=
  let n := client.params.n
  let b := fromBeBytes challenge.serverPublicKey
  if b % n = 0 then .error (.encryption "Invalid server public key: B mod N = 0")
  else
    let a := fromBeBytes client.privateKey
    let u := computeU prims client.publicKey b
    if u = 0 then .error (.encryption "Invalid u value: u = 0")
    else
      let x := computeX prims challenge.salt client.identity client.password
      let k := computeK prims client.params
      let gx := modpow client.params.g x n
      let kgx := k * gx % n
      -- without `n` added, the difference could go below zero
      let base := if kgx ≤ b then (b - kgx) % n else (b + n - kgx) % n
      let exponent := (a + u * x) % (n - 1)
      let s := modpow base exponent n
      let sharedSecret := hash prims (padToN s)
      let clientProof := computeM1 prims client.params client.identity challenge.salt
        client.publicKey b sharedSecret
      .ok ⟨clientProof, sharedSecret, computeM2 prims client.publicKey clientProof sharedSecret⟩

def verifyServerProof (proof expected : Bytes) : Bool := proof == expected

end SrpClient

/-! ## The receiver -/

structure MockSrpServer where
  params : SrpParams
  identity : Bytes
  salt : Bytes
  verifier : Nat
  privateKey : Nat
  publicKey : Nat

namespace MockSrpServer

variable (prims : Primitives)

/-- A receiver that knows the password by its verifier only. -/
def withParams (params : SrpParams) (identity password salt : Bytes) (b : Nat) : MockSrpServer :=
  let x := computeX prims salt identity password
  let verifier := modpow params.g x params.n
  let k := computeK prims params
  let gb := modpow params.g b params.n
  let kv := k * verifier % params.n
  ⟨params, identity, salt, verifier, b, (kv + gb) % params.n⟩

variable (server : MockSrpServer)

def challenge : SrpChallenge :=
  ⟨server.salt, padToN server.publicKey⟩

variable (clientPublic : Bytes)

/-- The number whose hash is the session key. -/
def premasterSecret : Nat :=
  let a := fromBeBytes clientPublic
  let u := computeU prims a server.publicKey
  let vu := modpow server.verifier u server.params.n
  modpow (a * vu % server.params.n) server.privateKey server.params.n

def computeSessionKey : Bytes :=
  hash prims (padToN (server.premasterSecret prims clientPublic))

/-- The proof the receiver asks of the client. -/
def clientProof : Bytes :=
  computeM1 prims server.params server.identity server.salt (fromBeBytes clientPublic)
    server.publicKey (server.computeSessionKey prims clientPublic)

/-- The proof the receiver answers with. -/
def serverProof : Bytes :=
  computeM2 prims (fromBeBytes clientPublic) (server.clientProof prims clientPublic)
    (server.computeSessionKey prims clientPublic)

end MockSrpServer

end OpenAirCast.Crypto

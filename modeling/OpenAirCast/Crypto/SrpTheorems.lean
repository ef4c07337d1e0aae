/-
Crypto.SrpTheorems — the client of the password exchange and
the receiver agree.

`processChallenge_agrees`: over a prime modulus that fits the wire format,
whatever the hash is, the client's answer to the receiver's challenge is
the key and the two proofs the receiver computes. The exponent may be
reduced because the receiver's public key less the client's share of it is
a power of the generator, which is not zero (`base_eq`).

Nothing is needed about the hash, and of the modulus nothing but that it is
prime, does not divide the generator and fits into `N_BYTES` bytes.
-/
import OpenAirCast.Crypto.Srp

namespace OpenAirCast.Crypto

open Nat

/-! ## Padding -/

theorem length_bytesBe (n : Nat) : (bytesBe n).length = log 256 n + 1 := length_toBeBytes _ _

theorem lt_pow_length (n : Nat) : n < 256 ^ (log 256 n + 1) := lt_pow_succ_log_self (by decide) n

theorem fromBeBytes_bytesBe (n : Nat) : fromBeBytes (bytesBe n) = n := by
  rw [bytesBe, fromBeBytes_toBeBytes, mod_eq_of_lt (lt_pow_length n)]

theorem toBeBytes_zero (width : Nat) : toBeBytes width 0 = List.replicate width 0 := by
  have hle : toLeBytes width 0 = List.replicate width 0 := by
    induction width with
    | zero => rfl
    | succ _ ih =>
      rw [toLeBytes, Nat.zero_div, ih]
      rfl
  rw [toBeBytes, hle, List.reverse_replicate]

theorem drop_toBeBytes (high low n : Nat) :
    (toBeBytes (high + low) n).drop high = toBeBytes low n := by
  have hl : toLeBytes low n = (toLeBytes (low + high) n).take low := by
    rw [toLeBytes_add, List.take_left' (length_toLeBytes low n)]
  rw [toBeBytes, toBeBytes, hl, add_comm high low, List.drop_reverse, length_toLeBytes,
    Nat.add_sub_cancel]

/-- Padding writes the lowest `N_BYTES` bytes. -/
theorem padToN_eq (val : Nat) : padToN val = toBeBytes N_BYTES val := by
  simp only [padToN, length_bytesBe]
  split
  · rename_i hl
    have hd := drop_toBeBytes (log 256 val + 1 - N_BYTES) N_BYTES val
    rwa [Nat.sub_add_cancel hl] at hd
  · rename_i hs
    have ha := toBeBytes_append (N_BYTES - (log 256 val + 1))
      (log 256 val + 1) 0 val (lt_pow_length val)
    rw [Nat.sub_add_cancel (by omega), Nat.zero_mul, Nat.zero_add, toBeBytes_zero] at ha
    exact ha.symm

@[simp] theorem length_padToN (val : Nat) : (padToN val).length = N_BYTES := by
  rw [padToN_eq, length_toBeBytes]

theorem fromBeBytes_padToN {val : Nat} (h : val < 256 ^ N_BYTES) :
    fromBeBytes (padToN val) = val := by
  rw [padToN_eq, fromBeBytes_toBeBytes, mod_eq_of_lt h]

/-! ## The group -/

/-- What the exchange needs of its group. -/
structure SrpParams.Sound (params : SrpParams) : Prop where
  prime : params.n.Prime
  generates : ¬ params.n ∣ params.g
  fits : params.n < 256 ^ N_BYTES

theorem default_bounds :
    SrpParams.default.g < SrpParams.default.n ∧ SrpParams.default.n < 256 ^ N_BYTES := by
  decide +kernel

/-- The constant of the source is a group if its modulus is prime. -/
theorem default_sound (hp : SrpParams.default.n.Prime) : SrpParams.default.Sound where
  prime := hp
  generates := not_dvd_of_pos_of_lt (succ_pos 4) default_bounds.1
  fits := default_bounds.2

section Agreement

variable {prims : Primitives} {params : SrpParams}

/-- The receiver's public key less the client's share of it is a power of
the generator. -/
theorem base_eq {n k v gb : Nat} [NeZero n] :
    ((((k * v % n + gb) % n : Nat) : ZMod n) - ((k * v % n : Nat) : ZMod n)) = (gb : ZMod n) := by
  rw [ZMod.natCast_mod, cast_add, add_sub_cancel_left]

/-- Both sides raise to the same power. -/
theorem secret_eq {p : Nat} [Fact p.Prime] {g : ZMod p} (hg : g ≠ 0) (a b u x : Nat) :
    (g ^ b) ^ ((a + u * x) % (p - 1)) = (g ^ a * (g ^ x) ^ u) ^ b := by
  rw [pow_mod_pred (pow_ne_zero b hg), ← pow_mul, ← pow_mul, ← pow_add, ← pow_mul, mul_comm b,
    mul_comm u]

variable (hparams : params.Sound)
include hparams

theorem SrpParams.Sound.pos : 0 < params.n := hparams.prime.pos

theorem SrpParams.Sound.generator_ne_zero : (params.g : ZMod params.n) ≠ 0 := by
  rw [Ne, ZMod.natCast_eq_zero_iff]
  exact hparams.generates

/-- What goes over the wire as a public key is read back as that number. -/
theorem SrpParams.Sound.read_back {val : Nat} (h : val < params.n) :
    fromBeBytes (padToN val) = val :=
  fromBeBytes_padToN (h.trans hparams.fits)

omit hparams in
/-- The receiver's number, with one reduction at the end. -/
theorem premasterSecret_eq (server : MockSrpServer) (clientPub : Bytes) :
    server.premasterSecret prims clientPub = (fromBeBytes clientPub * server.verifier ^
        computeU prims (fromBeBytes clientPub) server.publicKey) ^ server.privateKey %
          server.params.n := by
  show modpow (_ * modpow _ _ _ % _) _ _ = _
  rw [modpow_eq, modpow_eq, ← pow_mod, pow_mod, mul_mod_mod, ← pow_mod]

/-- The client's number is the receiver's. -/
theorem premaster_agrees (k a b u x : Nat) : modpow (if k * modpow params.g x params.n % params.n ≤
            (k * modpow params.g x params.n % params.n + modpow params.g b params.n) % params.n then
          ((k * modpow params.g x params.n % params.n + modpow params.g b params.n) % params.n -
            k * modpow params.g x params.n % params.n) % params.n
        else
          ((k * modpow params.g x params.n % params.n + modpow params.g b params.n) % params.n +
            params.n - k * modpow params.g x params.n % params.n) % params.n)
        ((a + u * x) % (params.n - 1)) params.n =
      modpow (modpow params.g a params.n * modpow (modpow params.g x params.n) u params.n %
        params.n) b params.n := by
  have : Fact params.n.Prime := ⟨hparams.prime⟩
  refine eq_of_cast_eq (modpow_lt hparams.pos _ _) (modpow_lt hparams.pos _ _) ?_
  rw [cast_modpow, cast_sub_mod (mod_lt _ hparams.pos), base_eq, cast_modpow,
    secret_eq hparams.generator_ne_zero, cast_modpow, ZMod.natCast_mod, cast_mul,
    cast_modpow, cast_modpow, cast_modpow]

/-- **The client and the receiver agree.** -/
theorem processChallenge_agrees (ident password salt : Bytes) (a b : Nat)
    {cli : SrpClient} (hc : cli = .withParams params ident password a)
    {server : MockSrpServer}
    (hs : server = .withParams prims params ident password salt b)
    (hk : server.publicKey % params.n ≠ 0)
    (hu : computeU prims cli.publicKey server.publicKey ≠ 0) :
    cli.processChallenge prims server.challenge = .ok ⟨server.clientProof prims cli.publicKeyBytes,
        server.computeSessionKey prims cli.publicKeyBytes,
        server.serverProof prims cli.publicKeyBytes⟩ := by
  have hB : server.publicKey < params.n := by
    rw [hs]
    exact mod_lt _ hparams.pos
  have hA : cli.publicKey < params.n := by
    rw [hc]
    exact modpow_lt hparams.pos _ _
  have hreaB : fromBeBytes server.challenge.serverPublicKey = server.publicKey :=
    hparams.read_back hB
  have hreaA : fromBeBytes cli.publicKeyBytes = cli.publicKey := hparams.read_back hA
  have hr : fromBeBytes cli.privateKey = a := by
    rw [hc]
    exact fromBeBytes_bytesBe a
  have he := premaster_agrees hparams (computeK prims params) a b
    (computeU prims cli.publicKey server.publicKey) (computeX prims salt ident password)
  rw [SrpClient.processChallenge]
  dsimp only
  rw [hreaB, hr, if_neg (by rw [hc]; exact hk), if_neg hu, MockSrpServer.clientProof,
    MockSrpServer.serverProof, MockSrpServer.clientProof, MockSrpServer.computeSessionKey,
    MockSrpServer.premasterSecret, hreaA]
  subst hc hs
  exact congrArg (fun secret => Except.ok (SrpProof.mk
    (computeM1 prims params ident salt _ _ (hash prims (padToN secret)))
    (hash prims (padToN secret))
    (computeM2 prims _ (computeM1 prims params ident salt _ _ (hash prims (padToN secret)))
      (hash prims (padToN secret))))) he

end Agreement

end OpenAirCast.Crypto

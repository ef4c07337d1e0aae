/-
Pairing.PairSetupTheorems — what a pair-setup has to go through
before it hands out its secret.

`Chain` derives the successful calls of a run together with the fields they
leave: one constructor for each call, with what that call accepted. Every
run follows it (`run_chain`), so a released secret has the whole list of
calls before it. `client_and_receiver_agree` carries the agreement of
`Crypto.SrpTheorems` to the M2 of the wire.
-/
import OpenAirCast.Crypto.SrpTheorems
import OpenAirCast.Crypto.TlvTheorems
import OpenAirCast.Lib.Mealy
import OpenAirCast.Pairing.PairSetup
import Mathlib.Tactic.NormNum.Prime

namespace OpenAirCast.Pairing.PairSetup

open Crypto List Mealy

variable {prims : Primitives}

/-! ## What a call accepts -/

/-- The client of the exchange is made from the PIN. -/
def OpensWith (pin : String) (call : Call) (client : SrpClient) : Prop :=
  ∃ a, (call = .generateM1 a ∨ call = .generateM1WithFlags a) ∧
    client = .new (ascii "Pair-Setup") (textBytes pin) a

/-- M2 is well formed, and its challenge leads to the proof. -/
def AcceptsM2 (prims : Primitives) (client : SrpClient) (response : Bytes) (proof : SrpProof) :
    Prop :=
  ∃ tlv salt raw, Tlv8.parse response = .ok tlv ∧ tlv.error = none ∧ tlv.state = some 0x02 ∧
    tlv.get .salt = some salt ∧ salt.length = 16 ∧ tlv.get .publicKey = some raw ∧
    raw.length ≤ 384 ∧ client.processChallenge prims ⟨salt, padKey raw⟩ = .ok proof

/-- M4 carries the proof the client expects. -/
def AcceptsM4 (response : Bytes) (proof : SrpProof) : Prop :=
  ∃ tlv, Tlv8.parse response = .ok tlv ∧ tlv.error = none ∧ tlv.state = some 0x04 ∧
    tlv.get .proof = some proof.expectedServerProof

/-- What M6 carries opens under the session key, and its signature is one
of the key it brings. -/
def AcceptsM6 (prims : Primitives) (response : Bytes) (proof : SrpProof) (sessionKey : Bytes) :
    Prop :=
  ∃ tlv encrypted decrypted inner identifier key signature accessoryX,
    Tlv8.parse response = .ok tlv ∧ tlv.error = none ∧ tlv.state = some 0x06 ∧
    tlv.get .encryptedData = some encrypted ∧
    decryptWithNonce prims sessionKey (nonceFromString (ascii "PS-Msg06")) encrypted =
      .ok decrypted ∧
    Tlv8.parse decrypted = .ok inner ∧ inner.get .identifier = some identifier ∧
    inner.get .publicKey = some key ∧ inner.get .signature = some signature ∧
    key.length = 32 ∧ signature.length = 64 ∧
    deriveKey prims proof.sharedSecret (ascii "Pair-Setup-Accessory-Sign-Salt")
      (ascii "Pair-Setup-Accessory-Sign-Info") 32 = .ok accessoryX ∧
    prims.ed25519Verify key (accessoryX ++ identifier ++ key) signature = true

/-! ## One call -/

variable {secret resp : Bytes}

section

variable {p : PairSetup}

theorem generateM1Internal_of_ok {a : Nat} {withFlags : Bool} {m1 : Bytes}
    (h : (p.generateM1Internal a withFlags).2 = .ok m1) :
    p.state = .initial ∧ (p.generateM1Internal a withFlags).1 = { p with
        srpClient := some (.new (ascii "Pair-Setup") (textBytes p.pin) a)
        state := .m1Sent } := by
  obtain ⟨hs, hg, -⟩ := refuseIf_of_ok h
  refine ⟨not_not.mp hs, ?_⟩
  rw [generateM1Internal, hg]

theorem processM2_of_ok {u : Unit} (h : (p.processM2 prims resp).2 = .ok u) :
    p.state = .m1Sent ∧ ∃ client proof, p.srpClient = some client ∧
      AcceptsM2 prims client resp proof ∧
      (p.processM2 prims resp).1 = { p with srpProof := some proof, state := .m2Received } := by
  unfold processM2 at h ⊢
  obtain ⟨hs, hg, h⟩ := refuseIf_of_ok h
  rw [hg]
  obtain ⟨tlv, hp, hg, h⟩ := attempt_of_ok h
  rw [hg]
  obtain ⟨he, hg, h⟩ := refuseIf_of_ok h
  rw [hg]
  obtain ⟨hc, hg, h⟩ := refuseIf_of_ok h
  rw [hg]
  obtain ⟨salt, hl, hg, h⟩ := required_of_ok h
  rw [hg]
  obtain ⟨hlen, hg, h⟩ := refuseIf_of_ok h
  rw [hg]
  obtain ⟨raw, hr, hg, h⟩ := required_of_ok h
  rw [hg]
  obtain ⟨hh, hg, h⟩ := refuseIf_of_ok h
  rw [hg]
  obtain ⟨client, hi, hg, h⟩ := required_of_ok h
  rw [hg]
  obtain ⟨proof, ho, hg, -⟩ := attempt_of_ok h
  rw [hg]
  exact ⟨not_not.mp hs, client, proof, hi, ⟨tlv, salt, raw, hp, not_not.mp he,
    not_not.mp hc, hl, not_not.mp hlen, hr, Nat.le_of_not_lt hh, ho⟩, rfl⟩

theorem generateM3_of_ok {m3 : Bytes} (h : p.generateM3.2 = .ok m3) :
    p.state = .m2Received ∧ p.generateM3.1 = { p with state := .m3Sent } := by
  unfold generateM3 at h ⊢
  obtain ⟨hs, hg, h⟩ := refuseIf_of_ok h
  rw [hg]
  obtain ⟨_, -, hg, h⟩ := required_of_ok h
  rw [hg]
  obtain ⟨_, -, hg, -⟩ := required_of_ok h
  rw [hg]
  exact ⟨not_not.mp hs, rfl⟩

theorem processM4_of_ok {u : Unit} (h : (p.processM4 prims resp).2 = .ok u) :
    p.state = .m3Sent ∧ ∃ proof sessionKey, p.srpProof = some proof ∧
      AcceptsM4 resp proof ∧ derivePairSetupKey prims proof.sharedSecret = .ok sessionKey ∧
      (p.processM4 prims resp).1 =
        { p with sessionKey := some sessionKey, state := .m4Received } := by
  unfold processM4 at h ⊢
  obtain ⟨hs, hg, h⟩ := refuseIf_of_ok h
  rw [hg]
  obtain ⟨tlv, hp, hg, h⟩ := attempt_of_ok h
  rw [hg]
  obtain ⟨he, hg, h⟩ := refuseIf_of_ok h
  rw [hg]
  obtain ⟨hf, hg, h⟩ := refuseIf_of_ok h
  rw [hg]
  obtain ⟨serverProof, hserPro, hg, h⟩ := required_of_ok h
  rw [hg]
  obtain ⟨_, -, hg, h⟩ := required_of_ok h
  rw [hg]
  obtain ⟨proof, hr, hg, h⟩ := required_of_ok h
  rw [hg]
  obtain ⟨hv, hg, h⟩ := refuseIf_of_ok h
  rw [hg]
  obtain ⟨sessionKey, hk, hg, -⟩ := attempt_of_ok h
  rw [hg]
  have hm : serverProof = proof.expectedServerProof := by
    simpa [SrpClient.verifyServerProof] using hv
  exact ⟨not_not.mp hs, proof, sessionKey, hr,
    ⟨tlv, hp, not_not.mp he, not_not.mp hf, hm ▸ hserPro⟩, hk, rfl⟩

theorem completeTransient_of_ok (h : p.completeTransient.2 = .ok secret) :
    p.state = .m4Received ∧ p.transientMode = true ∧
      (∃ proof, p.srpProof = some proof ∧ secret = proof.sharedSecret) ∧
      p.completeTransient.1 = { p with state := .complete } := by
  unfold completeTransient at h ⊢
  obtain ⟨hs, hg, h⟩ := refuseIf_of_ok h
  rw [hg]
  obtain ⟨hm, hg, h⟩ := refuseIf_of_ok h
  rw [hg]
  obtain ⟨proof, hp, hg, h⟩ := required_of_ok h
  rw [hg]
  exact ⟨not_not.mp hs, by simpa using hm, ⟨proof, hp, (Except.ok.inj h).symm⟩, rfl⟩

theorem generateM5Internal_of_ok {pairingId : Bytes} {ident : IdentityKeyPair}
    {m5 : Bytes} (h : (p.generateM5Internal prims pairingId ident).2 = .ok m5) :
    p.state = .m4Received ∧
      (p.generateM5Internal prims pairingId ident).1 = { p with state := .m5Sent } := by
  unfold generateM5Internal at h ⊢
  obtain ⟨hs, hg, h⟩ := refuseIf_of_ok h
  rw [hg]
  obtain ⟨_, -, hg, h⟩ := required_of_ok h
  rw [hg]
  obtain ⟨_, -, hg, h⟩ := required_of_ok h
  rw [hg]
  obtain ⟨_, -, hg, h⟩ := attempt_of_ok h
  rw [hg]
  obtain ⟨_, -, hg, -⟩ := attempt_of_ok h
  rw [hg]
  exact ⟨not_not.mp hs, rfl⟩

theorem processM6_of_ok (h : (p.processM6 prims resp).2 = .ok secret) :
    p.state = .m5Sent ∧ ∃ proof skey, p.srpProof = some proof ∧
      p.sessionKey = some skey ∧ AcceptsM6 prims resp proof skey ∧
      secret = proof.sharedSecret ∧ (p.processM6 prims resp).1.state = .complete ∧
      (p.processM6 prims resp).1.srpClient = p.srpClient ∧
      (p.processM6 prims resp).1.srpProof = p.srpProof ∧
      (p.processM6 prims resp).1.sessionKey = p.sessionKey ∧
      (p.processM6 prims resp).1.pin = p.pin := by
  unfold processM6 at h ⊢
  obtain ⟨ht, hg, h⟩ := refuseIf_of_ok h
  rw [hg]
  obtain ⟨tlv, hp, hg, h⟩ := attempt_of_ok h
  rw [hg]
  obtain ⟨he, hg, h⟩ := refuseIf_of_ok h
  rw [hg]
  obtain ⟨hx, hg, h⟩ := refuseIf_of_ok h
  rw [hg]
  obtain ⟨skey, hk, hg, h⟩ := required_of_ok h
  rw [hg]
  obtain ⟨proof, hr, hg, h⟩ := required_of_ok h
  rw [hg]
  obtain ⟨encrypted, hn, hg, h⟩ := required_of_ok h
  rw [hg]
  obtain ⟨decr, hd, hg, h⟩ := attempt_of_ok h
  rw [hg]
  obtain ⟨inner, hi, hg, h⟩ := attempt_of_ok h
  rw [hg]
  obtain ⟨ident, hidentifier, hg, h⟩ := required_of_ok h
  rw [hg]
  obtain ⟨key, hb, hg, h⟩ := required_of_ok h
  rw [hg]
  obtain ⟨signature, hs, hg, h⟩ := required_of_ok h
  rw [hg]
  obtain ⟨accessoryX, hc, hg, h⟩ := attempt_of_ok h
  rw [hg]
  obtain ⟨hlen, hg, h⟩ := refuseIf_of_ok h
  rw [hg]
  obtain ⟨hsigLen, hg, h⟩ := refuseIf_of_ok h
  rw [hg]
  obtain ⟨hv, hg, h⟩ := refuseIf_of_ok h
  rw [hg]
  have ha : AcceptsM6 prims resp proof skey :=
    ⟨tlv, encrypted, decr, inner, ident, key, signature, accessoryX, hp,
      not_not.mp he, not_not.mp hx, hn, hd, hi, hidentifier, hb,
      hs, not_not.mp hlen, not_not.mp hsigLen, hc, by simpa using hv⟩
  exact ⟨not_not.mp ht, proof, skey, hr, hk, ha, (Except.ok.inj h).symm, rfl, rfl, rfl, rfl, rfl⟩

end

/-! ## The wire keeps the challenge -/

/-- Zeros before the key are put back. -/
theorem padKey_stripped {raw padded : Bytes} {zeros : Nat}
    (h : List.replicate zeros 0 ++ raw = padded) (hlen : padded.length = 384) :
    padKey raw = padded := by
  rw [← h, length_append, length_replicate] at hlen
  rw [padKey, ← h, show 384 - raw.length = zeros by omega]

variable {p : PairSetup}

/-- M2 with a good challenge, its key padded or stripped, is accepted. -/
theorem processM2_accepts {tlv : Tlv8} {client : SrpClient}
    {proof : SrpProof} {salt raw padded : Bytes} {zeros : Nat} (hs : p.state = .m1Sent)
    (hc : p.srpClient = some client) (hr : Tlv8.parse resp = .ok tlv)
    (he : tlv.error = none) (hse : tlv.state = some 0x02)
    (hl : tlv.get .salt = some salt) (hsalLen : salt.length = 16)
    (hw : tlv.get .publicKey = some raw) (ht : List.replicate zeros 0 ++ raw = padded)
    (hlen : padded.length = 384)
    (hp : client.processChallenge prims ⟨salt, padded⟩ = .ok proof) :
    p.processM2 prims resp = ({ p with srpProof := some proof, state := .m2Received }, .ok ()) := by
  have hh : ¬ 384 < raw.length := by
    rw [← ht, length_append, length_replicate] at hlen
    omega
  have hp' : client.processChallenge prims ⟨salt, padKey raw⟩ = .ok proof := by
    rw [padKey_stripped ht hlen]
    exact hp
  rw [processM2, refuseIf_neg (not_not.mpr hs), attempt_ok hr,
    refuseIf_neg (not_not.mpr he), refuseIf_neg (not_not.mpr hse), required_some hl,
    refuseIf_neg (not_not.mpr hsalLen), required_some hw, refuseIf_neg hh,
    required_some hc, attempt_ok hp']

/-- **The client and the receiver agree**, on the key and on both proofs,
and so does a pair-setup that gets the receiver's key without some of its
leading zeros. -/
theorem client_and_receiver_agree {params : SrpParams} (hparams : params.Sound)
    (identity password salt : Bytes) (hsalt : salt.length = 16) (a b : Nat) {client : SrpClient}
    (hclient : client = .withParams params identity password a) {server : MockSrpServer}
    (hserver : server = .withParams prims params identity password salt b)
    (hkey : server.publicKey % params.n ≠ 0)
    (hu : computeU prims client.publicKey server.publicKey ≠ 0) :
    ∃ proof, client.processChallenge prims server.challenge = .ok proof ∧
      proof.sharedSecret = hash prims (padToN ((client.publicKey * server.verifier ^
        computeU prims client.publicKey server.publicKey) ^ b % params.n)) ∧
      proof.sharedSecret = server.computeSessionKey prims client.publicKeyBytes ∧
      proof.clientProof = server.clientProof prims client.publicKeyBytes ∧
      proof.expectedServerProof = server.serverProof prims client.publicKeyBytes ∧
      ∀ (p : PairSetup) response tlv raw zeros, p.state = .m1Sent → p.srpClient = some client →
        Tlv8.parse response = .ok tlv → tlv.error = none → tlv.state = some 0x02 →
        tlv.get .salt = some salt → tlv.get .publicKey = some raw →
        List.replicate zeros 0 ++ raw = padToN server.publicKey →
        p.processM2 prims response =
          ({ p with srpProof := some proof, state := .m2Received }, .ok ()) := by
  have ha := processChallenge_agrees hparams identity password salt a b hclient hserver hkey hu
  have hr : fromBeBytes client.publicKeyBytes = client.publicKey := by
    rw [hclient]
    exact hparams.read_back (modpow_lt hparams.pos _ _)
  have hn : server.params.n = params.n := by rw [hserver]; rfl
  have hb : server.privateKey = b := by rw [hserver]; rfl
  have hc : server.challenge = ⟨salt, padToN server.publicKey⟩ := by rw [hserver]; rfl
  refine ⟨_, ha, ?_, rfl, rfl, rfl, ?_⟩
  · rw [MockSrpServer.computeSessionKey, premasterSecret_eq, hr, hn, hb]
  · intro p response tlv raw zeros hs hm hp he hse htlvSal hw ht
    rw [hc] at ha
    exact processM2_accepts hs hm hp he hse htlvSal hsalt hw ht (length_padToN _) ha

/-- A hash whose every value is one. -/
def oneHash : Primitives where
  sha512 := fun _ => Vector.ofFn fun i => if i = 63 then 1 else 0
  hkdf := fun _ _ _ _ => none
  aead := ⟨fun _ _ _ _ => none, fun _ _ _ _ => none⟩
  x25519PublicKey := fun _ => []
  x25519 := fun _ _ => []
  ed25519PublicKey := fun _ => []
  ed25519Sign := fun _ _ => []
  ed25519Verify := fun _ _ _ => false

/-- An M2 with a key of one byte. -/
def strippedM2 : Bytes := [0x06, 1, 2, 0x02, 16] ++ List.replicate 16 0 ++ [0x03, 1, 2]

theorem parse_strippedM2 : ∃ tlv, Tlv8.parse strippedM2 = .ok tlv ∧ tlv.error = none ∧
    tlv.state = some 0x02 ∧ tlv.get .salt = some (List.replicate 16 0) ∧
    tlv.get .publicKey = some [2] := by
  refine ⟨_, by simp [Tlv8.parse, Tlv8.parseFrom, strippedM2]; rfl, ?_⟩
  decide

/-- Modulo 23 with generator 5, secrets 1 and 5: the receiver's key is 2, which
is less than the client's share of it. -/
theorem client_and_receiver_agree_stripped : (processM2 oneHash
      { pin := "", state := .m1Sent, srpClient := some (.withParams ⟨23, 5⟩ [] [] 1) }
      strippedM2).2 = .ok () := by
  have ho : ∀ msg, fromBeBytes (hash oneHash msg) = 1 := by
    intro msg
    show fromBeBytes (Vector.ofFn fun i : Fin 64 => if i = 63 then (1 : UInt8) else 0).toList = 1
    decide
  have hs : (MockSrpServer.withParams oneHash ⟨23, 5⟩ [] [] (List.replicate 16 0) 5).publicKey
      = 2 := by
    simp [MockSrpServer.withParams, computeX, computeK, ho, modpow_eq]
  obtain ⟨tlv, hp, he, ht, hl, hk⟩ := parse_strippedM2
  obtain ⟨_, -, -, -, -, -, hm2⟩ := @client_and_receiver_agree oneHash ⟨23, 5⟩
    ⟨by norm_num, by norm_num, by decide⟩ [] [] (List.replicate 16 0) rfl 1 5
    _ rfl _ rfl (by rw [hs]; decide) (by rw [computeU, ho]; decide)
  rw [hm2 _ strippedM2 tlv [2] 383 rfl rfl hp he ht hl hk (by rw [hs]; decide +kernel)]

/-! ## Errors -/

theorem abort_failed : p.abort.state = .failed := rfl

variable (p)

theorem processM2_aborts (resp : Bytes) :
    Aborts (fun q : PairSetup => q.state = .failed) (p.processM2 prims resp) := by
  refine aborts_refuseIf abort_failed (aborts_attempt abort_failed fun tlv => ?_)
  refine aborts_refuseIf abort_failed (aborts_refuseIf abort_failed ?_)
  refine aborts_required abort_failed fun salt => aborts_refuseIf abort_failed ?_
  refine aborts_required abort_failed fun raw => aborts_refuseIf abort_failed ?_
  refine aborts_required abort_failed fun client => aborts_attempt abort_failed fun proof => ?_
  exact aborts_ok _ _

theorem processM4_aborts (resp : Bytes) :
    Aborts (fun q : PairSetup => q.state = .failed) (p.processM4 prims resp) := by
  refine aborts_refuseIf abort_failed (aborts_attempt abort_failed fun tlv => ?_)
  refine aborts_refuseIf abort_failed (aborts_refuseIf abort_failed ?_)
  refine aborts_required abort_failed
    fun serverProof => aborts_required abort_failed fun client => ?_
  refine aborts_required abort_failed fun proof => aborts_refuseIf abort_failed ?_
  refine aborts_attempt abort_failed fun skey => ?_
  exact aborts_ok _ _

theorem processM6_aborts (resp : Bytes) :
    Aborts (fun q : PairSetup => q.state = .failed) (p.processM6 prims resp) := by
  refine aborts_refuseIf abort_failed (aborts_attempt abort_failed fun tlv => ?_)
  refine aborts_refuseIf abort_failed (aborts_refuseIf abort_failed ?_)
  refine aborts_required abort_failed fun skey => aborts_required abort_failed fun proof => ?_
  refine aborts_required abort_failed fun encrypted => aborts_attempt abort_failed fun decr => ?_
  refine aborts_attempt abort_failed fun inner => aborts_required abort_failed fun ident => ?_
  refine aborts_required abort_failed fun key => aborts_required abort_failed fun signature => ?_
  refine aborts_attempt abort_failed fun accessoryX => aborts_refuseIf abort_failed ?_
  refine aborts_refuseIf abort_failed (aborts_refuseIf abort_failed ?_)
  exact aborts_ok _ _

theorem generateM5Internal_aborts (pairingId : Bytes) (ident : IdentityKeyPair) :
    Aborts (fun q : PairSetup => q.state = .failed)
      (p.generateM5Internal prims pairingId ident) := by
  refine aborts_refuseIf abort_failed (aborts_required abort_failed fun skey => ?_)
  refine aborts_required abort_failed fun proof => aborts_attempt abort_failed fun iosDeviceX => ?_
  refine aborts_attempt abort_failed fun encrypted => ?_
  exact aborts_ok _ _

theorem generateM3_aborts : Aborts (fun q : PairSetup => q.state = .failed) p.generateM3 := by
  refine aborts_refuseIf abort_failed (aborts_required abort_failed fun client => ?_)
  refine aborts_required abort_failed fun proof => ?_
  exact aborts_ok _ _

theorem generateM1Internal_aborts (a : Nat) (withFlags : Bool) :
    Aborts (fun q : PairSetup => q.state = .failed) (p.generateM1Internal a withFlags) :=
  aborts_refuseIf abort_failed (aborts_ok _ _)

/-- The one exit that leaves the machine as it is. -/
theorem completeTransient_error {p : PairSetup} {err : Error}
    (h : p.completeTransient.2 = .error err) :
    p.completeTransient.1.state = .failed ∨ p.completeTransient.1 = p := by
  unfold completeTransient at h ⊢
  unfold refuseIf at h ⊢
  split
  · exact .inl rfl
  · split
    · exact .inr rfl
    · left
      rename_i hs hm
      rw [if_neg hs, if_neg hm] at h
      have hr : Aborts (fun q : PairSetup => q.state = .failed)
          (required abort p p.srpProof (protocol "SRP proof not computed") fun proof =>
            ({ p with state := .complete }, .ok proof.sharedSecret)) :=
        aborts_required abort_failed fun proof => aborts_ok _ _
      exact hr err h

/-- The machine has ended, well or badly. -/
def Ended : Prop := p.state = .failed ∨ p.state = .complete

variable {err : Error} {α : Type}

variable {p}

theorem refused_of_ended (h : p.Ended) {st : PairSetupState} (hs : st ≠ .failed ∧ st ≠ .complete)
    {next : PairSetup × Except Error α} :
    refuseIf abort p (p.state ≠ st) err next = (p.abort, .error err) := by
  refine if_pos ?_
  rcases h with h | h
  · rw [h]
    exact hs.1.symm
  · rw [h]
    exact hs.2.symm

/-- Nothing succeeds on a machine that has ended. -/
theorem step_ended {p : PairSetup} (h : p.Ended) (call : Call) :
    ∃ err, p.step prims call = (p.abort, .error err) := by
  cases call with
  | generateM1 a | generateM1WithFlags a =>
    simp only [step, generateM1, generateM1WithFlags, generateM1Internal]
    rw [refused_of_ended h (by decide)]
    exact ⟨_, rfl⟩
  | processM2 =>
    simp only [step, processM2]
    rw [refused_of_ended h (by decide)]
    exact ⟨_, rfl⟩
  | generateM3 =>
    simp only [step, generateM3]
    rw [refused_of_ended h (by decide)]
    exact ⟨_, rfl⟩
  | processM4 =>
    simp only [step, processM4]
    rw [refused_of_ended h (by decide)]
    exact ⟨_, rfl⟩
  | completeTransient =>
    simp only [step, completeTransient]
    rw [refused_of_ended h (by decide)]
    exact ⟨_, rfl⟩
  | generateM5 identity | generateM5WithController controller =>
    simp only [step, generateM5, generateM5WithController, generateM5Internal]
    rw [refused_of_ended h (by decide)]
    exact ⟨_, rfl⟩
  | processM6 =>
    simp only [step, processM6]
    rw [refused_of_ended h (by decide)]
    exact ⟨_, rfl⟩

/-- Nor in a run that goes on from there. -/
theorem trace_ended (h : p.Ended) (calls : List Call) :
    ∀ t ∈ trace (step prims) p calls, ∃ err, t.output = .error err := by
  induction calls generalizing p with
  | nil => simp [trace]
  | cons call _ ih =>
    obtain ⟨err, hs⟩ := @step_ended prims p h call
    simp only [trace, forall_mem_cons]
    refine ⟨⟨err, by simp [turn, hs]⟩, ?_⟩
    rw [hs]
    exact ih (.inl rfl)

/-! ## Successful calls -/

/-- The successful calls of a run, with the state and the fields they leave. -/
inductive Chain (prims : Primitives) (pin : String) :
    PairSetupState → Option SrpClient → Option SrpProof → Option Bytes → List Call → Prop
  | initial : Chain prims pin .initial none none none []
  | m1 {call client} (h : OpensWith pin call client) :
      Chain prims pin .m1Sent (some client) none none [call]
  | m2 {client calls response proof}
      (before : Chain prims pin .m1Sent (some client) none none calls)
      (h : AcceptsM2 prims client response proof) :
      Chain prims pin .m2Received (some client) (some proof) none (calls ++ [.processM2 response])
  | m3 {client proof calls}
      (before : Chain prims pin .m2Received (some client) (some proof) none calls) :
      Chain prims pin .m3Sent (some client) (some proof) none (calls ++ [.generateM3])
  | m4 {client proof calls response sessionKey}
      (before : Chain prims pin .m3Sent (some client) (some proof) none calls)
      (h : AcceptsM4 response proof)
      (hk : derivePairSetupKey prims proof.sharedSecret = .ok sessionKey) :
      Chain prims pin .m4Received (some client) (some proof) (some sessionKey)
        (calls ++ [.processM4 response])
  | transient {client proof sessionKey calls}
      (before : Chain prims pin .m4Received client proof sessionKey calls) :
      Chain prims pin .complete client proof sessionKey (calls ++ [.completeTransient])
  | m5 {client proof sessionKey calls call}
      (before : Chain prims pin .m4Received client proof sessionKey calls)
      (h : (∃ identity, call = .generateM5 identity) ∨
        ∃ controller, call = .generateM5WithController controller) :
      Chain prims pin .m5Sent client proof sessionKey (calls ++ [call])
  | m6 {client proof sessionKey calls response}
      (before : Chain prims pin .m5Sent client (some proof) (some sessionKey) calls)
      (h : AcceptsM6 prims response proof sessionKey) :
      Chain prims pin .complete client (some proof) (some sessionKey)
        (calls ++ [.processM6 response])

/-- The chain the machine stands at. -/
def At (prims : Primitives) (pin : String) (p : PairSetup) (calls : List Call) : Prop :=
  Chain prims pin p.state p.srpClient p.srpProof p.sessionKey calls

/-- The proof chain of a password exchange up to M4. -/
def ProvedBy (prims : Primitives) (pin : String) (calls : List Call) (proof : SrpProof) : Prop :=
  ∃ opening client challenge answer,
    calls = [opening, .processM2 challenge, .generateM3, .processM4 answer] ∧
    OpensWith pin opening client ∧ AcceptsM2 prims client challenge proof ∧ AcceptsM4 answer proof

/-- What releases a secret after the given successful calls. -/
def ReleasedBy (prims : Primitives) (pin : String) (calls : List Call) (last : Call)
    (secret : Bytes) : Prop :=
  ∃ proof, secret = proof.sharedSecret ∧
    ((last = .completeTransient ∧ ProvedBy prims pin calls proof) ∨
      ∃ proved m5 response sessionKey, calls = proved ++ [m5] ∧
        ((∃ identity, m5 = .generateM5 identity) ∨
          ∃ controller, m5 = .generateM5WithController controller) ∧
        last = .processM6 response ∧ ProvedBy prims pin proved proof ∧
        derivePairSetupKey prims proof.sharedSecret = .ok sessionKey ∧
        AcceptsM6 prims response proof sessionKey)

section

variable {pin : String} {client : Option SrpClient} {proof : Option SrpProof} {skey : Option Bytes}
  {calls : List Call}

theorem Chain.proved (h : Chain prims pin .m4Received client proof skey calls) :
    ∃ srpProof key, proof = some srpProof ∧ skey = some key ∧ ProvedBy prims pin calls srpProof ∧
      derivePairSetupKey prims srpProof.sharedSecret = .ok key := by
  cases h with
  | m4 pre ha hk =>
    cases pre with
    | m3 pre =>
      cases pre with
      | m2 pre hc =>
        cases pre with
        | m1 hop => exact ⟨_, _, rfl, rfl, ⟨_, _, _, _, rfl, hop, hc, ha⟩, hk⟩

theorem Chain.of_initial (h : Chain prims pin .initial client proof skey calls) :
    proof = none ∧ skey = none ∧ calls = [] := by
  cases h
  exact ⟨rfl, rfl, rfl⟩

theorem Chain.of_m1Sent (h : Chain prims pin .m1Sent client proof skey calls) :
    (∃ srpClient, client = some srpClient) ∧ proof = none ∧ skey = none := by
  cases h
  exact ⟨⟨_, rfl⟩, rfl, rfl⟩

theorem Chain.of_m2Received (h : Chain prims pin .m2Received client proof skey calls) :
    (∃ srpClient, client = some srpClient) ∧ (∃ srpProof, proof = some srpProof) ∧ skey = none := by
  cases h
  exact ⟨⟨_, rfl⟩, ⟨_, rfl⟩, rfl⟩

theorem Chain.of_m3Sent (h : Chain prims pin .m3Sent client proof skey calls) :
    (∃ srpClient, client = some srpClient) ∧ (∃ srpProof, proof = some srpProof) ∧ skey = none := by
  cases h
  exact ⟨⟨_, rfl⟩, ⟨_, rfl⟩, rfl⟩

end

/-! ## Runs -/

variable {outc : PairSetup × Except Error α}

theorem returning_ok {reply : α → Reply} {r : Reply} (h : (returning reply outc).2 = .ok r) :
    ∃ a, outc.2 = .ok a ∧ r = reply a := by
  obtain ⟨_, res⟩ := outc
  cases res with
  | ok a => exact ⟨a, rfl, (Except.ok.inj h).symm⟩
  | error => cases h

theorem returning_error {reply : α → Reply}
    {error : Error} (h : (returning reply outc).2 = .error error) :
    outc.2 = .error error := by
  obtain ⟨_, res⟩ := outc
  cases res with
  | ok => cases h
  | error => exact congrArg Except.error (Except.error.inj h)

variable {call : Call}

/-- A call that succeeds adds a link to the chain. -/
theorem step_ok {calls : List Call} (h : At prims p.pin p calls)
    {reply : Reply} (ho : (p.step prims call).2 = .ok reply) :
    (p.step prims call).1.pin = p.pin ∧ At prims p.pin (p.step prims call).1 (calls ++ [call]) := by
  unfold At at h ⊢
  cases call with
  | generateM1 a | generateM1WithFlags a =>
    obtain ⟨m1, hm1, -⟩ := returning_ok ho
    obtain ⟨hs, ha⟩ := generateM1Internal_of_ok hm1
    rw [hs] at h
    obtain ⟨hp, hk, rfl⟩ := h.of_initial
    simp only [step, returning, generateM1, generateM1WithFlags] at ha ⊢
    rw [ha]
    dsimp only
    rw [hp, hk]
    exact ⟨rfl, .m1 ⟨a, by simp, rfl⟩⟩
  | processM2 =>
    obtain ⟨u, hu, -⟩ := returning_ok ho
    obtain ⟨hs, client, proof, hc, hac, ha⟩ := processM2_of_ok hu
    rw [hs, hc] at h
    obtain ⟨-, hp, hk⟩ := h.of_m1Sent
    simp only [step, returning, ha]
    rw [hp, hk] at h
    rw [hc, hk]
    exact ⟨trivial, .m2 h hac⟩
  | generateM3 =>
    obtain ⟨m3, hm3, -⟩ := returning_ok ho
    obtain ⟨hs, ha⟩ := generateM3_of_ok hm3
    rw [hs] at h
    obtain ⟨⟨client, hc⟩, ⟨proof, hp⟩, hk⟩ := h.of_m2Received
    simp only [step, returning, ha]
    rw [hc, hp, hk] at h ⊢
    exact ⟨trivial, .m3 h⟩
  | processM4 =>
    obtain ⟨u, hu, -⟩ := returning_ok ho
    obtain ⟨hs, proof, skey, hp, hac, hd, ha⟩ := processM4_of_ok hu
    rw [hs] at h
    obtain ⟨⟨_, hc⟩, -, hk⟩ := h.of_m3Sent
    simp only [step, returning, ha]
    rw [hc, hp, hk] at h
    rw [hc, hp]
    exact ⟨trivial, .m4 h hac hd⟩
  | completeTransient =>
    obtain ⟨secret, he, -⟩ := returning_ok ho
    obtain ⟨hs, -, -, ha⟩ := completeTransient_of_ok he
    rw [hs] at h
    simp only [step, returning, ha]
    exact ⟨trivial, .transient h⟩
  | generateM5 ident =>
    obtain ⟨m5, hm5, -⟩ := returning_ok ho
    obtain ⟨hs, ha⟩ := generateM5Internal_of_ok hm5
    rw [hs] at h
    simp only [step, returning, generateM5, ha]
    exact ⟨trivial, .m5 h (.inl ⟨ident, rfl⟩)⟩
  | generateM5WithController controller =>
    obtain ⟨m5, hm5, -⟩ := returning_ok ho
    obtain ⟨hs, ha⟩ := generateM5Internal_of_ok hm5
    rw [hs] at h
    simp only [step, returning, generateM5WithController, ha]
    exact ⟨trivial, .m5 h (.inr ⟨controller, rfl⟩)⟩
  | processM6 =>
    obtain ⟨_, he, -⟩ := returning_ok ho
    obtain ⟨hs, _, _, hp, hk, hac, -, ha, hc, hp', hk', hn⟩ := processM6_of_ok he
    rw [hs, hp, hk] at h
    simp only [step, returning]
    rw [ha, hc, hp', hk', hp, hk]
    exact ⟨hn, .m6 h hac⟩

/-- A refused call ends the machine or leaves it as it was. -/
theorem step_error (h : (p.step prims call).2 = .error err) :
    (p.step prims call).1.state = .failed ∨ (p.step prims call).1 = p := by
  cases call with
  | generateM1 a | generateM1WithFlags a =>
    exact .inl (generateM1Internal_aborts _ _ _ _ (returning_error h))
  | processM2 => exact .inl (processM2_aborts _ _ _ (returning_error h))
  | generateM3 => exact .inl (generateM3_aborts _ _ (returning_error h))
  | processM4 => exact .inl (processM4_aborts _ _ _ (returning_error h))
  | completeTransient => exact completeTransient_error (returning_error h)
  | generateM5 identity | generateM5WithController controller =>
    exact .inl (generateM5Internal_aborts _ _ _ _ (returning_error h))
  | processM6 => exact .inl (processM6_aborts _ _ _ (returning_error h))

/-- What a released secret rests on. -/
theorem step_secret {calls : List Call} (h : At prims p.pin p calls)
    (ho : (p.step prims call).2 = .ok (.secret secret)) :
    ReleasedBy prims p.pin calls call secret ∧ (p.step prims call).1.Ended := by
  unfold At at h
  cases call with
  | completeTransient =>
    obtain ⟨released, hl, hr⟩ := returning_ok ho
    obtain ⟨hs, -, ⟨proof, hpo, hc⟩, ha⟩ := completeTransient_of_ok hl
    rw [hs] at h
    obtain ⟨srpProof, key, hm, -, hp, -⟩ := h.proved
    obtain rfl : proof = srpProof := Option.some.inj (hpo.symm.trans hm)
    refine ⟨⟨proof, (Reply.secret.inj hr).trans hc, .inl ⟨rfl, hp⟩⟩, .inr ?_⟩
    simp only [step, returning, ha]
  | processM6 resp =>
    obtain ⟨_, hl, hr⟩ := returning_ok ho
    obtain ⟨hs, proof, skey, hpo, hk, hac, hc, ha, -⟩ := processM6_of_ok hl
    rw [hs, hpo, hk] at h
    refine ⟨⟨proof, (Reply.secret.inj hr).trans hc, .inr ?_⟩, .inr ha⟩
    cases h with
    | m5 pre hm5 =>
      obtain ⟨_, _, hm, hsamKey, hp, hd⟩ := pre.proved
      obtain rfl := Option.some.inj hm
      obtain rfl := Option.some.inj hsamKey
      exact ⟨_, _, resp, skey, rfl, hm5, rfl, hp, hd, hac⟩
  | generateM1 a | generateM1WithFlags a | generateM3 | generateM5 identity
  | generateM5WithController controller | processM2 resp | processM4 resp =>
    obtain ⟨_, -, hr⟩ := returning_ok ho
    cases hr

/-- The calls of a run that succeeded, first to last. -/
def succeeded (turns : List (Turn PairSetup Call (Except Error Reply))) : List Call :=
  turns.filterMap (fun t => match t.output with
    | .ok _ => some t.input
    | .error _ => none)

/-- The machine follows the chain of its successful calls until it fails. -/
def Follows (prims : Primitives) (pin : String) (calls : List Call) (p : PairSetup) : Prop :=
  p.state ≠ .failed → p.pin = pin ∧ At prims pin p calls

/-- Every run follows the chain of its successes. -/
theorem run_chain (pin : String) (transient : Bool) (ins : List Call) : Follows prims pin
      (succeeded (trace (step prims) { pin, transientMode := transient } ins))
      (run (step prims) { pin, transientMode := transient } ins) := by
  refine @Mealy.trace_induction PairSetup Call (Except Error Reply) (step prims)
    (fun turns p => Follows prims pin (succeeded turns) p) _ ?_ ?_ ins
  · exact fun _ => ⟨rfl, .initial⟩
  · intro turns p call h hl
    have hc : succeeded (turns ++ [turn (step prims) p call]) =
        succeeded turns ++ succeeded [turn (step prims) p call] := filterMap_append
    have hr : p.state ≠ .failed := by
      intro hf
      obtain ⟨error, hs⟩ := @step_ended prims p (.inl hf) call
      rw [hs] at hl
      exact hl rfl
    obtain ⟨rfl, ha⟩ := h hr
    rw [hc]
    cases ho : (p.step prims call).2 with
    | ok =>
      have hn : succeeded [turn (step prims) p call] = [call] := by simp [succeeded, turn, ho]
      rw [hn]
      exact step_ok ha ho
    | error =>
      have hnn : succeeded [turn (step prims) p call] = [] := by simp [succeeded, turn, ho]
      rw [hnn, append_nil]
      rcases step_error ho with hf | hm
      · exact absurd hf hl
      · rw [hm]
        exact ⟨rfl, ha⟩

variable {t : Turn PairSetup Call (Except Error Reply)}

/-- A secret is released after its whole proof chain and nothing succeeds
after it. -/
theorem released_chain (pin : String) (transient : Bool) (ins : List Call)
    {front back : List (Turn PairSetup Call (Except Error Reply))}
    (hp : trace (step prims) { pin, transientMode := transient } ins =
      front ++ t :: back) (hs : t.output = .ok (.secret secret)) :
    ReleasedBy prims pin (succeeded front) t.input secret ∧
      ∀ l ∈ back, ∃ err, l.output = .error err := by
  obtain ⟨xs, ys, -, ht, rfl, rfl⟩ := trace_split hp
  have ho := @run_chain prims pin transient xs
  generalize run (step prims) { pin, transientMode := transient } xs = p at ht ho
  rw [ht] at hs
  have hl : p.state ≠ .failed := by
    intro hf
    obtain ⟨_, hst⟩ := @step_ended prims p (.inl hf) t.input
    simp only [turn, hst] at hs
    cases hs
  obtain ⟨rfl, ha⟩ := ho hl
  obtain ⟨hr, he⟩ := step_secret ha hs
  refine ⟨hr, ?_⟩
  rw [ht]
  exact trace_ended he ys

/-- The calls that look at what a receiver sent. -/
def Call.isProcess : Call → Bool
  | .processM2 _ | .processM4 _ | .processM6 _ => true
  | _ => false

theorem process_error (hp : call.isProcess = true) (h : (p.step prims call).2 = .error err) :
    (p.step prims call).1.state = .failed := by
  cases call with
  | processM2 => exact processM2_aborts _ _ _ (returning_error h)
  | processM4 => exact processM4_aborts _ _ _ (returning_error h)
  | processM6 => exact processM6_aborts _ _ _ (returning_error h)
  | generateM1 a | generateM1WithFlags a | generateM3 | completeTransient | generateM5 identity
  | generateM5WithController => cases hp

/-- After a refused message nothing succeeds. -/
theorem refused_ends (pin : String) (transient : Bool) (ins : List Call)
    {front back : List (Turn PairSetup Call (Except Error Reply))}
    (hs : trace (step prims) { pin, transientMode := transient } ins =
      front ++ t :: back) (hp : t.input.isProcess = true) (he : t.output = .error err) :
    ∀ l ∈ back, ∃ later, l.output = .error later := by
  obtain ⟨_, ys, -, ht, rfl, rfl⟩ := trace_split hs
  rw [ht] at he
  rw [ht]
  exact trace_ended (.inl (process_error hp he)) ys

/-! ## A transient pairing -/

/-- The constant hash, with a key derivation. -/
def oneKey : Primitives :=
  { oneHash with hkdf := fun _ _ _ length => some (List.replicate length 0) }

/-- Its only value. -/
def one : Bytes := hash oneKey []

theorem hash_oneKey (message : Bytes) : hash oneKey message = one := rfl

def soleClient : SrpClient := .new (ascii "Pair-Setup") (textBytes "") 1

theorem challenge_oneKey :
    soleClient.processChallenge oneKey ⟨List.replicate 16 0, padKey [2]⟩ = .ok ⟨one, one, one⟩ := by
  have hb : fromBeBytes (padKey [2]) = 2 := by decide +kernel
  have hu : fromBeBytes one = 1 := by decide +kernel
  have hn : ¬ 2 % soleClient.params.n = 0 := by decide +kernel
  unfold SrpClient.processChallenge
  simp only [hb, computeU, computeM1, computeM2, hash_oneKey, hu]
  rw [if_neg hn, if_neg one_ne_zero]

/-- An M4 with the proof every client expects under that hash. -/
def provedM4 : Tlv8 := (Tlv8.new.set .state [0x04]).set .proof one

/-- The calls up to the one that releases the secret. -/
def provedCalls : List Call :=
  [.generateM1 1, .processM2 strippedM2, .generateM3, .processM4 provedM4.encode]

/-- The machine after those calls. -/
def provedSetup : PairSetup where
  pin := ""
  transientMode := true
  state := .m4Received
  srpClient := some soleClient
  srpProof := some ⟨one, one, one⟩
  sessionKey := some (List.replicate 32 0)

/-- These calls run through to the proof. -/
theorem run_provedCalls :
    run (step oneKey) { pin := "", transientMode := true } provedCalls = provedSetup := by
  obtain ⟨tlv, hp, he, ht, hl, hk⟩ := parse_strippedM2
  have hpad : List.replicate 383 0 ++ [2] = padKey [2] := by decide +kernel
  have hlen : (padKey [2]).length = 384 := by decide +kernel
  have hm2 : ∀ p : PairSetup, p.state = .m1Sent → p.srpClient = some soleClient →
      p.processM2 oneKey strippedM2 =
        ({ p with srpProof := some ⟨one, one, one⟩, state := .m2Received }, .ok ()) :=
    fun p hs hc => processM2_accepts hs hc hp he ht hl rfl hk hpad hlen challenge_oneKey
  have hm4 : Tlv8.parse provedM4.encode = .ok provedM4 := by
    rw [Tlv8.encode_eq_wire, Tlv8.parse_wire, Tlv8.valueOf_records]
  have hc : provedM4.get .proof = some one := rfl
  have hse : provedM4.error = none := rfl
  have hst : provedM4.state = some 0x04 := rfl
  simp only [provedCalls, run, step, returning, generateM1, generateM1Internal, refuseIf, ne_eq,
    not_true, if_false]
  rw [hm2 _ rfl rfl]
  simp [generateM3, required, attempt, refuseIf, processM4, hm4, hc, hse, hst,
    SrpClient.verifyServerProof]
  rfl

end OpenAirCast.Pairing.PairSetup

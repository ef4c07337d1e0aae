/-
Pairing.RetryTheorems — what a pair-verify keeps over a reset.

`reset` names the fields it clears. The order that an accepted M2 was signed
in is not among them, and M3 signs in it. Where that order is the first one
the reset machine is a new one; otherwise an M2 that teaches no order is
enough to tell the two apart (`retried`).
-/
import OpenAirCast.Crypto.TlvTheorems
import OpenAirCast.Pairing.PairVerifyTheorems

namespace OpenAirCast.Pairing.PairVerify

open Crypto List

/-- Every call of the interface that changes a machine. -/
inductive PublicCall where
  | call (call : Call)
  | setServerLtpk (ltpk : Bytes)

def publicStep (prims : Primitives) (v : PairVerify) : PublicCall → PairVerify × Except Error Reply
  | .call call => v.step prims call
  | .setServerLtpk ltpk => (v.setServerLtpk ltpk, .ok .accepted)

/-- A new machine with the identity, the identifier and the pinned key of
this one. -/
def afresh (v : PairVerify) : PairVerify :=
  { new v.identity with customIdentifier := v.customIdentifier, serverLtpk := v.serverLtpk }

/-- After a reset, every further sequence of calls returns what it returns on
a new machine. -/
def RetriesAfresh (prims : Primitives) (v : PairVerify) : Prop :=
  ∀ calls, Mealy.outputs (publicStep prims) v.reset calls
    = Mealy.outputs (publicStep prims) v.afresh calls

variable {v : PairVerify}

theorem reset_eq_afresh (h : v.signatureOrder = .signerIdPeer) : v.reset = v.afresh := by
  unfold reset afresh new
  rw [← h]

/-! ## Telling them apart -/

theorem parse_encode (t : Tlv8) : Tlv8.parse t.encode = .ok t := by
  rw [Tlv8.encode_eq_wire, Tlv8.parse_wire, Tlv8.valueOf_records]

/-- Small primitives under which a signature is the message it signs, and one
with the first byte of the message verifies. -/
def telling : Primitives :=
  { signing with
    ed25519PublicKey := fun _ => []
    ed25519Sign := fun _ message => message
    ed25519Verify := fun _ message signature => message.head? == signature.head? }

/-- The ephemeral keys of an exchange, and the secret they share. -/
def ours : Bytes := List.replicate 32 1

def theirs : Bytes := List.replicate 32 2

def shared : Bytes := List.replicate 32 3

/-- A long-term key, and a signature that begins like `theirs`. -/
def signedKey : Bytes := List.replicate 32 255 ++ List.replicate 64 2

/-- A transient M2. -/
def unorderedM2 : Bytes := theirs ++ (signedKey ++ shared.take TAG_LENGTH)

/-- An exchange in which nothing is said of the order. -/
def retry : List PublicCall :=
  [.call (.generateM1 .standard ours),
    .call (.processM2Transient unorderedM2), .call (.generateM3WithIdentifier (some "C"))]

variable (order : SignatureOrder)

/-- The plaintext of the M3 of that exchange. -/
def retryM3 : Tlv8 :=
  ((Tlv8.new.set .identifier (textBytes "C")).set .publicKey []).set .signature
    (buildSignedMessage order ours theirs (textBytes "C"))

/-- What that M3 encrypts is the order it was signed in. -/
def retryReply : Except Error Reply :=
  .ok (.message ((Tlv8.new.set .state [0x03]).set .encryptedData
    ((retryM3 order).encode ++ shared.take TAG_LENGTH)).encode)

theorem retryReply_injective {order : SignatureOrder}
    (h : retryReply order = retryReply .signerIdPeer) : order = .signerIdPeer := by
  have ho := congrArg Tlv8.parse (Reply.message.inj (Except.ok.inj h))
  rw [parse_encode, parse_encode] at ho
  have hl := congrArg (Tlv8.get · .encryptedData) (Except.ok.inj ho)
  simp only [Tlv8.get, Tlv8.set, Function.update_self, Option.some.injEq,
    append_cancel_right_eq] at hl
  have hi := congrArg Tlv8.parse hl
  rw [parse_encode, parse_encode] at hi
  have hs := congrArg (Tlv8.get · .signature) (Except.ok.inj hi)
  simp only [retryM3, Tlv8.get, Tlv8.set, Function.update_self, Option.some.injEq] at hs
  have ht : textBytes "C" = [0x43] := by decide +kernel
  rw [ht] at hs
  revert hs
  cases order <;> decide

theorem sealed_telling (nonce plaintext : Bytes) :
    decryptWithNonce telling shared nonce (plaintext ++ shared.take TAG_LENGTH)
      = .ok plaintext := by
  have hlen : (shared.take TAG_LENGTH).length = TAG_LENGTH := by decide
  simp only [decryptWithNonce, telling, signing, length_append, hlen]
  simp

theorem diffieHellman_telling :
    (⟨ours⟩ : EcdhKeyPair).diffieHellman telling theirs = .ok shared := by
  decide

theorem sessionKey_telling : derivePairVerifyKey telling shared = .ok shared := by
  decide

/-- M1 was sent in the exchange of these keys. -/
def opening (v : PairVerify) : PairVerify :=
  { v with ecdhPublic := some ours, ecdhKeypair := some ⟨ours⟩, state := .m1Sent }

theorem generateM1_telling (h : v.state = .initial) :
    (publicStep telling v (.call (.generateM1 .standard ours))).1 = v.opening := by
  simp only [publicStep, step, returning, generateM1As, generateM1, sendM1, refuseIf, h, ne_eq,
    not_true, if_false]
  rfl

theorem retried (h : v.state = .initial) :
    (Mealy.outputs (publicStep telling) v retry).getLast? = some (retryReply v.signatureOrder) := by
  have hf : transientFields signedKey = none := by
    unfold transientFields Tlv8.parse
    rw [show signedKey = 255 :: 255 :: signedKey.drop 2 from rfl, Tlv8.parseFrom]
    rfl
  have hlen : ¬ unorderedM2.length < 96 := by simp [unorderedM2, theirs, signedKey]
  have hs : unorderedM2.take 32 = theirs := take_left' rfl
  have hl : unorderedM2.drop 32 = signedKey ++ shared.take TAG_LENGTH := drop_left' rfl
  have hm2 : (publicStep telling v.opening (.call (.processM2Transient unorderedM2))).1 = { v with
          ecdhPublic := some ours
          ecdhKeypair := none
          serverPublic := some theirs
          sharedSecret := some shared
          sessionKey := some shared
          state := .m2Received } := by
    simp [publicStep, step, returning, processM2Transient, opening, refuseIf, hlen, hs,
      required, openM2, attempt, hl, diffieHellman_telling, sessionKey_telling,
      sealed_telling, hf, acceptSigned]
    rfl
  have he (nonce msg : Bytes) :
      encryptWithNonce telling shared nonce msg = .ok (msg ++ shared.take TAG_LENGTH) := rfl
  have hls : (Mealy.outputs (publicStep telling) v retry).getLast?
      = some (publicStep telling (publicStep telling
          (publicStep telling v (.call (.generateM1 .standard ours))).1
          (.call (.processM2Transient unorderedM2))).1
        (.call (.generateM3WithIdentifier (some "C")))).2 := rfl
  rw [hls, generateM1_telling h, hm2]
  simp [publicStep, step, returning, generateM3WithIdentifier, withExchange, refuseIf,
    required, attempt, retryReply, he]
  rfl

/-- The reset machine is a new one exactly where the order it has learnt is
the first one, or none was learnt. -/
theorem retries_afresh_iff (v : PairVerify) :
    (∀ prims, RetriesAfresh prims v) ↔ v.signatureOrder = .signerIdPeer := by
  constructor
  · intro h
    have hs := congrArg List.getLast? (h telling retry)
    rw [retried rfl, retried rfl] at hs
    exact retryReply_injective (Option.some.inj hs)
  · intro h prims calls
    rw [reset_eq_afresh h]

/-- Signed with the identifier first, by the key it brings. -/
def orderedPlaintext : Tlv8 :=
  ((Tlv8.new.set .identifier [7]).set .publicKey (List.replicate 32 4)).set .signature
    (List.replicate 64 7)

def orderedM2 : Tlv8 :=
  ((Tlv8.new.set .state [0x02]).set .publicKey theirs).set .encryptedData
    (orderedPlaintext.encode ++ shared.take TAG_LENGTH)

theorem processM2_telling (v : PairVerify) : (v.opening.processM2 telling orderedM2.encode).1
    = { v with
        ecdhPublic := some ours
        ecdhKeypair := none
        serverPublic := some theirs
        sharedSecret := some shared
        sessionKey := some shared
        signatureOrder := .idSignerPeer
        state := .m2Received } := by
  have he : orderedM2.error = none := rfl
  have hs : orderedM2.state = some 0x02 := rfl
  have hk : orderedM2.get .publicKey = some theirs := rfl
  have hl : orderedM2.get .encryptedData
      = some (orderedPlaintext.encode ++ shared.take TAG_LENGTH) := rfl
  have hidentifier : orderedPlaintext.get .identifier = some [7] := rfl
  have hg : orderedPlaintext.get .signature = some (List.replicate 64 7) := rfl
  have hb : presentedLtpk orderedPlaintext [7] = some (List.replicate 32 4) := rfl
  have hlen : theirs.length = 32 := rfl
  have hf : SignatureOrder.tried.find? (fun order => telling.ed25519Verify
      (List.replicate 32 4) (buildSignedMessage order theirs ours [7]) (List.replicate 64 7))
        = some .idSignerPeer := rfl
  simp only [processM2, opening, parse_encode, refuseIf, attempt, required, openM2, he, hs,
    hk, hl, hlen, diffieHellman_telling, sessionKey_telling, sealed_telling, hidentifier,
    hg, hb, hf, length_replicate, Option.some_or, ne_eq, not_true,
    if_false]

/-- The exchange is abandoned after M2, and the next M2 is checked against
no order: M3 signs in the order of the first. -/
theorem order_outlives_reset :
    let v := Mealy.run (publicStep telling) (new ⟨[]⟩)
      [.call (.generateM1 .standard ours), .call (.processM2 orderedM2.encode)]
    v.signatureOrder = .idSignerPeer ∧ ¬ RetriesAfresh telling v := by
  have hr : Mealy.run (publicStep telling) (new ⟨[]⟩)
      [.call (.generateM1 .standard ours), .call (.processM2 orderedM2.encode)]
        = ((new ⟨[]⟩).opening.processM2 telling orderedM2.encode).1 := by
    simp only [Mealy.run, generateM1_telling (v := new ⟨[]⟩) rfl]
    rfl
  intro v
  have ho : v.signatureOrder = .idSignerPeer := by rw [show v = _ from hr, processM2_telling]
  refine ⟨ho, fun h => ?_⟩
  have hs := congrArg List.getLast? (h retry)
  rw [retried rfl, retried rfl] at hs
  have hf := retryReply_injective (Option.some.inj hs)
  exact absurd (ho.symm.trans hf) (by decide)

end OpenAirCast.Pairing.PairVerify

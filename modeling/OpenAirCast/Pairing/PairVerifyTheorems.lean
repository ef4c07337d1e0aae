/-
Pairing.PairVerifyTheorems — what stands behind the session
keys of a pair-verify with a pinned key.

`plaintext`, `keyOf` and `signatureOf` read off an M2 what it carries.
`accepted_signed` says under which key an accepted M2 is signed: the key it
brings itself if it brings one, the pinned key otherwise. So a run in which
no M2 is signed under another key that it brings releases session keys only
behind a signature of the pinned key (`keys_verified`). An M2 that brings a
key of its own is checked against that key, and anyone can sign it
(`impersonated`).

Nothing is assumed of the primitives.
-/
import OpenAirCast.Lib.Mealy
import OpenAirCast.Pairing.PairVerify

namespace OpenAirCast.Pairing.PairVerify

open Crypto Option Mealy

variable {v : PairVerify} {serverPublic encrypted : Bytes} {call : Call}

/-! ## What an M2 carries -/

variable (prims : Primitives)

/-- The plaintext under the key of the exchange. -/
def opened (v : PairVerify) (serverPublic encrypted : Bytes) : Option Bytes :=
  v.ecdhKeypair.bind fun ecdh =>
  (ecdh.diffieHellman prims serverPublic).toOption.bind fun sharedSecret =>
  (derivePairVerifyKey prims sharedSecret).toOption.bind fun sessionKey =>
  (decryptWithNonce prims sessionKey (nonceFromString (ascii "PV-Msg02")) encrypted).toOption

/-- The receiver's ephemeral key and the plaintext of an M2. -/
def plaintext (v : PairVerify) : Call → Option (Bytes × Bytes)
  | .processM2 response =>
    (Tlv8.parse response).toOption.bind fun tlv =>
    (tlv.get .publicKey).bind fun serverPublic =>
    (tlv.get .encryptedData).bind fun encrypted =>
    (opened prims v serverPublic encrypted).map fun decrypted => (serverPublic, decrypted)
  | .processM2Transient response =>
    (opened prims v (response.take 32) (response.drop 32)).map fun decrypted =>
      (response.take 32, decrypted)
  | _ => none

/-- The long-term key that the plaintext of an M2 brings. -/
def keyOf (call : Call) (decrypted : Bytes) : Option Bytes :=
  match call with
  | .processM2 _ =>
    (Tlv8.parse decrypted).toOption.bind fun inner =>
    (inner.get .identifier).bind (presentedLtpk inner)
  | .processM2Transient _ =>
    match transientFields decrypted with
    | some (identifier, _) => some identifier
    | none => if decrypted.length = 96 then some (decrypted.take 32) else none
  | _ => none

/-- The signature in the plaintext of an M2. -/
def signatureOf (call : Call) (decrypted : Bytes) : Option Bytes :=
  match call with
  | .processM2 _ => (Tlv8.parse decrypted).toOption.bind fun inner => inner.get .signature
  | .processM2Transient _ =>
    match transientFields decrypted with
    | some (_, signature) => some signature
    | none =>
      if decrypted.length = 64 then some decrypted
      else if decrypted.length = 96 then some (decrypted.drop 32)
      else none
  | _ => none

/-- The long-term key that an M2 brings. -/
def bringsKey (v : PairVerify) (call : Call) : Option Bytes :=
  (plaintext prims v call).bind fun carried => keyOf call carried.2

/-- The M2 carries a signature of 64 bytes that verifies under the key over
both ephemeral keys of the exchange. -/
def SignedUnder (ltpk : Bytes) (v : PairVerify) (call : Call) : Prop :=
  ∃ serverPublic decrypted clientPublic signature order identifier,
    plaintext prims v call = some (serverPublic, decrypted) ∧
    v.ecdhPublic = some clientPublic ∧ signatureOf call decrypted = some signature ∧
    signature.length = 64 ∧
    prims.ed25519Verify ltpk (buildSignedMessage order serverPublic clientPublic identifier)
      signature = true

variable {prims : Primitives}

/-! ## An accepted M2 -/

/-- The machine after the exchange of keys. -/
def exchanged (v : PairVerify) (sharedSecret sessionKey : Bytes) : PairVerify :=
  { v with
    ecdhKeypair := none
    sharedSecret := some sharedSecret
    sessionKey := some sessionKey }

variable {β : Type}

theorem openM2_of_ok {next : PairVerify → Bytes → PairVerify × Except Error β} {b : β}
    (h : (v.openM2 prims serverPublic encrypted next).2 = .ok b) :
    ∃ sharedSecret skey decr, opened prims v serverPublic encrypted = some decr ∧
      v.openM2 prims serverPublic encrypted next = next (v.exchanged sharedSecret skey) decr ∧
      (next (v.exchanged sharedSecret skey) decr).2 = .ok b := by
  unfold openM2 at h ⊢
  obtain ⟨ecdh, he, h1, h⟩ := required_of_ok h
  obtain ⟨sharedSecret, hs, h2, h⟩ := attempt_of_ok h
  obtain ⟨skey, hk, h3, h⟩ := attempt_of_ok h
  obtain ⟨decr, hd, h4, h⟩ := attempt_of_ok h
  refine ⟨sharedSecret, skey, decr, ?_, h1.trans (h2.trans (h3.trans h4)), h⟩
  simp only [opened, he, hs, hk, hd, bind_some, Except.toOption]

variable {u : Unit}

theorem acceptSigned_of_ok {clientPub ltpk signature : Bytes}
    (h : (v.acceptSigned prims serverPublic clientPub ltpk signature).2 = .ok u) :
    prims.ed25519Verify ltpk (buildSignedMessage .signerIdPeer serverPublic clientPub ltpk)
      signature = true := by
  obtain ⟨hv, -⟩ := refuseIf_of_ok h
  exact eq_true_of_ne_false hv

theorem length_of_transientFields {decr ident signature : Bytes}
    (h : transientFields decr = some (ident, signature)) : signature.length = 64 := by
  unfold transientFields at h
  split at h
  · cases h
  · split at h
    · split at h
      · rename_i hlen
        cases h
        exact hlen.2
      · cases h
    · cases h

/-- An accepted M2 is signed under the key it brings, or under the pinned one. -/
theorem processM2_signed {resp : Bytes} (h : (v.processM2 prims resp).2 = .ok u) {ltpk : Bytes}
    (hl : (bringsKey prims v (.processM2 resp)).or v.serverLtpk = some ltpk) :
    SignedUnder prims ltpk v (.processM2 resp) := by
  unfold processM2 at h
  obtain ⟨-, -, h⟩ := refuseIf_of_ok h
  obtain ⟨_, hr, -, h⟩ := attempt_of_ok h
  obtain ⟨-, -, h⟩ := refuseIf_of_ok h
  obtain ⟨-, -, h⟩ := refuseIf_of_ok h
  obtain ⟨serverPublic, hb, -, h⟩ := required_of_ok h
  obtain ⟨-, -, h⟩ := refuseIf_of_ok h
  obtain ⟨encrypted, he, -, h⟩ := required_of_ok h
  obtain ⟨sharedSecret, skey, decr, hopene, -, h⟩ := openM2_of_ok h
  obtain ⟨inner, hi, -, h⟩ := attempt_of_ok h
  obtain ⟨ident, hidentifier, -, h⟩ := required_of_ok h
  obtain ⟨signature, hs, -, h⟩ := required_of_ok h
  obtain ⟨hlen, -, h⟩ := refuseIf_of_ok h
  obtain ⟨clientPub, hc, -, h⟩ := required_of_ok h
  have hp : plaintext prims v (.processM2 resp) = some (serverPublic, decr) := by
    have hop : opened prims v serverPublic encrypted = some decr := hopene
    simp only [plaintext, hr, hb, he, hop, Except.toOption, bind_some, map_some]
  have hk : bringsKey prims v (.processM2 resp) = presentedLtpk inner ident := by
    simp only [bringsKey, hp, keyOf, hi, hidentifier, Except.toOption, bind_some]
  rw [hk] at hl
  have hm : (presentedLtpk inner ident).or
      (({ v with serverPublic := some serverPublic }).exchanged sharedSecret skey).serverLtpk =
        some ltpk := hl
  rw [hm] at h
  obtain ⟨order, ho, -, -⟩ := required_of_ok h
  have hv := List.find?_some ho
  refine ⟨serverPublic, decr, clientPub, signature, order, ident, hp, hc, ?_, not_not.mp hlen, hv⟩
  simp only [signatureOf, hi, hs, Except.toOption, bind_some]

theorem processM2Transient_signed {resp : Bytes}
    (h : (v.processM2Transient prims resp).2 = .ok u) {ltpk : Bytes}
    (hl : (bringsKey prims v (.processM2Transient resp)).or v.serverLtpk = some ltpk) :
    SignedUnder prims ltpk v (.processM2Transient resp) := by
  unfold processM2Transient at h
  obtain ⟨-, -, h⟩ := refuseIf_of_ok h
  obtain ⟨-, -, h⟩ := refuseIf_of_ok h
  obtain ⟨clientPub, hc, -, h⟩ := required_of_ok h
  obtain ⟨_, _, decr, hopene, -, h⟩ := openM2_of_ok h
  have hop : opened prims v (resp.take 32) (resp.drop 32) = some decr := hopene
  have hp : plaintext prims v (.processM2Transient resp) = some (resp.take 32, decr) := by
    simp only [plaintext, hop, map_some]
  have hb : bringsKey prims v (.processM2Transient resp) =
      keyOf (.processM2Transient resp) decr := by
    simp only [bringsKey, hp, bind_some]
  rw [hb] at hl
  cases hf : transientFields decr with
  | some fields =>
    obtain ⟨ident, signature⟩ := fields
    simp only [hf] at h
    simp only [keyOf, hf, some_or, Option.some.injEq] at hl
    subst hl
    exact ⟨_, decr, clientPub, signature, .signerIdPeer, ident, hp, hc,
      by simp only [signatureOf, hf], length_of_transientFields hf,
      acceptSigned_of_ok h⟩
  | none =>
    simp only [hf] at h
    by_cases hs : decr.length = 64
    · rw [if_pos hs] at h
      obtain ⟨pinned, hi, -, h⟩ := required_of_ok h
      simp only [keyOf, hf] at hl
      rw [if_neg (by omega), none_or] at hl
      obtain rfl : pinned = ltpk := Option.some.inj (hi.symm.trans hl)
      exact ⟨_, decr, clientPub, decr, .signerIdPeer, pinned, hp, hc,
        by simp only [signatureOf, hf, if_pos hs], hs, acceptSigned_of_ok h⟩
    · rw [if_neg hs] at h
      by_cases hn : decr.length = 96
      · rw [if_pos hn] at h
        simp only [keyOf, hf, if_pos hn, some_or, Option.some.injEq] at hl
        subst hl
        exact ⟨_, decr, clientPub, decr.drop 32, .signerIdPeer, decr.take 32,
          hp, hc, by simp only [signatureOf, hf, if_neg hs, if_pos hn],
          by rw [List.length_drop, hn], acceptSigned_of_ok h⟩
      · rw [if_neg hn] at h
        exact absurd h exit_ne_ok

/-! ## One call -/

/-- The calls that look at M2. -/
def Call.isM2 : Call → Bool
  | .processM2 _ | .processM2Transient _ => true
  | _ => false

/-- An M2 was accepted and the exchange goes on. -/
def PastM2 (v : PairVerify) : Prop := v.state = .m2Received ∨ v.state = .m3Sent

/-- The pinned key. -/
def Pins (ltpk : Option Bytes) (v : PairVerify) : Prop := v.serverLtpk = ltpk

variable {ltpk : Option Bytes}

section

variable (hv : Pins ltpk v)
include hv

theorem openM2_pins {next : PairVerify → Bytes → PairVerify × Except Error β}
    (h : ∀ w, Pins ltpk w → ∀ decr, Pins ltpk (next w decr).1) :
    Pins ltpk (v.openM2 prims serverPublic encrypted next).1 := by
  refine kept_required hv fun ecdh => kept_attempt hv fun sharedSecret => ?_
  refine kept_attempt hv fun skey => kept_attempt hv fun decr => ?_
  exact h (v.exchanged sharedSecret skey) hv decr

theorem acceptSigned_pins (serverPublic clientPub key signature : Bytes) :
    Pins ltpk (v.acceptSigned prims serverPublic clientPub key signature).1 :=
  kept_refuseIf hv hv

variable (resp : Bytes)

theorem processM2_pins : Pins ltpk (v.processM2 prims resp).1 := by
  refine kept_refuseIf hv (kept_attempt hv fun tlv => kept_refuseIf hv (kept_refuseIf hv ?_))
  refine kept_required hv fun serverPublic => kept_refuseIf hv ?_
  refine kept_required hv fun encrypted => openM2_pins ?_ fun w hw decr => ?_
  · exact hv
  refine kept_attempt hw fun inner => kept_required hw fun ident => ?_
  refine kept_required hw fun signature => kept_refuseIf hw ?_
  refine kept_required hw fun clientPub => ?_
  split
  · exact kept_required hw fun order => hw
  · exact hw

theorem processM2Transient_pins : Pins ltpk (v.processM2Transient prims resp).1 := by
  refine kept_refuseIf hv (kept_refuseIf hv ?_)
  refine kept_required hv fun clientPub => openM2_pins ?_ fun w hw decr => ?_
  · exact hv
  split
  · exact acceptSigned_pins hw _ _ _ _
  · split
    · exact kept_required hw fun key => acceptSigned_pins hw _ _ _ _
    · split
      · exact acceptSigned_pins hw _ _ _ _
      · exact hw

theorem withExchange_pins {next : Bytes → Bytes → Bytes → PairVerify × Except Error β}
    (h : ∀ a b c, Pins ltpk (next a b c).1) : Pins ltpk (v.withExchange next).1 := by
  refine kept_refuseIf hv (kept_required hv fun clientPub => ?_)
  refine kept_required hv fun serverPublic => kept_required hv fun skey => ?_
  exact h _ _ _

theorem deriveSessionKeys_pins : Pins ltpk (v.deriveSessionKeys prims).1 := by
  refine kept_required hv fun sharedSecret => kept_attempt hv fun keys => ?_
  exact hv

theorem sendM1_pins (secret : Bytes) (m1 : Bytes → Bytes) :
    Pins ltpk (v.sendM1 prims secret m1).1 :=
  kept_refuseIf hv hv

theorem processM4_pins : Pins ltpk (v.processM4 prims resp).1 := by
  refine kept_refuseIf hv (kept_attempt hv fun tlv => kept_refuseIf hv (kept_refuseIf hv ?_))
  exact deriveSessionKeys_pins hv

theorem processM4Transient_pins : Pins ltpk (v.processM4Transient prims resp).1 := by
  refine kept_refuseIf hv ?_
  split
  · exact hv
  · exact deriveSessionKeys_pins hv
  · split
    · exact deriveSessionKeys_pins hv
    · exact hv

/-- No call changes the pinned key. -/
theorem step_pins (call : Call) : Pins ltpk (v.step prims call).1 := by
  cases call with
  | generateM1 format secret => cases format <;> exact sendM1_pins hv secret _
  | processM2 resp => exact processM2_pins hv resp
  | processM2Transient resp => exact processM2Transient_pins hv resp
  | generateM3 => exact withExchange_pins hv fun _ _ _ => kept_attempt hv fun encrypted => hv
  | generateM3WithIdentifier =>
    exact withExchange_pins hv fun _ _ _ => kept_attempt hv fun encrypted => hv
  | generateM3Transient =>
    exact withExchange_pins hv fun _ _ _ => kept_attempt hv fun encrypted => hv
  | processM4 resp => exact processM4_pins hv resp
  | processM4Transient resp => exact processM4Transient_pins hv resp
  | reset => exact hv

end

/-! ## Getting past M2 -/

theorem abort_failed : v.abort.state = .failed := rfl

theorem openM2_aborts {next : PairVerify → Bytes → PairVerify × Except Error β}
    (h : ∀ w decr, Aborts (fun q : PairVerify => q.state = .failed) (next w decr)) :
    Aborts (fun q : PairVerify => q.state = .failed)
      (v.openM2 prims serverPublic encrypted next) := by
  refine aborts_required abort_failed fun ecdh => aborts_attempt abort_failed fun sharedSecret => ?_
  refine aborts_attempt abort_failed fun skey => aborts_attempt abort_failed fun decr => ?_
  exact h _ _

/-- A refused M2 fails the exchange that waited for it. -/
theorem processM2_aborts (hs : v.state = .m1Sent) (resp : Bytes) :
    Aborts (fun q : PairVerify => q.state = .failed) (v.processM2 prims resp) := by
  unfold processM2
  rw [refuseIf_neg (not_not.mpr hs)]
  refine aborts_attempt abort_failed
    fun tlv => aborts_refuseIf abort_failed (aborts_refuseIf abort_failed ?_)
  refine aborts_required abort_failed fun serverPublic => aborts_refuseIf abort_failed ?_
  refine aborts_required abort_failed fun encrypted => openM2_aborts fun w decr => ?_
  refine aborts_attempt abort_failed fun inner => aborts_required abort_failed fun ident => ?_
  refine aborts_required abort_failed fun signature => aborts_refuseIf abort_failed ?_
  refine aborts_required abort_failed fun clientPub => ?_
  split
  · exact aborts_required abort_failed fun order => aborts_ok _ _
  · exact aborts_ok _ _

theorem processM2_received {v : PairVerify} {resp : Bytes} {u : Unit}
    (h : (v.processM2 prims resp).2 = .ok u) :
    (v.processM2 prims resp).1.state = .m2Received := by
  unfold processM2 at h ⊢
  obtain ⟨-, h1, h⟩ := refuseIf_of_ok h
  obtain ⟨tlv, -, h2, h⟩ := attempt_of_ok h
  obtain ⟨-, h3, h⟩ := refuseIf_of_ok h
  obtain ⟨-, h4, h⟩ := refuseIf_of_ok h
  obtain ⟨serverPublic, -, h5, h⟩ := required_of_ok h
  obtain ⟨-, h6, h⟩ := refuseIf_of_ok h
  obtain ⟨encrypted, -, h7, h⟩ := required_of_ok h
  obtain ⟨sharedSecret, skey, decr, -, h8, h⟩ := openM2_of_ok h
  obtain ⟨inner, -, h9, h⟩ := attempt_of_ok h
  obtain ⟨ident, -, h10, h⟩ := required_of_ok h
  obtain ⟨signature, -, h11, h⟩ := required_of_ok h
  obtain ⟨-, h12, h⟩ := refuseIf_of_ok h
  obtain ⟨clientPub, -, h13, h⟩ := required_of_ok h
  rw [h1, h2, h3, h4, h5, h6, h7, h8, h9, h10, h11, h12, h13]
  split
  · rename_i key hk
    simp only [hk] at h
    obtain ⟨_, -, h14, h⟩ := required_of_ok h
    rw [h14]
  · rfl

theorem processM2Transient_aborts (ht : v.state = .m1Sent) (resp : Bytes) :
    Aborts (fun q : PairVerify => q.state = .failed) (v.processM2Transient prims resp) := by
  unfold processM2Transient
  rw [refuseIf_neg (not_not.mpr ht)]
  refine aborts_refuseIf abort_failed (aborts_required abort_failed fun clientPub => ?_)
  refine openM2_aborts fun w decr => ?_
  have hs : ∀ serverPublic clientPub key signature, Aborts (fun q : PairVerify => q.state = .failed)
        (w.acceptSigned prims serverPublic clientPub key signature) :=
    fun _ _ _ _ => aborts_refuseIf abort_failed (aborts_ok _ _)
  split
  · exact hs _ _ _ _
  · split
    · exact aborts_required abort_failed fun key => hs _ _ _ _
    · split
      · exact hs _ _ _ _
      · exact aborts_exit abort_failed _

variable {α : Type} {outc : PairVerify × Except Error α}

theorem returning_error {reply : α → Reply}
    {error : Error} (h : (returning reply outc).2 = .error error) :
    outc.2 = .error error := by
  obtain ⟨_, res⟩ := outc
  cases res with
  | ok => cases h
  | error => exact congrArg Except.error (Except.error.inj h)

theorem returning_ok {reply : α → Reply} {r : Reply} (h : (returning reply outc).2 = .ok r) :
    ∃ a, outc.2 = .ok a ∧ r = reply a := by
  obtain ⟨_, res⟩ := outc
  cases res with
  | ok a => exact ⟨a, rfl, (Except.ok.inj h).symm⟩
  | error => cases h

theorem generateM3_aborts (v : PairVerify) :
    Aborts (fun q : PairVerify => q = v) (v.generateM3 prims) := by
  have hk : (fun q : PairVerify => q = v) (id v) := rfl
  refine aborts_refuseIf hk (aborts_required hk fun clientPub => ?_)
  refine aborts_required hk fun serverPublic => aborts_required hk fun skey => ?_
  exact aborts_attempt hk fun encrypted => aborts_ok _ _

theorem processM4_aborts (hs : v.state = .m3Sent) (resp : Bytes) :
    Aborts (fun q : PairVerify => q.state = .failed) (v.processM4 prims resp) := by
  unfold processM4
  rw [refuseIf_neg (not_not.mpr hs)]
  refine aborts_attempt abort_failed fun tlv => aborts_refuseIf abort_failed ?_
  refine aborts_refuseIf abort_failed (aborts_required abort_failed fun sharedSecret => ?_)
  exact aborts_attempt abort_failed fun keys => aborts_ok _ _

/-- A guarded call on a machine in another state changes nothing. -/
theorem refused_same {st : PairVerifyState} (h : v.state ≠ st)
    {err : Error} {next : PairVerify × Except Error α} :
    refuseIf id v (v.state ≠ st) err next = (v, .error err) :=
  if_pos h

theorem sendM1_state (h : v.state = .initial) (secret : Bytes)
    (m1 : Bytes → Bytes) : (v.sendM1 prims secret m1).1.state = .m1Sent := by
  rw [sendM1, refuseIf_neg (not_not.mpr h)]

theorem sendM1_refused (h : v.state ≠ .initial) (secret : Bytes)
    (m1 : Bytes → Bytes) : (v.sendM1 prims secret m1).1 = v := by
  rw [sendM1, refused_same h]

/-- Only an accepted M2 brings the exchange past it. -/
theorem pastM2_step (h : PastM2 (v.step prims call).1) :
    (call.isM2 = true ∧ ∃ reply, (v.step prims call).2 = .ok reply) ∨
      (PastM2 v ∧ call ≠ .reset) := by
  cases call with
  | generateM1 format secret =>
    right
    by_cases hs : v.state = .initial
    · have hn : (v.step prims (.generateM1 format secret)).1.state = .m1Sent := by
        cases format <;> exact sendM1_state hs secret _
      rcases h with h | h <;> rw [hn] at h <;> cases h
    · have hm : (v.step prims (.generateM1 format secret)).1 = v := by
        cases format <;> exact sendM1_refused hs secret _
      rw [hm] at h
      exact ⟨h, by simp⟩
  | processM2 resp =>
    cases ho : (v.step prims (.processM2 resp)).2 with
    | ok reply => exact .inl ⟨rfl, reply, rfl⟩
    | error error =>
      right
      by_cases hs : v.state = .m1Sent
      · have hf : (v.step prims (.processM2 resp)).1.state = .failed :=
          processM2_aborts hs resp error (returning_error ho)
        rcases h with h | h <;> rw [hf] at h <;> cases h
      · have hm : (v.step prims (.processM2 resp)).1 = v := by
          simp only [step, returning, processM2]
          rw [refused_same hs]
        rw [hm] at h
        exact ⟨h, by simp⟩
  | processM2Transient resp =>
    cases ho : (v.step prims (.processM2Transient resp)).2 with
    | ok reply => exact .inl ⟨rfl, reply, rfl⟩
    | error error =>
      right
      by_cases hs : v.state = .m1Sent
      · have hf : (v.step prims (.processM2Transient resp)).1.state = .failed :=
          processM2Transient_aborts hs resp error (returning_error ho)
        rcases h with h | h <;> rw [hf] at h <;> cases h
      · have hm : (v.step prims (.processM2Transient resp)).1 = v := by
          simp only [step, returning, processM2Transient]
          rw [refused_same hs]
        rw [hm] at h
        exact ⟨h, by simp⟩
  | generateM3 | generateM3WithIdentifier identifier | generateM3Transient =>
    refine .inr ⟨?_, by simp⟩
    by_cases hs : v.state = .m2Received
    · exact .inl hs
    · simp only [step, returning, generateM3, generateM3WithIdentifier, generateM3Transient,
        withExchange] at h
      rw [refused_same hs] at h
      exact h
  | processM4 =>
    refine .inr ⟨?_, by simp⟩
    by_cases hs : v.state = .m3Sent
    · exact .inr hs
    · simp only [step, returning, processM4] at h
      rw [refused_same hs] at h
      exact h
  | processM4Transient =>
    refine .inr ⟨?_, by simp⟩
    by_cases hs : v.state = .m3Sent
    · exact .inr hs
    · simp only [step, returning, processM4Transient] at h
      rw [refused_same hs] at h
      exact h
  | reset => rcases h with h | h <;> cases h

theorem pastM2_of_keys {keys : SessionKeys}
    (h : (v.step prims call).2 = .ok (.keys keys)) : PastM2 v := by
  cases call with
  | processM4 =>
    obtain ⟨released, hr, -⟩ := returning_ok h
    obtain ⟨hs, -⟩ := refuseIf_of_ok hr
    exact .inr (not_not.mp hs)
  | processM4Transient =>
    obtain ⟨_, hr, -⟩ := returning_ok h
    obtain ⟨hs, -⟩ := refuseIf_of_ok hr
    exact .inr (not_not.mp hs)
  | generateM1 format secret | generateM3 | generateM3WithIdentifier identifier
  | generateM3Transient | processM2 resp | processM2Transient resp =>
    obtain ⟨_, -, hp⟩ := returning_ok h
    cases hp
  | reset => cases h

/-! ## Runs -/

/-- A machine with a pinned key. -/
def pinned (identity : IdentityKeyPair) (customIdentifier : Option String) (ltpk : Bytes) :
    PairVerify :=
  { identity, customIdentifier, serverLtpk := some ltpk }

variable (prims)

/-- The turn accepted an M2 signed under the key. -/
def Vouched (key : Bytes) (t : Mealy.Turn PairVerify Call (Except Error Reply)) : Prop :=
  t.input.isM2 = true ∧ (∃ reply, t.output = .ok reply) ∧ SignedUnder prims key t.before t.input

/-- Session keys are released only in an exchange whose M2 is signed under
the key. -/
def Verified (key : Bytes) (v : PairVerify) (calls : List Call) : Prop :=
  ∀ front t back keys, Mealy.trace (step prims) v calls = front ++ t :: back →
    t.output = .ok (.keys keys) → Mealy.Since (Vouched prims key) (fun l => l.input ≠ .reset) front

/-- No other key that the call brings signs it. -/
def BringsOnly (key : Bytes) (v : PairVerify) (call : Call) : Prop :=
  ∀ other, bringsKey prims v call = some other → SignedUnder prims other v call → other = key

variable {prims}

theorem bringsOnly_of_none {key : Bytes}
    (h : bringsKey prims v call = none) : BringsOnly prims key v call := by
  intro other ho
  rw [h] at ho
  cases ho

theorem accepted_signed (hM2 : call.isM2 = true) {reply : Reply}
    (ho : (v.step prims call).2 = .ok reply) {key : Bytes}
    (hk : (bringsKey prims v call).or v.serverLtpk = some key) :
    SignedUnder prims key v call := by
  cases call with
  | processM2 =>
    obtain ⟨u, hu, -⟩ := returning_ok ho
    exact processM2_signed hu hk
  | processM2Transient =>
    obtain ⟨u, hu, -⟩ := returning_ok ho
    exact processM2Transient_signed hu hk
  | generateM1 format secret | generateM3 | generateM3WithIdentifier identifier
  | generateM3Transient | processM4 response | processM4Transient response | reset => cases hM2

/-- **Behind the session keys is a signature of the pinned key**, in a run
no M2 of which is signed under another key that it brings. -/
theorem keys_verified (identity : IdentityKeyPair) (customIdentifier : Option String)
    (key : Bytes) (calls : List Call)
    (hbrings : Mealy.Along (step prims) (BringsOnly prims key)
      (pinned identity customIdentifier key) calls) :
    Verified prims key (pinned identity customIdentifier key) calls := by
  have hr : ∀ xs, xs <+: calls →
      PastM2 (Mealy.run (step prims) (pinned identity customIdentifier key) xs) →
        Mealy.Since (Vouched prims key) (fun l => l.input ≠ .reset)
          (Mealy.trace (step prims) (pinned identity customIdentifier key) xs) := by
    intro xs hx
    refine (@trace_induction_along PairVerify Call (Except Error Reply) (step prims)
      (fun turns v => Pins (some key) v ∧ (PastM2 v →
        Mealy.Since (Vouched prims key) (fun l => l.input ≠ .reset) turns))
      (fun _ v call => BringsOnly prims key v call) (pinned identity customIdentifier key)
      ⟨rfl, fun h => ?_⟩ ?_ xs ?_).2
    · rcases h with h | h <;> cases h
    · rintro _ v call hn ⟨hp, hi⟩
      refine ⟨step_pins hp call, fun hps => since_concat.mpr ?_⟩
      rcases pastM2_step hps with ⟨hM2, reply, ho⟩ | ⟨hb, he⟩
      · refine .inl ⟨hM2, ⟨reply, ho⟩, ?_⟩
        cases ht : bringsKey prims v call with
        | none => exact accepted_signed hM2 ho (by rw [ht, none_or]; exact hp)
        | some other =>
          have hs : SignedUnder prims other v call := accepted_signed hM2 ho (by rw [ht, some_or])
          exact hn other ht hs ▸ hs
      · exact .inr ⟨he, hi hb⟩
    · intro pre call hb
      exact (along_iff_forall_start calls).mp hbrings pre call (hb.trans hx)
  intro front t back keys hl hk
  obtain ⟨xs, _, rfl, htr, rfl, -⟩ := trace_split hl
  rw [htr] at hk
  exact hr xs (List.prefix_append xs _) (pastM2_of_keys hk)

/-! ## Two runs -/

/-- Small primitives. A signature is the signer's key and the first bytes of
the message. -/
def signing : Primitives where
  sha512 := fun _ => Vector.replicate 64 0
  hkdf := fun ikm _ _ length => some (ikm.take length)
  aead :=
    { encrypt := fun key _ _ msg => some (msg ++ key.take TAG_LENGTH)
      decrypt := fun key _ _ msg =>
        if msg.drop (msg.length - TAG_LENGTH) = key.take TAG_LENGTH then
          some (msg.take (msg.length - TAG_LENGTH))
        else none }
  x25519PublicKey := fun secret => secret
  x25519 := fun secret peerPublic => List.zipWith (· ^^^ ·) secret peerPublic
  ed25519PublicKey := fun seed => seed
  ed25519Sign := fun seed message => seed ++ message.take 32
  ed25519Verify := fun publicKey message signature => signature == publicKey ++ message.take 32

def receiverKey : Bytes := List.replicate 32 0x44

/-- The same, where the holder of the receiver's key has signed nothing. -/
def silentReceiver : Primitives :=
  { signing with
    ed25519Verify := fun publicKey message signature =>
      publicKey != receiverKey && signing.ed25519Verify publicKey message signature }

/-- An M2 with this identifier, signed by the peer's key. -/
def answer (clientSecret serverSecret identifier ltpk : Bytes) : Bytes :=
  let inner := (Tlv8.new.set .identifier identifier).set .signature (ltpk ++ serverSecret)
  let sealed := inner.encode ++ (List.zipWith (· ^^^ ·) serverSecret clientSecret).take TAG_LENGTH
  (((Tlv8.new.set .state [0x02]).set .publicKey serverSecret).set .encryptedData sealed).encode

/-- One exchange in the standard formats. -/
def exchange (identifier ltpk : Bytes) : List Call :=
  [.generateM1 .standard (List.replicate 32 0x11),
    .processM2 (answer (List.replicate 32 0x11) (List.replicate 32 0x22) identifier ltpk),
    .generateM3, .processM4 (Tlv8.new.set .state [0x04]).encode]

/-- A machine that pins the receiver's key. -/
def sender : PairVerify := pinned ⟨List.replicate 32 0x55⟩ none receiverKey

theorem keys_verified_sample :
    (Mealy.run (step signing) sender (exchange (ascii "AirPort") receiverKey)).isComplete = true ∧
      Verified signing receiverKey sender (exchange (ascii "AirPort") receiverKey) :=
  ⟨by decide +kernel, keys_verified _ _ receiverKey _
      ⟨bringsOnly_of_none (by decide), bringsOnly_of_none (by decide +kernel),
        bringsOnly_of_none (by decide), bringsOnly_of_none (by decide), trivial⟩⟩

/-- A peer with the key `0xFF…` in place of the identifier. No signature
verifies under the receiver's key, and session keys are released. -/
theorem impersonated :
    (∀ message signature, silentReceiver.ed25519Verify receiverKey message signature = false) ∧
      ¬ Verified silentReceiver receiverKey sender
        (exchange (List.replicate 32 0xFF) (List.replicate 32 0xFF)) := by
  have hr : ∀ message signature,
      silentReceiver.ed25519Verify receiverKey message signature = false := fun _ _ => rfl
  refine ⟨hr, fun hvr => ?_⟩
  have hl : ∃ t ∈ Mealy.trace (step silentReceiver) sender
      (exchange (List.replicate 32 0xFF) (List.replicate 32 0xFF)),
        t.output = .ok (.keys ⟨List.replicate 32 0x33, List.replicate 32 0x33⟩) := by
    decide +kernel
  obtain ⟨t, ht, hk⟩ := hl
  obtain ⟨front, back, hs⟩ := List.append_of_mem ht
  obtain ⟨-, _, -, -, ⟨-, -, hg⟩, -⟩ := hvr front t back _ hs hk
  obtain ⟨_, _, _, _, _, _, -, -, -, -, hv⟩ := hg
  rw [hr] at hv
  cases hv

end OpenAirCast.Pairing.PairVerify

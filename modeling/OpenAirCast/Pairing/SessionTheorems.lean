/-
Pairing.SessionTheorems — a pairing session hands out nothing
before its proof chain is done.

The session keeps a stage beside the machine of each exchange. `Stuck` is
the relation of the two in which every later message of the exchange is
refused; an error leaves the exchange stuck (`stuck_of_failed`), and stuck
it stays (`stuck_step`).

`secrets_follow_proofs` puts the runs of one pair-setup machine and the
runs of a session together.
-/
import OpenAirCast.Pairing.PairSetupTheorems
import OpenAirCast.Pairing.PairVerifyTheorems
import OpenAirCast.Pairing.Session

namespace OpenAirCast.Pairing.PairingSession

open Crypto PairSetup Option PairVerify And

variable {s : PairingSession} {e : Exchange} {call : Call}

/-! ## Exchanges -/

/-- The exchanges a session drives. -/
inductive Exchange where
  | pairSetup
  | transient
  | pairVerify
  deriving DecidableEq

/-- The exchange a call is about. -/
def Call.exchange : Call → Option Exchange
  | .startPairSetup _ _ | .continuePairSetup _ => some .pairSetup
  | .startTransientPairing _ | .startTransientPairingWithPin _ _ | .transientPairingStart _ _
  | .continueTransientPairing _ | .transientPairingContinue _ => some .transient
  | .startPairVerify _ | .continuePairVerify _ => some .pairVerify
  | .takeSessionKeys => none

/-- The exchange a call brings a message of. -/
def Call.continues : Call → Option Exchange
  | .continuePairSetup _ => some .pairSetup
  | .continueTransientPairing _ | .transientPairingContinue _ => some .transient
  | .continuePairVerify _ => some .pairVerify
  | _ => none

variable (s)

def started : Exchange → Bool
  | .pairSetup => s.pairSetup.isSome
  | .transient => s.transientSetup.isSome
  | .pairVerify => s.pairVerify.isSome

def completed : Exchange → Bool
  | .pairSetup => s.isPairSetupComplete
  | .transient => s.isTransientComplete
  | .pairVerify => s.isPairVerifyComplete

/-- The stage and the machine of the exchange are the same. -/
def Same (t : PairingSession) : Exchange → Prop
  | .pairSetup => t.pairSetup = s.pairSetup ∧ t.pairSetupState = s.pairSetupState
  | .transient => t.transientSetup = s.transientSetup ∧ t.transientState = s.transientState
  | .pairVerify => t.pairVerify = s.pairVerify ∧ t.pairVerifyState = s.pairVerifyState

theorem same_refl (e : Exchange) : Same s s e := by
  cases e <;> exact ⟨rfl, rfl⟩

variable {t : PairingSession}

variable {s}

theorem same_trans {u : PairingSession} (h : Same s t e) (h' : Same t u e) : Same s u e := by
  cases e <;> exact ⟨h'.1.trans h.1, h'.2.trans h.2⟩

variable (p : PairSetup)

/-- The machine refuses what the stage waits for. -/
def SetupStuck : PairSetupStage → Prop
  | .waitingM2 => p.state ≠ .m1Sent
  | .waitingM4 => p.state ≠ .m3Sent
  | .waitingM6 => p.state ≠ .m5Sent
  | .notStarted | .complete => True

def TransientStuck : TransientStage → Prop
  | .waitingM2 => p.state ≠ .m1Sent
  | .waitingM4 => p.state ≠ .m3Sent
  | .notStarted | .complete => True

def VerifyStuck (v : PairVerify) : PairVerifyStage → Prop
  | .waitingM2 => v.state ≠ .m1Sent
  | .waitingM4 => v.state ≠ .m3Sent
  | .notStarted | .complete => True

/-- The exchange has started and takes no further message. -/
def Stuck (s : PairingSession) : Exchange → Prop
  | .pairSetup => ∃ p, s.pairSetup = some p ∧ SetupStuck p s.pairSetupState
  | .transient => ∃ p, s.transientSetup = some p ∧ TransientStuck p s.transientState
  | .pairVerify => ∃ v, s.pairVerify = some v ∧ VerifyStuck v s.pairVerifyState

theorem stuck_same (h : Same s t e) (hs : Stuck s e) : Stuck t e := by
  cases e with
  | pairSetup | transient | pairVerify =>
    obtain ⟨mach, hm, ht⟩ := hs
    exact ⟨mach, h.1.trans hm, h.2 ▸ ht⟩

variable {prims : Primitives}

@[simp] theorem failed_error {ε α : Type} (err : ε) : Failed (.error err : Except ε α) = true := rfl

/-! ## The machines inside -/

variable {err : Error}

theorem setup_failed {α : Type} {outc : PairSetup × Except Error α}
    (h : Aborts (fun q : PairSetup => q.state = .failed) outc) {q : PairSetup}
    (ho : outc = (q, .error err)) : q.state = .failed := by
  subst ho
  exact h err rfl

variable {resp : Bytes}

theorem verifyM2_failed {v w : PairVerify}
    (h : v.processM2 prims resp = (w, .error err)) : w.state ≠ .m1Sent := by
  by_cases hs : v.state = .m1Sent
  · have hf := processM2_aborts hs resp err (congrArg Prod.snd h)
    rw [h] at hf
    rw [hf]
    decide
  · have hr : v.processM2 prims resp = (v, .error _) := if_pos hs
    obtain rfl : v = w := congrArg Prod.fst (hr.symm.trans h)
    exact hs

theorem verifyM4_failed {v w : PairVerify}
    (h : v.processM4 prims resp = (w, .error err)) : w.state ≠ .m3Sent := by
  by_cases hs : v.state = .m3Sent
  · have hf := processM4_aborts hs resp err (congrArg Prod.snd h)
    rw [h] at hf
    rw [hf]
    decide
  · have hr : v.processM4 prims resp = (v, .error _) := if_pos hs
    obtain rfl : v = w := congrArg Prod.fst (hr.symm.trans h)
    exact hs

/-! ## One message -/

/-- What a message of the exchange comes to: an error that leaves the
exchange stuck, the next message, or the end. -/
def Continued (s : PairingSession) (e : Exchange) (completes : Prop)
    (outcome : PairingSession × Except Error (Option Bytes)) : Prop :=
  (Failed outcome.2 = true ∧ Stuck outcome.1 e ∧ outcome.1.completed e = s.completed e) ∨
    (Failed outcome.2 = false ∧ (outcome.1.completed e = false ∨ completes))

/-- M6 was accepted. -/
def SetupCompletes (prims : Primitives) (s : PairingSession) (response : Bytes)
    (t : PairingSession) : Prop :=
  ∃ p q secret, s.pairSetup = some p ∧ p.processM6 prims response = (q, .ok secret) ∧
    t.pairSetup = some q ∧ t.sharedSecret = some secret

/-- M4 was accepted, and keys come from its secret. -/
def TransientCompletes (prims : Primitives) (s : PairingSession) (response : Bytes)
    (t : PairingSession) : Prop :=
  ∃ p q r secret keys, s.transientSetup = some p ∧
    p.processM4 prims response = (q, .ok ()) ∧ q.completeTransient = (r, .ok secret) ∧
    SessionKeys.deriveControlKeys prims secret = .ok keys ∧
    t.transientSetup = some r ∧ t.sharedSecret = some secret

/-- M4 was accepted. -/
def VerifyCompletes (prims : Primitives) (s : PairingSession) (response : Bytes)
    (t : PairingSession) : Prop :=
  ∃ v w keys, s.pairVerify = some v ∧ v.processM4 prims response = (w, .ok keys) ∧
    t.pairVerify = some w ∧ t.sessionKeys = some keys

/-- A message of the setup leaves it stuck, going on or complete. -/
theorem continuePairSetup_cases {p : PairSetup} (hp : s.pairSetup = some p) (resp : Bytes) :
    Continued s .pairSetup (SetupCompletes prims s resp
        (s.continuePairSetup prims resp).1) (s.continuePairSetup prims resp) := by
  have hr : ∀ {stage : PairSetupStage} {q : PairSetup} {err : Error} {completes : Prop},
      s.pairSetupState = stage → q.state = .failed → Continued s .pairSetup completes
        ({ s with pairSetup := some q, pairSetupState := stage }, .error err) := by
    rintro _ q err _ rfl hf
    refine .inl ⟨rfl, ⟨q, rfl, ?_⟩, rfl⟩
    cases s.pairSetupState <;> simp [SetupStuck, hf]
  simp only [continuePairSetup, hp, continuePairSetupWith]
  cases hs : s.pairSetupState with
  | notStarted | complete => exact .inl ⟨rfl, ⟨p, hp, by rw [hs]; trivial⟩, rfl⟩
  | waitingM2 =>
    rcases hm2 : p.processM2 prims resp with ⟨q, err | u⟩
    · have hf := setup_failed (processM2_aborts p resp) hm2
      exact hr hs hf
    · rcases hm3 : q.generateM3 with ⟨r, err | _⟩
      · have hf := setup_failed (generateM3_aborts q) hm3
        simp only [hm3]
        exact hr hs hf
      · simp only [hm3]
        exact .inr ⟨rfl, .inl rfl⟩
  | waitingM4 =>
    rcases hm4 : p.processM4 prims resp with ⟨q, err | _⟩
    · have hf := setup_failed (processM4_aborts p resp) hm4
      exact hr hs hf
    · rcases hm5 : q.generateM5 prims s.identity with ⟨r, err | _⟩
      · have hf := setup_failed (generateM5Internal_aborts q _ _) hm5
        simp only [hm5]
        exact hr hs hf
      · simp only [hm5]
        exact .inr ⟨rfl, .inl rfl⟩
  | waitingM6 =>
    rcases hm6 : p.processM6 prims resp with ⟨q, _ | secret⟩
    · have hf := setup_failed (processM6_aborts p resp) hm6
      exact hr hs hf
    · exact .inr ⟨rfl, .inr ⟨p, q, secret, hp, hm6, rfl, rfl⟩⟩

theorem continuePairSetup_stuck {s : PairingSession} (hs : Stuck s .pairSetup)
    (resp : Bytes) : ∃ err, (s.continuePairSetup prims resp).2 = .error err := by
  obtain ⟨p, hp, ht⟩ := hs
  simp only [continuePairSetup, hp, continuePairSetupWith]
  cases hg : s.pairSetupState with
  | notStarted | complete => exact ⟨_, rfl⟩
  | waitingM2 =>
    rw [hg] at ht
    have hm2 : p.processM2 prims resp = (p.abort, .error _) := if_pos ht
    simp [hm2]
  | waitingM4 =>
    rw [hg] at ht
    have hm4 : p.processM4 prims resp = (p.abort, .error _) := if_pos ht
    simp [hm4]
  | waitingM6 =>
    rw [hg] at ht
    have hm6 : p.processM6 prims resp = (p.abort, .error _) := if_pos ht
    simp [hm6]

theorem setupM4_received {p q : PairSetup} {u : Unit}
    (h : p.processM4 prims resp = (q, .ok u)) : q.state = .m4Received := by
  obtain ⟨-, _, _, -, -, -, ha⟩ := processM4_of_ok (congrArg Prod.snd h)
  rw [h] at ha
  exact congrArg PairSetup.state ha

/-- The same for the transient pairing. -/
theorem continueTransientPairing_cases {s : PairingSession} {p : PairSetup}
    (hp : s.transientSetup = some p) (resp : Bytes) :
    Continued s .transient (TransientCompletes prims s resp
        (s.continueTransientPairing prims resp).1) (s.continueTransientPairing prims resp) := by
  simp only [continueTransientPairing, hp, continueTransientPairingWith]
  cases hs : s.transientState with
  | notStarted | complete => exact .inl ⟨rfl, ⟨p, hp, by rw [hs]; trivial⟩, rfl⟩
  | waitingM2 =>
    rcases hm2 : p.processM2 prims resp with ⟨q, err | u⟩
    · have hf := setup_failed (processM2_aborts p resp) hm2
      exact .inl ⟨rfl, ⟨q, rfl, by simp [TransientStuck, hf]⟩,
        by simp [completed, isTransientComplete, hs]⟩
    · rcases hm3 : q.generateM3 with ⟨r, err | _⟩
      · have hf := setup_failed (generateM3_aborts q) hm3
        simp only [hm3]
        exact .inl ⟨rfl, ⟨r, rfl, by simp [TransientStuck, hf]⟩,
          by simp [completed, isTransientComplete, hs]⟩
      · simp only [hm3]
        exact .inr ⟨rfl, .inl rfl⟩
  | waitingM4 =>
    rcases hm4 : p.processM4 prims resp with ⟨q, err | _⟩
    · have hf := setup_failed (processM4_aborts p resp) hm4
      exact .inl ⟨rfl, ⟨q, rfl, by simp [TransientStuck, hf]⟩,
        by simp [completed, isTransientComplete, hs]⟩
    · have hc := setupM4_received hm4
      rcases hd : q.completeTransient with ⟨r, err | secret⟩
      · have hl : r.state = .failed ∨ r = q := by
          have h := @completeTransient_error q err (by rw [hd])
          rwa [hd] at h
        have hr : r.state ≠ .m3Sent := by
          rcases hl with h | rfl
          · rw [h]
            decide
          · rw [hc]
            decide
        simp only [hd]
        exact .inl ⟨rfl, ⟨r, rfl, hr⟩, by simp [completed, isTransientComplete, hs]⟩
      · have hr : r.state = .complete := by
          obtain ⟨-, -, -, ha⟩ := completeTransient_of_ok (congrArg Prod.snd hd)
          rw [hd] at ha
          exact congrArg PairSetup.state ha
        rcases hk : SessionKeys.deriveControlKeys prims secret with _ | keys
        · simp only [hd, hk]
          exact .inl ⟨rfl, ⟨r, rfl, by simp [TransientStuck, hr]⟩,
            by simp [completed, isTransientComplete, hs]⟩
        · simp only [hd, hk]
          exact .inr ⟨rfl, .inr ⟨p, q, r, secret, keys, hp, hm4, hd, hk, rfl, rfl⟩⟩

theorem continueTransientPairing_stuck {s : PairingSession} (hs : Stuck s .transient)
    (resp : Bytes) :
    ∃ err, (s.continueTransientPairing prims resp).2 = .error err := by
  obtain ⟨p, hp, ht⟩ := hs
  simp only [continueTransientPairing, hp, continueTransientPairingWith]
  cases hg : s.transientState with
  | notStarted | complete => exact ⟨_, rfl⟩
  | waitingM2 =>
    rw [hg] at ht
    have hm2 : p.processM2 prims resp = (p.abort, .error _) := if_pos ht
    simp [hm2]
  | waitingM4 =>
    rw [hg] at ht
    have hm4 : p.processM4 prims resp = (p.abort, .error _) := if_pos ht
    simp [hm4]

/-- The same for the verification. -/
theorem continuePairVerify_cases {v : PairVerify} (hv : s.pairVerify = some v) (resp : Bytes) :
    Continued s .pairVerify (VerifyCompletes prims s resp
        (s.continuePairVerify prims resp).1) (s.continuePairVerify prims resp) := by
  simp only [continuePairVerify, hv, continuePairVerifyWith]
  cases hs : s.pairVerifyState with
  | notStarted | complete => exact .inl ⟨rfl, ⟨v, hv, by rw [hs]; trivial⟩, rfl⟩
  | waitingM2 =>
    rcases hm2 : v.processM2 prims resp with ⟨w, err | u⟩
    · have hw : w.state ≠ .m1Sent := verifyM2_failed hm2
      exact .inl ⟨rfl, ⟨w, rfl, hw⟩, by simp [completed, isPairVerifyComplete, hs]⟩
    · have hr : w.state = .m2Received := by
        have h := @processM2_received prims v resp u (by rw [hm2])
        rwa [hm2] at h
      rcases hm3 : w.generateM3 prims with ⟨x, err | _⟩
      · have hx : x = w := by
          have h := generateM3_aborts w err (congrArg Prod.snd hm3)
          rwa [hm3] at h
        simp only [hm3]
        exact .inl ⟨rfl, ⟨x, rfl, by simp [VerifyStuck, hx, hr]⟩,
          by simp [completed, isPairVerifyComplete, hs]⟩
      · simp only [hm3]
        exact .inr ⟨rfl, .inl rfl⟩
  | waitingM4 =>
    rcases hm4 : v.processM4 prims resp with ⟨w, _ | keys⟩
    · have hw : w.state ≠ .m3Sent := verifyM4_failed hm4
      exact .inl ⟨rfl, ⟨w, rfl, hw⟩, by simp [completed, isPairVerifyComplete, hs]⟩
    · exact .inr ⟨rfl, .inr ⟨v, w, keys, hv, hm4, rfl, rfl⟩⟩

theorem continuePairVerify_stuck {s : PairingSession} (hs : Stuck s .pairVerify)
    (resp : Bytes) : ∃ err, (s.continuePairVerify prims resp).2 = .error err := by
  obtain ⟨v, hv, ht⟩ := hs
  simp only [continuePairVerify, hv, continuePairVerifyWith]
  cases hg : s.pairVerifyState with
  | notStarted | complete => exact ⟨_, rfl⟩
  | waitingM2 =>
    rw [hg] at ht
    have hm2 : v.processM2 prims resp = (v, .error _) := if_pos ht
    simp [hm2]
  | waitingM4 =>
    rw [hg] at ht
    have hm4 : v.processM4 prims resp = (v, .error _) := if_pos ht
    simp [hm4]

/-! ## One call -/

/-- The call ended the exchange with the last step of its machine. -/
def Completes (prims : Primitives) (s : PairingSession) (call : Call) (t : PairingSession) :
    Exchange → Prop
  | .pairSetup => ∃ response, call = .continuePairSetup response ∧ SetupCompletes prims s response t
  | .transient =>
    ∃ response, (call = .continueTransientPairing response ∨
      call = .transientPairingContinue response) ∧ TransientCompletes prims s response t
  | .pairVerify =>
    ∃ response, call = .continuePairVerify response ∧ VerifyCompletes prims s response t

/-- Outside the exchange, only the secret and the keys are written. -/
def Writes (s t : PairingSession) : Exchange → Prop
  | .pairSetup => t = { s with
      pairSetup := t.pairSetup
      pairSetupState := t.pairSetupState
      sharedSecret := t.sharedSecret
      sessionKeys := t.sessionKeys }
  | .transient => t = { s with
      transientSetup := t.transientSetup
      transientState := t.transientState
      sharedSecret := t.sharedSecret
      sessionKeys := t.sessionKeys }
  | .pairVerify => t = { s with
      pairVerify := t.pairVerify
      pairVerifyState := t.pairVerifyState
      sharedSecret := t.sharedSecret
      sessionKeys := t.sessionKeys }

theorem Writes.same {other : Exchange} (h : Writes s t e) (ho : other ≠ e) : Same s t other := by
  cases e <;> cases other <;> first
    | exact absurd rfl ho
    | exact ⟨by rw [h], by rw [h]⟩

variable (s)

theorem startPairSetup_writes (pin : String) (a : Nat) :
    Writes s (s.startPairSetup pin a).1 .pairSetup := by
  unfold startPairSetup
  split
  · rfl
  · split <;> rfl

theorem continuePairSetup_writes (resp : Bytes) :
    Writes s (s.continuePairSetup prims resp).1 .pairSetup := by
  unfold continuePairSetup continuePairSetupWith
  repeat' split
  all_goals rfl

theorem startTransientPairingWithPin_writes (pin : String) (a : Nat) :
    Writes s (s.startTransientPairingWithPin pin a).1 .transient := by
  unfold startTransientPairingWithPin
  split
  · rfl
  · split <;> rfl

theorem continueTransientPairing_writes (resp : Bytes) :
    Writes s (s.continueTransientPairing prims resp).1 .transient := by
  unfold continueTransientPairing continueTransientPairingWith
  repeat' split
  all_goals rfl

/-- Taking the keys touches no exchange. -/
theorem transientPairingContinue_same (s : PairingSession) (resp : Bytes) (e : Exchange) :
    Same (s.continueTransientPairing prims resp).1
      (s.transientPairingContinue prims resp).1 e := by
  unfold transientPairingContinue
  rcases s.continueTransientPairing prims resp with ⟨t, err | _ | msg⟩
  · exact same_refl t e
  · simp only [takeSessionKeys]
    split
    all_goals
      rename_i ht
      obtain ⟨rfl, -⟩ := Prod.mk.inj ht
      cases e <;> exact ⟨rfl, rfl⟩
  · exact same_refl t e

theorem startPairVerify_writes (secret : Bytes) :
    Writes s (s.startPairVerify prims secret).1 .pairVerify := by
  unfold startPairVerify
  split
  · rfl
  · split <;> rfl

theorem continuePairVerify_writes (resp : Bytes) :
    Writes s (s.continuePairVerify prims resp).1 .pairVerify := by
  unfold continuePairVerify continuePairVerifyWith
  repeat' split
  all_goals rfl

/-- A call leaves the other exchanges alone. -/
theorem step_same (h : call.exchange ≠ some e) : Same s (s.step prims call).1 e := by
  have ho : ∀ {own : Exchange}, call.exchange = some own → e ≠ own := by
    rintro own hw rfl
    exact h hw
  cases call with
  | startPairSetup pin a => exact (startPairSetup_writes s pin a).same (ho rfl)
  | continuePairSetup resp => exact (continuePairSetup_writes s resp).same (ho rfl)
  | startTransientPairing a =>
    simp only [step, startTransientPairing]
    split
    · exact same_refl s e
    · exact (startTransientPairingWithPin_writes s "3939" a).same (ho rfl)
  | startTransientPairingWithPin pin a | transientPairingStart pin a =>
    exact (startTransientPairingWithPin_writes s pin a).same (ho rfl)
  | continueTransientPairing resp => exact (continueTransientPairing_writes s resp).same (ho rfl)
  | transientPairingContinue resp =>
    exact same_trans ((continueTransientPairing_writes s resp).same (ho rfl))
      (transientPairingContinue_same s resp e)
  | startPairVerify secret => exact (startPairVerify_writes s secret).same (ho rfl)
  | continuePairVerify resp => exact (continuePairVerify_writes s resp).same (ho rfl)
  | takeSessionKeys => cases e <;> exact ⟨rfl, rfl⟩

variable {s}

theorem completed_same (h : Same s t e) : t.completed e = s.completed e := by
  cases e with
  | pairSetup => simp only [completed, isPairSetupComplete, h.2]
  | transient => simp only [completed, isTransientComplete, h.2]
  | pairVerify => simp only [completed, isPairVerifyComplete, h.2]

/-- A transient pairing that is done has its keys. -/
theorem continueTransientPairing_keys {s : PairingSession} {resp : Bytes}
    (h : (s.continueTransientPairing prims resp).2 = .ok none) :
    (s.continueTransientPairing prims resp).1.sessionKeys ≠ none := by
  unfold continueTransientPairing continueTransientPairingWith at h ⊢
  split at h
  · cases h
  · split at h
    · split at h
      · cases h
      · split at h <;> cases h
    · split at h
      · cases h
      · split at h
        · cases h
        · split at h
          · cases h
          · simp
    · cases h
    · cases h

theorem transientPairingContinue_failed (s : PairingSession) (resp : Bytes) :
    Failed (s.transientPairingContinue prims resp).2 =
      Failed (s.continueTransientPairing prims resp).2 := by
  have hk := @continueTransientPairing_keys prims s resp
  unfold transientPairingContinue
  rcases hr : s.continueTransientPairing prims resp with ⟨t, err | _ | msg⟩
  · rfl
  · rw [hr] at hk
    simp only [takeSessionKeys]
    split
    · rfl
    · rename_i ht
      exact absurd (Prod.mk.inj ht).2 (hk rfl)
  · rfl

theorem transientPairingContinue_sharedSecret (s : PairingSession) (resp : Bytes) :
    (s.transientPairingContinue prims resp).1.sharedSecret =
      (s.continueTransientPairing prims resp).1.sharedSecret := by
  unfold transientPairingContinue
  rcases s.continueTransientPairing prims resp with ⟨t, err | _ | msg⟩
  · rfl
  · simp only [takeSessionKeys]
    split
    all_goals
      rename_i ht
      obtain ⟨rfl, -⟩ := Prod.mk.inj ht
      rfl
  · rfl

/-- A message leaves the exchange stuck, going on or complete. -/
theorem step_continued {s : PairingSession} {call : Call} {e : Exchange}
    (h : call.continues = some e) (hs : s.started e = true) :
    ((s.step prims call).2 = true ∧ Stuck (s.step prims call).1 e ∧
        (s.step prims call).1.completed e = s.completed e) ∨
      ((s.step prims call).2 = false ∧ ((s.step prims call).1.completed e = false ∨
        Completes prims s call (s.step prims call).1 e)) := by
  cases call with
  | continuePairSetup resp =>
    obtain rfl : Exchange.pairSetup = e := Option.some.inj h
    obtain ⟨p, hp⟩ := isSome_iff_exists.mp hs
    refine (continuePairSetup_cases hp resp).imp_right (imp_right (Or.imp_right ?_))
    exact fun hc => ⟨resp, rfl, hc⟩
  | continueTransientPairing resp =>
    obtain rfl : Exchange.transient = e := Option.some.inj h
    obtain ⟨p, hp⟩ := isSome_iff_exists.mp hs
    refine (continueTransientPairing_cases hp resp).imp_right (imp_right (Or.imp_right ?_))
    exact fun hc => ⟨resp, .inl rfl, hc⟩
  | transientPairingContinue resp =>
    obtain rfl : Exchange.transient = e := Option.some.inj h
    obtain ⟨p, hp⟩ := isSome_iff_exists.mp hs
    have ht := @transientPairingContinue_same prims s resp .transient
    simp only [step, transientPairingContinue_failed, completed_same ht]
    refine (@continueTransientPairing_cases prims s p hp resp).imp ?_ ?_
    · exact imp_right (imp_left (stuck_same ht))
    · refine imp_right (Or.imp_right ?_)
      rintro ⟨p, q, r, secret, keys, hp, hm4, he, hk, hr, hh⟩
      exact ⟨resp, .inr rfl, p, q, r, secret, keys, hp, hm4, he, hk,
        ht.1.trans hr, (transientPairingContinue_sharedSecret s resp).trans hh⟩
  | continuePairVerify resp =>
    obtain rfl : Exchange.pairVerify = e := Option.some.inj h
    obtain ⟨v, hv⟩ := isSome_iff_exists.mp hs
    refine (continuePairVerify_cases hv resp).imp_right (imp_right (Or.imp_right ?_))
    exact fun hc => ⟨resp, rfl, hc⟩
  | startPairSetup pin a | startTransientPairing a | startTransientPairingWithPin pin a
  | transientPairingStart pin a | startPairVerify secret | takeSessionKeys => cases h

/-- A message of an exchange that has not started is refused. -/
theorem step_unstarted (h : call.continues = some e) (hs : s.started e = false) :
    s.step prims call = (s, true) := by
  cases call with
  | continuePairSetup =>
    obtain rfl : Exchange.pairSetup = e := Option.some.inj h
    have hn : s.pairSetup = none := isNone_iff_eq_none.mp (by simpa [started] using hs)
    simp only [step, continuePairSetup, hn, failed_error]
  | continueTransientPairing resp | transientPairingContinue resp =>
    obtain rfl : Exchange.transient = e := Option.some.inj h
    have hn : s.transientSetup = none := by simpa [started] using hs
    simp only [step, transientPairingContinue, continueTransientPairing, hn, failed_error]
  | continuePairVerify =>
    obtain rfl : Exchange.pairVerify = e := Option.some.inj h
    have hn : s.pairVerify = none := by simpa [started] using hs
    simp only [step, continuePairVerify, hn, failed_error]
  | startPairSetup pin a | startTransientPairing a | startTransientPairingWithPin pin a
  | transientPairingStart pin a | startPairVerify secret | takeSessionKeys => cases h

/-- Starting an exchange again is refused, and starting it does not complete it. -/
theorem step_starts (he : call.exchange = some e) (hs : call.continues ≠ some e) :
    (s.started e = true → (s.step prims call).1 = s) ∧
      ((s.step prims call).1.completed e = true → s.completed e = true) := by
  cases call with
  | startPairSetup pin a | startTransientPairing a | startTransientPairingWithPin pin a
  | transientPairingStart pin a | startPairVerify secret =>
    cases he
    simp only [step, startPairSetup, startTransientPairing, transientPairingStart,
      startTransientPairingWithPin, startPairVerify]
    split
    · exact ⟨fun _ => rfl, fun h => h⟩
    · rename_i hn
      refine ⟨fun h => absurd h hn, ?_⟩
      split
      · exact fun h => h
      · exact fun h => by cases h
  | continuePairSetup resp | continueTransientPairing resp
  | transientPairingContinue resp | continuePairVerify resp => exact absurd he hs
  | takeSessionKeys => cases he

/-- An exchange completes with the last step of its machine. -/
theorem step_completes
    (hb : s.completed e = false) (ha : (s.step prims call).1.completed e = true) :
    (s.step prims call).2 = false ∧ Completes prims s call (s.step prims call).1 e := by
  by_cases hc : call.continues = some e
  · cases hs : s.started e with
    | false =>
      rw [step_unstarted hc hs, hb] at ha
      cases ha
    | true =>
      rcases @step_continued prims s call e hc hs with ⟨-, -, hm⟩ | ⟨ho, hop | h⟩
      · rw [hm, hb] at ha
        cases ha
      · rw [hop] at ha
        cases ha
      · exact ⟨ho, h⟩
  · by_cases he : call.exchange = some e
    · rw [(step_starts he hc).2 ha] at hb
      cases hb
    · rw [completed_same (step_same s he), hb] at ha
      cases ha

theorem stuck_started (h : Stuck s e) : s.started e = true := by
  cases e with
  | pairSetup | transient | pairVerify =>
    obtain ⟨_, hm, -⟩ := h
    simp only [started, hm, isSome_some]

theorem stuck_of_failed
    (h : call.continues = some e) (hs : s.started e = true) (hf : (s.step prims call).2 = true) :
    Stuck (s.step prims call).1 e := by
  rcases @step_continued prims s call e h hs with ⟨-, ht, -⟩ | ⟨ho, -⟩
  · exact ht
  · rw [ho] at hf
    cases hf

theorem failed_of_stuck
    (h : call.continues = some e) (hs : Stuck s e) : (s.step prims call).2 = true := by
  cases call with
  | continuePairSetup resp =>
    obtain rfl : Exchange.pairSetup = e := Option.some.inj h
    obtain ⟨err, he⟩ := @continuePairSetup_stuck prims s hs resp
    simp only [step, he, failed_error]
  | continueTransientPairing resp | transientPairingContinue resp =>
    obtain rfl : Exchange.transient = e := Option.some.inj h
    obtain ⟨err, he⟩ := @continueTransientPairing_stuck prims s hs resp
    simp only [step, transientPairingContinue_failed, he, failed_error]
  | continuePairVerify resp =>
    obtain rfl : Exchange.pairVerify = e := Option.some.inj h
    obtain ⟨_, he⟩ := @continuePairVerify_stuck prims s hs resp
    simp only [step, he, failed_error]
  | startPairSetup pin a | startTransientPairing a | startTransientPairingWithPin pin a
  | transientPairingStart pin a | startPairVerify secret | takeSessionKeys => cases h

/-- No call gets a stuck exchange going. -/
theorem stuck_step (hs : Stuck s e) (call : Call) : Stuck (s.step prims call).1 e := by
  by_cases hc : call.continues = some e
  · exact stuck_of_failed hc (stuck_started hs) (failed_of_stuck hc hs)
  · by_cases he : call.exchange = some e
    · rw [(step_starts he hc).1 (stuck_started hs)]
      exact hs
    · exact stuck_same (step_same s he) hs

/-! ## Runs -/

theorem trace_stuck (hs : Stuck s e) (calls : List Call) :
    ∀ t ∈ Mealy.trace (step prims) s calls, t.input.continues = some e → t.output = true := by
  induction calls generalizing s with
  | nil => simp [Mealy.trace]
  | cons call _ ih =>
    simp only [Mealy.trace, List.forall_mem_cons]
    exact ⟨fun h => failed_of_stuck h hs, ih (stuck_step hs call)⟩

/-- **A secret follows its whole proof chain**, in the runs of a pair-setup
machine and in the runs of a session. -/
theorem secrets_follow_proofs (prims : Primitives) : (∀ pin transient calls front t back secret,
      Mealy.trace (PairSetup.step prims) { pin, transientMode := transient } calls =
        front ++ t :: back →
      t.output = .ok (.secret secret) →
      PairSetup.ReleasedBy prims pin (PairSetup.succeeded front) t.input secret ∧
        ∀ l ∈ back, ∃ err, l.output = .error err) ∧
    (∀ pin transient calls front t back err,
      Mealy.trace (PairSetup.step prims) { pin, transientMode := transient } calls =
        front ++ t :: back →
      t.input.isProcess = true → t.output = .error err →
      ∀ l ∈ back, ∃ later, l.output = .error later) ∧
    (∀ ident calls, ∀ t ∈ Mealy.trace (step prims) (withIdentity ident) calls, ∀ e,
      t.before.completed e = false → t.after.completed e = true →
      t.output = false ∧ Completes prims t.before t.input t.after e) ∧
    (∀ ident calls front t back e,
      Mealy.trace (step prims) (withIdentity ident) calls = front ++ t :: back →
      t.input.continues = some e → t.before.started e = true → t.output = true →
      ∀ l ∈ back, l.input.continues = some e → l.output = true) ∧
    (∀ s : PairingSession, ∀ call e, call.continues = some e → s.started e = false →
      s.step prims call = (s, true)) := by
  refine ⟨?_, ?_, ?_, ?_, fun s call e => step_unstarted⟩
  · intro pin transient calls front t back secret hs hc
    exact released_chain pin transient calls hs hc
  · intro pin transient calls front t back err hs hp he
    exact refused_ends pin transient calls hs hp he
  · intro ident calls t ht e hb ha
    obtain ⟨front, back, hs⟩ := List.append_of_mem ht
    obtain ⟨xs, ys, -, hr, -, -⟩ := Mealy.trace_split hs
    rw [hr] at hb ha ⊢
    exact step_completes hb ha
  · intro ident calls front t back e hs hn hst hf
    obtain ⟨_, ys, -, hr, -, rfl⟩ := Mealy.trace_split hs
    rw [hr] at hst hf ⊢
    exact trace_stuck (stuck_of_failed hn hst hf) ys

/-- A transient pairing releases its secret after both proofs. -/
theorem secrets_follow_proofs_transient : ∃ front t,
    Mealy.trace (PairSetup.step oneKey) { pin := "", transientMode := true }
      (provedCalls ++ [.completeTransient]) = front ++ [t] ∧ t.output = .ok (.secret one) ∧
    PairSetup.ReleasedBy oneKey "" (PairSetup.succeeded front) t.input one := by
  have ho : (PairSetup.step oneKey provedSetup .completeTransient).2 = .ok (.secret one) := rfl
  have hs := Mealy.trace_concat (PairSetup.step oneKey) { pin := "", transientMode := true }
    provedCalls .completeTransient
  rw [run_provedCalls] at hs
  exact ⟨_, _, hs, ho, ((secrets_follow_proofs oneKey).1 _ _ _ _ _ _ _ hs ho).1⟩

end OpenAirCast.Pairing.PairingSession

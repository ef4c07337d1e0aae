/-
Pairing.ChannelTheorems — what a decryption does to the counter
of the frames.

The frames of an input are opened one by one, and each that opens moves the
counter; so the counter has moved by the number of `opened` frames whatever
becomes of the rest (`decryptFrames_counter`), and the input is accepted
when it is nothing but frames that open (`decryptFrames_isOk`). A failure
therefore leaves the counter alone exactly when the first frame already
fails, unlike in `decryptBlock`, where every failure does.
-/
import OpenAirCast.Crypto.ChachaTheorems
import OpenAirCast.Pairing.Channel

namespace OpenAirCast.Crypto

open List

/-! ## Frames that open -/

/-- The frame opens under this counter, with its length as additional data. -/
def Authentic (aead : Aead) (key : Bytes) (counter : UInt64) (frame : Bytes) : Prop :=
  (aead.decrypt key (buildNonceFromCounter counter) (frame.take 2) (frame.drop 2)).isSome

instance (aead : Aead) (key : Bytes) (counter : UInt64) (frame : Bytes) :
    Decidable (Authentic aead key counter frame) :=
  inferInstanceAs (Decidable (_ = true))

/-- The frames open one after the other from this counter on. -/
def AllAuthentic (aead : Aead) (key : Bytes) : UInt64 → List Bytes → Prop
  | _, [] => True
  | counter, frame :: rest =>
    Authentic aead key counter frame ∧ AllAuthentic aead key (counter + 1) rest

/-- How many frames open before the first that does not. -/
def opened (aead : Aead) (key : Bytes) : UInt64 → List Bytes → Nat
  | _, [] => 0
  | counter, frame :: rest =>
    if Authentic aead key counter frame then 1 + opened aead key (counter + 1) rest else 0

variable {aead : Aead} {key : Bytes}

theorem opened_le_length (frames : List Bytes) : ∀ ctr : UInt64,
    opened aead key ctr frames ≤ frames.length := by
  induction frames with
  | nil => simp [opened]
  | cons _ _ ih =>
    intro ctr
    have hr := ih (ctr + 1)
    simp only [opened, length_cons]
    split <;> omega

theorem opened_of_allAuthentic (frames : List Bytes) : ∀ ctr : UInt64,
    AllAuthentic aead key ctr frames → opened aead key ctr frames = frames.length := by
  induction frames with
  | nil => simp [opened]
  | cons _ _ ih =>
    intro ctr h
    simp only [opened, if_pos h.1, ih _ h.2, length_cons]
    omega

/-- None opens when the first does not. -/
theorem opened_eq_zero {ctr : UInt64} {frames : List Bytes} : opened aead key ctr frames = 0 ↔
      ∀ frm ∈ frames.head?, ¬ Authentic aead key ctr frm := by
  cases frames with
  | nil => simp [opened]
  | cons frm =>
    by_cases h : Authentic aead key ctr frm
    · simp [opened, h]
    · simp [opened, h]

/-! ## Cutting frames off an input -/

/-- A frame is cut off as soon as it is whole. -/
theorem splitFrames_whole {data : Bytes} {frm : Nat} (h : parseFrameLength data = some frm)
    (hw : ¬ data.length < frm) :
    splitFrames data = data.take frm :: splitFrames (data.drop frm) := by
  rw [splitFrames]
  split
  · simp_all
  · rename_i frame' hf
    obtain rfl := Option.some.inj (h.symm.trans hf)
    rw [if_neg hw]

theorem splitFrames_cut {data : Bytes} {frm : Nat} (h : parseFrameLength data = some frm)
    (hc : data.length < frm) : splitFrames data = [] := by
  rw [splitFrames]
  split
  · rfl
  · rename_i frame' hf
    obtain rfl := Option.some.inj (h.symm.trans hf)
    rw [if_pos hc]

theorem splitFrames_none {data : Bytes} (h : parseFrameLength data = none) :
    splitFrames data = [] := by
  rw [splitFrames]
  split
  · rfl
  · simp_all

/-- A frame has its length bytes and its tag at least. -/
theorem length_splitFrames (data : Bytes) : 18 * (splitFrames data).length ≤ data.length := by
  induction data using splitFrames.induct with
  | case1 _ h => simp [splitFrames_none h]
  | case2 _ _ h hc => simp [splitFrames_cut h hc]
  | case3 _ frm h hw ih =>
    have hf : 18 ≤ frm := by
      unfold parseFrameLength TAG_LENGTH at h
      split at h
      · have := Option.some.inj h
        omega
      · cases h
    rw [splitFrames_whole h hw]
    simp only [length_cons, length_drop] at ih ⊢
    omega

namespace ControlCipher

/-! ## One turn of the loop -/

theorem decryptFrames_none {data : Bytes} (h : parseFrameLength data = none) (c : ControlCipher) :
    decryptFrames aead c data =
      (c, if data = [] then .ok [] else .error (.decryption "Incomplete length prefix")) := by
  match data with
  | [] => simp [decryptFrames]
  | [_] => simp [decryptFrames]
  | _ :: _ :: _ => simp [parseFrameLength] at h

theorem decryptFrames_cut {data : Bytes} {frm : Nat} (h : parseFrameLength data = some frm)
    (hc : data.length < frm) (c : ControlCipher) :
    decryptFrames aead c data = (c, .error (.decryption "Incomplete ciphertext block")) := by
  match data with
  | [] => simp [parseFrameLength] at h
  | [_] => simp [parseFrameLength] at h
  | low :: high :: rest =>
    simp only [parseFrameLength, Option.some.injEq] at h
    simp only [length_cons] at hc
    have hs : rest.length < fromLeBytes [low, high] + TAG_LENGTH := by omega
    simp only [decryptFrames, if_pos hs]

/-- A whole frame goes to `decryptBlock`. -/
theorem decryptFrames_whole {data : Bytes} {frm : Nat} (h : parseFrameLength data = some frm)
    (hw : ¬ data.length < frm) (c : ControlCipher) :
    (Authentic aead c.readKey c.decryptCounter (data.take frm) →
      ∃ plaintext, (decryptFrames aead c data).1 =
          (decryptFrames aead (c.afterOpening 1) (data.drop frm)).1 ∧
        (decryptFrames aead c data).2 =
          (decryptFrames aead (c.afterOpening 1) (data.drop frm)).2.map (plaintext ++ ·)) ∧
    (¬ Authentic aead c.readKey c.decryptCounter (data.take frm) → decryptFrames aead c data =
        (c, .error (.decryption "Decryption/authentication failed"))) := by
  match data with
  | [] => simp [parseFrameLength] at h
  | [_] => simp [parseFrameLength] at h
  | low :: high :: rest =>
    obtain ⟨blockLen, hlen⟩ : ∃ n, n = fromLeBytes [low, high] := ⟨_, rfl⟩
    have hp : toLeBytes 2 blockLen = [low, high] := by
      rw [hlen]
      exact toLeBytes_fromLeBytes [low, high]
    have hf : frm = blockLen + TAG_LENGTH + 2 := by
      simp only [parseFrameLength, Option.some.injEq, ← hlen] at h
      omega
    have hr : ¬ rest.length < blockLen + TAG_LENGTH := by
      simp only [length_cons] at hw
      omega
    have hb : ¬ (rest.take (blockLen + TAG_LENGTH)).length < blockLen + TAG_LENGTH := by
      simp only [length_take]
      omega
    have hd : (low :: high :: rest).drop frm = rest.drop (blockLen + TAG_LENGTH) := by
      rw [hf]
      rfl
    have ha : Authentic aead c.readKey c.decryptCounter ((low :: high :: rest).take frm) ↔
          (aead.decrypt c.readKey (buildNonceFromCounter c.decryptCounter) [low, high]
            (rest.take (blockLen + TAG_LENGTH))).isSome := by
      rw [hf]
      rfl
    rw [ha, hd, decryptFrames]
    simp only [← hlen, if_neg hr, decryptBlock, if_neg hb, hp]
    cases hc : aead.decrypt c.readKey (buildNonceFromCounter c.decryptCounter) [low, high]
        (rest.take (blockLen + TAG_LENGTH)) with
    | none => simp
    | some plaintext =>
      have ht : ({ c with decryptCounter := c.decryptCounter + 1 } : ControlCipher)
          = c.afterOpening 1 := rfl
      simp only [ht]
      refine ⟨fun _ => ⟨plaintext, ?_⟩, fun hn => absurd rfl hn⟩
      cases hl : decryptFrames aead (c.afterOpening 1) (rest.drop (blockLen + TAG_LENGTH)) with
      | mk c' res => cases res <;> simp [Except.map]

/-! ## The whole loop -/

theorem decryptFrames_counter (data : Bytes) : ∀ c : ControlCipher, (decryptFrames aead c data).1 =
      c.afterOpening (opened aead c.readKey c.decryptCounter (splitFrames data)) := by
  induction data using splitFrames.induct with
  | case1 _ h =>
    intro c
    simp [decryptFrames_none h, splitFrames_none h, opened]
  | case2 _ _ h hc =>
    intro c
    simp [decryptFrames_cut h hc, splitFrames_cut h hc, opened]
  | case3 data frm h hw ih =>
    intro c
    have ht := @decryptFrames_whole aead _ _ h hw c
    rw [splitFrames_whole h hw, opened]
    split
    · rename_i ha
      obtain ⟨plaintext, hp, -⟩ := ht.1 ha
      rw [hp, ih, afterOpening_add]
      rfl
    · rename_i hf
      rw [ht.2 hf, afterOpening_zero]

/-- The input is accepted when it is frames that open, and nothing else. -/
theorem decryptFrames_isOk (data : Bytes) : ∀ c : ControlCipher,
    (decryptFrames aead c data).2.isOk = true ↔ (splitFrames data).flatten = data ∧
        AllAuthentic aead c.readKey c.decryptCounter (splitFrames data) := by
  induction data using splitFrames.induct with
  | case1 data h =>
    intro c
    by_cases hd : data = []
    · subst hd
      simp [decryptFrames_none h, splitFrames_none h, AllAuthentic, Except.isOk, Except.toBool]
    · have ho : ¬ [] = data := fun hnil => hd hnil.symm
      simp [decryptFrames_none h, splitFrames_none h, hd, ho, Except.isOk, Except.toBool]
  | case2 data _ h hc =>
    intro c
    have ho : ¬ [] = data := by
      rintro rfl
      simp [parseFrameLength] at h
    simp [decryptFrames_cut h hc, splitFrames_cut h hc, ho, Except.isOk, Except.toBool]
  | case3 data frm h hw ih =>
    intro c
    have ht := @decryptFrames_whole aead _ _ h hw c
    have hf : (data.take frm ++ (splitFrames (data.drop frm)).flatten = data) ↔
        (splitFrames (data.drop frm)).flatten = data.drop frm := by
      conv_lhs => rhs; rw [← take_append_drop frm data]
      rw [append_cancel_left_eq]
    rw [splitFrames_whole h hw, flatten_cons, hf, AllAuthentic]
    by_cases ha : Authentic aead c.readKey c.decryptCounter (data.take frm)
    · obtain ⟨plaintext, -, hr⟩ := ht.1 ha
      have hl := ih (c.afterOpening 1)
      rw [hr]
      have hm : ∀ res : Except CryptoError Bytes, (res.map (plaintext ++ ·)).isOk = res.isOk := by
        intro res
        cases res <;> rfl
      rw [hm, hl]
      simp only [ha, true_and]
      rfl
    · rw [ht.2 ha]
      simp [ha, Except.isOk, Except.toBool]

end ControlCipher

/-! ## The counter of a reader -/

/-- A failure leaves the counter alone, a success moves it by the frames of
the input. -/
def Advances {ε : Type} (before after : UInt64) (data : Bytes) : Except ε Bytes → Prop
  | .error _ => after = before
  | .ok _ => after = before + UInt64.ofNat (splitFrames data).length

/-- The first frame of the input does not open, or all of it are frames that
do. -/
def AllOrNothing (aead : Aead) (key : Bytes) (counter : UInt64) (data : Bytes) : Prop :=
  (∀ frame ∈ (splitFrames data).head?, ¬ Authentic aead key counter frame) ∨
    (splitFrames data).flatten = data ∧ AllAuthentic aead key counter (splitFrames data)

/-- Fewer than 2^64 frames do not bring a counter back to where it was. -/
theorem counter_kept_iff {ctr : UInt64} {n : Nat} (h : n < 18446744073709551616) :
    ctr + UInt64.ofNat n = ctr ↔ n = 0 := by
  constructor
  · intro hs
    have hn := congrArg UInt64.toNat hs
    have hc := ctr.toNat_lt
    simp only [UInt64.toNat_add, UInt64.toNat_ofNat'] at hn
    omega
  · rintro rfl
    simp

namespace ControlCipher

/-- `decrypt` is its loop, for what is too short for a frame too. -/
theorem decrypt_counter (c : ControlCipher) (data : Bytes) : (decrypt aead c data).1 =
      c.afterOpening (opened aead c.readKey c.decryptCounter (splitFrames data)) := by
  unfold decrypt
  split
  · rename_i hs
    have hf := length_splitFrames data
    have hn : splitFrames data = [] := eq_nil_of_length_eq_zero (by omega)
    simp [hn, opened]
  · exact decryptFrames_counter data c

theorem decrypt_isOk (c : ControlCipher) (data : Bytes) :
    (decrypt aead c data).2.isOk = true ↔ data ≠ [] ∧ (splitFrames data).flatten = data ∧
      AllAuthentic aead c.readKey c.decryptCounter (splitFrames data) := by
  unfold decrypt
  split
  · rename_i hs
    have hf := length_splitFrames data
    have hn : splitFrames data = [] := eq_nil_of_length_eq_zero (by omega)
    have he : ¬ (data ≠ [] ∧ [] = data) := by grind
    simp only [hn, flatten_nil, Except.isOk, Except.toBool]
    grind
  · rename_i hl
    have hd : data ≠ [] := by
      rintro rfl
      simp at hl
    rw [decryptFrames_isOk, and_iff_right hd]

/-- A decryption that fails leaves the counter alone exactly when it fails at
its first frame. -/
theorem decrypt_advances_iff (c : ControlCipher) {data : Bytes}
    (h : data.length < 18446744073709551616) :
    Advances c.decryptCounter (decrypt aead c data).1.decryptCounter data (decrypt aead c data).2 ↔
      AllOrNothing aead c.readKey c.decryptCounter data := by
  have hc := congrArg decryptCounter (@decrypt_counter aead c data)
  have ho := @decrypt_isOk aead c data
  have hf : opened aead c.readKey c.decryptCounter (splitFrames data) < 18446744073709551616 := by
    have hop := @opened_le_length aead c.readKey (splitFrames data) c.decryptCounter
    have hlen := length_splitFrames data
    omega
  rw [hc]
  cases hr : (decrypt aead c data).2 with
  | ok =>
    rw [hr] at ho
    obtain ⟨-, hw, hall⟩ := ho.mp rfl
    have ha : (c.afterOpening (opened aead c.readKey c.decryptCounter
        (splitFrames data))).decryptCounter
          = c.decryptCounter + UInt64.ofNat (splitFrames data).length := by
      rw [opened_of_allAuthentic _ _ hall]
      rfl
    exact iff_of_true ha (.inr ⟨hw, hall⟩)
  | error error =>
    rw [hr] at ho
    have hk : Advances c.decryptCounter (c.afterOpening (opened aead c.readKey
        c.decryptCounter (splitFrames data))).decryptCounter data (Except.error error :
          Except CryptoError Bytes) ↔
        opened aead c.readKey c.decryptCounter (splitFrames data) = 0 := counter_kept_iff hf
    rw [hk, opened_eq_zero, AllOrNothing]
    constructor
    · exact .inl
    · rintro (hs | ⟨hw, hall⟩)
      · exact hs
      · intro frame hfr
        -- only the empty input is whole and still refused
        have he : data = [] := by
          by_contra hd
          exact absurd (ho.mpr ⟨hd, hw, hall⟩) (by simp [Except.isOk, Except.toBool])
        subst he
        simp [@splitFrames_none [] rfl] at hfr

end ControlCipher

end OpenAirCast.Crypto

namespace OpenAirCast.Pairing

open Crypto

/-- Of both readers: their counter is true to what they gave back exactly
when the input fails at its first frame or not at all. -/
theorem failed_decryption_keeps_counter_iff (aead : Aead) (data : Bytes)
    (h : data.length < 18446744073709551616) :
    (∀ c : ControlCipher, Advances c.decryptCounter (c.decrypt aead data).1.decryptCounter data
          (c.decrypt aead data).2 ↔
        AllOrNothing aead c.readKey c.decryptCounter data) ∧
    (∀ channel : EncryptedChannel,
      Advances channel.readNonce (channel.decrypt aead data).1.readNonce data
          (channel.decrypt aead data).2 ↔
        AllOrNothing aead channel.readCipher.readKey channel.readNonce data) := by
  refine ⟨fun c => c.decrypt_advances_iff h, fun channel => ?_⟩
  have hc := @ControlCipher.decrypt_advances_iff aead channel.readCipher data h
  have hm : ∀ res : Except CryptoError Bytes, ∀ after : UInt64,
      Advances channel.readNonce after data (res.mapError Error.crypto) ↔
        Advances channel.readNonce after data res := by
    intro res after
    cases res <;> exact Iff.rfl
  exact (hm _ _).trans hc

/-! ## A frame and a stray byte -/

/-- A block as a cipher at this counter seals it. -/
def sealedAt (key : Bytes) (counter : UInt64) (block : Bytes) : Sealed :=
  ⟨buildNonceFromCounter counter, block,
    ChaChaPoly.encrypt key (buildNonceFromCounter counter) (toLeBytes 2 block.length) block⟩

theorem sealedAt_readable (key : Bytes) (ctr : UInt64) {block : Bytes}
    (h : block.length ≤ MAX_BLOCK) :
    Readable chachaPoly key ctr [sealedAt key ctr block] :=
  ⟨h, ChaChaPoly.length_encrypt _ _ _ _, rfl, ChaChaPoly.decrypt_encrypt _ _ _ _, trivial⟩

/-- The first frame a peer sends. -/
def greeting : Sealed := sealedAt (List.replicate 32 1) 0 [72, 105]

/-- Who reads with that key. -/
def greeted : ControlCipher := .new (List.replicate 32 2) (List.replicate 32 1)

theorem greeting_readable : Readable chachaPoly greeted.readKey greeted.decryptCounter [greeting] :=
  sealedAt_readable _ _ (by decide)

theorem length_greeting : greeting.frame.length = 20 := by
  have ht : greeting.ciphertextWithTag.length = 2 + TAG_LENGTH := ChaChaPoly.length_encrypt _ _ _ _
  simp [Sealed.frame, ht, TAG_LENGTH]

/-- The frame opens and the byte behind it does not begin another. -/
theorem greeting_stray (stray : UInt8) : greeted.decrypt chachaPoly (greeting.frame ++ [stray]) =
    (greeted.afterOpening 1, .error (.decryption "Incomplete length prefix")) := by
  obtain ⟨low, high, hf, hb⟩ := ControlCipher.frame_eq greeting
  have hbloLen : fromLeBytes [low, high] = greeting.block.length := by
    rw [hb]
    exact ControlCipher.fromLeBytes_length greeting_readable.1
  have hs := ControlCipher.decryptBlock_readable greeting_readable
  have hl : ¬ (greeting.frame ++ [stray]).length < 18 := by simp [length_greeting]
  have hw : greeting.block.length + TAG_LENGTH = greeting.ciphertextWithTag.length :=
    greeting_readable.2.1.symm
  have hr : ¬ (greeting.ciphertextWithTag ++ [stray]).length
      < greeting.ciphertextWithTag.length := by simp
  rw [ControlCipher.decrypt, if_neg hl, hf, List.cons_append, List.cons_append,
    ControlCipher.decryptFrames]
  simp only [hbloLen, hw, if_neg hr, List.take_left, List.drop_left, hs,
    ControlCipher.decryptFrames]

/-- By itself the frame is accepted; with a stray byte behind it the input is
refused, and the counter has moved all the same. -/
theorem stray_byte_moves_counter :
    greeted.decrypt chachaPoly greeting.frame = (greeted.afterOpening 1, .ok [72, 105]) ∧
    greeted.decrypt chachaPoly (greeting.frame ++ [0]) =
      (greeted.afterOpening 1, .error (.decryption "Incomplete length prefix")) ∧
    greeted.decryptCounter = 0 ∧ (greeted.afterOpening 1).decryptCounter = 1 ∧
    ¬ Advances greeted.decryptCounter
        (greeted.decrypt chachaPoly (greeting.frame ++ [0])).1.decryptCounter
        (greeting.frame ++ [0]) (greeted.decrypt chachaPoly (greeting.frame ++ [0])).2 := by
  have ha := ControlCipher.decrypt_readable (by simp) greeting_readable
  have hs := greeting_stray 0
  rw [List.flatMap_singleton, List.flatMap_singleton] at ha
  refine ⟨ha, hs, rfl, rfl, ?_⟩
  rw [hs]
  show ¬ (greeted.afterOpening 1).decryptCounter = greeted.decryptCounter
  decide

theorem failed_decryption_keeps_counter_of_greeting :
    (greeting.frame ++ [0]).length < 18446744073709551616 ∧
    ¬ AllOrNothing chachaPoly greeted.readKey greeted.decryptCounter (greeting.frame ++ [0]) := by
  have hs : (greeting.frame ++ [0]).length < 18446744073709551616 := by simp [length_greeting]
  have hi := (failed_decryption_keeps_counter_iff chachaPoly _ hs).1 greeted
  refine ⟨hs, fun hc => ?_⟩
  have ha := hi.mpr hc
  rw [greeting_stray 0] at ha
  exact absurd ha (by decide : ¬ (greeted.afterOpening 1).decryptCounter = 0)

end OpenAirCast.Pairing

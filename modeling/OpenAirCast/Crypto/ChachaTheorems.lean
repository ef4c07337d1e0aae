/-
Crypto.ChachaTheorems — the encrypted control channel is a
faithful byte stream.

`Readable` says of sealed blocks that a reader at a given counter can open
them one after the other. What a cipher seals is readable at the counter it
started with (`sealBlocks_readable`), and readable blocks come back whichever
way they are read: in one buffer (`decryptFrames_readable`) or frame by
frame (`decryptFrame_readable`). The counters are 64-bit words, so they say
how many blocks there were up to a multiple of 2^64.
-/
import Mathlib.Algebra.Order.Ring.Nat
import OpenAirCast.Crypto.Chacha
import OpenAirCast.Lib.ChaChaPoly

namespace OpenAirCast.Crypto

open List Sealed

/-- What the channel relies on: a block can be sealed, sealing adds the tag,
and opening with the same key, nonce and additional data undoes it. -/
structure Aead.Sound (aead : Aead) : Prop where
  seals : ∀ key nonce aad msg : Bytes, msg.length ≤ MAX_BLOCK →
    ∃ ciphertext, aead.encrypt key nonce aad msg = some ciphertext ∧
      ciphertext.length = msg.length + TAG_LENGTH ∧
      aead.decrypt key nonce aad ciphertext = some msg

/-- The blocks a reader with this key can open from this counter on. -/
def Readable (aead : Aead) (key : Bytes) : UInt64 → List Sealed → Prop
  | _, [] => True
  | counter, s :: rest =>
    s.block.length ≤ MAX_BLOCK ∧ s.ciphertextWithTag.length = s.block.length + TAG_LENGTH ∧
      s.nonce = buildNonceFromCounter counter ∧
      aead.decrypt key s.nonce (toLeBytes 2 s.block.length) s.ciphertextWithTag = some s.block ∧
      Readable aead key (counter + 1) rest

variable {aead : Aead} {key : Bytes}

namespace ControlCipher

/-- The cipher after that many blocks were sealed. -/
def afterSealing (c : ControlCipher) (n : Nat) : ControlCipher :=
  { c with encryptCounter := c.encryptCounter + UInt64.ofNat n }

/-- The cipher after that many blocks were opened. -/
def afterOpening (c : ControlCipher) (n : Nat) : ControlCipher :=
  { c with decryptCounter := c.decryptCounter + UInt64.ofNat n }

section

variable (c : ControlCipher)

@[simp] theorem afterSealing_zero : c.afterSealing 0 = c := by
  simp [afterSealing]

@[simp] theorem afterOpening_zero : c.afterOpening 0 = c := by
  simp [afterOpening]

theorem afterSealing_add (n m : Nat) :
    (c.afterSealing n).afterSealing m = c.afterSealing (n + m) := by
  simp [afterSealing, UInt64.ofNat_add, UInt64.add_assoc]

theorem afterOpening_add (n m : Nat) :
    (c.afterOpening n).afterOpening m = c.afterOpening (n + m) := by
  simp [afterOpening, UInt64.ofNat_add, UInt64.add_assoc]

end

end ControlCipher

theorem counter_succ (ctr : UInt64) (n : Nat) :
    ctr + 1 + UInt64.ofNat n = ctr + UInt64.ofNat (n + 1) := by
  rw [UInt64.ofNat_add, UInt64.add_assoc, UInt64.add_comm 1]
  rfl

theorem readable_append (ys : List Sealed) : ∀ (xs : List Sealed) (ctr : UInt64),
    Readable aead key ctr (xs ++ ys) ↔
      Readable aead key ctr xs ∧ Readable aead key (ctr + UInt64.ofNat xs.length) ys := by
  intro xs
  induction xs with
  | nil => simp [Readable]
  | cons _ _ ih =>
    intro ctr
    simp only [cons_append, Readable, ih, length_cons, counter_succ, and_assoc]

theorem nonce_of_readable : ∀ (blks : List Sealed) (ctr : UInt64),
    Readable aead key ctr blks → ∀ (i : Nat) (h : i < blks.length),
      (blks.get ⟨i, h⟩).nonce = buildNonceFromCounter (ctr + UInt64.ofNat i) := by
  intro blks
  induction blks with
  | nil => exact fun _ _ _ h => absurd h (by simp)
  | cons _ rest ih =>
    intro ctr hr i h
    obtain ⟨-, -, hn, -, hs⟩ := hr
    cases i with
    | zero => simpa using hn
    | succ i =>
      have hi : i < rest.length := by simpa using h
      have hl := ih (ctr + 1) hs i hi
      rw [counter_succ] at hl
      exact hl

theorem block_of_readable : ∀ (blks : List Sealed) (ctr : UInt64),
    Readable aead key ctr blks → ∀ s ∈ blks, s.block.length ≤ MAX_BLOCK := by
  intro blks
  induction blks with
  | nil => simp
  | cons _ _ ih =>
    intro ctr hr other ho
    rcases mem_cons.mp ho with rfl | ho
    · exact hr.1
    · exact ih _ hr.2.2.2.2 other ho

/-! ## Sealing -/

namespace ControlCipher

/-- What a cipher seals is readable at the counter it started with. -/
theorem sealBlocks_readable (sound : aead.Sound) (blks : List Bytes) : ∀ (c : ControlCipher),
    (∀ block ∈ blks, block.length ≤ MAX_BLOCK) →
    ∃ sealedBlocks,
      inOrder (sealBlock aead) c blks = (c.afterSealing blks.length, .ok sealedBlocks) ∧
      sealedBlocks.map (·.block) = blks ∧
      Readable aead c.writeKey c.encryptCounter sealedBlocks := by
  induction blks with
  | nil =>
    intro c _
    refine ⟨[], ?_, rfl, trivial⟩
    simp [inOrder]
  | cons block _ ih =>
    intro c hs
    rw [forall_mem_cons] at hs
    obtain ⟨ciphertext, he, hlen, hd⟩ := sound.seals c.writeKey
      (buildNonceFromCounter c.encryptCounter) (toLeBytes 2 block.length) block hs.1
    have hf : sealBlock aead c block = (c.afterSealing 1,
        .ok ⟨buildNonceFromCounter c.encryptCounter, block, ciphertext⟩) := by
      simp only [sealBlock, he]
      rfl
    obtain ⟨later, hr, hb, hrd⟩ := ih (c.afterSealing 1) hs.2
    refine ⟨⟨buildNonceFromCounter c.encryptCounter, block, ciphertext⟩ :: later, ?_, ?_,
      hs.1, hlen, rfl, hd, hrd⟩
    · rw [inOrder_cons hf hr, afterSealing_add, Nat.add_comm 1, length_cons]
    · rw [map_cons, hb]

/-! ## Opening -/

/-- A frame is its two length bytes, then the ciphertext. -/
theorem frame_eq (s : Sealed) : ∃ low high : UInt8, s.frame = low :: high :: s.ciphertextWithTag ∧
    [low, high] = toLeBytes 2 s.block.length :=
  ⟨_, _, rfl, rfl⟩

theorem fromLeBytes_length {block : Bytes} (h : block.length ≤ MAX_BLOCK) :
    fromLeBytes (toLeBytes 2 block.length) = block.length := by
  rw [fromLeBytes_toLeBytes, Nat.mod_eq_of_lt (lt_of_le_of_lt h (by decide))]

variable {c : ControlCipher}

/-- The first of the readable blocks is opened. -/
theorem decryptBlock_readable {s : Sealed} {rest : List Sealed}
    (h : Readable aead c.readKey c.decryptCounter (s :: rest)) :
    decryptBlock aead c s.ciphertextWithTag s.block.length = (c.afterOpening 1, .ok s.block) := by
  obtain ⟨-, _, hn, hd, -⟩ := h
  have hl : ¬ s.ciphertextWithTag.length < s.block.length + TAG_LENGTH := by omega
  rw [hn] at hd
  simp only [decryptBlock, if_neg hl, hd]
  rfl

variable (blks : List Sealed)

/-- Readable blocks in one buffer come back in order. -/
theorem decryptFrames_readable : ∀ (c : ControlCipher),
    Readable aead c.readKey c.decryptCounter blks → decryptFrames aead c (blks.flatMap frame) =
        (c.afterOpening blks.length, .ok (blks.flatMap (·.block))) := by
  induction blks with
  | nil =>
    intro c _
    rw [flatMap_nil, decryptFrames]
    simp
  | cons s rest ih =>
    intro c h
    obtain ⟨low, high, hf, hb⟩ := frame_eq s
    have hbloLen : fromLeBytes [low, high] = s.block.length := by
      rw [hb]
      exact fromLeBytes_length h.1
    have hs := decryptBlock_readable h
    have hl := ih (c.afterOpening 1) h.2.2.2.2
    have hw : s.block.length + TAG_LENGTH = s.ciphertextWithTag.length := h.2.1.symm
    have hr : ¬ (s.ciphertextWithTag ++ rest.flatMap frame).length
        < s.ciphertextWithTag.length := by simp
    rw [flatMap_cons, hf, cons_append, cons_append, decryptFrames]
    simp only [hbloLen, hw, if_neg hr, take_left, drop_left, hs, hl]
    rw [afterOpening_add, Nat.add_comm 1, length_cons, flatMap_cons]

/-- The same with a whole number of frames in each buffer. -/
theorem decrypt_readable {blks : List Sealed} (hne : blks ≠ [])
    (h : Readable aead c.readKey c.decryptCounter blks) :
    decrypt aead c (blks.flatMap frame) =
      (c.afterOpening blks.length, .ok (blks.flatMap (·.block))) := by
  obtain ⟨s, rest, rfl⟩ := exists_cons_of_ne_nil hne
  have hl : ¬ ((s :: rest).flatMap frame).length < 18 := by
    have hlen : s.ciphertextWithTag.length = s.block.length + TAG_LENGTH := h.2.1
    have hf : s.frame.length = 2 + s.ciphertextWithTag.length := by simp [frame]
    rw [flatMap_cons, length_append, hf, hlen]
    unfold TAG_LENGTH
    omega
  rw [decrypt, if_neg hl, decryptFrames_readable _ _ h]

/-- However the blocks are put into buffers, they come back buffer by
buffer. -/
theorem inOrder_decrypt_readable (groups : List (List Sealed)) : ∀ (c : ControlCipher),
    (∀ group ∈ groups, group ≠ []) → Readable aead c.readKey c.decryptCounter groups.flatten →
      inOrder (decrypt aead) c (groups.map (·.flatMap frame)) =
        (c.afterOpening groups.flatten.length, .ok (groups.map (·.flatMap (·.block)))) := by
  induction groups with
  | nil =>
    intro c _ _
    simp [inOrder]
  | cons group _ ih =>
    intro c hne h
    rw [forall_mem_cons] at hne
    rw [flatten_cons, readable_append] at h
    have hl := ih (c.afterOpening group.length) hne.2 h.2
    rw [map_cons, inOrder_cons (decrypt_readable hne.1 h.1) hl, afterOpening_add,
      flatten_cons, length_append, map_cons]

/-- A buffer of whole frames falls apart into them. -/
theorem splitFrames_frames : ∀ ctr : UInt64, Readable aead key ctr blks →
      splitFrames (blks.flatMap frame) = blks.map frame := by
  induction blks with
  | nil =>
    intro _ _
    rw [flatMap_nil, splitFrames]
    rfl
  | cons s rest ih =>
    intro ctr h
    obtain ⟨low, high, hf, hb⟩ := frame_eq s
    have hlen : s.frame.length = 2 + s.block.length + TAG_LENGTH := by
      rw [hf, length_cons, length_cons, h.2.1]
      omega
    have hp : parseFrameLength (s.frame ++ rest.flatMap frame) = some s.frame.length := by
      rw [hf, cons_append, cons_append, parseFrameLength, hb, fromLeBytes_length h.1, ← hf, hlen]
    have hr : ¬ (s.frame ++ rest.flatMap frame).length < s.frame.length := by simp
    rw [flatMap_cons, splitFrames]
    split
    · rename_i hn
      rw [hp] at hn
      cases hn
    · rename_i frm hs
      obtain rfl := Option.some.inj (hp.symm.trans hs)
      rw [if_neg hr, take_left, drop_left, ih _ h.2.2.2.2]
      rfl

/-- Frame by frame they come back block by block. -/
theorem inOrder_decryptFrame_readable : ∀ (c : ControlCipher),
    Readable aead c.readKey c.decryptCounter blks → inOrder (decryptFrame aead) c (blks.map frame) =
        (c.afterOpening blks.length, .ok (blks.map (·.block))) := by
  induction blks with
  | nil =>
    intro c _
    simp [inOrder]
  | cons s _ ih =>
    intro c h
    obtain ⟨low, high, hf, hb⟩ := frame_eq s
    have hs : decryptFrame aead c s.frame = (c.afterOpening 1, .ok s.block) := by
      have hbloLen : fromLeBytes [low, high] = s.block.length := by
        rw [hb]
        exact fromLeBytes_length h.1
      rw [hf]
      show decryptBlock aead c s.ciphertextWithTag (fromLeBytes [low, high]) = _
      rw [hbloLen]
      exact decryptBlock_readable h
    have hl := ih (c.afterOpening 1) h.2.2.2.2
    rw [map_cons, inOrder_cons hs hl, afterOpening_add, Nat.add_comm 1, length_cons, map_cons]

/-! ## Messages -/

/-- How many blocks a message takes. -/
def blockCount (message : Bytes) : Nat := (message.length + 1023) / 1024

/-- The messages, sealed one after the other: blocks that are readable at the
counter the cipher started with. -/
theorem inOrder_sealMessage (sound : aead.Sound) (msgs : List Bytes) : ∀ (c : ControlCipher),
    (∀ msg ∈ msgs, msg ≠ []) →
    ∃ sealed, inOrder (sealMessage aead) c msgs =
        (c.afterSealing (msgs.map blockCount).sum, .ok sealed) ∧
      sealed.flatten.length = (msgs.map blockCount).sum ∧
      sealed.map (·.flatMap (·.block)) = msgs ∧
      (∀ blks ∈ sealed, blks ≠ []) ∧
      Readable aead c.writeKey c.encryptCounter sealed.flatten := by
  induction msgs with
  | nil =>
    intro c _
    exact ⟨[], by simp [inOrder], rfl, rfl, by simp, trivial⟩
  | cons msg _ ih =>
    intro c hne
    rw [forall_mem_cons] at hne
    have hs : 0 < MAX_BLOCK := by decide
    obtain ⟨first, hr, hb, hd⟩ := sealBlocks_readable sound
      (chunks MAX_BLOCK msg) c (fun block h => length_of_mem_chunks hs h)
    have hc : (chunks MAX_BLOCK msg).length = blockCount msg := length_chunks hs _
    have hf : first.length = blockCount msg := by rw [← hc, ← hb, length_map]
    have ht : sealMessage aead c msg = (c.afterSealing (blockCount msg), .ok first) := by
      rw [sealMessage, if_neg hne.1, hr, hc]
    obtain ⟨later, hl, hlen, hm, hn, hrs⟩ := ih (c.afterSealing (blockCount msg)) hne.2
    refine ⟨first :: later, ?_, ?_, ?_, ?_, ?_⟩
    · rw [inOrder_cons ht hl, afterSealing_add, map_cons, sum_cons]
    · rw [flatten_cons, length_append, hlen, hf, map_cons, sum_cons]
    · rw [map_cons, hm]
      congr 1
      rw [flatMap_def, hb, flatten_chunks hs]
    · rw [forall_mem_cons]
      refine ⟨?_, hn⟩
      intro hnil
      rw [hnil] at hb
      exact chunks_ne_nil hs hne.1 hb.symm
    · rw [flatten_cons, readable_append, hf]
      exact ⟨hd, hrs⟩

/-- The nonce says how many blocks there were before, up to 2^64. -/
theorem buildNonceFromCounter_inj {a b : UInt64}
    (h : buildNonceFromCounter a = buildNonceFromCounter b) : a = b := by
  have hb : toLeBytes 8 a.toNat = toLeBytes 8 b.toNat := append_cancel_left h
  exact UInt64.toNat_inj.mp (toLeBytes_inj a.toNat_lt b.toNat_lt hb)

/-- Blocks that are less than 2^64 apart have different nonces. -/
theorem nonce_ne_of_readable {ctr : UInt64} {blks : List Sealed}
    (h : Readable aead key ctr blks) {i j : Nat} (hi : i < j) (hj : j < blks.length)
    (ha : j - i < 2 ^ 64) :
    (blks.get ⟨i, Nat.lt_trans hi hj⟩).nonce ≠ (blks.get ⟨j, hj⟩).nonce := by
  rw [nonce_of_readable _ _ h, nonce_of_readable _ _ h]
  intro hs
  have hc := congrArg UInt64.toNat (buildNonceFromCounter_inj hs)
  simp only [UInt64.toNat_add, UInt64.toNat_ofNat'] at hc
  omega

theorem toNat_afterSealing (writeKey readKey : Bytes) (n : Nat) :
    ((new writeKey readKey).afterSealing n).encryptCounter.toNat = n % 2 ^ 64 := by
  simp [afterSealing, new]

theorem toNat_afterOpening (writeKey readKey : Bytes) (n : Nat) :
    ((new writeKey readKey).afterOpening n).decryptCounter.toNat = n % 2 ^ 64 := by
  simp [afterOpening, new]

/-- The peer recovers the messages, whichever way it reads, and the counters
and nonces do their part. -/
structure Faithful (aead : Aead) (sender peer : ControlCipher) (messages : List Bytes)
    (sealedMessages : List (List Sealed)) : Prop where
  sealing : inOrder (sealMessage aead) sender messages =
    (sender.afterSealing (messages.map blockCount).sum, .ok sealedMessages)
  /-- What goes over the wire, message by message. -/
  encrypted : inOrder (encrypt aead) sender messages =
    (sender.afterSealing (messages.map blockCount).sum, .ok (sealedMessages.map (·.flatMap frame)))
  byMessage : inOrder (decrypt aead) peer (sealedMessages.map (·.flatMap frame)) =
    (peer.afterOpening (messages.map blockCount).sum, .ok messages)
  byBlock : inOrder (decryptFrame aead) peer
      (splitFrames (sealedMessages.map (·.flatMap frame)).flatten) =
    (peer.afterOpening (messages.map blockCount).sum, .ok (sealedMessages.flatten.map (·.block)))
  /-- Any number of whole frames in each buffer. -/
  byBuffer : ∀ buffers : List (List Sealed), buffers.flatten = sealedMessages.flatten →
    (∀ buffer ∈ buffers, buffer ≠ []) →
      inOrder (decrypt aead) peer (buffers.map (·.flatMap frame)) =
        (peer.afterOpening (messages.map blockCount).sum, .ok (buffers.map (·.flatMap (·.block))))
  /-- The bytes of the blocks are those of the messages, in order. -/
  bytes : sealedMessages.flatten.flatMap (·.block) = messages.flatten
  count : sealedMessages.flatten.length = (messages.map blockCount).sum
  short : ∀ s ∈ sealedMessages.flatten, s.block.length ≤ 1024
  sent : (sender.afterSealing (messages.map blockCount).sum).encryptCounter.toNat =
    (messages.map blockCount).sum % 2 ^ 64
  received : (peer.afterOpening (messages.map blockCount).sum).decryptCounter.toNat =
    (messages.map blockCount).sum % 2 ^ 64
  nonces : ∀ (i j : Nat) (hij : i < j) (hj : j < sealedMessages.flatten.length), j - i < 2 ^ 64 →
    (sealedMessages.flatten.get ⟨i, Nat.lt_trans hij hj⟩).nonce ≠
      (sealedMessages.flatten.get ⟨j, hj⟩).nonce

/-- Whatever non-empty messages one cipher encrypts one after the other, a
peer that reads with its write key recovers them in order, message by
message, block by block or in buffers of whole frames. -/
theorem control_channel_faithful (sound : aead.Sound) (writeKey readKey peerKey : Bytes)
    (messages : List Bytes) (h : ∀ message ∈ messages, message ≠ []) :
    ∃ sealedMessages, Faithful aead (new writeKey readKey) (new peerKey writeKey) messages
      sealedMessages := by
  obtain ⟨sealedMessages, hs, hc, hm, hne, hr⟩ :=
    inOrder_sealMessage sound messages (new writeKey readKey) h
  have hp : Readable aead (new peerKey writeKey).readKey (new peerKey writeKey).decryptCounter
      sealedMessages.flatten := hr
  have hb : ∀ buffers : List (List Sealed), buffers.flatten = sealedMessages.flatten →
      (∀ buffer ∈ buffers, buffer ≠ []) →
        inOrder (decrypt aead) (new peerKey writeKey) (buffers.map (·.flatMap frame)) =
          ((new peerKey writeKey).afterOpening (messages.map blockCount).sum,
            .ok (buffers.map (·.flatMap (·.block)))) := by
    intro buffers hsm hb
    rw [inOrder_decrypt_readable buffers _ hb (by rw [hsm]; exact hp), hsm, hc]
  have hw : (sealedMessages.map (·.flatMap frame)).flatten
      = sealedMessages.flatten.flatMap frame := by
    rw [flatMap_def, map_flatten, flatten_flatten, map_map]
    rfl
  refine ⟨sealedMessages, hs, ?_, ?_, ?_, hb, ?_, hc, ?_, ?_, ?_, ?_⟩
  · refine inOrder_map ?_ hs
    intro c message c' blks hl
    simp only [encrypt, hl]
    rfl
  · rw [hb sealedMessages rfl hne, hm]
  · rw [hw, splitFrames_frames _ _ hr, inOrder_decryptFrame_readable _ _ hp, hc]
  · rw [← hm, flatMap_def, map_flatten, flatten_flatten, map_map]
    rfl
  · exact block_of_readable _ _ hr
  · exact toNat_afterSealing _ _ _
  · exact toNat_afterOpening _ _ _
  · exact fun i j hi hj ha => nonce_ne_of_readable hr hi hj ha

end ControlCipher

/-! ## The cipher that is used -/

def chachaPoly : Aead where
  encrypt key nonce aad msg := some (ChaChaPoly.encrypt key nonce aad msg)
  decrypt key nonce aad msg := ChaChaPoly.decrypt key nonce aad msg

theorem chachaPoly_sound : chachaPoly.Sound :=
  ⟨fun key nonce aad msg _ => ⟨_, rfl, ChaChaPoly.length_encrypt key nonce aad msg,
    ChaChaPoly.decrypt_encrypt key nonce aad msg⟩⟩

namespace ControlCipher

/-- Two keys, and two messages, the second of two blocks. -/
theorem control_channel_faithful_two : ∃ sealedMessages, Faithful chachaPoly
    (new (List.replicate 32 1) (List.replicate 32 2))
    (new (List.replicate 32 2) (List.replicate 32 1))
    [[72, 105], List.replicate 1025 7] sealedMessages :=
  control_channel_faithful chachaPoly_sound _ _ _ _ (by
    rw [replicate_succ]
    exact forall_mem_cons.mpr ⟨by simp, forall_mem_singleton.mpr (cons_ne_nil _ _)⟩)

/-- After 2^64 blocks the counter starts over, and so do the nonces. -/
theorem counter_starts_over : ∃ sealedMessages,
    inOrder (sealMessage chachaPoly) (new [] []) (List.replicate (2 ^ 64 + 1) [0]) =
      ((new [] []).afterSealing (2 ^ 64 + 1), .ok sealedMessages) ∧
    ((List.replicate (2 ^ 64 + 1) [0]).map blockCount).sum = 2 ^ 64 + 1 ∧
    ((new [] []).afterSealing (2 ^ 64 + 1)).encryptCounter.toNat = 1 ∧
    ∃ first last, sealedMessages.flatten[0]? = some first ∧
      sealedMessages.flatten[2 ^ 64]? = some last ∧ first.nonce = last.nonce := by
  have hs : ((List.replicate (2 ^ 64 + 1) [(0 : UInt8)]).map blockCount).sum = 2 ^ 64 + 1 := by
    rw [map_replicate, sum_replicate_nat]
    rfl
  have hne : ∀ msg ∈ List.replicate (2 ^ 64 + 1) [(0 : UInt8)], msg ≠ [] := by
    intro msg hmem
    rw [eq_of_mem_replicate hmem]
    exact cons_ne_nil _ _
  obtain ⟨sealedMessages, hl, hc, -, -, hr⟩ :=
    inOrder_sealMessage chachaPoly_sound _ (new [] []) hne
  rw [hs] at hl hc
  have hf : 0 < sealedMessages.flatten.length := by omega
  have hls : 2 ^ 64 < sealedMessages.flatten.length := by omega
  refine ⟨sealedMessages, hl, hs, toNat_afterSealing _ _ _, _, _,
    getElem?_eq_getElem hf, getElem?_eq_getElem hls, ?_⟩
  exact (nonce_of_readable _ _ hr 0 hf).trans (nonce_of_readable _ _ hr (2 ^ 64) hls).symm

end ControlCipher

end OpenAirCast.Crypto

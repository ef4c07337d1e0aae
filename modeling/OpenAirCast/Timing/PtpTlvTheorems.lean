/-
Timing.PtpTlvTheorems — PTP messages are read back as they were
written.

`encode_inj` says that a complete TLV is known by its first bytes, whatever
follows it; `parse_encodeAll` and `prefix_of_encodeAll` follow by going
through the TLVs.
-/
import OpenAirCast.Timing.PtpTlv

namespace OpenAirCast.Timing

open List

/-! ## Numbers in a message -/

theorem ofNat_toBeBytes {width w : Nat} (hw : 256 ^ width = 2 ^ w) (x : BitVec w) :
    BitVec.ofNat w (fromBeBytes (toBeBytes width x.toNat)) = x := by
  rw [fromBeBytes_toBeBytes, hw]
  exact BitVec.eq_of_toNat_eq (by simp)

theorem PtpTimestamp.parse_serialize {ts : PtpTimestamp} (h : ts.seconds.toNat < 2 ^ 48)
    (suffix : Bytes) : PtpTimestamp.parse (ts.serialize ++ suffix) = .ok ts := by
  have hlen : ¬ (ts.serialize ++ suffix).length < 10 := by
    simp [PtpTimestamp.serialize]
    omega
  have hs : slice (ts.serialize ++ suffix) 0 6 = toBeBytes 6 ts.seconds.toNat := rfl
  have hn : slice (ts.serialize ++ suffix) 6 10 = toBeBytes 4 ts.nanoseconds.toNat := rfl
  unfold PtpTimestamp.parse word
  have h48 : ts.seconds.toNat % 256 ^ 6 = ts.seconds.toNat := Nat.mod_eq_of_lt h
  rw [if_neg hlen, hs, hn, ofNat_toBeBytes (by decide : 256 ^ 4 = 2 ^ 32),
    fromBeBytes_toBeBytes, h48, BitVec.ofNat_toNat, BitVec.setWidth_eq]

theorem PtpMessageType.fromByte_toByte (messageType : PtpMessageType) :
    PtpMessageType.fromByte messageType.toByte = some messageType := by
  cases messageType <;> rfl

theorem PtpHeader.parse_serialize {header : PtpHeader} (h : header.version < 16) (suffix : Bytes) :
    PtpHeader.parse (header.serialize ++ suffix) = .ok header := by
  have hlen : ¬ (header.serialize ++ suffix).length < 34 := by
    simp [PtpHeader.serialize]
    omega
  have hv : header.version &&& 0x0F = header.version := by
    rw [← UInt8.toNat_inj, UInt8.toNat_and]
    exact (Nat.and_two_pow_sub_one_eq_mod _ 4).trans (Nat.mod_eq_of_lt h)
  have ht : (header.serialize ++ suffix).getD 0 0 = header.messageType.toByte := rfl
  have h1 : (header.serialize ++ suffix).getD 1 0 = header.version := rfl
  have h4 : (header.serialize ++ suffix).getD 4 0 = header.domainNumber := rfl
  have h32 : (header.serialize ++ suffix).getD 32 0 = header.controlField := rfl
  have h33 : (header.serialize ++ suffix).getD 33 0 = header.logMessageInterval.toUInt8 := rfl
  have h2 : slice (header.serialize ++ suffix) 2 4 = toBeBytes 2 header.messageLength.toNat := rfl
  have h6 : slice (header.serialize ++ suffix) 6 8 = toBeBytes 2 header.flags.toNat := rfl
  have h8 : slice (header.serialize ++ suffix) 8 16
      = toBeBytes 8 header.correctionField.toBitVec.toNat := rfl
  have h20 : slice (header.serialize ++ suffix) 20 30
      = toBeBytes 10 header.sourcePortIdentity.toNat := rfl
  have h30 : slice (header.serialize ++ suffix) 30 32 = toBeBytes 2 header.sequenceId.toNat := rfl
  unfold PtpHeader.parse word
  rw [if_neg hlen, ht, PtpMessageType.fromByte_toByte]
  simp only [h1, h2, h4, h6, h8, h20, h30, h32, h33, hv,
    ofNat_toBeBytes (by decide : 256 ^ 2 = 2 ^ 16),
    ofNat_toBeBytes (by decide : 256 ^ 8 = 2 ^ 64), ofNat_toBeBytes (by decide : 256 ^ 10 = 2 ^ 80)]
  simp

/-! ## Complete TLVs -/

variable (tlv : ParsedTlv)

/-- The length is that of the content. -/
def Complete : Prop := tlv.2.2.length = tlv.2.1.toNat

def encode : Bytes :=
  { tlvType := tlv.1, length := tlv.2.1 : TlvHeader }.serialize ++ tlv.2.2

/-- The beginning of a TLV, and no more. -/
def Incomplete (rest : Bytes) : Prop :=
  ∃ tlv, Complete tlv ∧ rest <+: encode tlv ∧ rest ≠ encode tlv

theorem encode_eq : encode tlv
    = toBeBytes 2 tlv.1.toNat ++ (toBeBytes 2 tlv.2.1.toNat ++ tlv.2.2) := by
  simp [encode, TlvHeader.serialize]

variable {tlv}

theorem length_encode (h : Complete tlv) : (encode tlv).length = 4 + tlv.2.1.toNat := by
  rw [encode_eq]
  simp [h.symm]
  omega

theorem toBeBytes_inj {a b : BitVec 16} (h : toBeBytes 2 a.toNat = toBeBytes 2 b.toNat) :
    a = b := by
  have hw : 256 ^ 2 = 2 ^ 16 := by decide
  rw [← ofNat_toBeBytes hw a, h, ofNat_toBeBytes hw]

variable {rest rest' : Bytes}

/-- What follows a complete TLV does not matter to it. -/
theorem encode_inj {a b : ParsedTlv} (ha : Complete a) (hb : Complete b)
    (h : encode a ++ rest = encode b ++ rest') : a = b ∧ rest = rest' := by
  obtain ⟨ta, la, ca⟩ := a
  obtain ⟨tb, lb, cb⟩ := b
  simp only [encode_eq, append_assoc] at h
  obtain ⟨ht, hta⟩ := append_inj h (by simp)
  obtain ⟨hl, hla⟩ := append_inj hta (by simp)
  obtain rfl := toBeBytes_inj ht
  obtain rfl := toBeBytes_inj hl
  obtain ⟨rfl, hr⟩ := append_inj hla (ha.trans hb.symm)
  exact ⟨rfl, hr⟩

theorem toBeBytes_ofNat (a b : UInt8) :
    toBeBytes 2 (BitVec.ofNat 16 (fromBeBytes [a, b])).toNat = [a, b] := by
  rw [BitVec.toNat_ofNat]
  change (toLeBytes 2 (fromLeBytes [b, a] % 256 ^ 2)).reverse = _
  rw [toLeBytes_mod]
  exact congrArg reverse (toLeBytes_fromLeBytes [b, a])

/-- The length that the two bytes say. -/
def lengthOf (c d : UInt8) : Nat := (BitVec.ofNat 16 (fromBeBytes [c, d])).toNat

theorem encode_header (a b c d : UInt8) {content : Bytes} (h : content.length = lengthOf c d) :
    ∃ tlv, Complete tlv ∧ encode tlv = a :: b :: c :: d :: content :=
  ⟨(BitVec.ofNat 16 (fromBeBytes [a, b]), BitVec.ofNat 16 (fromBeBytes [c, d]), content), h, by
    rw [encode_eq, toBeBytes_ofNat, toBeBytes_ofNat]
    rfl⟩

theorem incomplete_of_header {data tail : Bytes} {a b c d : UInt8}
    (h : data <+: a :: b :: c :: d :: tail) (hlt : data.length < 4 + lengthOf c d)
    (ht : tail.length ≤ lengthOf c d) : Incomplete data := by
  have hlen : (tail ++ replicate (lengthOf c d - tail.length) 0).length = lengthOf c d := by
    simp
    omega
  obtain ⟨tlv, hc, he⟩ := encode_header a b c d hlen
  refine ⟨tlv, hc, h.trans ?_, fun heq => ?_⟩
  · exact ⟨replicate (lengthOf c d - tail.length) 0, he.symm⟩
  · have hl := congrArg length (heq.trans he)
    simp only [length_cons, hlen] at hl
    omega

variable (data : Bytes)

/-- Every string of bytes begins with a complete TLV, or is incomplete. -/
theorem complete_or_incomplete :
    (∃ tlv rest, Complete tlv ∧ data = encode tlv ++ rest) ∨ Incomplete data := by
  match data with
  | [] =>
    exact .inr (@incomplete_of_header [] [] 0 0 0 0 nil_prefix (by rw [length_nil]; omega)
      (Nat.zero_le _))
  | [a] =>
    exact .inr (@incomplete_of_header [a] [] a 0 0 0 ⟨[0, 0, 0], rfl⟩ (by simp; omega)
      (Nat.zero_le _))
  | [a, b] =>
    exact .inr (@incomplete_of_header [a, b] [] a b 0 0 ⟨[0, 0], rfl⟩ (by simp; omega)
      (Nat.zero_le _))
  | [a, b, c] =>
    exact .inr (@incomplete_of_header [a, b, c] [] a b c 0 ⟨[0], rfl⟩ (by simp; omega)
      (Nat.zero_le _))
  | a :: b :: c :: d :: tail =>
    rcases Nat.lt_or_ge tail.length (lengthOf c d) with hlt | hge
    · exact .inr (incomplete_of_header (prefix_refl _) (by simp; omega) (Nat.le_of_lt hlt))
    · obtain ⟨tlv, hc, he⟩ := encode_header a b c d (length_take_of_le hge)
      refine .inl ⟨tlv, tail.drop (lengthOf c d), hc, ?_⟩
      rw [he, cons_append, cons_append, cons_append, cons_append, take_append_drop]

/-! ## The loop -/

theorem read_header {s : Bytes} (h : s <+: encode tlv ++ rest)
    (hlen : 4 ≤ s.length) : readU16 s 0 = some tlv.1 ∧ readU16 s 2 = some tlv.2.1 := by
  have hw : 256 ^ 2 = 2 ^ 16 := by decide
  match s, hlen with
  | a :: b :: c :: d :: tail, _ =>
    obtain ⟨x, y, ht⟩ : ∃ x y, toBeBytes 2 tlv.1.toNat = [x, y] := ⟨_, _, rfl⟩
    obtain ⟨z, w, hlen⟩ : ∃ z w, toBeBytes 2 tlv.2.1.toNat = [z, w] := ⟨_, _, rfl⟩
    rw [encode_eq, ht, hlen] at h
    simp only [cons_append, nil_append, cons_prefix_cons] at h
    obtain ⟨rfl, rfl, rfl, rfl, -⟩ := h
    change some (BitVec.ofNat 16 (fromBeBytes [a, b])) = _ ∧
      some (BitVec.ofNat 16 (fromBeBytes [c, d])) = _
    rw [← ht, ← hlen, ofNat_toBeBytes hw, ofNat_toBeBytes hw]
    exact ⟨rfl, rfl⟩

theorem readU16_drop (offset i : Nat) :
    readU16 data (offset + i) = readU16 (data.drop offset) i := by
  simp [readU16, Nat.add_assoc]

variable {offset : Nat}

/-- A complete TLV is read, and the rest after it. -/
theorem parse_step {data : Bytes} (h : Complete tlv)
    (hd : data.drop offset = encode tlv ++ rest) : parseTlvsFrom data offset
      = (parseTlvsFrom data (offset + (encode tlv).length)).map (tlv :: ·) := by
  have hlen := congrArg length hd
  rw [length_drop, length_append, length_encode h] at hlen
  have hp : data.drop offset <+: encode tlv ++ rest := ⟨[], by rw [append_nil, hd]⟩
  obtain ⟨ht, hl⟩ := read_header hp (by rw [length_drop]; omega)
  rw [← readU16_drop] at ht hl
  have hc : readSlice data (offset + 4) (offset + 4 + tlv.2.1.toNat) = some tlv.2.2 := by
    rw [readSlice, if_pos (by omega), slice, drop_take, Nat.add_sub_cancel_left, ← drop_drop,
      hd, encode_eq, append_assoc, append_assoc]
    exact congrArg some (take_left' h)
  rw [parseTlvsFrom, if_pos (by omega), ← Nat.add_zero offset, ht, Nat.add_zero, hl]
  dsimp only
  rw [if_neg (by omega), hc, length_encode h, Nat.add_assoc]

theorem parse_stop {data : Bytes} (h : Incomplete (data.drop offset)) :
    parseTlvsFrom data offset = some [] := by
  obtain ⟨tlv, hc, hp, hne⟩ := h
  have hlt : (data.drop offset).length < (encode tlv).length :=
    Nat.lt_of_le_of_ne hp.length_le fun heq => hne (hp.eq_of_length heq)
  rw [length_drop, length_encode hc] at hlt
  rw [parseTlvsFrom]
  split
  · rw [← append_nil (encode tlv)] at hp
    obtain ⟨ht, hl⟩ := read_header hp (by rw [length_drop]; omega)
    rw [← readU16_drop] at ht hl
    rw [← Nat.add_zero offset, ht, Nat.add_zero, hl]
    exact if_pos (by omega)
  · rfl

/-- The TLVs one after another. -/
def encodeAll (tlvs : List ParsedTlv) : Bytes := tlvs.flatMap encode

theorem parse_encodeAll {data : Bytes} {tlvs : List ParsedTlv}
    (h : ∀ tlv ∈ tlvs, Complete tlv) (hr : Incomplete rest)
    (hd : data.drop offset = encodeAll tlvs ++ rest) : parseTlvsFrom data offset = some tlvs := by
  induction tlvs generalizing offset with
  | nil => exact parse_stop (hd.symm ▸ hr)
  | cons tlv tlvs ih =>
    obtain ⟨ht, hl⟩ := forall_mem_cons.mp h
    rw [encodeAll, flatMap_cons, append_assoc] at hd
    rw [parse_step ht hd, ih hl]
    · rfl
    · rw [← drop_drop, hd, drop_left]
      rfl

/-- Taking off complete TLVs ends with something incomplete. -/
theorem exists_complete : ∃ tlvs rest, (∀ tlv ∈ tlvs, Complete tlv) ∧
    Incomplete rest ∧ data = encodeAll tlvs ++ rest := by
  generalize hn : data.length = n
  induction n using Nat.strong_induction_on generalizing data with
  | _ n ih =>
    rcases complete_or_incomplete data with ⟨tlv, back, ht, rfl⟩ | hi
    · have hlt : back.length < n := by
        rw [← hn, length_append, length_encode ht]
        omega
      obtain ⟨tlvs, rest, hl, hr, rfl⟩ := ih _ hlt back rfl
      exact ⟨tlv :: tlvs, rest, forall_mem_cons.mpr ⟨ht, hl⟩, hr, by
        rw [encodeAll, encodeAll, flatMap_cons, append_assoc]⟩
    · exact ⟨[], data, by simp, hi, rfl⟩

/-- No other sequence goes further. -/
theorem prefix_of_encodeAll {tlvs others : List ParsedTlv}
    (h : ∀ tlv ∈ tlvs, Complete tlv) (hr : Incomplete rest)
    (hothers : ∀ tlv ∈ others, Complete tlv) (hp : encodeAll others <+: encodeAll tlvs ++ rest) :
    others <+: tlvs := by
  induction others generalizing tlvs with
  | nil => exact nil_prefix
  | cons other others ih =>
    obtain ⟨hother, hothers⟩ := forall_mem_cons.mp hothers
    obtain ⟨back, hb⟩ := hp
    rw [encodeAll, flatMap_cons, append_assoc] at hb
    cases tlvs with
    | nil =>
      obtain ⟨tlv, hc, ⟨more, hm⟩, hne⟩ := hr
      change _ = rest at hb
      rw [← hb, append_assoc] at hm
      rw [← append_nil (encode tlv)] at hm
      obtain ⟨rfl, hnil⟩ := encode_inj hother hc hm
      refine absurd ?_ hne
      rw [← hb, (append_eq_nil_iff.mp hnil).1, append_nil]
    | cons tlv tlvs =>
      obtain ⟨ht, hl⟩ := forall_mem_cons.mp h
      rw [encodeAll, flatMap_cons, append_assoc] at hb
      obtain ⟨rfl, hs⟩ := encode_inj hother ht hb
      exact cons_prefix_cons.mpr ⟨rfl, ih hl hothers ⟨back, hs⟩⟩

/-! ## The TLVs that are written -/

inductive PtpTlv where
  | followUp (tlv : FollowUpInformationTlv)
  | interval (tlv : MessageIntervalRequestTlv)
  | apple (tlv : AppleTlv)

namespace PtpTlv

def serialize : PtpTlv → Bytes
  | followUp tlv => tlv.serialize
  | interval tlv => tlv.serialize
  | apple tlv => tlv.serialize

/-- What stands behind the header. -/
def content : PtpTlv → Bytes
  | followUp tlv =>
    toBeBytes 3 tlv.organizationId.toNat ++ toBeBytes 3 tlv.organizationSubtype.toNat
      ++ toBeBytes 4 tlv.cumulativeScaledRateOffset.toBitVec.toNat
      ++ toBeBytes 2 tlv.gmTimeBaseIndicator.toNat ++ toBeBytes 12 tlv.lastGmPhaseChange.toNat
      ++ toBeBytes 4 tlv.scaledLastGmFreqChange.toBitVec.toNat
  | interval tlv =>
    toBeBytes 3 tlv.organizationId.toNat ++ toBeBytes 3 tlv.organizationSubtype.toNat
      ++ [tlv.linkDelayInterval.toUInt8, tlv.timeSyncInterval.toUInt8,
        tlv.announceInterval.toUInt8, tlv.flags]
  | apple tlv =>
    toBeBytes 3 tlv.organizationId.toNat ++ toBeBytes 3 tlv.organizationSubtype.toNat ++ tlv.payload

/-- Its type, its length and its content. -/
def parsed (tlv : PtpTlv) : ParsedTlv :=
  (ORGANIZATION_EXTENSION, BitVec.ofNat 16 tlv.content.length, tlv.content)

/-- The content has a length of 16 bits. -/
def Fits : PtpTlv → Prop
  | apple tlv => tlv.payload.length ≤ 65529
  | _ => True

theorem length_content_lt {tlv : PtpTlv} (h : tlv.Fits) : tlv.content.length < 2 ^ 16 := by
  cases tlv with
  | followUp tlv => simp [content]
  | interval tlv => simp [content]
  | apple tlv =>
    simp only [Fits] at h
    simp [content]
    omega

theorem complete_parsed {tlv : PtpTlv} (h : tlv.Fits) : Complete tlv.parsed := by
  unfold Complete parsed
  rw [BitVec.toNat_ofNat, Nat.mod_eq_of_lt (length_content_lt h)]

theorem encode_parsed (tlv : PtpTlv) : encode tlv.parsed = tlv.serialize := by
  cases tlv with
  | followUp tlv => simp [encode, parsed, content, serialize, FollowUpInformationTlv.serialize]
  | interval tlv => simp [encode, parsed, content, serialize, MessageIntervalRequestTlv.serialize]
  | apple tlv =>
    have hlen : 3 + (3 + tlv.payload.length) = 6 + tlv.payload.length := by omega
    simp [encode, parsed, content, serialize, AppleTlv.serialize, hlen]

end PtpTlv

theorem incomplete_nil : Incomplete [] :=
  @incomplete_of_header [] [] 0 0 0 0 nil_prefix (by rw [length_nil]; omega) (Nat.zero_le _)

/-- Headers, timestamps and TLVs are read back as they were written, and of
any bytes the complete TLVs are read, as far as they go. -/
theorem ptp_messages_read_back : (∀ (header : PtpHeader) (suffix : Bytes), header.version < 16 →
      PtpHeader.parse (header.serialize ++ suffix) = .ok header) ∧
    (∀ (ts : PtpTimestamp) (suffix : Bytes), ts.seconds.toNat < 2 ^ 48 →
      PtpTimestamp.parse (ts.serialize ++ suffix) = .ok ts) ∧
    (∀ (tlvs : List PtpTlv) (rest : Bytes), (∀ tlv ∈ tlvs, tlv.Fits) → rest = [] ∨ Incomplete rest →
      parseTlvs (tlvs.flatMap PtpTlv.serialize ++ rest) = some (tlvs.map PtpTlv.parsed)) ∧
    ∀ data, ∃ tlvs, parseTlvs data = some tlvs ∧ (∀ tlv ∈ tlvs, Complete tlv) ∧
      encodeAll tlvs <+: data ∧
      ∀ others, (∀ tlv ∈ others, Complete tlv) → encodeAll others <+: data → others <+: tlvs := by
  refine ⟨fun _ suffix h => PtpHeader.parse_serialize h suffix,
    fun _ suffix h => PtpTimestamp.parse_serialize h suffix,
    fun tlvs rest h hr => ?_, fun data => ?_⟩
  · refine parse_encodeAll ?_ (hr.elim (fun hnil => hnil ▸ incomplete_nil) id) ?_
    · intro tlv hmem
      obtain ⟨tlv, hin, rfl⟩ := mem_map.mp hmem
      exact PtpTlv.complete_parsed (h tlv hin)
    · rw [drop_zero, encodeAll, flatMap_map]
      simp only [PtpTlv.encode_parsed]
  · obtain ⟨tlvs, rest, ht, hr, rfl⟩ := exists_complete data
    exact ⟨tlvs, parse_encodeAll ht hr rfl, ht, prefix_append _ _,
      fun _ hothers hp => prefix_of_encodeAll ht hr hothers hp⟩

end OpenAirCast.Timing

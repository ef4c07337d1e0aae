/-
Discovery.TxtRecordTheorems — what an advertisement can do to
the browser.

Lengths are counted in bytes before a text is cut at fixed bytes, so a text
of the right length that holds longer characters can be cut in the middle of
one. `fromMacString_panics_iff` and `parsePublicKey_panics_iff` say exactly
which texts those are, `exists_fromMacString_iff` which identities are read.

Both parsers then have one shape, `record`: read the identity, read the key,
build the device from what the other fields give. `Field` names the fields of
a device; the two tables `Field.keys` and `Readable` say which key a field is
read from and what its text must be.
-/
import OpenAirCast.Discovery.TxtRecord

namespace OpenAirCast.Discovery

open List Option

/-! ## Hexadecimal bytes -/

def IsHex (c : Char) : Prop := (hexDigit c).isSome = true

/-- Two hex digits. -/
def HexPair (part : List Char) : Prop := ∃ high low, part = [high, low] ∧ IsHex high ∧ IsHex low

/-- A text that `from_str_radix` takes for a byte. -/
def Readable8 (part : List Char) : Prop := ∃ b, hexByte part = .ok b

variable {c : Char}

/-- Digits are below 16, and their characters in three ranges. -/
theorem hexDigit_range {n : Nat} (h : hexDigit c = some n) :
    n < 16 ∧ (48 ≤ c.toNat ∧ c.toNat ≤ 57 ∨ 97 ≤ c.toNat ∧ c.toNat ≤ 102 ∨
      65 ≤ c.toNat ∧ c.toNat ≤ 70) := by
  have h0 : ('0' : Char).toNat = 48 := rfl
  have h9 : ('9' : Char).toNat = 57 := rfl
  have ha : ('a' : Char).toNat = 97 := rfl
  have hf : ('f' : Char).toNat = 102 := rfl
  have hA : ('A' : Char).toNat = 65 := rfl
  have hF : ('F' : Char).toNat = 70 := rfl
  unfold hexDigit at h
  simp only [Char.le_def, UInt32.le_iff_toNat_le, Char.toNat_val] at h
  split at h
  · obtain rfl := Option.some.inj h
    omega
  · split at h
    · obtain rfl := Option.some.inj h
      omega
    · split at h
      · obtain rfl := Option.some.inj h
        omega
      · simp at h

/-- One byte wide, and no separator. -/
def Plain (c : Char) : Prop := c.utf8Size = 1 ∧ c ≠ ':' ∧ c ≠ '-'

theorem plain_of_toNat (hl : c.toNat ≤ 127) (hc : c.toNat ≠ 58) (hh : c.toNat ≠ 45) : Plain c := by
  refine ⟨Char.utf8Size_eq_one_iff.mpr ?_, ?_, ?_⟩
  · rw [UInt32.le_iff_toNat_le]
    exact hl
  · rintro rfl
    exact hc rfl
  · rintro rfl
    exact hh rfl

theorem IsHex.plain (h : IsHex c) : Plain c := by
  obtain ⟨n, hn⟩ := isSome_iff_exists.mp h
  have hr := (hexDigit_range hn).2
  exact plain_of_toNat (by omega) (by omega) (by omega)

theorem IsHex.ne_plus (h : IsHex c) : c ≠ '+' := by
  rintro rfl
  unfold IsHex at h
  exact absurd h (by decide)

variable {text : List Char}

/-- What is read as a number has no other characters than digits and a
sign. -/
theorem plain_of_parseHex {max n : Nat} (h : parseHex max text = some n) : ∀ c ∈ text, Plain c := by
  have hd : ∀ digits : List Char, (digits.all fun c => (hexDigit c).isSome) = true →
      ∀ c ∈ digits, Plain c :=
    fun digits hall c hc => IsHex.plain (all_eq_true.mp hall c hc)
  cases text with
  | nil => simp
  | cons d rest =>
    by_cases hp : d = '+'
    · subst hp
      simp only [parseHex, head?_cons, if_true, tail_cons] at h
      split at h
      · rename_i hall
        exact forall_mem_cons.mpr
          ⟨plain_of_toNat (by decide) (by decide) (by decide), hd rest hall.2⟩
      · simp at h
    · simp only [parseHex, head?_cons, Option.some.injEq, hp, if_false] at h
      split at h
      · rename_i hall
        exact hd _ hall.2
      · simp at h

theorem utf8Len_of_plain (h : ∀ c ∈ text, Plain c) : utf8Len text = text.length := by
  induction text with
  | nil => rfl
  | cons c _ ih =>
    have hr := ih (fun d hd => h d (mem_cons_of_mem _ hd))
    simp [hr, (h c mem_cons_self).1, Nat.add_comm]

variable {part : List Char}

theorem Readable8.plain (h : Readable8 part) : ∀ c ∈ part, Plain c := by
  obtain ⟨b, hb⟩ := h
  unfold hexByte at hb
  cases hp : parseHex 0xFF part with
  | none => simp [hp, orFail, fail] at hb
  | some => exact plain_of_parseHex hp

theorem HexPair.readable (h : HexPair part) : Readable8 part := by
  obtain ⟨high, low, rfl, hh, hl⟩ := h
  obtain ⟨a, ha⟩ := isSome_iff_exists.mp hh
  obtain ⟨b, hb⟩ := isSome_iff_exists.mp hl
  have hd : a * 16 + b ≤ 0xFF := by
    have hlt₁ := (hexDigit_range ha).1
    have hlt₂ := (hexDigit_range hb).1
    omega
  have hp : parseHex 0xFF [high, low] = some (a * 16 + b) := by
    simp [parseHex, hh.ne_plus, ha, hb, hd]
  exact ⟨_, by rw [hexByte, hp]; rfl⟩

theorem hexByte_ne_panicked (part : List Char) : hexByte part ≠ .error .panicked := by
  unfold hexByte
  cases parseHex 0xFF part <;> simp [orFail, fail]

/-! ## Texts that are cut inside a character -/

/-- Behind fewer than `count` readable pairs, the next two bytes end inside
a character. -/
def Cuts (count : Nat) (text : List Char) : Prop :=
  ∃ parts rest, Pieces hexByte 2 parts rest text ∧ parts.length < count ∧ Inside 2 rest

variable {count : Nat}

theorem readPieces_panics_iff (hl : utf8Len text = count * 2) :
    readPieces .panicked hexByte 2 count text = .error .panicked ↔ Cuts count text := by
  rw [readPieces_eq_readFront, readFront_eq_cut hexByte_ne_panicked]
  constructor
  · rintro ⟨parts, rest, hp, hc, ht⟩
    refine ⟨parts, rest, hp, hc, ?_⟩
    -- two bytes are left, so the cut is not past the end
    have hlen : utf8Len text = parts.length * 2 + utf8Len rest := by
      rw [hp.1, utf8Len_append, utf8Len_flatten (fun part hr => (hp.2 part hr).1)]
    exact (splitAtByte_eq_none.mp ht).resolve_right (by omega)
  · rintro ⟨parts, rest, hp, hc, hi⟩
    exact ⟨parts, rest, hp, hc, splitAtByte_eq_none.mpr (.inl hi)⟩

/-- A text of the right length is read whole, in pairs. -/
theorem exists_readPieces_iff (hl : utf8Len text = count * 2) :
    (∃ bs, readPieces .panicked hexByte 2 count text = .ok bs) ↔
      ∃ parts : List (List Char), parts.length = count ∧
        (∀ part ∈ parts, Readable8 part ∧ part.length = 2) ∧ text = parts.flatten := by
  simp only [readPieces_eq_readFront, readFront_eq_ok]
  constructor
  · rintro ⟨bs, parts, rest, ⟨ht, hr⟩, hc, _⟩
    have hlen : utf8Len text = parts.length * 2 + utf8Len rest := by
      rw [ht, utf8Len_append, utf8Len_flatten (fun part hp => (hr part hp).1)]
    obtain rfl : rest = [] := utf8Len_eq_zero.mp (by omega)
    refine ⟨parts, hc, ?_, by simpa using ht⟩
    intro part hp
    obtain ⟨hw, hd⟩ := hr part hp
    exact ⟨hd, by rw [← utf8Len_of_plain (Readable8.plain hd), hw]⟩
  · rintro ⟨parts, hc, hr, rfl⟩
    obtain ⟨bs, hb⟩ := exists_mapM_eq_ok.mpr (fun part hp => (hr part hp).1)
    refine ⟨bs, parts, [], ⟨by simp, ?_⟩, hc, hb⟩
    intro part hp
    obtain ⟨hd, ho⟩ := hr part hp
    exact ⟨by rw [utf8Len_of_plain hd.plain, ho], hd⟩

/-! ## Identities -/

variable (parts : List (List Char))

/-- The parts in one of the three notations: with colons, with hyphens, or
two by two. -/
def Written (text : List Char) : Prop :=
  text = [':'].intercalate parts ∨ text = ['-'].intercalate parts ∨
    text = parts.flatten ∧ ∀ part ∈ parts, part.length = 2

/-- The text, without the white space around it, is six parts that
`from_str_radix` takes for bytes. -/
def Spells (text : String) : Prop :=
  parts.length = 6 ∧ (∀ part ∈ parts, Readable8 part) ∧ Written parts (trimChars text.toList)

/-- The text is six hex bytes, of two digits each, in one of the three
notations. -/
def Documented (text : String) : Prop :=
  ∃ parts : List (List Char), parts.length = 6 ∧ (∀ part ∈ parts, HexPair part) ∧
    Written parts (trimChars text.toList)

/-- Six parts are read, and one of them has a sign in it or is not two
characters long. -/
def Loose (text : String) : Prop :=
  ∃ parts, Spells parts text ∧ ∃ part ∈ parts, ¬ HexPair part

/-- A bare identity that is cut inside a character. -/
def CutsId (text : String) : Prop :=
  let s := trimChars text.toList
  ':' ∉ s ∧ '-' ∉ s ∧ utf8Len s = 12 ∧ Cuts 6 s

/-- A public key that is cut inside a character. -/
def CutsKey (text : String) : Prop :=
  utf8Len (trimChars text.toList) = 64 ∧ Cuts 32 (trimChars text.toList)

variable {parts}

theorem mem_intercalate {sep : Char}
    (h : c ∈ [sep].intercalate parts) : c = sep ∨ ∃ part ∈ parts, c ∈ part := by
  induction parts with
  | nil => simp at h
  | cons part parts ih =>
    cases parts with
    | nil => exact .inr ⟨part, by simp, by simpa using h⟩
    | cons =>
      rw [intercalate_cons_cons] at h
      rcases mem_append.mp h with h | h
      · rcases mem_append.mp h with h | h
        · exact .inr ⟨part, by simp, h⟩
        · exact .inl (by simpa using h)
      · rcases ih h with hs | ⟨other, ho, hc⟩
        · exact .inl hs
        · exact .inr ⟨other, mem_cons_of_mem _ ho, hc⟩

theorem separator_mem_intercalate {sep : Char}
    (h : 2 ≤ parts.length) : sep ∈ [sep].intercalate parts := by
  match parts, h with
  | part :: next :: parts, _ => simp [intercalate_cons_cons]

section Spelling

variable {parts : List (List Char)} {text : List Char}

theorem written_colon (hn : parts.length = 6) (hr : ∀ part ∈ parts, Readable8 part)
    (h : text = [':'].intercalate parts) : ':' ∈ text ∧ text.splitOn ':' = parts := by
  subst h
  have hf : ∀ part ∈ parts, ':' ∉ part := fun part hp hc => ((hr part hp).plain _ hc).2.1 rfl
  exact ⟨separator_mem_intercalate (by omega),
    splitOn_intercalate ':' hf (ne_nil_of_length_pos (by omega))⟩

theorem written_hyphen (hn : parts.length = 6) (hr : ∀ part ∈ parts, Readable8 part)
    (h : text = ['-'].intercalate parts) :
    ':' ∉ text ∧ '-' ∈ text ∧ text.splitOn '-' = parts := by
  subst h
  have hf : ∀ part ∈ parts, '-' ∉ part := fun part hp hc => ((hr part hp).plain _ hc).2.2 rfl
  refine ⟨?_, separator_mem_intercalate (by omega),
    splitOn_intercalate '-' hf (ne_nil_of_length_pos (by omega))⟩
  intro hl
  rcases mem_intercalate hl with heq | ⟨part, hp, hc⟩
  · exact absurd heq (by decide)
  · exact ((hr part hp).plain _ hc).2.1 rfl

theorem written_bare (hn : parts.length = 6)
    (hr : ∀ part ∈ parts, Readable8 part ∧ part.length = 2) (h : text = parts.flatten) :
    ':' ∉ text ∧ '-' ∉ text ∧ utf8Len text = 12 := by
  subst h
  have hl : ∀ c ∈ parts.flatten, Plain c := by
    intro c hc
    obtain ⟨part, hp, hc⟩ := mem_flatten.mp hc
    exact (hr part hp).1.plain c hc
  refine ⟨fun hc => (hl _ hc).2.1 rfl, fun hc => (hl _ hc).2.2 rfl, ?_⟩
  have hw : ∀ part ∈ parts, utf8Len part = 2 := by
    intro part hp
    rw [utf8Len_of_plain (hr part hp).1.plain, (hr part hp).2]
  rw [utf8Len_flatten hw, hn]

end Spelling

theorem exists_fromMacString_iff_bytes (text : String) : (∃ id, fromMacString text = .ok id) ↔
      ∃ bs, macBytes (trimChars text.toList) = .ok bs ∧ bs.length = 6 := by
  unfold fromMacString
  cases hb : macBytes (trimChars text.toList) with
  | error => simp [bind, Except.bind]
  | ok bs =>
    by_cases hs : bs.length = 6
    · simp [bind, Except.bind, pure, Except.pure, hs]
    · simp [bind, Except.bind, fail, hs]

theorem fromMacString_panics_iff_bytes (text : String) : fromMacString text = .error .panicked ↔
      macBytes (trimChars text.toList) = .error .panicked := by
  unfold fromMacString
  cases hb : macBytes (trimChars text.toList) with
  | error => simp [bind, Except.bind]
  | ok bs =>
    by_cases hs : bs.length = 6
    · simp [bind, Except.bind, pure, Except.pure, hs]
    · simp [bind, Except.bind, fail, hs]

/-- The parts between two separators are bytes if each of them is one. -/
theorem exists_mapM_hexByte_iff : (∃ bs : Bytes, parts.mapM hexByte = .ok bs ∧ bs.length = 6) ↔
      parts.length = 6 ∧ ∀ part ∈ parts, Readable8 part := by
  constructor
  · rintro ⟨bs, hb, hs⟩
    exact ⟨by rw [← length_of_mapM_eq_ok hb, hs], exists_mapM_eq_ok.mp ⟨bs, hb⟩⟩
  · rintro ⟨hs, hr⟩
    obtain ⟨bs, hb⟩ := exists_mapM_eq_ok.mpr hr
    exact ⟨bs, hb, by rw [length_of_mapM_eq_ok hb, hs]⟩

theorem length_of_readPieces {bs : Bytes}
    (h : readPieces .panicked hexByte 2 count text = .ok bs) : bs.length = count := by
  rw [readPieces_eq_readFront] at h
  obtain ⟨_, _, -, rfl, hv⟩ := readFront_eq_ok.mp h
  exact length_of_mapM_eq_ok hv

/-- The identities that are read. -/
theorem exists_fromMacString_iff (text : String) :
    (∃ id, fromMacString text = .ok id) ↔ ∃ parts, Spells parts text := by
  rw [exists_fromMacString_iff_bytes]
  unfold Spells macBytes
  generalize trimChars text.toList = s
  constructor
  · intro h
    split at h
    · obtain ⟨hs, hr⟩ := exists_mapM_hexByte_iff.mp h
      exact ⟨_, hs, hr, .inl (intercalate_splitOn ':').symm⟩
    · split at h
      · obtain ⟨hs, hr⟩ := exists_mapM_hexByte_iff.mp h
        exact ⟨_, hs, hr, .inr (.inl (intercalate_splitOn '-').symm)⟩
      · split at h
        · simp [fail] at h
        · rename_i hlen
          obtain ⟨bs, hb, -⟩ := h
          obtain ⟨parts, hs, hr, ht⟩ := (exists_readPieces_iff (not_not.mp hlen)).mp ⟨bs, hb⟩
          exact ⟨parts, hs, fun part hp => (hr part hp).1,
            .inr (.inr ⟨ht, fun part hp => (hr part hp).2⟩)⟩
  · rintro ⟨parts, hs, hr, hc | hh | ⟨hbr, hw⟩⟩
    · obtain ⟨hmem, hl⟩ := written_colon hs hr hc
      rw [if_pos hmem, hl]
      exact exists_mapM_hexByte_iff.mpr ⟨hs, hr⟩
    · obtain ⟨hn, hmem, hl⟩ := written_hyphen hs hr hh
      rw [if_neg hn, if_pos hmem, hl]
      exact exists_mapM_hexByte_iff.mpr ⟨hs, hr⟩
    · have ha : ∀ part ∈ parts, Readable8 part ∧ part.length = 2 :=
        fun part hp => ⟨hr part hp, hw part hp⟩
      obtain ⟨hc, hh, hlen⟩ := written_bare hs ha hbr
      have hpc : utf8Len s = 6 * 2 := hlen
      obtain ⟨bs, hb⟩ := (exists_readPieces_iff hpc).mpr ⟨parts, hs, ha, hbr⟩
      rw [if_neg hc, if_neg hh, if_neg (not_not.mpr hlen)]
      exact ⟨bs, hb, length_of_readPieces hb⟩

/-- The identities whose reading panics. -/
theorem fromMacString_panics_iff (text : String) :
    fromMacString text = .error .panicked ↔ CutsId text := by
  rw [fromMacString_panics_iff_bytes]
  unfold CutsId macBytes
  generalize trimChars text.toList = s
  by_cases hc : ':' ∈ s
  · simp [hc, mapM_ne_error hexByte_ne_panicked]
  · by_cases hh : '-' ∈ s
    · simp [hc, hh, mapM_ne_error hexByte_ne_panicked]
    · by_cases hlen : utf8Len s = 12
      · simp only [hc, hh, hlen, if_false, ne_eq, not_true, not_false_eq_true, true_and]
        exact readPieces_panics_iff (show utf8Len s = 6 * 2 from hlen)
      · simp [hc, hh, hlen, fail]

/-- The keys whose reading panics. -/
theorem parsePublicKey_panics_iff (text : String) :
    parsePublicKey text = .error .panicked ↔ CutsKey text := by
  unfold parsePublicKey CutsKey
  generalize trimChars text.toList = s
  by_cases hlen : utf8Len s = 64
  · simp only [hlen, ne_eq, not_true, if_false, true_and]
    exact readPieces_panics_iff (show utf8Len s = 32 * 2 from hlen)
  · simp [hlen, fail]

theorem chunks_flatten {size : Nat} (hs : 0 < size)
    (h : ∀ part ∈ parts, part.length = size) : chunks size parts.flatten = parts := by
  induction parts with
  | nil => rfl
  | cons part parts ih =>
    have hp := h part mem_cons_self
    have hne : (part :: parts).flatten ≠ [] := by
      intro hnil
      obtain ⟨rfl, -⟩ : part = [] ∧ parts.flatten = [] := by simpa using hnil
      simp at hp
      omega
    rw [chunks_of_ne_nil hs hne, flatten_cons, take_left' hp,
      drop_left' hp, ih (fun other ho => h other (mem_cons_of_mem _ ho))]

/-- The parts are a function of the text. -/
theorem Spells.parts_eq {text : String} (h : Spells parts text) : parts =
      let s := trimChars text.toList
      if ':' ∈ s then s.splitOn ':' else if '-' ∈ s then s.splitOn '-' else chunks 2 s := by
  obtain ⟨hs, hr, hc | hh | ⟨hb, ht⟩⟩ := h
  · obtain ⟨hmem, hp⟩ := written_colon hs hr hc
    simp only [hmem, if_true, hp]
  · obtain ⟨hn, hmem, hp⟩ := written_hyphen hs hr hh
    simp only [hn, hmem, if_true, if_false, hp]
  · obtain ⟨hc, hh, -⟩ := written_bare hs (fun part hpr => ⟨hr part hpr, ht part hpr⟩) hb
    simp only [hc, hh, if_false]
    rw [hb, chunks_flatten (by decide) ht]

theorem documented_iff {text : String} :
    Documented text ↔ ∃ parts, Spells parts text ∧ ∀ part ∈ parts, HexPair part := by
  constructor
  · rintro ⟨parts, hs, hp, hw⟩
    exact ⟨parts, ⟨hs, fun part ht => (hp part ht).readable, hw⟩, hp⟩
  · rintro ⟨parts, ⟨hs, -, hw⟩, hp⟩
    exact ⟨parts, hs, hp, hw⟩

/-- The reader takes more than the documented spellings exactly at the
loose ones. -/
theorem reads_documented_iff (text : String) :
    ((∃ id, fromMacString text = .ok id) ↔ Documented text) ↔ ¬ Loose text := by
  rw [exists_fromMacString_iff, documented_iff]
  constructor
  · rintro h ⟨parts, hs, part, hp, hn⟩
    obtain ⟨others, ho, ha⟩ := h.mp ⟨parts, hs⟩
    obtain rfl : others = parts := ho.parts_eq.trans hs.parts_eq.symm
    exact hn (ha part hp)
  · intro h
    constructor
    · rintro ⟨parts, hs⟩
      refine ⟨parts, hs, fun part hp => ?_⟩
      by_contra hn
      exact h ⟨parts, hs, part, hp, hn⟩
    · rintro ⟨parts, hs, -⟩
      exact ⟨parts, hs⟩

/-! ## Readers that never panic -/

section Survival

variable {α β : Type}

def Survives (result : Except Stop α) : Prop := result ≠ .error .panicked

@[simp] theorem survives_ok (val : α) : Survives (.ok val : Except Stop α) := nofun

@[simp] theorem survives_pure (val : α) : Survives (pure val : Except Stop α) := nofun

@[simp] theorem survives_fail (err : ParseError) : Survives (fail err : Except Stop α) := nofun

@[simp] theorem survives_orFail (val : Option α) (err : ParseError) :
    Survives (orFail val err) := by
  cases val <;> nofun

theorem survives_bind {res : Except Stop α} {next : α → Except Stop β}
    (hr : Survives res) (hn : ∀ val, Survives (next val)) :
    Survives (res >>= next) := by
  cases res with
  | error stop =>
    intro h
    obtain rfl : stop = .panicked := by simpa [bind, Except.bind] using h
    exact hr rfl
  | ok val => exact hn val

end Survival

/-- Two characters of one byte each are behind the slice. -/
theorem sliceFrom_hexPrefix {s : List Char} (h : hasHexPrefix s = true) :
    sliceFrom 2 s = some (s.drop 2) := by
  have hx : ∀ x : Char, x.utf8Size = 1 → ['0', x].isPrefixOf s = true →
      sliceFrom 2 s = some (s.drop 2) := by
    intro x hs hm
    obtain ⟨rest, rfl⟩ := isPrefixOf_iff_prefix.mp hm
    have hf : utf8Len ['0', x] = 2 := by
      simp only [utf8Len_cons, utf8Len_nil, hs]
      rfl
    have hl := sliceFrom_append ['0', x] rest
    rwa [hf] at hl
  rcases Bool.or_eq_true_iff.mp h with h | h
  · exact hx 'x' rfl h
  · exact hx 'X' rfl h

/-- The number a text of status flags stands for. -/
def number? (text : String) : Option Nat :=
  let s := trimChars text.toList
  if hasHexPrefix s then parseHex (2 ^ 64 - 1) (s.drop 2) else parseUnsigned (2 ^ 64 - 1) s

theorem parseHexOrDecimal_eq (text : String) :
    parseHexOrDecimal text = .ok (BitVec.ofNat 64 ((number? text).getD 0)) := by
  unfold parseHexOrDecimal number?
  generalize trimChars text.toList = s
  by_cases hm : hasHexPrefix s = true
  · simp only [hm, if_true, sliceFrom_hexPrefix hm]
    rfl
  · rw [if_neg hm, if_neg hm]
    rfl

theorem parseHexMask_survives (part : List Char) : Survives (parseHexMask part) := by
  unfold parseHexMask
  generalize trimChars part = part
  simp only
  generalize (if hasHexPrefix part then part.drop 2 else part) = hexStr
  split
  · exact survives_fail _
  · exact survives_orFail _ _

theorem fromTxtValue_survives (text : String) : Survives (Features.fromTxtValue text) := by
  unfold Features.fromTxtValue
  simp only
  split
  · exact survives_fail _
  · split
    · exact survives_bind (parseHexMask_survives _) fun _ =>
        survives_bind (parseHexMask_survives _) fun _ => survives_pure _
    · exact survives_bind (parseHexMask_survives _) fun _ => survives_pure _

theorem versionParse_survives (text : String) : Survives (Version.parse text) := by
  have hp : ∀ which (part : Option (List Char)),
      Survives ((part.map (versionPart which)).getD (.ok 0)) := by
    intro which part
    cases part with
    | none => exact survives_ok _
    | some => exact survives_orFail _ _
  unfold Version.parse
  simp only
  split
  · exact survives_fail _
  · exact survives_bind (survives_orFail _ _) fun _ =>
      survives_bind (survives_orFail _ _) fun _ =>
        survives_bind (hp _ _) fun _ => survives_bind (hp _ _) fun _ => survives_pure _

theorem parseLegacyFeatures_survives (text : String) : Survives (parseLegacyFeatures text) := by
  unfold parseLegacyFeatures
  generalize trimChars text.toList = s
  refine survives_bind ?_ fun _ => survives_pure _
  by_cases hm : hasHexPrefix s = true
  · simp only [hm, if_true, sliceFrom_hexPrefix hm]
    exact survives_orFail _ _
  · rw [if_neg hm]
    split
    · exact survives_orFail _ _
    · exact survives_orFail _ _

variable (parseStr : String → Option Uuid)

theorem parseGroupUuid_survives (text : String) :
    Survives (parseGroupUuid parseStr text) := survives_orFail _ _

/-! ## Records -/

section Optional

variable {α : Type}

/-- What an optional field gives. -/
def read (parse : String → Except Stop α) (raw : Option String) : Option α :=
  raw.bind (fun text => (parse text).toOption)

section

variable {parse : String → Except Stop α}

variable {raw : Option String}

theorem optionalField_eq (h : ∀ text, raw = some text → Survives (parse text)) :
    optionalField raw parse = .ok (read parse raw) := by
  cases raw with
  | none => rfl
  | some text =>
    have hp := h text rfl
    unfold optionalField read
    cases hr : parse text with
    | ok => simp [hr, Except.toOption]
    | error stop =>
      cases stop with
      | failed => simp [hr, Except.toOption]
      | panicked => exact absurd hr hp

theorem optionalField_panics {text : String} (h : parse text = .error .panicked) :
    optionalField (some text) parse = .error .panicked := by
  simp [optionalField, h]

theorem eq_read_of_optionalField
    {val : Option α} (h : optionalField raw parse = .ok val) : val = read parse raw := by
  have hs : ∀ text, raw = some text → Survives (parse text) := by
    rintro _ rfl hp
    rw [optionalField_panics hp] at h
    cases h
  exact (Except.ok.inj ((optionalField_eq hs).symm.trans h)).symm

end

end Optional

/-- The identity is read first, then the key; nothing else can end the
call. -/
def record (raw : Option String) (missing : ParseError) (key : Option String)
    (device : DeviceId → Device) : Except Stop Device := do
  let text ← orFail raw missing
  let id ← fromMacString text
  let _ ← optionalField key parsePublicKey
  return device id

/-- The device of an AirPlay record. -/
def airplayDevice (name : String) (addresses : List IpAddr)
    (port : BitVec 16) (txt : Txt) (id : DeviceId) : Device where
  id := id
  name := name
  model := (txt "model").getD ""
  manufacturer := txt "manufacturer"
  serialNumber := txt "serialNumber"
  addresses := addresses
  port := port
  features := (read Features.fromTxtValue (txt "features")).getD 0
  requiredSenderFeatures := read Features.fromTxtValue (txt "rsf")
  publicKey := read parsePublicKey (txt "pk")
  sourceVersion := (read Version.parse (txt "srcvers")).getD {}
  firmwareVersion := txt "fv"
  osVersion := txt "osvers"
  protocolVersion := txt "protovers"
  requiresPassword := (txt "pw").any isSet
  statusFlags := BitVec.ofNat 64 ((((txt "flags").or (txt "sf")).bind number?).getD 0)
  accessControl := (txt "acl").bind (fun v => parseU8 v.toList)
  pairingIdentity := txt "pi"
  systemPairingIdentity := txt "psi"
  bluetoothAddress := txt "btaddr"
  homekitHomeId := txt "hkid"
  groupId := read (parseGroupUuid parseStr) (txt "gid")
  isGroupLeader := (txt "igl").any isSet
  groupPublicName := txt "gpn"
  groupContainsDiscoverableLeader := (txt "gcgl").any isSet
  homeGroupId := txt "hgid"
  householdId := txt "hmid"
  parentGroupId := read (parseGroupUuid parseStr) (txt "pgid")
  parentGroupContainsDiscoverableLeader := (txt "pgcgl").any isSet
  tightSyncId := read (parseGroupUuid parseStr) (txt "tsid")

variable (name : String)

/-- The device of a RAOP record. -/
def raopDevice (addresses : List IpAddr) (port : BitVec 16) (txt : Txt)
    (id : DeviceId) : Device where
  id := id
  name := name
  model := ((txt "am").or (txt "model")).getD ""
  addresses := addresses
  port := port
  features :=
    (if (txt "ft").isSome then read Features.fromTxtValue (txt "ft")
      else read parseLegacyFeatures (txt "sf")).getD 0
  publicKey := read parsePublicKey (txt "pk")
  sourceVersion := (read Version.parse ((txt "vs").or (txt "vn"))).getD {}
  firmwareVersion := txt "fv"
  osVersion := txt "ov"
  requiresPassword := (txt "pw").any isSet
  statusFlags := BitVec.ofNat 64 (((txt "sf").bind number?).getD 0)
  raopPort := some port
  raopEncryptionTypes := (txt "et").map u8List
  raopCodecs := (txt "cn").map u8List
  raopTransport := txt "tp"
  raopMetadataTypes := (txt "md").map u8List
  raopDigestAuth := (txt "da").any isSet
  vodkaVersion := txt "vv"

theorem statusFlags_eq (raw : Option String) : (raw.map parseHexOrDecimal).getD (.ok 0)
      = .ok (BitVec.ofNat 64 ((raw.bind number?).getD 0)) := by
  cases raw with
  | none => rfl
  | some => simp [parseHexOrDecimal_eq]

theorem parseAirplayTxt_eq (txt : Txt) (addrs : List IpAddr) (port : BitVec 16) :
    parseAirplayTxt parseStr name txt addrs port =
      record (txt "deviceid") (.missingField "deviceid") (txt "pk")
        (airplayDevice parseStr name addrs port txt) := by
  have hf : ∀ key, optionalField (txt key) Features.fromTxtValue
      = .ok (read Features.fromTxtValue (txt key)) :=
    fun key => optionalField_eq fun text _ => fromTxtValue_survives text
  have hv : ∀ key, optionalField (txt key) Version.parse = .ok (read Version.parse (txt key)) :=
    fun key => optionalField_eq fun text _ => versionParse_survives text
  have hg : ∀ key, optionalField (txt key) (parseGroupUuid parseStr)
      = .ok (read (parseGroupUuid parseStr) (txt key)) :=
    fun key => optionalField_eq fun text _ => parseGroupUuid_survives parseStr text
  unfold parseAirplayTxt record
  simp only [hf, hv, hg, statusFlags_eq]
  cases orFail (txt "deviceid") (.missingField "deviceid") with
  | error => rfl
  | ok text =>
    simp only [bind, Except.bind]
    cases fromMacString text with
    | error => rfl
    | ok =>
      cases hk : optionalField (txt "pk") parsePublicKey with
      | error => rfl
      | ok =>
        obtain rfl := eq_read_of_optionalField hk
        rfl

/-- The name in front of its first `@`, and behind it. -/
def beforeAt : Option String :=
  (splitOnce '@' name.toList).map (fun (front, _) => String.ofList front)

def afterAt : String :=
  String.ofList (((splitOnce '@' name.toList).map Prod.snd).getD [])

theorem splitOnce_eq (separator : Char) (text : List Char) :
    (splitOnce separator text = none ∧ findChar separator text = none) ∨
      ∃ front back, splitOnce separator text = some (front, back) ∧
        findChar separator text = some (utf8Len front) ∧ text = front ++ separator :: back := by
  induction text with
  | nil => exact .inl ⟨rfl, rfl⟩
  | cons c rest ih =>
    by_cases hc : c = separator
    · exact .inr ⟨[], rest, by simp [splitOnce, hc], by simp [findChar, hc], by simp [hc]⟩
    · obtain ⟨hs, hf⟩ | ⟨front, back, hs, hf, ht⟩ := ih
      · exact .inl ⟨by simp [splitOnce, hc, hs], by simp [findChar, hc, hf]⟩
      · exact .inr ⟨c :: front, back, by simp [splitOnce, hc, hs],
          by simp [findChar, hc, hf], by simp [ht]⟩

theorem parseRaopTxt_eq (txt : Txt) (addrs : List IpAddr) (port : BitVec 16) :
    parseRaopTxt name txt addrs port =
      record (beforeAt name) (.invalidFormat "RAOP name must contain '@'") (txt "pk")
        (raopDevice (afterAt name) addrs port txt) := by
  have hft : (if (txt "ft").isSome then optionalField (txt "ft") Features.fromTxtValue
      else optionalField (txt "sf") parseLegacyFeatures)
      = .ok (if (txt "ft").isSome then read Features.fromTxtValue (txt "ft")
        else read parseLegacyFeatures (txt "sf")) := by
    split
    · exact optionalField_eq fun text _ => fromTxtValue_survives text
    · exact optionalField_eq fun text _ => parseLegacyFeatures_survives text
  have hv : (if (txt "vs").isSome then optionalField (txt "vs") Version.parse
      else optionalField (txt "vn") Version.parse)
      = .ok (read Version.parse ((txt "vs").or (txt "vn"))) := by
    cases txt "vs" with
    | none => exact optionalField_eq fun text _ => versionParse_survives text
    | some text =>
      simp only [isSome_some, if_true, some_or]
      exact optionalField_eq fun text _ => versionParse_survives text
  unfold parseRaopTxt record beforeAt afterAt
  simp only [hft, hv, statusFlags_eq]
  obtain ⟨hs, hf⟩ | ⟨front, back, hs, hf, ht⟩ := splitOnce_eq '@' name.toList
  · rw [hs, hf]
    rfl
  · -- the slices end at the `@` and start behind it
    have ho : sliceTo (utf8Len front) name.toList = some front := by rw [ht, sliceTo_append]
    have hr : sliceFrom (utf8Len front + 1) name.toList = some back := by
      have hl := sliceFrom_append (front ++ ['@']) back
      rw [utf8Len_append, append_assoc] at hl
      rw [ht]
      exact hl
    rw [hs, hf]
    simp only [orFail, bind, Except.bind, map_some, getD_some, ho, hr, sliced]
    cases fromMacString (String.ofList front) with
    | error => rfl
    | ok =>
      cases hk : optionalField (txt "pk") parsePublicKey with
      | error => rfl
      | ok =>
        obtain rfl := eq_read_of_optionalField hk
        rfl

end OpenAirCast.Discovery

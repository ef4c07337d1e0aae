/-
Lib.Slice — text cut at byte positions.

A text is a list of characters; a position in it counts the bytes of its
UTF-8 form. A slice that ends inside a character does not exist.
`readPieces` reads a text in slices of one width, and stops with `cut` at
the first one that does not exist.
-/
import OpenAirCast.Lib.Fallible

namespace OpenAirCast

open List

variable {text : List Char}

/-! ## Bytes of a text -/

/-- `str::len`. -/
def utf8Len : List Char → Nat
  | [] => 0
  | c :: rest => c.utf8Size + utf8Len rest

@[simp] theorem utf8Len_nil : utf8Len [] = 0 := rfl

@[simp] theorem utf8Len_cons (c : Char) (rest : List Char) :
    utf8Len (c :: rest) = c.utf8Size + utf8Len rest := rfl

@[simp] theorem utf8Len_append (front back : List Char) :
    utf8Len (front ++ back) = utf8Len front + utf8Len back := by
  induction front with
  | nil => simp
  | cons _ _ ih => simp [ih, Nat.add_assoc]

theorem utf8Len_eq_zero : utf8Len text = 0 ↔ text = [] := by
  cases text with
  | nil => simp
  | cons c =>
    have hpos := c.utf8Size_pos
    simp only [utf8Len_cons, reduceCtorEq, iff_false]
    omega

variable {width : Nat} {parts : List (List Char)}

theorem utf8Len_flatten (h : ∀ part ∈ parts, utf8Len part = width) :
    utf8Len parts.flatten = parts.length * width := by
  induction parts with
  | nil => simp
  | cons part _ ih =>
    have hr := ih (fun other ho => h other (mem_cons_of_mem _ ho))
    simp [hr, h part mem_cons_self, Nat.succ_mul, Nat.add_comm]

/-! ## Cutting -/

/-- The text before a byte position and the text behind it; `none` where
the source panics. -/
def splitAtByte : Nat → List Char → Option (List Char × List Char)
  | 0, text => some ([], text)
  | _ + 1, [] => none
  | n + 1, c :: rest =>
    if c.utf8Size ≤ n + 1 then
      (splitAtByte (n + 1 - c.utf8Size) rest).map (fun (front, back) => (c :: front, back))
    else none

/-- The position is in the middle of a character. -/
def Inside (n : Nat) (text : List Char) : Prop :=
  ∃ front c back, text = front ++ c :: back ∧ utf8Len front < n ∧ n < utf8Len front + c.utf8Size

theorem splitAtByte_append (front back : List Char) :
    splitAtByte (utf8Len front) (front ++ back) = some (front, back) := by
  induction front with
  | nil => simp [splitAtByte]
  | cons c front ih =>
    obtain ⟨n, hn⟩ : ∃ n, c.utf8Size = n + 1 := ⟨_, (Nat.succ_pred_eq_of_pos c.utf8Size_pos).symm⟩
    have hlen : utf8Len (c :: front) = utf8Len front + n + 1 := by
      simp [hn]
      omega
    have hle : c.utf8Size ≤ utf8Len front + n + 1 := by omega
    have hr : utf8Len front + n + 1 - c.utf8Size = utf8Len front := by omega
    rw [hlen, cons_append, splitAtByte, if_pos hle, hr, ih]
    rfl

theorem splitAtByte_eq_some {n : Nat} {front back : List Char} :
    splitAtByte n text = some (front, back) ↔ text = front ++ back ∧ utf8Len front = n := by
  constructor
  · intro h
    induction text generalizing n front with
    | nil =>
      cases n with
      | zero =>
        obtain ⟨rfl, rfl⟩ : [] = front ∧ [] = back := by simpa [splitAtByte] using h
        simp
      | succ => simp [splitAtByte] at h
    | cons c rest ih =>
      cases n with
      | zero =>
        obtain ⟨rfl, rfl⟩ : [] = front ∧ c :: rest = back := by simpa [splitAtByte] using h
        simp
      | succ n =>
        simp only [splitAtByte] at h
        split at h
        · rename_i hf
          obtain ⟨⟨front', back'⟩, hs, heq⟩ := Option.map_eq_some_iff.mp h
          obtain ⟨rfl, rfl⟩ : c :: front' = front ∧ back' = back := by simpa using heq
          obtain ⟨rfl, _⟩ := ih hs
          refine ⟨rfl, ?_⟩
          simp only [utf8Len_cons]
          omega
        · simp at h
  · rintro ⟨rfl, rfl⟩
    exact splitAtByte_append front back

/-- A position that is no boundary is inside a character or past the end. -/
theorem splitAtByte_eq_none {n : Nat} :
    splitAtByte n text = none ↔ Inside n text ∨ utf8Len text < n := by
  constructor
  · intro h
    induction text generalizing n with
    | nil =>
      cases n with
      | zero => simp [splitAtByte] at h
      | succ => exact .inr (by simp)
    | cons c rest ih =>
      cases n with
      | zero => simp [splitAtByte] at h
      | succ n =>
        simp only [splitAtByte] at h
        split at h
        · rename_i hf
          obtain ⟨front, d, back, rfl, hb, hh⟩ | hs := ih (Option.map_eq_none_iff.mp h)
          · refine .inl ⟨c :: front, d, back, rfl, ?_, ?_⟩
            · simp only [utf8Len_cons]
              omega
            · simp only [utf8Len_cons]
              omega
          · refine .inr ?_
            simp only [utf8Len_cons]
            omega
        · rename_i hl
          exact .inl ⟨[], c, rest, rfl, by simp, by simpa using hl⟩
  · intro h
    cases hp : splitAtByte n text with
    | none => rfl
    | some halves =>
      -- a boundary in the middle of a character would cut it in two
      exfalso
      obtain ⟨_, back⟩ := halves
      obtain ⟨rfl, rfl⟩ := splitAtByte_eq_some.mp hp
      obtain ⟨_, c, behind, heq, hb, hh⟩ | hs := h
      · obtain ⟨more, rfl, hm⟩ | ⟨more, rfl, hm⟩ := append_eq_append_iff.mp heq
        · simp only [utf8Len_append] at hb
          omega
        · cases more with
          | nil => simp at hb
          | cons d more =>
            obtain ⟨rfl, rfl⟩ : c = d ∧ behind = more ++ back := by simpa using hm
            simp only [utf8Len_append, utf8Len_cons] at hh
            omega
      · rw [utf8Len_append] at hs
        omega

/-! ## Slices -/

/-- `&text[..n]`. -/
def sliceTo (n : Nat) (text : List Char) : Option (List Char) := (splitAtByte n text).map Prod.fst

/-- `&text[n..]`. -/
def sliceFrom (n : Nat) (text : List Char) : Option (List Char) := (splitAtByte n text).map Prod.snd

/-- `&text[start..stop]`. -/
def slice (start stop : Nat) (text : List Char) : Option (List Char) :=
  if start ≤ stop then (sliceFrom start text).bind (sliceTo (stop - start)) else none

theorem sliceTo_append (front back : List Char) :
    sliceTo (utf8Len front) (front ++ back) = some front := by
  rw [sliceTo, splitAtByte_append]
  rfl

theorem sliceFrom_append (front back : List Char) :
    sliceFrom (utf8Len front) (front ++ back) = some back := by
  rw [sliceFrom, splitAtByte_append]
  rfl

theorem slice_append (front back : List Char) (width : Nat) :
    slice (utf8Len front) (utf8Len front + width) (front ++ back) = sliceTo width back := by
  rw [slice, if_pos (Nat.le_add_right _ _), sliceFrom_append, Nat.add_sub_cancel_left]
  rfl

/-- `str::find` for a character: the byte it starts at. -/
def findChar (target : Char) : List Char → Option Nat
  | [] => none
  | c :: rest => if c = target then some 0 else (findChar target rest).map (fun n => c.utf8Size + n)

/-! ## Reading in pieces -/

section Pieces

variable {ε β : Type} (cut : ε) (read : List Char → Except ε β)

/-- `read(&text[start..stop])`. -/
def readSlice (start stop : Nat) (text : List Char) : Except ε β :=
  match slice start stop text with
  | none => .error cut
  | some piece => read piece

/-- `count` slices of `width` bytes, up to the first that fails. -/
def readPieces (width count : Nat) (text : List Char) : Except ε (List β) :=
  (List.range count).mapM (fun i => readSlice cut read (i * width) (i * width + width) text)

/-- The same loop, from the front of what is left. -/
def readFront (width : Nat) : Nat → List Char → Except ε (List β)
  | 0, _ => .ok []
  | count + 1, text =>
    match splitAtByte width text with
    | none => .error cut
    | some (piece, rest) => do
        let value ← read piece
        let values ← readFront width count rest
        return value :: values

theorem readFront_append {piece : List Char} (hp : utf8Len piece = width)
    (count : Nat) (rest : List Char) :
    readFront cut read width (count + 1) (piece ++ rest) = (do
      let value ← read piece
      let values ← readFront cut read width count rest
      return value :: values) := by
  rw [readFront, splitAtByte_eq_some.mpr ⟨rfl, hp⟩]

theorem readFrom_eq_readFront (width : Nat) : ∀ (count start : Nat) (front back : List Char),
    utf8Len front = start * width → (List.range' start count).mapM
        (fun i => readSlice cut read (i * width) (i * width + width) (front ++ back))
        = readFront cut read width count back := by
  intro count
  induction count with
  | zero => intros; rfl
  | succ _ ih =>
    intro start front back hf
    rw [range'_succ, mapM_cons, readFront]
    have hs : readSlice cut read (start * width) (start * width + width) (front ++ back)
        = match splitAtByte width back with
          | none => .error cut
          | some (piece, _) => read piece := by
      rw [readSlice, ← hf, slice_append, sliceTo]
      cases splitAtByte width back <;> rfl
    rw [hs]
    cases hp : splitAtByte width back with
    | none => rfl
    | some halves =>
      obtain ⟨piece, rest⟩ := halves
      obtain ⟨rfl, hc⟩ := splitAtByte_eq_some.mp hp
      have hr := ih (start + 1) (front ++ piece) rest (by rw [utf8Len_append, hf, hc, Nat.succ_mul])
      rw [append_assoc] at hr
      rw [hr]

theorem readPieces_eq_readFront (width count : Nat) (text : List Char) :
    readPieces cut read width count text = readFront cut read width count text := by
  have h := readFrom_eq_readFront cut read width count 0 [] text (by simp)
  rw [← h, readPieces, range_eq_range']
  rfl

variable {cut read}

/-- The text in front of the rest is cut into readable pieces of the width. -/
def Pieces (read : List Char → Except ε β) (width : Nat) (parts : List (List Char))
    (rest text : List Char) : Prop :=
  text = parts.flatten ++ rest ∧
    ∀ part ∈ parts, utf8Len part = width ∧ ∃ value, read part = .ok value

theorem pieces_cons {part : List Char}
    {rest : List Char} {value : β} (hw : utf8Len part = width)
    (hr : read part = .ok value) (h : Pieces read width parts rest text) :
    Pieces read width (part :: parts) rest (part ++ text) := by
  refine ⟨by simp [h.1], ?_⟩
  intro other ho
  rcases mem_cons.mp ho with rfl | ho
  · exact ⟨hw, value, hr⟩
  · exact h.2 other ho

/-- All values come from pieces at the front of the text, in order. -/
theorem readFront_eq_ok {count : Nat} {vals : List β} :
    readFront cut read width count text = .ok vals ↔
      ∃ parts rest, Pieces read width parts rest text ∧ parts.length = count ∧
        parts.mapM read = .ok vals := by
  constructor
  · intro h
    induction count generalizing text vals with
    | zero =>
      obtain rfl : [] = vals := by simpa [readFront] using h
      exact ⟨[], text, ⟨rfl, by simp⟩, rfl, rfl⟩
    | succ _ ih =>
      cases hs : splitAtByte width text with
      | none => simp [readFront, hs] at h
      | some halves =>
        obtain ⟨piece, _⟩ := halves
        obtain ⟨rfl, hp⟩ := splitAtByte_eq_some.mp hs
        rw [readFront_append cut read hp] at h
        obtain ⟨value, more, hr, hm, rfl⟩ := collect_eq_ok.mp h
        obtain ⟨parts, rest, hpieces, hc, hv⟩ := ih hm
        exact ⟨piece :: parts, rest, pieces_cons hp hr hpieces, by simp [hc],
          mapM_cons_eq_ok.mpr ⟨value, more, hr, hv, rfl⟩⟩
  · rintro ⟨parts, _, hpieces, rfl, hv⟩
    induction parts generalizing text vals with
    | nil =>
      obtain rfl : [] = vals := by simpa [pure, Except.pure] using hv
      rfl
    | cons part _ ih =>
      obtain ⟨rfl, ha⟩ := hpieces
      have hw := (ha part mem_cons_self).1
      obtain ⟨_, more, hr, hm, rfl⟩ := mapM_cons_eq_ok.mp hv
      have hrs := ih ⟨rfl, fun other ho => ha other (mem_cons_of_mem _ ho)⟩ hm
      rw [length_cons, flatten_cons, append_assoc, readFront_append cut read hw, hr, hrs]
      rfl

/-- The loop stops for a slice that does not exist exactly behind readable
pieces. -/
theorem readFront_eq_cut {count : Nat} (hd : ∀ piece, read piece ≠ .error cut) :
    readFront cut read width count text = .error cut ↔
      ∃ parts rest, Pieces read width parts rest text ∧ parts.length < count ∧
        splitAtByte width rest = none := by
  constructor
  · intro h
    induction count generalizing text with
    | zero => simp [readFront] at h
    | succ _ ih =>
      cases hs : splitAtByte width text with
      | none => exact ⟨[], text, ⟨rfl, by simp⟩, by simp, hs⟩
      | some halves =>
        obtain ⟨piece, _⟩ := halves
        obtain ⟨rfl, hp⟩ := splitAtByte_eq_some.mp hs
        rw [readFront_append cut read hp] at h
        obtain hf | ⟨⟨value, hv⟩, hm⟩ := collect_eq_error.mp h
        · exact absurd hf (hd piece)
        · obtain ⟨parts, rest, hpieces, hc, ht⟩ := ih hm
          exact ⟨piece :: parts, rest, pieces_cons hp hv hpieces, by simp [hc], ht⟩
  · rintro ⟨parts, _, hpieces, hc, ht⟩
    induction parts generalizing text count with
    | nil =>
      obtain ⟨rfl, -⟩ := hpieces
      cases count with
      | zero => simp at hc
      | succ => simp [readFront, ht]
    | cons part _ ih =>
      obtain ⟨rfl, hr⟩ := hpieces
      obtain ⟨hw, _, hv⟩ := hr part mem_cons_self
      cases count with
      | zero => simp at hc
      | succ =>
        have hrs := ih ⟨rfl, fun other ho => hr other (mem_cons_of_mem _ ho)⟩ (by simpa using hc)
        rw [flatten_cons, append_assoc, readFront_append cut read hw, hv, hrs]
        rfl

end Pieces

end OpenAirCast

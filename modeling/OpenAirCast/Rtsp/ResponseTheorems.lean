/-
Rtsp.ResponseTheorems — which length the parser takes for a
body, and what becomes of it.

Of equal header names the map keeps the last value, and it is gone through in
an order that is not specified. So the spellings of `Content-Length` in a
header compete: the lengths that the parser may take are the last values of
all of them (`mayAnnounce_iff`). Whether a response can be parsed is a matter
of these lengths alone: the parser panics at one that reaches beyond the end
of the address space (`parse_survives_iff`), and its body is what stands
behind the blank line when all of them say so (`agrees_iff`).
-/
import OpenAirCast.Rtsp.ConnectionTheorems

namespace OpenAirCast.Rtsp

open List

/-! ## What the header map holds -/

/-- A header line in its trimmed parts. -/
def headerOf (line : List Char) : Option Header :=
  (splitOnce ':' line).map (fun (key, value) => (trimChars key, trimChars value))

/-- The last header of its spelling. -/
def LastOf (headers : List Header) (h : Header) : Prop :=
  ∃ before after, headers = before ++ h :: after ∧ ∀ other ∈ after, other.1 ≠ h.1

variable {headers : List Header}

theorem lastOf_concat {last h : Header} :
    LastOf (headers ++ [last]) h ↔ (LastOf headers h ∧ h.1 ≠ last.1) ∨ h = last := by
  constructor
  · rintro ⟨pre, after, hs, hl⟩
    rcases eq_nil_or_concat after with rfl | ⟨front, last', rfl⟩
    · have hls := append_inj_right' hs rfl
      simp only [List.cons.injEq, and_true] at hls
      exact .inr hls.symm
    · have hs' : headers ++ [last] = (pre ++ h :: front) ++ [last'] := by simpa using hs
      obtain rfl : last = last' := by simpa using append_inj_right' hs' rfl
      have hf := append_inj_left' hs' rfl
      refine .inl ⟨⟨pre, front, hf, ?_⟩, ?_⟩
      · exact fun other ho => hl other (by simp [ho])
      · exact (hl last (by simp)).symm
  · rintro (⟨⟨pre, after, rfl, hl⟩, hne⟩ | rfl)
    · refine ⟨pre, after ++ [last], by simp, ?_⟩
      intro other ho
      rcases mem_append.mp ho with ho | ho
      · exact hl other ho
      · rw [mem_singleton.mp ho]
        exact hne.symm
    · exact ⟨headers, [], rfl, by simp⟩

/-- The map of the headers holds the last of each spelling. -/
theorem mem_foldl_insertHeader {h : Header} (headers : List Header) :
    h ∈ headers.foldl insertHeader [] ↔ LastOf headers h := by
  induction headers using List.reverseRecOn with
  | nil => simp [LastOf]
  | append_singleton _ _ ih =>
    rw [lastOf_concat, ← ih]
    simp [insertHeader]

theorem exists_lastOf {h : Header} (headers : List Header) (hmem : h ∈ headers) :
    ∃ last, LastOf headers last ∧ last.1 = h.1 := by
  induction headers using List.reverseRecOn with
  | nil => cases hmem
  | append_singleton headers last ih =>
    by_cases hs : h.1 = last.1
    · exact ⟨last, lastOf_concat.mpr (.inr rfl), hs.symm⟩
    · have hf : h ∈ headers := by
        rcases mem_append.mp hmem with hf | hl
        · exact hf
        · exact absurd (by rw [mem_singleton.mp hl]) hs
      obtain ⟨found, hn, hk⟩ := ih hf
      exact ⟨found, lastOf_concat.mpr (.inl ⟨hn, by rwa [hk]⟩), hk⟩

theorem LastOf.mem {h : Header} (hl : LastOf headers h) : h ∈ headers := by
  obtain ⟨_, _, rfl, -⟩ := hl
  simp

namespace RtspResponse

variable {iteration : List Header → List Header} {lines : List (List Char)} {data : Bytes}
  {head : Head}

variable (iteration) (lines)

theorem parseHeaders_eq :
    parseHeaders iteration lines =
      iteration ((lines.filterMap headerOf).foldl insertHeader []) := by
  unfold parseHeaders
  congr 1
  generalize ([] : List Header) = headers
  induction lines generalizing headers with
  | nil => rfl
  | cons line _ ih =>
    cases hs : splitOnce ':' line with
    | none => simp [headerOf, hs, ih]
    | some => simp [headerOf, hs, ih]

/-! ## The length of the body -/

/-- An order in which the map may be gone through. -/
def Lawful : Prop :=
  ∀ headers, (iteration headers).Perm headers

def IsLength (h : Header) : Prop := sameIgnoringCase h.1 "Content-Length".toList = true

variable (value : List Char)

/-- A value as a length; what is no number counts as none. -/
def number : Nat := (parseUnsigned USIZE_MAX value).getD 0

/-- The length the parser takes in this order. -/
def lengthIn : Nat :=
  ((find (parseHeaders iteration lines) "Content-Length").bind (parseUnsigned USIZE_MAX ·)).getD 0

/-- The length is the last value of one of the spellings, or there is
none. -/
def MayAnnounce (length : Nat) : Prop :=
  (∃ h, LastOf (lines.filterMap headerOf) h ∧ IsLength h ∧ length = number h.2) ∨
    ((∀ h ∈ lines.filterMap headerOf, ¬ IsLength h) ∧ length = 0)

theorem parseUnsigned_le {max n : Nat} {text : List Char} (h : parseUnsigned max text = some n) :
    n ≤ max := by
  unfold parseUnsigned at h
  grind

theorem number_le : number value ≤ USIZE_MAX := by
  unfold number
  cases h : parseUnsigned USIZE_MAX value with
  | none => simp
  | some => exact parseUnsigned_le h

variable {iteration} {lines}

theorem lengthIn_some {h : Header} (hf : (parseHeaders iteration lines).find?
      (fun header => sameIgnoringCase header.1 "Content-Length".toList) = some h) :
    lengthIn iteration lines = number h.2 := by
  rw [lengthIn, find, hf]
  rfl

theorem lengthIn_none (hf : (parseHeaders iteration lines).find?
      (fun header => sameIgnoringCase header.1 "Content-Length".toList) = none) :
    lengthIn iteration lines = 0 := by
  rw [lengthIn, find, hf]
  rfl

/-- An order that begins with this header where there is one. -/
def startingWith (h : Header) (headers : List Header) : List Header :=
  if h ∈ headers then h :: headers.erase h else headers

theorem startingWith_lawful (h : Header) : Lawful (startingWith h) := by
  intro headers
  unfold startingWith
  split
  · rename_i hmem
    exact (perm_cons_erase hmem).symm
  · exact List.Perm.refl _

variable {length : Nat}

/-- The lengths that the parser may take, in one order or another. -/
theorem mayAnnounce_iff : MayAnnounce lines length ↔
      ∃ iteration, Lawful iteration ∧ lengthIn iteration lines = length := by
  constructor
  · rintro (⟨h, hl, hlen, rfl⟩ | ⟨hn, rfl⟩)
    · refine ⟨startingWith h, startingWith_lawful h, lengthIn_some ?_⟩
      rw [parseHeaders_eq, startingWith, if_pos ((mem_foldl_insertHeader _).mpr hl)]
      exact find?_cons_of_pos hlen
    · refine ⟨id, fun _ => List.Perm.refl _, lengthIn_none ?_⟩
      rw [parseHeaders_eq, find?_eq_none]
      intro h hmem
      exact hn h ((mem_foldl_insertHeader _).mp hmem).mem
  · rintro ⟨iteration, hw, rfl⟩
    have hm : ∀ h, h ∈ parseHeaders iteration lines ↔ LastOf (lines.filterMap headerOf) h := by
      intro h
      rw [parseHeaders_eq, (hw _).mem_iff, mem_foldl_insertHeader]
    cases hf : (parseHeaders iteration lines).find?
        (fun header => sameIgnoringCase header.1 "Content-Length".toList) with
    | some h =>
      have hmem := (hm h).mp (mem_of_find?_eq_some hf)
      have hlen := find?_some hf
      exact .inl ⟨h, hmem, hlen, lengthIn_some hf⟩
    | none =>
      refine .inr ⟨?_, lengthIn_none hf⟩
      intro h hmem hlen
      obtain ⟨last, hl, hk⟩ := exists_lastOf _ hmem
      refine find?_eq_none.mp hf last ((hm last).mpr hl) ?_
      rw [hk]
      exact hlen

theorem mayAnnounce_lengthIn (hl : Lawful iteration)
    (lines : List (List Char)) : MayAnnounce lines (lengthIn iteration lines) :=
  mayAnnounce_iff.mpr ⟨iteration, hl, rfl⟩

theorem mayAnnounce_le (h : MayAnnounce lines length) : length ≤ USIZE_MAX := by
  rcases h with ⟨h, -, -, rfl⟩ | ⟨-, rfl⟩
  · exact number_le h.2
  · simp

/-! ## The two halves of the parser -/

/-- What the response is with this body. -/
def Head.response (head : Head) (iteration : List Header → List Header) (body : Option Bytes) :
    RtspResponse where
  statusCode := head.statusCode
  statusText := head.statusText
  headers := parseHeaders iteration head.lines
  body := body

theorem parse_eq (h : parseHead data = .ok head) (iteration : List Header → List Header) :
    parse iteration data = (parseBody data (head.headerEnd + 4) (lengthIn iteration head.lines)).map
        (head.response iteration) := by
  unfold parse
  rw [h]
  show (parseBody data (head.headerEnd + 4) (lengthIn iteration head.lines)).bind _ = _
  cases parseBody data (head.headerEnd + 4) (lengthIn iteration head.lines) <;> rfl

theorem parse_error {error : SendError} (h : parseHead data = .error error)
    (iteration : List Header → List Header) : parse iteration data = .error error := by
  unfold parse
  rw [h]
  rfl

theorem parseStatusLine_survives (line : List Char) : parseStatusLine line ≠ .error .panicked := by
  unfold parseStatusLine
  split
  · simp
  · dsimp only
    split
    · simp
    · split <;> simp

/-- The header is read without an index. -/
theorem parseHead_survives (data : Bytes) : parseHead data ≠ .error .panicked := by
  unfold parseHead
  cases headerEnd data with
  | none => simp
  | some place =>
    dsimp only
    cases utf8 (data.take place) with
    | none => simp
    | some text =>
      dsimp only
      cases lines text with
      | nil => simp
      | cons statusLine =>
        dsimp only
        have hs := parseStatusLine_survives statusLine
        cases hl : parseStatusLine statusLine with
        | error =>
          rw [hl] at hs
          simpa [bind, Except.bind] using hs
        | ok => simp [bind, Except.bind, pure, Except.pure]

theorem headerEnd_of_parseHead (h : parseHead data = .ok head) :
    headerEnd data = some head.headerEnd := by
  unfold parseHead at h
  cases he : headerEnd data with
  | none => simp [he] at h
  | some place =>
    rw [he] at h
    dsimp only at h
    cases ht : utf8 (data.take place) with
    | none => simp [ht] at h
    | some text =>
      rw [ht] at h
      dsimp only at h
      cases hl : lines text with
      | nil => simp [hl] at h
      | cons statusLine =>
        rw [hl] at h
        dsimp only at h
        cases hn : parseStatusLine statusLine with
        | error => simp [hn, bind, Except.bind] at h
        | ok =>
          simp only [hn, bind, Except.bind, pure, Except.pure, Except.ok.injEq] at h
          rw [← h]

/-! ## The body -/

/-- The sum wraps to less than where it began. -/
theorem addUsize_lt_iff {a b : Nat} (h : b ≤ USIZE_MAX) : addUsize a b < a ↔ USIZE_MAX < a + b := by
  unfold addUsize
  unfold USIZE_MAX at h ⊢
  omega

theorem addUsize_of_le {a b : Nat} (h : a + b ≤ USIZE_MAX) : addUsize a b = a + b :=
  Nat.mod_eq_of_lt (Nat.lt_succ_of_le h)

variable {bodyStart : Nat}

/-- The slice is out of range exactly when its end has wrapped. -/
theorem parseBody_panics_iff (hlen : length ≤ USIZE_MAX) (ht : bodyStart ≤ data.length) :
    parseBody data bodyStart length = .error .panicked ↔
      0 < length ∧ USIZE_MAX < bodyStart + length := by
  have hw := @addUsize_lt_iff bodyStart length hlen
  unfold parseBody
  dsimp only
  by_cases hs : length > 0
  · by_cases ho : USIZE_MAX < bodyStart + length
    · have hl := hw.mpr ho
      have hin : length > 0 ∧ data.length ≥ addUsize bodyStart length := ⟨hs, by omega⟩
      rw [if_pos hin, if_pos hl]
      simp [hs, ho]
    · have hh : ¬ addUsize bodyStart length < bodyStart := fun hl => ho (hw.mp hl)
      simp only [if_neg hh]
      split <;> simp [hs, ho]
  · have hn : ¬ (length > 0 ∧ data.length ≥ addUsize bodyStart length) := fun h => hs h.1
    rw [if_neg hn, if_neg hs]
    simp [hs]

/-- What stands behind the blank line. -/
def bodyBehind (data : Bytes) (bodyStart : Nat) : Option Bytes :=
  if data.drop bodyStart = [] then none else some (data.drop bodyStart)

/-- All that is there is the body when the length says so. -/
theorem parseBody_whole_iff (hlen : length ≤ USIZE_MAX)
    (ht : bodyStart ≤ data.length) (hd : data.length ≤ USIZE_MAX) :
    parseBody data bodyStart length = .ok (bodyBehind data bodyStart) ↔
      length = data.length - bodyStart := by
  have hb : bodyBehind data bodyStart
      = if data.length = bodyStart then none else some (data.drop bodyStart) := by
    unfold bodyBehind
    have he : data.drop bodyStart = [] ↔ data.length = bodyStart := by
      rw [drop_eq_nil_iff]
      omega
    simp only [he]
  rw [hb]
  unfold parseBody
  dsimp only
  by_cases hs : length > 0
  · by_cases ho : USIZE_MAX < bodyStart + length
    · have hl := (addUsize_lt_iff hlen).mpr ho
      have hin : length > 0 ∧ data.length ≥ addUsize bodyStart length := ⟨hs, by omega⟩
      simp only [if_pos hin, if_pos hl]
      simp
      omega
    · rw [addUsize_of_le (by omega)]
      by_cases hr : data.length ≥ bodyStart + length
      · have hh : ¬ bodyStart + length < bodyStart := by omega
        have hne : ¬ data.length = bodyStart := by omega
        simp only [if_pos (And.intro hs hr), if_neg hh, if_neg hne, Except.ok.injEq,
          Option.some.injEq]
        constructor
        · intro ha
          have := congrArg List.length ha
          simp only [length_drop, length_take] at this
          omega
        · intro hall
          rw [take_of_length_le (by omega)]
      · have hn : ¬ (length > 0 ∧ data.length ≥ bodyStart + length) := fun h => hr h.2
        simp only [if_neg hn, if_pos hs]
        simp
        omega
  · have hn : ¬ (length > 0 ∧ data.length ≥ addUsize bodyStart length) := fun h => hs h.1
    obtain rfl : length = 0 := by omega
    simp only [if_neg hn, if_neg hs, Except.ok.injEq]
    split <;> simp <;> omega

/-! ## No panic -/

/-- No length that the header may announce reaches beyond the end of the
address space. -/
def Fits (head : Head) : Prop :=
  ∀ length, MayAnnounce head.lines length → length = 0 ∨ head.headerEnd + 4 + length ≤ USIZE_MAX

/-- The parser returns, in whatever order it goes through its map. -/
theorem parse_survives_iff (data : Bytes) :
    (∀ iteration, Lawful iteration → parse iteration data ≠ .error .panicked) ↔
      ∀ head, parseHead data = .ok head → Fits head := by
  cases hh : parseHead data with
  | error error =>
    have ho : error ≠ .panicked := by
      rintro rfl
      exact parseHead_survives data hh
    simp [parse_error hh, ho]
  | ok head =>
    have hs := headerEnd_length (headerEnd_of_parseHead hh)
    have hp : ∀ iteration, Lawful iteration → (parse iteration data = .error .panicked ↔
          0 < lengthIn iteration head.lines ∧
            USIZE_MAX < head.headerEnd + 4 + lengthIn iteration head.lines) := by
      intro iteration hl
      have hle := mayAnnounce_le (mayAnnounce_lengthIn hl head.lines)
      rw [← parseBody_panics_iff hle hs, parse_eq hh]
      cases parseBody data (head.headerEnd + 4) (lengthIn iteration head.lines) <;>
        simp [Except.map]
    constructor
    · rintro hr _ hm _ ha
      obtain rfl := Except.ok.inj hm
      obtain ⟨iteration, hl, rfl⟩ := mayAnnounce_iff.mp ha
      have hn := (hp iteration hl).not.mp (hr iteration hl)
      omega
    · intro hf iteration hl
      have he := hf head rfl _ (mayAnnounce_lengthIn hl head.lines)
      refine (hp iteration hl).not.mpr ?_
      omega

/-! ## The body of a response -/

/-- The same response but for the order of its headers, or the same
error. -/
def SameResponse : Except SendError RtspResponse → Except SendError RtspResponse → Prop
  | .ok response, .ok response' =>
    response.statusCode = response'.statusCode ∧ response.statusText = response'.statusText ∧
      response.headers.Perm response'.headers ∧ response.body = response'.body
  | .error error, .error error' => error = error'
  | _, _ => False

/-- The parser gives what stands behind the first blank line, whatever the
order of its map. -/
def Agrees (data : Bytes) (bodyStart : Nat) : Prop :=
  (∀ iteration, Lawful iteration → ∃ response,
    parse iteration data = .ok response ∧ response.body = bodyBehind data bodyStart) ∧
  ∀ iteration iteration', Lawful iteration → Lawful iteration' →
    SameResponse (parse iteration data) (parse iteration' data)

/-- Every length that the header may announce is this one. -/
def OneLength (head : Head) (length : Nat) : Prop :=
  ∀ announced, MayAnnounce head.lines announced → announced = length

theorem parse_whole_iff (hh : parseHead data = .ok head) (hd : data.length ≤ USIZE_MAX)
    (hl : Lawful iteration) :
    parse iteration data = .ok (head.response iteration (bodyBehind data (head.headerEnd + 4))) ↔
      lengthIn iteration head.lines = data.length - (head.headerEnd + 4) := by
  have hle := mayAnnounce_le (mayAnnounce_lengthIn hl head.lines)
  rw [← parseBody_whole_iff hle (headerEnd_length (headerEnd_of_parseHead hh)) hd, parse_eq hh]
  cases parseBody data (head.headerEnd + 4) (lengthIn iteration head.lines) with
  | error => simp [Except.map]
  | ok => simp [Except.map, Head.response]

/-- The parser agrees exactly when every length it may take is the number of
bytes behind the blank line. -/
theorem agrees_iff (hh : parseHead data = .ok head) (hd : data.length ≤ USIZE_MAX) :
    Agrees data (head.headerEnd + 4) ↔ OneLength head (data.length - (head.headerEnd + 4)) := by
  constructor
  · rintro ⟨hb, -⟩ _ ha
    obtain ⟨iteration, hl, rfl⟩ := mayAnnounce_iff.mp ha
    obtain ⟨_, hp, hr⟩ := hb iteration hl
    refine (parse_whole_iff hh hd hl).mp ?_
    rw [parse_eq hh] at hp ⊢
    cases hs : parseBody data (head.headerEnd + 4) (lengthIn iteration head.lines) with
    | error => simp [hs, Except.map] at hp
    | ok body =>
      simp only [hs, Except.map, Except.ok.injEq] at hp
      rw [← hp] at hr
      show Except.ok (head.response iteration body) = _
      rw [show body = bodyBehind data (head.headerEnd + 4) from hr]
  · intro ho
    have hp : ∀ iteration, Lawful iteration → parse iteration data =
        .ok (head.response iteration (bodyBehind data (head.headerEnd + 4))) := by
      intro iteration hl
      exact (parse_whole_iff hh hd hl).mpr (ho _ (mayAnnounce_lengthIn hl head.lines))
    refine ⟨fun iteration hl => ⟨_, hp iteration hl, rfl⟩, ?_⟩
    intro iteration iteration' hl hl'
    rw [hp iteration hl, hp iteration' hl']
    refine ⟨rfl, rfl, ?_, rfl⟩
    show (parseHeaders iteration head.lines).Perm (parseHeaders iteration' head.lines)
    rw [parseHeaders_eq, parseHeaders_eq]
    exact (hl _).trans (hl' _).symm

end RtspResponse

end OpenAirCast.Rtsp

/-
Rtsp.ClosingTheorems — when the plaintext reader comes to an
end.

The loop reads the lines of the stream one after the other (`after_lines`),
and behind the last one it reads nothing for ever (`after_end`). So it ends
only in a line: the blank one, or one that is no text. A stream that is cut
off before both never gives a result (`readClosed_cut`), although it is the
one that the reader has to give up on.
-/
import OpenAirCast.Rtsp.Closing

namespace OpenAirCast.Rtsp

open List

/-! ## Lines -/

/-- The lines of a stream, each with its end; the last may have none. -/
def streamLines : Bytes → List Bytes
  | [] => []
  | b :: rest =>
    if b = 10 then [b] :: streamLines rest
    else
      match streamLines rest with
      | [] => [[b]]
      | line :: lines => (b :: line) :: lines

theorem streamLines_flatten (data : Bytes) : (streamLines data).flatten = data := by
  induction data with
  | nil => rfl
  | cons b rest ih =>
    unfold streamLines
    split
    · simp [ih]
    · split
      · rename_i hn
        rw [hn] at ih
        simp [← ih]
      · rename_i line lines hs
        rw [hs] at ih
        simp [← ih]

theorem streamLines_eq_nil {data : Bytes} (h : streamLines data = []) : data = [] := by
  rw [← streamLines_flatten data, h]
  rfl

/-- A read takes the first line and leaves the others. -/
theorem readLine_of_lines {line : Bytes} (data : Bytes) : ∀ lines : List Bytes,
    streamLines data = line :: lines →
      readLine data = (line, lines.flatten) ∧ streamLines lines.flatten = lines := by
  induction data generalizing line with
  | nil => simp [streamLines]
  | cons b rest ih =>
    intro lines h
    unfold streamLines at h
    unfold readLine
    split at h
    · rename_i he
      obtain ⟨rfl, rfl⟩ := List.cons.inj h
      rw [streamLines_flatten]
      simp [he]
    · rename_i hm
      split at h
      · rename_i hn
        obtain ⟨rfl, rfl⟩ := List.cons.inj h
        obtain rfl := streamLines_eq_nil hn
        simp [hm, readLine, streamLines]
      · rename_i front others hs
        obtain ⟨rfl, rfl⟩ := List.cons.inj h
        obtain ⟨hr, hl⟩ := ih others hs
        simp [hm, hr, hl]

/-! ## The loop -/

/-- What the reader makes of these lines behind `header`, if it comes to an
end in one of them. -/
def outcome (header : Bytes) : List Bytes → Option (Except SendError Bytes)
  | [] => none
  | line :: lines =>
    if utf8 line = none then some (.error .io)
    else if line = [13, 10] then some (readExactBody (header ++ line) lines.flatten)
    else outcome (header ++ line) lines

/-- At the end of the stream the reader goes on reading. -/
theorem after_end (n : Nat) : ∀ header : Bytes,
    HeaderLoop.after { responseData := header, stream := [] } n = none := by
  induction n with
  | zero => exact fun _ => rfl
  | succ _ ih =>
    intro header
    have ht : HeaderLoop.turn { responseData := header, stream := [] }
        = .again { responseData := header, stream := [] } := by
      have hx : utf8 [] ≠ none := by decide
      simp [HeaderLoop.turn, readLine, hx]
    rw [HeaderLoop.after, ht]
    exact ih header

theorem turn_cons {line : Bytes} {lines : List Bytes} (header : Bytes)
    (h : streamLines (line :: lines).flatten = line :: lines) :
    HeaderLoop.turn { responseData := header, stream := (line :: lines).flatten } =
      if utf8 line = none then .over (.error .io)
      else if line = [13, 10] then .over (readExactBody (header ++ line) lines.flatten)
      else .again { responseData := header ++ line, stream := lines.flatten } := by
  simp only [HeaderLoop.turn, (readLine_of_lines _ _ h).1]

/-- Nothing comes of the loop but what the lines say. -/
theorem outcome_of_after {res : Except SendError Bytes} (n : Nat) :
    ∀ (lines : List Bytes) (header : Bytes), streamLines lines.flatten = lines →
      HeaderLoop.after { responseData := header, stream := lines.flatten } n = some res →
        outcome header lines = some res := by
  induction n with
  | zero => simp [HeaderLoop.after]
  | succ _ ih =>
    intro lines header hl h
    cases lines with
    | nil => simp [after_end] at h
    | cons line lines =>
      rw [HeaderLoop.after, turn_cons header hl] at h
      unfold outcome
      by_cases ht : utf8 line = none
      · simpa [ht] using h
      · by_cases hb : line = [13, 10]
        · simp only [if_neg ht, if_pos hb] at h ⊢
          exact h
        · simp only [if_neg ht, if_neg hb] at h ⊢
          exact ih lines _ (readLine_of_lines _ _ hl).2 h

theorem after_of_outcome {res : Except SendError Bytes} (lines : List Bytes) :
    ∀ header : Bytes, streamLines lines.flatten = lines → outcome header lines = some res →
      HeaderLoop.after { responseData := header, stream := lines.flatten } lines.length
        = some res := by
  induction lines with
  | nil => simp [outcome]
  | cons line _ ih =>
    intro header hl h
    rw [length_cons, HeaderLoop.after, turn_cons header hl]
    unfold outcome at h
    by_cases ht : utf8 line = none
    · simpa [ht] using h
    · by_cases hb : line = [13, 10]
      · simp only [if_neg ht, if_pos hb] at h ⊢
        exact h
      · simp only [if_neg ht, if_neg hb] at h ⊢
        exact ih _ (readLine_of_lines _ _ hl).2 h

/-- The reader ends with what the lines of its stream say, or not at all. -/
theorem readClosed_iff (data : Bytes) (res : Except SendError Bytes) :
    (∃ reads, readClosed data reads = some res) ↔ outcome [] (streamLines data) = some res := by
  have hd := streamLines_flatten data
  have hl : streamLines (streamLines data).flatten = streamLines data := by rw [hd]
  constructor
  · rintro ⟨reads, h⟩
    unfold readClosed at h
    rw [← hd] at h
    exact outcome_of_after reads _ [] hl h
  · intro h
    have ha := after_of_outcome _ [] hl h
    rw [hd] at ha
    exact ⟨_, ha⟩

/-! ## Three kinds of streams -/

/-- A line that the loop goes past. -/
def Passed (line : Bytes) : Prop := utf8 line ≠ none ∧ line ≠ [13, 10]

/-- The header with its blank line, and what comes behind it. -/
def Headed (data header rest : Bytes) : Prop :=
  ∃ before after, streamLines data = before ++ [13, 10] :: after ∧
    (∀ line ∈ before, Passed line) ∧ header = before.flatten ++ [13, 10] ∧ rest = after.flatten

/-- The stream ends before a blank line, and nothing else is wrong with
it. -/
def Cut (data : Bytes) : Prop := ∀ line ∈ streamLines data, Passed line

theorem outcome_passed {after : List Bytes} (pre : List Bytes) : ∀ header : Bytes,
    (∀ line ∈ pre, Passed line) →
      outcome header (pre ++ after) = outcome (header ++ pre.flatten) after := by
  induction pre with
  | nil => simp
  | cons _ _ ih =>
    intro header h
    rw [forall_mem_cons] at h
    rw [cons_append, outcome, if_neg h.1.1, if_neg h.1.2, ih _ h.2]
    simp

theorem outcome_headed {data header rest : Bytes} (h : Headed data header rest) :
    outcome [] (streamLines data) = some (readExactBody header rest) := by
  obtain ⟨pre, _, hl, hp, rfl, rfl⟩ := h
  have ht : utf8 [13, 10] ≠ none := by decide
  rw [hl, outcome_passed pre [] hp, outcome, if_neg ht, if_pos rfl]
  simp

/-- Without a blank line the loop goes past everything. -/
theorem outcome_cut {data : Bytes} (h : Cut data) : outcome [] (streamLines data) = none := by
  have hp := @outcome_passed [] (streamLines data) [] h
  rw [append_nil] at hp
  rw [hp]
  rfl

/-- Otherwise a line that is no text, or the blank one, comes first. -/
theorem outcome_of_not_cut {data : Bytes} (h : ¬ Cut data) :
    (∃ header rest, Headed data header rest) ∨
      outcome [] (streamLines data) = some (.error .io) := by
  have hf : ∀ lines : List Bytes, (¬ ∀ line ∈ lines, Passed line) →
      ∃ pre line after, lines = pre ++ line :: after ∧ (∀ line ∈ pre, Passed line) ∧
        ¬ Passed line := by
    intro lines
    induction lines with
    | nil => simp
    | cons line lines ih =>
      intro hall
      by_cases hl : Passed line
      · obtain ⟨pre, stop, after, rfl, hb, hs⟩ := ih (by
          intro hr
          exact hall (forall_mem_cons.mpr ⟨hl, hr⟩))
        exact ⟨line :: pre, stop, after, rfl, forall_mem_cons.mpr ⟨hl, hb⟩, hs⟩
      · exact ⟨[], line, lines, rfl, by simp, hl⟩
  obtain ⟨pre, line, after, hn, hb, hs⟩ := hf _ h
  by_cases ht : utf8 line = none
  · refine .inr ?_
    rw [hn, outcome_passed pre [] hb, outcome, if_pos ht]
  · have hbl : line = [13, 10] := by
      by_contra hne
      exact hs ⟨ht, hne⟩
    subst hbl
    exact .inl ⟨_, _, pre, after, hn, hb, rfl, rfl⟩

/-! ## The end of a reader -/

/-- The reader ends: with the response if its stream has all of it, with an
error if the stream ends before. -/
structure Served (data : Bytes) : Prop where
  ends : ∃ reads result, readClosed data reads = some result
  whole : ∀ header rest, Headed data header rest → contentLength header ≤ rest.length →
    ∀ reads result, readClosed data reads = some result →
      result = .ok (header ++ rest.take (contentLength header))
  short : ∀ header rest, Headed data header rest → rest.length < contentLength header →
    ∀ reads result, readClosed data reads = some result →
      ∃ error, result = .error error ∧ error ≠ .panicked
  cut : Cut data → ∀ reads result, readClosed data reads = some result →
    ∃ error, result = .error error ∧ error ≠ .panicked

theorem readExactBody_panics {header rest : Bytes} (h : contentLength header > ISIZE_MAX) :
    readExactBody header rest = .error .panicked := by
  simp [readExactBody, h]

/-- The reader keeps its word on a stream exactly when there is a line for it
to end in, and no buffer is asked for that cannot be. -/
theorem readClosed_served_iff (data : Bytes) : Served data ↔ ¬ Cut data ∧
      ∀ header rest, Headed data header rest → contentLength header ≤ ISIZE_MAX := by
  have hs : ∀ reads res, readClosed data reads = some res →
      outcome [] (streamLines data) = some res :=
    fun reads res h => (readClosed_iff data res).mp ⟨reads, h⟩
  constructor
  · intro he
    obtain ⟨reads, res, hr⟩ := he.ends
    have ho := hs reads res hr
    refine ⟨fun hc => ?_, fun header rest hh => ?_⟩
    · rw [outcome_cut hc] at ho
      cases ho
    · by_contra hl
      rw [outcome_headed hh, readExactBody_panics (by omega)] at ho
      obtain rfl := Option.some.inj ho
      by_cases hm : contentLength header ≤ rest.length
      · cases he.whole header rest hh hm reads _ hr
      · obtain ⟨error, her, ht⟩ := he.short header rest hh (by omega) reads _ hr
        exact ht (Except.error.inj her).symm
  · rintro ⟨hn, hlen⟩
    refine ⟨?_, ?_, ?_, fun hc => absurd hc hn⟩
    · rcases outcome_of_not_cut hn with ⟨header, rest, hh⟩ | hb
      · obtain ⟨reads, hr⟩ := (readClosed_iff data _).mpr (outcome_headed hh)
        exact ⟨reads, _, hr⟩
      · obtain ⟨reads, hr⟩ := (readClosed_iff data _).mpr hb
        exact ⟨reads, _, hr⟩
    · intro header rest hh hm reads res hr
      have ho := hs reads res hr
      have hsm : ¬ contentLength header > ISIZE_MAX := by
        have := hlen header rest hh
        omega
      rw [outcome_headed hh, readExactBody] at ho
      simp only [if_neg hsm, if_neg (Nat.not_lt.mpr hm)] at ho
      exact (Option.some.inj ho).symm
    · intro header rest hh hsh reads res hr
      have ho := hs reads res hr
      have hsm : ¬ contentLength header > ISIZE_MAX := by
        have := hlen header rest hh
        omega
      rw [outcome_headed hh, readExactBody] at ho
      simp only [if_neg hsm, if_pos hsh] at ho
      exact ⟨.io, (Option.some.inj ho).symm, by simp⟩

/-- A receiver that closes the connection behind its status line. -/
theorem closed_in_header_reads_on : Cut (textBytes "RTSP/1.0 200 OK\r\n") ∧
      ∀ reads, readClosed (textBytes "RTSP/1.0 200 OK\r\n") reads = none := by
  have hl : streamLines (textBytes "RTSP/1.0 200 OK\r\n")
      = [textBytes "RTSP/1.0 200 OK\r\n"] := by decide +kernel
  have hc : Cut (textBytes "RTSP/1.0 200 OK\r\n") := by
    unfold Cut Passed
    rw [hl, forall_mem_singleton]
    decide +kernel
  refine ⟨hc, fun reads => ?_⟩
  cases hr : readClosed (textBytes "RTSP/1.0 200 OK\r\n") reads with
  | none => rfl
  | some res =>
    have ho := (readClosed_iff _ res).mp ⟨reads, hr⟩
    rw [outcome_cut hc] at ho
    cases ho

end OpenAirCast.Rtsp

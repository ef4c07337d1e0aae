/-
Rtsp.ReaderTheorems — what the readers of a response make of the
length it announces, beside what the parser makes of it.

The readers take the first `Content-Length` line whose value is a number,
the parser takes the last value of some spelling. `readEncryptedResponse` is
taken apart into the blocks that open (`plainBlocks`) and the buffers it
looks at (`looked`); a response that it returns has behind its header as many
bytes as the readers' rule says (`length_of_done`), and this is the length
that the parser has to find.
-/
import OpenAirCast.Rtsp.ResponseTheorems

namespace OpenAirCast.Rtsp

open Crypto ControlCipher RtspResponse List

/-! ## The blocks of a response -/

variable (aead : Aead) (c : ControlCipher) (data : Bytes)

/-- The blocks that open one after the other. -/
def plainBlocks (aead : Aead) (c : ControlCipher) (data : Bytes) : List Bytes :=
  match data with
  | low :: high :: rest =>
    let blockLen := fromLeBytes [low, high]
    if rest.length < blockLen + TAG_LENGTH then []
    else
      match c.decryptBlock aead (rest.take (blockLen + TAG_LENGTH)) blockLen with
      | (_, .error _) => []
      | (c, .ok block) => block :: plainBlocks aead c (rest.drop (blockLen + TAG_LENGTH))
  | _ => []
  termination_by data.length
  decreasing_by
    simp only [List.length_drop, List.length_cons]
    omega

/-- The first whole response that the blocks give. -/
def readBlocks (response : Bytes) : List Bytes → Option Bytes
  | [] => none
  | block :: rest =>
    match wholeResponse (response ++ block) with
    | some whole => some whole
    | none => readBlocks (response ++ block) rest

/-- The buffers in which a header is looked for. -/
def looked (response : Bytes) : List Bytes → List Bytes
  | [] => []
  | block :: rest =>
    (response ++ block) ::
      if (wholeResponse (response ++ block)).isSome then [] else looked (response ++ block) rest

variable {r rest : Bytes}

/-- The reader sees nothing but the blocks. -/
theorem readBlocks_of_done {aead : Aead} {c' : ControlCipher} :
    ∀ (c : ControlCipher) (resp data : Bytes),
      readEncryptedResponse aead c resp data = (c', .done r rest) →
        readBlocks resp (plainBlocks aead c data) = some r := by
  intro c resp data
  induction c, resp, data using readEncryptedResponse.induct aead with
  | case1 _ _ _ _ _ blockLen hs =>
    intro h
    rw [readEncryptedResponse] at h
    simp [blockLen, hs] at h
  | case2 _ _ _ _ _ blockLen hl _ _ hb =>
    intro h
    rw [readEncryptedResponse] at h
    simp [blockLen, hl, hb] at h
  | case3 _ _ _ _ _ blockLen hl _ _ hb _ hw =>
    intro h
    rw [readEncryptedResponse] at h
    rw [plainBlocks]
    simp only [blockLen, if_neg hl, hb, hw, Prod.mk.injEq, Reading.done.injEq] at h
    simp [blockLen, if_neg hl, hb, readBlocks, hw, h]
  | case4 _ _ _ _ _ blockLen hl _ _ hb hw ih =>
    intro h
    rw [readEncryptedResponse] at h
    rw [plainBlocks]
    simp only [blockLen, if_neg hl, hb, hw] at h
    simp [blockLen, if_neg hl, hb, readBlocks, hw, ih h]
  | case5 _ _ _ hs =>
    intro h
    rw [readEncryptedResponse] at h
    · simp at h
    · exact hs

/-- The response is cut off a buffer whose header ends where its own
does. -/
theorem wholeResponse_of_readBlocks : ∀ (blks : List Bytes) (resp : Bytes),
    readBlocks resp blks = some r → ∃ buffer, wholeResponse buffer = some r := by
  intro blks
  induction blks with
  | nil => simp [readBlocks]
  | cons block rest ih =>
    intro resp h
    unfold readBlocks at h
    split at h
    · rename_i whole hw
      exact ⟨resp ++ block, hw.trans h⟩
    · exact ih _ h

theorem contentLength_le (header : Bytes) : contentLength header ≤ USIZE_MAX := by
  unfold contentLength
  generalize hf : (lines (utf8Lossy header)).findSome? _ = found
  cases found with
  | none => simp
  | some n =>
    obtain ⟨line, -, hl⟩ := exists_of_findSome?_eq_some hf
    obtain ⟨⟨_, _⟩, -, hv⟩ := Option.bind_eq_some_iff.mp hl
    dsimp only at hv
    split at hv
    · exact parseUnsigned_le hv
    · cases hv

variable {place : Nat} {buffer : Bytes}

/-- A response that has a header has the announced length behind it. -/
theorem length_of_wholeResponse
    (h : wholeResponse buffer = some r) (hp : headerEnd r = some place) :
    r.length = place + 4 + contentLength (r.take place) := by
  obtain ⟨place', he, hc⟩ := Option.bind_eq_some_iff.mp h
  split at hc
  · rename_i hr
    obtain rfl := Option.some.inj hc
    have hs := headerEnd_append (buffer.drop (totalLen buffer place')) hp
    rw [take_append_drop, he] at hs
    obtain rfl := Option.some.inj hs
    have hlen := headerEnd_length hp
    have ht : (buffer.take (totalLen buffer place')).take place' = buffer.take place' := by
      rw [take_take, Nat.min_eq_left]
      simp only [length_take] at hlen
      omega
    rw [ht]
    simp only [length_take, Nat.min_eq_left hr] at hlen ⊢
    have hw := @addUsize_lt_iff (place' + 4) _ (contentLength_le (buffer.take place'))
    have hec : ¬ USIZE_MAX < place' + 4 + contentLength (buffer.take place') := by
      rw [← hw]
      unfold totalLen at hlen
      omega
    exact addUsize_of_le (by omega)
  · cases hc

/-- Behind its header an encrypted response has what its first numeric
`Content-Length` says. -/
theorem length_of_encrypted {aead : Aead} {c c' : ControlCipher} {data : Bytes} {head : Head}
    (h : readEncryptedResponse aead c [] data = (c', .done r rest))
    (hh : parseHead r = .ok head) :
    r.length - (head.headerEnd + 4) = contentLength (r.take head.headerEnd) := by
  obtain ⟨_, hw⟩ := wholeResponse_of_readBlocks _ _ (readBlocks_of_done c [] data h)
  have hlen := length_of_wholeResponse hw (headerEnd_of_parseHead hh)
  omega

/-! ## Lines in the clear -/

/-- A plaintext response is a header and the body that it announces. -/
theorem parts_of_readLines : ∀ (data header line : Bytes),
    readLines header line data = .done r rest →
      ∃ lines body, r = lines ++ body ∧ body.length = contentLength lines := by
  intro data
  induction data with
  | nil => simp [readLines]
  | cons b data ih =>
    intro header line h
    unfold readLines at h
    dsimp only at h
    split at h
    · exact ih _ _ h
    · split at h
      · cases h
      · split at h
        · unfold readBody at h
          dsimp only at h
          split at h
          · cases h
          · split at h
            · cases h
            · rename_i hr
              obtain ⟨rfl, -⟩ := Reading.done.inj h
              refine ⟨header ++ (line ++ [b]), _, rfl, ?_⟩
              simp only [length_take]
              omega
        · exact ih _ _ h

/-- The readers and the parser agree on a response exactly when the header
announces one length in all its spellings: for a response that came sealed
the one that the reader took, for one in the clear the number of bytes that
came behind the first blank line. There the reader took the same if its
header ends where the parser's does. -/
theorem readers_and_parser_agree_iff {r : Bytes} {head : Head} (hhead : parseHead r = .ok head)
    (hr : r.length ≤ USIZE_MAX) :
    (∀ (aead : Aead) (c c' : ControlCipher) (data rest : Bytes),
      readEncryptedResponse aead c [] data = (c', .done r rest) →
        (Agrees r (head.headerEnd + 4) ↔ OneLength head (contentLength (r.take head.headerEnd)))) ∧
    (∀ data rest : Bytes, readPlaintextResponse data = .done r rest →
      (Agrees r (head.headerEnd + 4) ↔ OneLength head (r.length - (head.headerEnd + 4))) ∧
        ∃ lines body, r = lines ++ body ∧ body.length = contentLength lines ∧
          (lines.length = head.headerEnd + 4 →
            (Agrees r (head.headerEnd + 4) ↔ OneLength head (contentLength lines)))) := by
  have ha := agrees_iff hhead hr
  constructor
  · intro aead c c' data rest hd
    rw [ha, length_of_encrypted hd hhead]
  · intro data rest hd
    obtain ⟨lines, body, hs, hb⟩ := parts_of_readLines data [] [] hd
    refine ⟨ha, lines, body, hs, hb, fun hl => ?_⟩
    have hh : r.length - (head.headerEnd + 4) = contentLength lines := by
      rw [hs, length_append]
      omega
    rw [ha, hh]

/-! ## The length of a sealed response -/

/-- Whenever the reader looks for a response in its buffer, the length it
computes for it is the length that was announced. -/
def TotalsExact : Prop :=
  ∀ buffer ∈ looked [] (plainBlocks aead c data), ∀ place, headerEnd buffer = some place →
    totalLen buffer place = place + 4 + contentLength (buffer.take place)

/-- The first header among the bytes announces a length within the address
space. -/
def HeaderFits (plain : Bytes) : Prop :=
  ∀ place, headerEnd plain = some place → place + 4 + contentLength (plain.take place) ≤ USIZE_MAX

theorem totalLen_exact_iff (buffer : Bytes) (place : Nat) :
    totalLen buffer place = place + 4 + contentLength (buffer.take place) ↔
      place + 4 + contentLength (buffer.take place) ≤ USIZE_MAX := by
  unfold totalLen
  constructor
  · intro he
    by_contra ho
    have hw := (@addUsize_lt_iff (place + 4) _ (contentLength_le (buffer.take place))).mpr
      (by omega)
    omega
  · exact addUsize_of_le

variable (blks : List Bytes)

/-- What the reader has looked at is there in the end. -/
theorem prefix_of_looked : ∀ resp : Bytes,
    buffer ∈ looked resp blks → buffer <+: resp ++ blks.flatten := by
  induction blks with
  | nil => simp [looked]
  | cons _ _ ih =>
    intro resp hmem
    unfold looked at hmem
    rw [flatten_cons, ← append_assoc]
    rcases mem_cons.mp hmem with rfl | hl
    · exact prefix_append _ _
    · split at hl
      · cases hl
      · exact ih _ hl

/-- The reader does not stop before it has looked at a header. -/
theorem exists_looked : ∀ resp : Bytes,
    headerEnd resp = none → headerEnd (resp ++ blks.flatten) = some place →
      ∃ buffer ∈ looked resp blks, headerEnd buffer = some place := by
  induction blks with
  | nil =>
    intro resp hn hp
    simp [hn] at hp
  | cons block rest ih =>
    intro resp hn hp
    rw [flatten_cons, ← append_assoc] at hp
    unfold looked
    cases hh : headerEnd (resp ++ block) with
    | some =>
      have hs := headerEnd_append rest.flatten hh
      rw [hp] at hs
      exact ⟨resp ++ block, mem_cons_self, hh.trans hs.symm⟩
    | none =>
      obtain ⟨buffer, hmem, he⟩ := ih _ hh hp
      have hw : wholeResponse (resp ++ block) = none := by simp [wholeResponse, hh]
      refine ⟨buffer, mem_cons_of_mem _ ?_, he⟩
      simpa [hw] using hmem

theorem take_front {plain : Bytes} (h : buffer <+: plain) (hp : headerEnd buffer = some place) :
    headerEnd plain = some place ∧ plain.take place = buffer.take place := by
  obtain ⟨more, rfl⟩ := h
  have hlen := headerEnd_length hp
  exact ⟨headerEnd_append more hp, take_append_of_le_length (by omega)⟩

theorem totalsExact_iff :
    TotalsExact aead c data ↔ HeaderFits (plainBlocks aead c data).flatten := by
  constructor
  · intro hc place hl
    obtain ⟨buffer, hmem, he⟩ := exists_looked _ [] rfl hl
    have ht := (take_front (prefix_of_looked _ _ hmem) he).2
    rw [nil_append] at ht
    rw [ht, ← totalLen_exact_iff]
    exact hc buffer hmem place he
  · intro hf buffer hmem place he
    have hp := take_front (prefix_of_looked _ _ hmem) he
    rw [nil_append] at hp
    rw [totalLen_exact_iff, ← hp.2]
    exact hf place hp.1

/-- Whatever the receiver sends, the parser returns and the reader counts
right exactly as long as no header announces a length beyond the address
space. -/
theorem no_response_crashes_iff (aead : Aead) (c : ControlCipher) (data : Bytes) :
    ((∀ iteration, Lawful iteration → RtspResponse.parse iteration data ≠ .error .panicked) ↔
      ∀ head, parseHead data = .ok head → Fits head) ∧
    (TotalsExact aead c data ↔ HeaderFits (plainBlocks aead c data).flatten) :=
  ⟨parse_survives_iff data, totalsExact_iff aead c data⟩

/-! ## Three responses -/

/-- Two lengths, of which the reader takes the first and the parser the
second. -/
def repeated : Bytes :=
  textBytes "RTSP/1.0 200 OK\r\nContent-Length: 2\r\nContent-Length: 3\r\n\r\nab"

def repeatedHead : Head where
  headerEnd := 53
  statusCode := 200
  statusText := ['O', 'K']
  lines := ["Content-Length: 2".toList, "Content-Length: 3".toList]

/-- Two spellings, of which the parser takes the one its map begins with. -/
def respelled : Bytes :=
  textBytes "RTSP/1.0 200 OK\r\nContent-Length: 2\r\ncontent-length: none\r\n\r\nab"

/-- A length that ends, with the header, at 2^64. -/
def enormous : Bytes :=
  textBytes "RTSP/1.0 200 OK\r\nContent-Length: 18446744073709551559\r\n\r\n"

theorem repeated_agrees_iff :
    Agrees repeated 57 ↔ OneLength repeatedHead (contentLength (repeated.take 57)) := by
  have hh : parseHead repeated = .ok repeatedHead := by decide +kernel
  have hr : readPlaintextResponse repeated = .done repeated [] := by decide +kernel
  have hb : repeated.length - (repeatedHead.headerEnd + 4)
      = contentLength (repeated.take 57) := by decide +kernel
  have ha := ((readers_and_parser_agree_iff hh (by decide +kernel)).2 _ _ hr).1
  rwa [hb] at ha

/-- The reader returns both; the parser refuses the first and gives the
second a body or none. -/
theorem repeated_length_refused : readPlaintextResponse repeated = .done repeated [] ∧
      parseHead repeated = .ok repeatedHead ∧
      RtspResponse.parse id repeated =
        .error (.invalidResponse "body too short: expected 3 bytes, got 2") ∧
    readPlaintextResponse respelled = .done respelled [] ∧
      (RtspResponse.parse id respelled).toOption.map (·.body) = some (some [97, 98]) ∧
      (RtspResponse.parse List.reverse respelled).toOption.map (·.body) = some none ∧
      Lawful id ∧ Lawful List.reverse :=
  ⟨by decide +kernel, by decide +kernel, by decide +kernel, by decide +kernel, by decide +kernel,
    by decide +kernel, fun _ => List.Perm.refl _, reverse_perm⟩

/-- The parser panics, the reader of sealed blocks hands over nothing at
all. -/
theorem enormous_length_panics :
    RtspResponse.parse id enormous = .error .panicked ∧ headerEnd enormous = some 53 ∧
      totalLen enormous 53 = 0 ∧ wholeResponse enormous = some [] :=
  ⟨by decide +kernel, by decide +kernel, by decide +kernel, by decide +kernel⟩

end OpenAirCast.Rtsp

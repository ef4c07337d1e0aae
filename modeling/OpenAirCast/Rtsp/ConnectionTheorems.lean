/-
Rtsp.ConnectionTheorems — which request the answer that `send`
returns belongs to.

`send` compares the number of the answer with that of its request, and only
warns. So it is the stream that has to match them: a link is `InStep` when
nothing is on the way and the two ciphers count alike. A send in step reads
its own answer or nothing whole (`readPlaintextResponse_answer`,
`readEncryptedResponse_sealed`), and it leaves the link in step unless the
time is over (`send_inStep`). Then it does not: the late answer, or what the
read left of it, is still there for the next send.
-/
import OpenAirCast.Crypto.ChachaTheorems
import OpenAirCast.Lib.Mealy
import OpenAirCast.Rtsp.Connection

namespace OpenAirCast.Rtsp

open Crypto ControlCipher List Option

variable {iteration : List Header → List Header} {cseq : BitVec 32} {aead : Aead} {answer : Bytes}
  {link : Link}

/-! ## Answers -/

/-- Lines with their ends. -/
def headerLines (ls : List Bytes) : Bytes := ls.flatMap (· ++ [13, 10])

/-- Header lines, and a body of the length that they announce. -/
structure WellFormed (ls : List Bytes) (body : Bytes) : Prop where
  someLine : ls ≠ []
  line : ∀ l ∈ ls, l ≠ [] ∧ 10 ∉ l ∧ 13 ∉ l ∧ utf8 (l ++ [13, 10]) ≠ none
  /-- To a reader that keeps the blank line. -/
  announced : contentLength (headerLines ls ++ [13, 10]) = body.length
  /-- To a reader that cuts off the last two line ends. -/
  announcedCut : contentLength ((headerLines ls).take ((headerLines ls).length - 2)) = body.length
  /-- A `Vec` holds all of it. -/
  fits : (headerLines ls ++ ([13, 10] ++ body)).length ≤ ISIZE_MAX

/-- What a receiver answers to the request of this number. -/
structure IsAnswer (iteration : List Header → List Header) (cseq : BitVec 32) (answer : Bytes) :
    Prop where
  wellFormed : ∃ ls body, WellFormed ls body ∧ answer = headerLines ls ++ ([13, 10] ++ body)
  numbered : ∃ response, RtspResponse.parse iteration answer = .ok response ∧
    response.cseq = some cseq

theorem headerLines_cons (l : Bytes) (ls : List Bytes) :
    headerLines (l :: ls) = l ++ 13 :: 10 :: headerLines ls := by
  simp [headerLines]

/-- A prefix ends in the front or in the back. -/
theorem prefix_append_cases {α : Type} {data front back : List α} (h : data <+: front ++ back) :
    data <+: front ∨ ∃ more, data = front ++ more ∧ more <+: back := by
  rcases prefix_or_prefix_of_prefix h (prefix_append front back) with hs | hl
  · exact .inl hs
  · obtain ⟨more, rfl⟩ := hl
    exact .inr ⟨more, rfl, (prefix_append_right_inj front).mp h⟩

/-! ## Reading in the clear -/

theorem readLines_noEnd (header : Bytes) : ∀ (line rest : Bytes), 10 ∉ rest →
    readLines header line rest = .more
  | _, [], _ => rfl
  | line, b :: rest, h => by
      have hb : b ≠ 10 := fun heq => h (heq ▸ mem_cons_self)
      unfold readLines
      simp only [if_pos hb]
      exact readLines_noEnd header (line ++ [b]) rest (fun hmem => h (mem_cons_of_mem b hmem))

theorem readLines_end (header rest : Bytes) : ∀ (line l : Bytes), 10 ∉ l →
    readLines header line (l ++ 10 :: rest) =
      if utf8 (line ++ l ++ [10]) = none then .failed .io rest
      else if line ++ l ++ [10] = [13, 10] then readBody (header ++ (line ++ l ++ [10])) rest
      else readLines (header ++ (line ++ l ++ [10])) [] rest
  | line, [], _ => by
      rw [nil_append, readLines, append_nil]
      simp
  | line, b :: l, h => by
      have hb : b ≠ 10 := fun heq => h (heq ▸ mem_cons_self)
      have ha : line ++ b :: l = line ++ [b] ++ l := by simp
      rw [ha]
      rw [← readLines_end header rest (line ++ [b]) l
        (fun hmem => h (mem_cons_of_mem b hmem)), cons_append, readLines]
      simp only [if_pos hb]

theorem readLines_line {l : Bytes} (header rest : Bytes) (hne : l ≠ []) (he : 10 ∉ l)
    (ht : utf8 (l ++ [13, 10]) ≠ none) :
    readLines header [] (l ++ 13 :: 10 :: rest)
      = readLines (header ++ (l ++ [13, 10])) [] rest := by
  have he' : 10 ∉ l ++ [(13 : UInt8)] := by simp [he]
  have hw : [] ++ (l ++ [(13 : UInt8)]) ++ [10] = l ++ [13, 10] := by simp
  have hl : l ++ [13, 10] ≠ [(13 : UInt8), 10] := by simpa using hne
  have hr := readLines_end header rest [] (l ++ [13]) he'
  rw [hw, if_neg ht, if_neg hl] at hr
  simpa using hr

theorem readLines_blank (header rest : Bytes) :
    readLines header [] (13 :: 10 :: rest) = readBody (header ++ [13, 10]) rest := by
  have ht : utf8 ([] ++ [13] ++ [10]) ≠ none := by decide
  have hr := readLines_end header rest [] [13] (by decide)
  rw [if_neg ht] at hr
  simpa using hr

/-- What has come of the lines and the body, or all of it. -/
theorem readLines_answer {body : Bytes} (hf : body.length ≤ ISIZE_MAX) :
    ∀ (ls : List Bytes) (header data : Bytes),
    (∀ l ∈ ls, l ≠ [] ∧ 10 ∉ l ∧ 13 ∉ l ∧ utf8 (l ++ [13, 10]) ≠ none) →
    contentLength (header ++ headerLines ls ++ [13, 10]) = body.length →
    data <+: headerLines ls ++ ([13, 10] ++ body) → readLines header [] data = .more ∨
        (data = headerLines ls ++ ([13, 10] ++ body) ∧
          readLines header [] data = .done (header ++ data) []) := by
  intro ls
  induction ls with
  | nil =>
    intro header data _ hlen hd
    have hs : headerLines [] ++ ([13, 10] ++ body) = [13] ++ 10 :: body := rfl
    rw [hs] at hd ⊢
    rcases prefix_append_cases hd with hh | ⟨more, rfl, hm⟩
    · refine .inl (readLines_noEnd header [] data ?_)
      exact fun hmem => absurd (hh.subset hmem) (by decide)
    · rcases prefix_cons_iff.mp hm with rfl | ⟨rest, rfl, hr⟩
      · exact .inl (readLines_noEnd header [] _ (by decide))
      · have ha : contentLength (header ++ [13, 10]) = body.length := by
          rw [← hlen]
          simp [headerLines]
        have hrd : readLines header [] ([13] ++ 10 :: rest)
            = readBody (header ++ [13, 10]) rest := readLines_blank header rest
        rw [hrd]
        unfold readBody
        rw [ha, if_neg (by omega)]
        rcases Nat.lt_or_ge rest.length body.length with hls | hall
        · exact .inl (if_pos hls)
        · obtain rfl := hr.eq_of_length_le hall
          exact .inr ⟨rfl, by simp⟩
  | cons l ls ih =>
    intro header data hl hlen hd
    rw [forall_mem_cons] at hl
    obtain ⟨⟨hne, he, _, ht⟩, hr⟩ := hl
    have hs : headerLines (l :: ls) ++ ([13, 10] ++ body)
        = (l ++ [13]) ++ 10 :: (headerLines ls ++ ([13, 10] ++ body)) := by
      simp [headerLines_cons]
    rw [hs] at hd ⊢
    have hnoEnd : 10 ∉ l ++ [(13 : UInt8)] := by simp [he]
    rcases prefix_append_cases hd with hh | ⟨more, rfl, hm⟩
    · exact .inl (readLines_noEnd header [] data (fun hmem => hnoEnd (hh.subset hmem)))
    · rcases prefix_cons_iff.mp hm with rfl | ⟨rest, rfl, hst⟩
      · exact .inl (readLines_noEnd header [] _ (by simpa using he))
      · have hrd : readLines header [] (l ++ [13] ++ 10 :: rest)
            = readLines (header ++ (l ++ [13, 10])) [] rest := by
          rw [← readLines_line header rest hne he ht]
          simp
        have hlen' : contentLength (header ++ (l ++ [13, 10]) ++ headerLines ls ++ [13, 10])
            = body.length := by
          rw [← hlen, headerLines_cons]
          simp
        rw [hrd]
        rcases ih (header ++ (l ++ [13, 10])) rest hr hlen' hst with
          hm | ⟨hall, hn⟩
        · exact .inl hm
        · refine .inr ⟨by rw [hall], ?_⟩
          rw [hn]
          simp

variable {data : Bytes}

/-- In the clear, what has come of an answer is not whole or is all of it. -/
theorem readPlaintextResponse_answer (h : IsAnswer iteration cseq answer) (hd : data <+: answer) :
    readPlaintextResponse data = .more ∨
      (data = answer ∧ readPlaintextResponse data = .done answer []) := by
  obtain ⟨ls, body, hw, rfl⟩ := h.wellFormed
  have hf : body.length ≤ ISIZE_MAX := by
    have := hw.fits
    simp only [length_append] at this
    omega
  rcases readLines_answer hf ls [] data hw.line hw.announced hd with
    hm | ⟨rfl, hn⟩
  · exact .inl hm
  · exact .inr ⟨rfl, hn⟩

/-! ## Reading sealed blocks -/

theorem headerEnd_length : ∀ {data : Bytes} {place : Nat}, headerEnd data = some place →
    place + 4 ≤ data.length
  | b :: rest, place, h => by
      unfold headerEnd at h
      split at h
      · rename_i hh
        have hlen := congrArg List.length hh
        simp only [length_take, length_cons, length_nil] at hlen
        rw [← Option.some.inj h, length_cons]
        omega
      · obtain ⟨_, hb, rfl⟩ := map_eq_some_iff.mp h
        have := headerEnd_length hb
        rw [length_cons]
        omega

/-- The place does not move when more comes. -/
theorem headerEnd_append (more : Bytes) : ∀ {data : Bytes} {place : Nat},
    headerEnd data = some place → headerEnd (data ++ more) = some place
  | b :: rest, place, h => by
      have hlen := headerEnd_length h
      rw [length_cons] at hlen
      have ht : (b :: (rest ++ more)).take 4 = (b :: rest).take 4 ∨ rest.length < 3 := by
        rcases Nat.lt_or_ge rest.length 3 with hs | hl
        · exact .inr hs
        · rw [← cons_append, take_append_of_le_length (by simpa using hl)]
          exact .inl rfl
      have ht := ht.resolve_right (by omega)
      unfold headerEnd at h
      rw [cons_append, headerEnd, ht]
      split at h
      · rename_i hh
        rw [if_pos hh]
        exact h
      · rename_i hth
        obtain ⟨_, hb, rfl⟩ := map_eq_some_iff.mp h
        rw [if_neg hth, headerEnd_append more hb]
        rfl

/-- The lines have no blank one among them. -/
theorem headerEnd_skip {b : UInt8} {rest : Bytes} (h : (b :: rest).take 4 ≠ [13, 10, 13, 10]) :
    headerEnd (b :: rest) = (headerEnd rest).map (· + 1) := by
  rw [headerEnd, if_neg h]

theorem headerEnd_line (rest : Bytes) : ∀ {l : Bytes}, 13 ∉ l →
    headerEnd (l ++ rest) = (headerEnd rest).map (· + l.length)
  | [], _ => by simp
  | b :: l, h => by
      have hb : b ≠ 13 := fun heq => h (heq ▸ mem_cons_self)
      have hl := headerEnd_line rest (fun hmem => h (mem_cons_of_mem b hmem))
      rw [cons_append, headerEnd_skip (by simp [hb]), hl, Option.map_map, length_cons]
      rfl

theorem headerEnd_answer (body : Bytes) : ∀ {ls : List Bytes}, ls ≠ [] →
    (∀ l ∈ ls, l ≠ [] ∧ 10 ∉ l ∧ 13 ∉ l ∧ utf8 (l ++ [13, 10]) ≠ none) →
    headerEnd (headerLines ls ++ ([13, 10] ++ body)) = some ((headerLines ls).length - 2)
  | [l], _, h => by
      have hc := (h l mem_cons_self).2.2.1
      have hs : headerLines [l] ++ ([13, 10] ++ body) = l ++ 13 :: 10 :: 13 :: 10 :: body := by
        simp [headerLines]
      rw [hs, headerEnd_line _ hc, headerEnd, if_pos (by simp)]
      simp [headerLines]
  | l :: next :: ls, _, h => by
      have hc := (h l mem_cons_self).2.2.1
      have hn := h next (mem_cons_of_mem l mem_cons_self)
      have hl := headerEnd_answer body (cons_ne_nil next ls)
        (fun x hx => h x (mem_cons_of_mem l hx))
      obtain ⟨b, tail, rfl⟩ := exists_cons_of_ne_nil hn.1
      have hb : b ≠ 13 := fun heq => hn.2.2.1 (heq ▸ mem_cons_self)
      have hs : headerLines (l :: (b :: tail) :: ls) ++ ([13, 10] ++ body)
          = l ++ 13 :: 10 :: (headerLines ((b :: tail) :: ls) ++ ([13, 10] ++ body)) := by
        simp [headerLines_cons]
      have hh : ∃ more, headerLines ((b :: tail) :: ls) ++ ([13, 10] ++ body) = b :: more := by
        rw [headerLines_cons]
        exact ⟨_, rfl⟩
      obtain ⟨more, hm⟩ := hh
      have hln : 2 ≤ (headerLines ((b :: tail) :: ls)).length := by
        rw [headerLines_cons]
        simp
        omega
      rw [hs, headerEnd_line _ hc]
      rw [hm] at hl ⊢
      rw [headerEnd_skip (by simp [hb]), headerEnd_skip (by simp), hl]
      rw [headerLines_cons l]
      simp only [map_some, length_append, length_cons]
      congr 1
      omega

/-- What has come of an answer is not whole before it is all there. -/
theorem wholeResponse_answer (h : IsAnswer iteration cseq answer) (hd : data <+: answer) :
    wholeResponse data = if data = answer then some answer else none := by
  obtain ⟨ls, body, hw, ha⟩ := h.wellFormed
  have he : headerEnd answer = some ((headerLines ls).length - 2) := by
    rw [ha]
    exact headerEnd_answer body hw.someLine hw.line
  have hn : 2 ≤ (headerLines ls).length := by
    obtain ⟨l, _, rfl⟩ := exists_cons_of_ne_nil hw.someLine
    rw [headerLines_cons]
    simp
    omega
  have ht : answer.length = (headerLines ls).length - 2 + 4 + body.length := by
    rw [ha]
    simp
    omega
  have hc : ∀ more, data ++ more = answer → headerEnd data = some ((headerLines ls).length - 2) →
      contentLength (data.take ((headerLines ls).length - 2)) = body.length := by
    intro more hm hp
    have hp' := headerEnd_length hp
    have hk : data.take ((headerLines ls).length - 2)
        = answer.take ((headerLines ls).length - 2) := by
      rw [← hm, take_append_of_le_length (by omega)]
    have ht' : answer.take ((headerLines ls).length - 2)
        = (headerLines ls).take ((headerLines ls).length - 2) := by
      rw [ha, take_append_of_le_length (by omega)]
    rw [hk, ht']
    exact hw.announcedCut
  obtain ⟨more, hm⟩ := hd
  unfold wholeResponse
  cases hp : headerEnd data with
  | none =>
    have hne : data ≠ answer := by
      rintro rfl
      rw [he] at hp
      cases hp
    rw [if_neg hne]
    rfl
  | some =>
    have hs := headerEnd_append more hp
    rw [hm, he] at hs
    obtain rfl := Option.some.inj hs
    have hlen : totalLen data ((headerLines ls).length - 2) = answer.length := by
      have hf := hw.fits
      rw [← ha] at hf
      unfold totalLen addUsize
      rw [hc more hm hp, ← ht]
      exact Nat.mod_eq_of_lt (by unfold ISIZE_MAX at hf; unfold USIZE_MAX; omega)
    rw [bind_some, hlen]
    by_cases hall : data = answer
    · rw [if_pos hall, hall, if_pos (Nat.le_refl _), take_length]
    · have hst : data <+: answer := ⟨more, hm⟩
      have hh : ¬ answer.length ≤ data.length := fun hl => hall (hst.eq_of_length_le hl)
      rw [if_neg hall, if_neg hh]

/-- Of the sealed blocks of an answer, what has come is not whole before it
is all there. -/
theorem readEncryptedResponse_sealed (h : IsAnswer iteration cseq answer) :
    ∀ (blks : List Sealed) (c : ControlCipher) (resp data : Bytes), blks ≠ [] →
      Readable aead c.readKey c.decryptCounter blks → (∀ s ∈ blks, s.block ≠ []) →
      resp ++ blks.flatMap (·.block) = answer → data <+: blks.flatMap Sealed.frame →
      (readEncryptedResponse aead c resp data).2 = .more ∨ readEncryptedResponse aead c resp data =
          (c.afterOpening blks.length, .done answer []) ∧
        data = blks.flatMap Sealed.frame := by
  intro blks
  induction blks with
  | nil => exact fun _ _ _ hne => absurd rfl hne
  | cons s rest ih =>
    intro c resp data _ hr hb ha hd
    rw [forall_mem_cons] at hb
    obtain ⟨low, high, hf, hy⟩ := frame_eq s
    have hbloLen : fromLeBytes [low, high] = s.block.length := by
      rw [hy]
      exact fromLeBytes_length hr.1
    have hw : s.block.length + TAG_LENGTH = s.ciphertextWithTag.length := hr.2.1.symm
    have hs := decryptBlock_readable hr
    rw [flatMap_cons, hf, cons_append, cons_append] at hd ⊢
    rcases prefix_cons_iff.mp hd with rfl | ⟨_, rfl, haftLow⟩
    · exact .inl (by rw [readEncryptedResponse]; simp)
    rcases prefix_cons_iff.mp haftLow with rfl | ⟨arrived, rfl, har⟩
    · exact .inl (by rw [readEncryptedResponse]; simp)
    rw [readEncryptedResponse]
    simp only [hbloLen, hw]
    rcases Nat.lt_or_ge arrived.length s.ciphertextWithTag.length with hl | hm
    · exact .inl (by rw [if_pos hl])
    obtain ⟨more, rfl⟩ := prefix_of_prefix_length_le (prefix_append _ _) har hm
    have hmr := (prefix_append_right_inj _).mp har
    have hm : ¬ (s.ciphertextWithTag ++ more).length < s.ciphertextWithTag.length := by simp
    simp only [if_neg hm, take_left, drop_left, hs]
    have ht : resp ++ s.block <+: answer := by
      rw [← ha, flatMap_cons, ← append_assoc]
      exact prefix_append _ _
    rw [wholeResponse_answer h ht]
    cases rest with
    | nil =>
      have hall : resp ++ s.block = answer := by simpa using ha
      obtain rfl : more = [] := by simpa using hmr
      rw [if_pos hall]
      exact .inr ⟨rfl, rfl⟩
    | cons next rest =>
      have hp : resp ++ s.block ≠ answer := by
        intro hall
        have hn := hb.2 next mem_cons_self
        rw [← ha] at hall
        simp [hn] at hall
      have hla : resp ++ s.block ++ (next :: rest).flatMap (·.block) = answer := by
        rw [← ha, append_assoc]
        rfl
      rw [if_neg hp]
      dsimp only
      rcases ih (c.afterOpening 1) (resp ++ s.block) more (cons_ne_nil _ _)
        hr.2.2.2.2 hb.2 hla hmr with hnn | ⟨hdn, hfm⟩
      · exact .inl hnn
      · refine .inr ⟨?_, by rw [hfm]⟩
        rw [hdn, afterOpening_add, Nat.add_comm 1, length_cons]
        rfl

/-! ## A connection in step -/

/-- Nothing is on the way, and the connection opens what the receiver seals
next. -/
structure InStep (link : Link) : Prop where
  incoming : link.incoming = []
  ciphers : (link.connection.cipher = none ∧ link.peer = none) ∨
    ∃ cipher peer, link.connection.cipher = some cipher ∧ link.peer = some peer ∧
      cipher.readKey = peer.writeKey ∧ cipher.decryptCounter = peer.encryptCounter

/-- What a call may see of its own answer: nothing whole, or all of it. -/
def Answered (answer : Bytes) (r : Link × Except SendError Bytes) : Prop :=
  r.2 = .error .timeout ∨ (r.2 = .ok answer ∧ InStep r.1)

/-- Sealing does not touch the reading side. -/
theorem sealBlock_reads (aead : Aead) (c : ControlCipher) (block : Bytes) :
    (c.sealBlock aead block).1.readKey = c.readKey ∧
      (c.sealBlock aead block).1.decryptCounter = c.decryptCounter := by
  unfold sealBlock
  dsimp only
  split <;> exact ⟨rfl, rfl⟩

theorem sealBlocks_reads (aead : Aead) : ∀ (blks : List Bytes) (c : ControlCipher),
    (inOrder (sealBlock aead) c blks).1.readKey = c.readKey ∧
      (inOrder (sealBlock aead) c blks).1.decryptCounter = c.decryptCounter
  | [], _ => ⟨rfl, rfl⟩
  | block :: rest, c => by
      obtain ⟨hk, hc⟩ := sealBlock_reads aead c block
      obtain ⟨hk', hc'⟩ := sealBlocks_reads aead rest (sealBlock aead c block).1
      unfold inOrder
      split
      · rename_i c' error heq
        rw [heq] at hk hc
        exact ⟨hk, hc⟩
      · rename_i c' b heq
        rw [heq] at hk hc hk' hc'
        split <;>
        · rename_i heq'
          rw [heq'] at hk' hc'
          exact ⟨hk'.trans hk, hc'.trans hc⟩

theorem encrypt_reads (aead : Aead) (c : ControlCipher) (data : Bytes) :
    (c.encrypt aead data).1.readKey = c.readKey ∧
      (c.encrypt aead data).1.decryptCounter = c.decryptCounter := by
  unfold ControlCipher.encrypt sealMessage
  split
  · exact ⟨rfl, rfl⟩
  · exact sealBlocks_reads aead _ c

/-- What the request costs does not put the link out of step. -/
theorem wireData_inStep {aead : Aead} {link : Link} (h : InStep link) (cseq : BitVec 32)
    (data : Bytes) :
    InStep { link with
      connection := ({ link.connection with cseq }.wireData aead data).1 } := by
  unfold RtspConnection.wireData
  rcases h.ciphers with ⟨hc, hp⟩ | ⟨ciph, peer, hc, hp, hk, hn⟩
  · rw [hc]
    exact ⟨h.incoming, .inl ⟨hc, hp⟩⟩
  · rw [hc]
    obtain ⟨hk', hc'⟩ := encrypt_reads aead ciph data
    exact ⟨h.incoming, .inr ⟨_, peer, rfl, hp, hk'.trans hk, hc'.trans hn⟩⟩

theorem IsAnswer.ne_nil (h : IsAnswer iteration cseq answer) : answer ≠ [] := by
  obtain ⟨_, _, -, rfl⟩ := h.wellFormed
  simp

/-- Nothing comes behind what was all there. -/
theorem drop_of_take_eq {n : Nat} (h : data.take n = data) : data.drop n = [] := by
  have ha := take_append_drop n data
  rw [h] at ha
  simpa using ha

/-- The receiver seals its answer into readable blocks. -/
theorem answered_sealed (sound : aead.Sound) {peer : ControlCipher} (hp : link.peer = some peer)
    (hi : link.incoming = [])
    (hne : answer ≠ []) :
    ∃ blks : List Sealed, blks ≠ [] ∧ (∀ s ∈ blks, s.block ≠ []) ∧ blks.flatMap (·.block) = answer ∧
      Readable aead peer.writeKey peer.encryptCounter blks ∧
      link.answered aead answer = { link with
        peer := some (peer.afterSealing blks.length)
        incoming := blks.flatMap Sealed.frame } := by
  have hz : 0 < MAX_BLOCK := by decide
  obtain ⟨blks, hr, hb, hd⟩ := sealBlocks_readable sound
    (chunks MAX_BLOCK answer) peer (fun block h => length_of_mem_chunks hz h)
  have hlen : (chunks MAX_BLOCK answer).length = blks.length := by rw [← hb, length_map]
  have he : peer.encrypt aead answer
      = (peer.afterSealing blks.length, .ok (blks.flatMap Sealed.frame)) := by
    unfold ControlCipher.encrypt sealMessage
    rw [if_neg hne, hr, hlen]
    rfl
  refine ⟨blks, ?_, ?_, ?_, hd, ?_⟩
  · rintro rfl
    exact chunks_ne_nil hz hne hb.symm
  · intro s hs
    have hmem : s.block ∈ chunks MAX_BLOCK answer := by
      rw [← hb]
      exact mem_map_of_mem hs
    exact ne_nil_of_mem_chunks hz hmem
  · rw [flatMap_def, hb, flatten_chunks hz]
  · unfold Link.answered
    rw [hp]
    dsimp only
    rw [he, hi]
    rfl

/-- The read of a link in step whose receiver has just answered. -/
theorem read_answered (sound : aead.Sound) (h : InStep link)
    (ha : IsAnswer iteration cseq answer) (arrived readAhead : Nat) :
    Answered answer ((link.answered aead answer).read aead arrived readAhead) := by
  rcases h.ciphers with ⟨hc, hp⟩ | ⟨ciph, peer, hc, hp, hk, hn⟩
  · have hl : link.answered aead answer = { link with incoming := answer } := by
      unfold Link.answered
      rw [hp, h.incoming]
      rfl
    rw [hl]
    unfold Link.read RtspConnection.readResponse
    dsimp only
    rw [hc]
    dsimp only
    rcases readPlaintextResponse_answer ha ( take_prefix arrived answer) with
      hm | ⟨hall, hd⟩
    · rw [hm]
      exact .inl rfl
    · rw [hd, drop_of_take_eq hall]
      refine .inr ⟨rfl, ?_, .inl ⟨hc, hp⟩⟩
      simp
  · obtain ⟨blks, hne, hb, hs, hr, hl⟩ := answered_sealed sound hp h.incoming ha.ne_nil
    rw [hl]
    unfold Link.read RtspConnection.readResponse
    dsimp only
    rw [hc]
    dsimp only
    rw [← hk, ← hn] at hr
    rcases readEncryptedResponse_sealed ha blks ciph [] _ hne hr hb hs
      ( take_prefix arrived _) with hm | ⟨hd, hall⟩
    · left
      split
      · rfl
      · rename_i heq
        rw [heq] at hm
        cases hm
      · rename_i heq
        rw [heq] at hm
        cases hm
    · rw [hd, drop_of_take_eq hall]
      refine .inr ⟨rfl, rfl, .inr ⟨_, _, rfl, rfl, hk, ?_⟩⟩
      unfold afterOpening afterSealing
      dsimp only
      rw [hn]

/-- What a send in step does: it fails, in step unless the time is over, or
it returns its own answer. -/
theorem send_cases (sound : aead.Sound) {call : Exchange} (h : InStep link)
    (ha : IsAnswer iteration (link.connection.cseq + 1) call.answer) :
    (∃ error cseq, (link.send aead iteration call).2 = (cseq, .error error) ∧
        (error ≠ .timeout → InStep (link.send aead iteration call).1)) ∨
      ∃ resp, RtspResponse.parse iteration call.answer = .ok resp ∧
        resp.cseq = some (link.connection.cseq + 1) ∧
        (link.send aead iteration call).2 = (link.connection.cseq + 1, .ok resp) ∧
        InStep (link.send aead iteration call).1 := by
  obtain ⟨resp, hp, hc⟩ := ha.numbered
  unfold Link.send
  split
  · exact .inl ⟨_, _, rfl, fun _ => h⟩
  · dsimp only
    have hw := @wireData_inStep aead link h (link.connection.cseq + 1)
      ((link.connection.withSessionHeaders call.request).serialize (link.connection.cseq + 1))
    split
    · exact .inl ⟨_, _, rfl, fun _ => hw⟩
    · split
      · exact .inl ⟨_, _, rfl, fun _ => hw⟩
      · rcases read_answered sound hw ha call.arrived call.readAhead with
          ht | ⟨hr, hs⟩
        · refine .inl ⟨.timeout, link.connection.cseq + 1, ?_, fun hne => absurd rfl hne⟩
          rw [ht]
          rfl
        · refine .inr ⟨resp, hp, hc, ?_, hs⟩
          rw [hr, Except.bind, hp]

theorem wireData_cseq (aead : Aead) (c : RtspConnection) (data : Bytes) :
    (c.wireData aead data).1.cseq = c.cseq := by
  unfold RtspConnection.wireData
  split <;> rfl

theorem readResponse_cseq (aead : Aead) (c : RtspConnection) (data : Bytes) (readAhead : Nat) :
    (c.readResponse aead data readAhead).1.cseq = c.cseq := by
  unfold RtspConnection.readResponse
  split <;> split <;> rfl

theorem answered_connection (aead : Aead) (link : Link) (answer : Bytes) :
    (link.answered aead answer).connection = link.connection := by
  unfold Link.answered
  split <;> rfl

/-- A send takes the next number, whatever comes of it. -/
theorem send_cseq (aead : Aead) (iteration : List Header → List Header)
    (h : link.connection.connected = true) (call : Exchange) :
    (link.send aead iteration call).1.connection.cseq = link.connection.cseq + 1 := by
  have hw := wireData_cseq aead { link.connection with cseq := link.connection.cseq + 1 }
    ((link.connection.withSessionHeaders call.request).serialize (link.connection.cseq + 1))
  have hop : ¬ link.connection.connected = false := by simp [h]
  unfold Link.send
  rw [if_neg hop]
  dsimp only
  split
  · exact hw
  · split
    · exact hw
    · unfold Link.read
      rw [readResponse_cseq, answered_connection]
      exact hw

/-! ## Runs -/

/-- Each answer is one to the request of its call. -/
def Answering (iteration : List Header → List Header) (link : Link) (call : Exchange) : Prop :=
  IsAnswer iteration (link.connection.cseq + 1) call.answer

/-- Until the time is over the link stays in step. -/
theorem run_inStep (sound : aead.Sound) : ∀ (calls : List Exchange) {link : Link}, InStep link →
      Mealy.Along (Link.send aead iteration) (Answering iteration) link calls →
      (∀ out ∈ Mealy.outputs (Link.send aead iteration) link calls, out.2 ≠ .error .timeout) →
      InStep (Mealy.run (Link.send aead iteration) link calls)
  | [], _, h, _, _ => h
  | call :: rest, link, h, ha, hint => by
      have ho : (link.send aead iteration call).2.2 ≠ .error .timeout := hint _ mem_cons_self
      refine run_inStep sound rest ?_ ha.2 (fun out hmem => hint out (mem_cons_of_mem _ hmem))
      rcases send_cases sound h ha.1 with ⟨_, _, hs, hk⟩ | ⟨_, _, _, _, ht⟩
      · refine hk ?_
        rintro rfl
        rw [hs] at ho
        exact ho rfl
      · exact ht

/-- Answers match their requests as long as the time is not over before:
every send that returns a response then returns the one answered to its own
request, under the number of that request. -/
theorem answers_match {aead : Aead} (sound : aead.Sound) (iteration : List Header → List Header)
    (link : Link) (calls : List Exchange) (hstart : InStep link)
    (hanswers : Mealy.Along (Link.send aead iteration) (Answering iteration) link calls)
    (before : List Exchange) (call : Exchange) (hcall : before ++ [call] <+: calls)
    (hintime : ∀ out ∈ Mealy.outputs (Link.send aead iteration) link before,
      out.2 ≠ .error .timeout)
    (cseq : BitVec 32) (response : RtspResponse)
    (hsend : ((Mealy.run (Link.send aead iteration) link before).send aead iteration call).2
      = (cseq, .ok response)) :
    response.cseq = some cseq ∧ RtspResponse.parse iteration call.answer = .ok response := by
  have ht := (Mealy.along_iff_forall_start calls).mp hanswers
  have hb : Mealy.Along (Link.send aead iteration) (Answering iteration) link before := by
    rw [Mealy.along_iff_forall_start]
    intro front i hf
    exact ht front i (hf.trans ((prefix_append _ _).trans hcall))
  have hs := run_inStep sound before hstart hb hintime
  rcases send_cases sound hs (ht before call hcall) with
    ⟨error, k, hl, _⟩ | ⟨own, hp, hc, ho, _⟩
  · rw [hl] at hsend
    cases hsend
  · rw [ho] at hsend
    cases hsend
    exact ⟨hc, hp⟩

/-! ## Two requests -/

variable (digit : UInt8)

/-- `RTSP/1.0 200 OK`, and the number as a digit. -/
def okLines : List Bytes :=
  [[82, 84, 83, 80, 47, 49, 46, 48, 32, 50, 48, 48, 32, 79, 75], [67, 83, 101, 113, 58, 32, digit]]

def okAnswer : Bytes := headerLines (okLines digit) ++ ([13, 10] ++ [])

/-- A call of `OPTIONS *` that is answered so, and how much comes in time. -/
def optionsCall (arrived : Nat) : Exchange where
  request := { method := .options, uri := "*" }
  answer := okAnswer digit
  arrived := arrived

def okResponse (digit : Char) : RtspResponse where
  statusCode := 200
  statusText := ['O', 'K']
  headers := [(['C', 'S', 'e', 'q'], [digit])]
  body := none

/-- A connection before the pairing. -/
def freshLink : Link where
  connection := {}

theorem okLines_wellFormed_one : WellFormed (okLines 49) [] where
  someLine := cons_ne_nil _ _
  line := by decide
  announced := by decide
  announcedCut := by decide
  fits := by decide

theorem okLines_wellFormed_two : WellFormed (okLines 50) [] where
  someLine := cons_ne_nil _ _
  line := by decide
  announced := by decide
  announcedCut := by decide
  fits := by decide

theorem okAnswer_one : IsAnswer id 1 (okAnswer 49) where
  wellFormed := ⟨okLines 49, [], okLines_wellFormed_one, rfl⟩
  numbered := ⟨okResponse '1', by decide, by decide⟩

theorem okAnswer_two : IsAnswer id 2 (okAnswer 50) where
  wellFormed := ⟨okLines 50, [], okLines_wellFormed_two, rfl⟩
  numbered := ⟨okResponse '2', by decide, by decide⟩

theorem freshLink_inStep : InStep freshLink := ⟨rfl, .inl ⟨rfl, rfl⟩⟩

theorem optionsCalls_answering (arrived arrived' : Nat) :
    Mealy.Along (Link.send chachaPoly id) (Answering id) freshLink
      [optionsCall 49 arrived, optionsCall 50 arrived'] := by
  have hc : freshLink.connection.connected = true := rfl
  have hn := send_cseq chachaPoly id hc (optionsCall 49 arrived)
  refine ⟨okAnswer_one, ?_, trivial⟩
  unfold Answering
  rw [hn]
  exact okAnswer_two

/-- Both answers come in time. -/
theorem answers_match_two :
    (okResponse '2').cseq = some 2 ∧ RtspResponse.parse id (okAnswer 50) = .ok (okResponse '2') :=
  answers_match chachaPoly_sound id freshLink [optionsCall 49 28, optionsCall 50 28]
    freshLink_inStep (optionsCalls_answering 28 28) [optionsCall 49 28] (optionsCall 50 28)
    prefix_rfl (by decide) 2 (okResponse '2') (by decide)

/-- Nothing comes in time of the first answer: it is returned as that to the
second request. -/
theorem late_answer_matches_next : InStep freshLink ∧
      Mealy.Along (Link.send chachaPoly id) (Answering id) freshLink
        [optionsCall 49 0, optionsCall 50 28] ∧
      Mealy.outputs (Link.send chachaPoly id) freshLink [optionsCall 49 0, optionsCall 50 28] =
        [(1, .error .timeout), (2, .ok (okResponse '1'))] ∧
      (okResponse '1').cseq ≠ some 2 :=
  ⟨freshLink_inStep, optionsCalls_answering 0 28, by decide, by decide⟩

end OpenAirCast.Rtsp

/-
Backend.PollTheorems — one exact receipt under any order of
polls, with its producer sending once or going away.

A receipt keeps the confirmation it has observed, and its channel keeps what
was sent: `Observed` ties the two to the turns of the run, and the run lemma
reads every poll off it.
-/
import OpenAirCast.Backend.Command
import OpenAirCast.Lib.Mealy

namespace OpenAirCast.Backend

open Mealy List CommandReceipt

open Mealy (Turn turn trace run)

/-- A receipt with the channel its producer holds the other end of. -/
structure ExactReceipt where
  receipt : CommandReceipt
  channel : Oneshot := .empty

/-- What the producer does and what the bridge does. -/
inductive ReceiptEvent where
  | send (confirmation : CommandConfirmation)
  | drop
  | poll (projectedRevision : Nat)

namespace ExactReceipt

variable {confirmation : CommandConfirmation} {s : ExactReceipt} {error : Option CommandFailure}
  {revision : Nat} {receipt : CommandReceipt}

/-- The sender is used up by its first send, or by being dropped. -/
def put (s : ExactReceipt) (content : Oneshot) : ExactReceipt :=
  if s.channel = .empty then { s with channel := content } else s

def step (s : ExactReceipt) : ReceiptEvent → ExactReceipt × Option ReceiptState
  | .send confirmation => (s.put (.sent confirmation), none)
  | .drop => (s.put .closed, none)
  | .poll projectedRevision =>
    let polled := s.receipt.poll s.channel projectedRevision
    ({ s with receipt := polled.1 }, some polled.2)

/-- As it is handed out. -/
def start (receiver : ReceiptId) : ExactReceipt := { receipt := { receiver } }

abbrev ReceiptTurn := Turn ExactReceipt ReceiptEvent (Option ReceiptState)

/-- The producer's one send. -/
def Sends (confirmation : CommandConfirmation) (t : ReceiptTurn) : Prop :=
  t.input = .send confirmation ∧ t.before.channel = .empty

/-- A poll at a revision, with its answer. -/
def Polls (projectedRevision : Nat) (state : ReceiptState) (t : ReceiptTurn) : Prop :=
  t.input = .poll projectedRevision ∧ t.output = some state

/-! ## One poll -/

theorem settle_completed : settle confirmation revision = .completed error ↔
      confirmation.revision ≤ revision ∧ confirmation.error = error := by
  unfold settle
  split <;> simp <;> omega

theorem settle_ne_lost (confirmation : CommandConfirmation) (revision : Nat) :
    settle confirmation revision ≠ .lost := by
  unfold settle
  split <;> simp

variable {channel : Oneshot}

/-- A completed poll has a confirmation, and keeps it. -/
theorem poll_completed (h : (receipt.poll channel revision).2 = .completed error) :
    ∃ confirmation, (receipt.poll channel revision).1.confirmed = some confirmation
      ∧ confirmation.revision ≤ revision ∧ confirmation.error = error := by
  unfold poll at h ⊢
  cases hc : receipt.confirmed with
  | some confirmation =>
    rw [hc] at h
    exact ⟨confirmation, hc, settle_completed.mp h⟩
  | none =>
    rw [hc] at h
    cases channel with
    | empty | closed => cases h
    | sent confirmation => exact ⟨confirmation, rfl, settle_completed.mp h⟩

theorem poll_lost (h : (receipt.poll channel revision).2 = .lost) :
    receipt.confirmed = none ∧ channel = .closed := by
  unfold poll at h
  cases hc : receipt.confirmed with
  | some confirmation =>
    rw [hc] at h
    exact absurd h (settle_ne_lost confirmation revision)
  | none =>
    rw [hc] at h
    cases channel with
    | empty => cases h
    | closed => exact ⟨rfl, rfl⟩
    | sent confirmation => exact absurd h (settle_ne_lost confirmation revision)

theorem poll_of_confirmed
    (h : receipt.confirmed = some confirmation) (channel : Oneshot) (revision : Nat) :
    receipt.poll channel revision = (receipt, settle confirmation revision) := by
  simp [poll, h]

/-! ## One step -/

theorem put_channel (s : ExactReceipt) (content : Oneshot) :
    (s.put content).channel = if s.channel = .empty then content else s.channel := by
  unfold put
  split <;> rfl

theorem put_receipt (s : ExactReceipt) (content : Oneshot) :
    (s.put content).receipt = s.receipt := by
  unfold put
  split <;> rfl

/-- A confirmation once observed stays. -/
theorem confirmed_step (h : s.receipt.confirmed = some confirmation) (ev : ReceiptEvent) :
    (s.step ev).1.receipt.confirmed = some confirmation := by
  cases ev with
  | send => rw [step, put_receipt, h]
  | drop => rw [step, put_receipt, h]
  | poll => simp only [step, poll_of_confirmed h, h]

theorem channel_step (h : s.channel ≠ .empty) (ev : ReceiptEvent) :
    (s.step ev).1.channel = s.channel := by
  cases ev with
  | send => rw [step, put_channel, if_neg h]
  | drop => rw [step, put_channel, if_neg h]
  | poll => rfl

/-! ## Runs -/

/-- What was sent was sent in some turn, and what was observed was sent. -/
structure Observed (turns : List ReceiptTurn) (s : ExactReceipt) : Prop where
  sent : ∀ confirmation, s.channel = .sent confirmation → ∃ t ∈ turns, Sends confirmation t
  confirmed : ∀ confirmation, s.receipt.confirmed = some confirmation →
    s.channel = .sent confirmation

variable (recv : ReceiptId)

theorem observed_start : Observed [] (start recv) where
  sent := by simp [start]
  confirmed := by simp [start]

/-- One more event keeps the record of what was sent. -/
theorem Observed.step {turns : List ReceiptTurn} {s : ExactReceipt} (h : Observed turns s)
    (ev : ReceiptEvent) : Observed (turns ++ [turn ExactReceipt.step s ev]) (s.step ev).1 := by
  have he : ∀ confirmation, s.channel = .sent confirmation →
      ∃ t ∈ turns ++ [turn ExactReceipt.step s ev], Sends confirmation t := by
    intro confirmation hs
    obtain ⟨t, ht, hn⟩ := h.sent confirmation hs
    exact ⟨t, mem_append_left _ ht, hn⟩
  cases ev with
  | send content =>
    constructor
    · intro confirmation hs
      rw [ExactReceipt.step, put_channel] at hs
      split at hs
      · rename_i hm
        cases hs
        exact ⟨_, mem_append_right _ mem_cons_self, rfl, hm⟩
      · exact he confirmation hs
    · intro confirmation hc
      rw [ExactReceipt.step, put_receipt] at hc
      have hs := h.confirmed confirmation hc
      rw [ExactReceipt.step, put_channel, if_neg (by simp [hs]), hs]
  | drop =>
    constructor
    · intro confirmation hs
      rw [ExactReceipt.step, put_channel] at hs
      split at hs
      · cases hs
      · exact he confirmation hs
    · intro confirmation hc
      rw [ExactReceipt.step, put_receipt] at hc
      have hs := h.confirmed confirmation hc
      rw [ExactReceipt.step, put_channel, if_neg (by simp [hs]), hs]
  | poll =>
    refine ⟨he, fun confirmation hc => ?_⟩
    cases hk : s.receipt.confirmed with
    | some known =>
      have hs := h.confirmed known hk
      simp only [ExactReceipt.step, poll_of_confirmed hk, hk] at hc
      cases hc
      exact hs
    | none =>
      -- the poll has just taken it off the channel
      simp only [ExactReceipt.step, poll, hk] at hc ⊢
      cases hh : s.channel with
      | empty | closed => simp [hh, hk] at hc
      | sent =>
        rw [hh] at hc
        simpa using hc

theorem observed_run (evs : List ReceiptEvent) :
    Observed (trace step (start recv) evs) (run step (start recv) evs) :=
  trace_induction (observed_start recv) (fun _ _ ev h => h.step ev) evs

/-- A confirmation is kept for good. -/
theorem confirmed_run (h : s.receipt.confirmed = some confirmation) (evs : List ReceiptEvent) :
    (run step s evs).receipt.confirmed = some confirmation := by
  have hs : ∀ (s : ExactReceipt) (ev : ReceiptEvent), s.receipt.confirmed = some confirmation →
        (s.step ev).1.receipt.confirmed = some confirmation :=
    fun _ ev h => confirmed_step h ev
  exact run_invariant hs h evs

/-- A channel that was used stays as it is. -/
theorem channel_run {content : Oneshot} (hu : content ≠ .empty)
    (h : s.channel = content) (evs : List ReceiptEvent) :
    (run step s evs).channel = content := by
  have hs : ∀ (s : ExactReceipt) (ev : ReceiptEvent), s.channel = content →
      (s.step ev).1.channel = content := by
    intro s ev h
    rw [channel_step (by rw [h]; exact hu), h]
  exact run_invariant hs h evs

variable {ev : ReceiptEvent}

/-- After a completed poll the receipt has its confirmation. -/
theorem confirmed_of_polls (h : Polls revision (.completed error) (turn step s ev)) :
    ∃ confirmation, (s.step ev).1.receipt.confirmed = some confirmation
      ∧ confirmation.revision ≤ revision ∧ confirmation.error = error := by
  obtain ⟨hi, ho⟩ := h
  change ev = .poll revision at hi
  subst hi
  exact poll_completed (Option.some.inj ho)

theorem closed_of_polls (h : Polls revision .lost (turn step s ev)) :
    s.receipt.confirmed = none ∧ s.channel = .closed := by
  obtain ⟨hi, ho⟩ := h
  change ev = .poll revision at hi
  subst hi
  exact poll_lost (Option.some.inj ho)

/-- A poll completes only with what was sent before it and not before its
revision; a later poll at no lower revision answers the same; a receipt that
has observed its confirmation is never lost, and one that was lost never
completes; a session floor shows only where a poll completes. -/
theorem exact_receipt_settles_once (receiver : ReceiptId) (events : List ReceiptEvent) :
    (∀ front t back revision error, trace step (start receiver) events = front ++ t :: back →
      Polls revision (.completed error) t →
        (∃ confirmation, (∃ u ∈ front, Sends confirmation u) ∧ confirmation.error = error
          ∧ confirmation.revision ≤ revision)
        ∧ (∀ u ∈ back, ∀ later state, Polls later state u →
          (revision ≤ later → state = .completed error) ∧ state ≠ .lost))
    ∧ (∀ front t back revision, trace step (start receiver) events = front ++ t :: back →
      Polls revision .lost t → t.before.receipt.confirmed = none
        ∧ ∀ u ∈ back, ∀ later state, Polls later state u → state = .lost)
    ∧ ∀ revision floor,
      (run step (start receiver) events).receipt.sessionGenerationFloor revision = some floor →
        ∃ error, ((run step (start receiver) events).step (.poll revision)).2
          = some (.completed error) := by
  refine ⟨?_, ?_, ?_⟩
  · intro front t back revision error hs hp
    obtain ⟨xs, ys, -, ht, hfr, hbc⟩ := trace_split hs
    rw [ht] at hp
    obtain ⟨confirmation, hc, hr, he⟩ := confirmed_of_polls hp
    refine ⟨⟨confirmation, ?_, he, hr⟩, ?_⟩
    · have hb := (observed_run receiver xs).step t.input
      -- the turn of the poll itself sends nothing
      obtain ⟨u, hu, hn⟩ := hb.sent confirmation (hb.confirmed confirmation hc)
      rcases mem_append.mp hu with hu | hu
      · exact ⟨u, hfr ▸ hu, hn⟩
      · rw [mem_singleton.mp hu] at hn
        have hi := hp.1.symm.trans hn.1
        cases hi
    · intro u hu later state hl
      rw [hbc] at hu
      obtain ⟨front', back', hs'⟩ := append_of_mem hu
      obtain ⟨zs, -, -, ht', -, -⟩ := trace_split hs'
      have ha : t.after.receipt.confirmed = some confirmation := by
        rw [ht]
        exact hc
      have hh := confirmed_run ha zs
      obtain ⟨hi, ho⟩ := hl
      rw [ht'] at ho
      rw [hi] at ho
      have hst : settle confirmation later = state := by
        simp only [turn, step, poll_of_confirmed hh] at ho
        exact Option.some.inj ho
      refine ⟨fun hle => ?_, ?_⟩
      · rw [← hst]
        exact settle_completed.mpr ⟨hr.trans hle, he⟩
      · rw [← hst]
        exact settle_ne_lost confirmation later
  · intro front t back revision hs hp
    obtain ⟨xs, _, -, ht, -, hbc⟩ := trace_split hs
    rw [ht] at hp
    obtain ⟨hnn, hcl⟩ := closed_of_polls hp
    refine ⟨by rw [ht]; exact hnn, ?_⟩
    intro u hu later state hl
    rw [hbc] at hu
    obtain ⟨_, _, hs'⟩ := append_of_mem hu
    obtain ⟨zs, -, -, ht', _, -⟩ := trace_split hs'
    have hru : run step (start receiver) (xs ++ t.input :: zs) = run step t.after zs := by
      rw [run_append, ht]
      rfl
    have hh : (run step t.after zs).channel = .closed := by
      refine channel_run (by simp) ?_ zs
      rw [ht]
      exact (channel_step (by rw [hcl]; simp) t.input).trans hcl
    have hb := observed_run receiver (xs ++ t.input :: zs)
    rw [hru] at hb
    have hun : (run step t.after zs).receipt.confirmed = none := by
      cases hc : (run step t.after zs).receipt.confirmed with
      | none => rfl
      | some confirmation =>
        have hsn := hb.confirmed confirmation hc
        rw [hh] at hsn
        cases hsn
    obtain ⟨hi, ho⟩ := hl
    rw [ht'] at ho
    rw [hi] at ho
    simp only [turn, step, poll, hun, hh] at ho
    exact (Option.some.inj ho).symm
  · intro revision floor hf
    unfold sessionGenerationFloor at hf
    obtain ⟨confirmation, hfi, -⟩ := Option.bind_eq_some_iff.mp hf
    obtain ⟨hc, hr⟩ := Option.filter_eq_some_iff.mp hfi
    refine ⟨confirmation.error, ?_⟩
    simp only [step, poll_of_confirmed hc]
    exact congrArg some (settle_completed.mpr ⟨by simpa using hr, rfl⟩)

end ExactReceipt

end OpenAirCast.Backend

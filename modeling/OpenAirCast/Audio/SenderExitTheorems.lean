/-
Audio.SenderExitTheorems — when the sender thread ends.

Which of its two receive loops the thread is in is decided by the messages
it has taken (`mode_afterWaits`). A disconnect ends the outer loop with the
next wait; in the inner one it moves nothing, however often it is seen
(`mode_disconnected`). So the thread returns exactly when the messages do
not leave it paused, and whether they do is read off them directly
(`foldl_after_eq_paused_iff`).
-/
import OpenAirCast.Audio.PlaybackTheorems

namespace OpenAirCast.Audio

open List SenderThread

/-! ## The mode the messages lead to -/

/-- The pauses and resumes of a list of messages. -/
def SenderMessage.isSwitch : SenderMessage → Bool
  | .pause | .resume => true
  | .packet _ | .stop => false

/-- No stop among the messages, and of the pauses and resumes a pause is the
last. -/
def LeavesPaused (messages : List SenderMessage) : Prop :=
  .stop ∉ messages ∧ (messages.filter SenderMessage.isSwitch).getLast? = some .pause

section

variable (msgs : List SenderMessage)

theorem foldl_after_exited : msgs.foldl SenderMode.after .exited = .exited := by
  induction msgs with
  | nil => rfl
  | cons msg _ ih => cases msg <;> exact ih

theorem foldl_after_eq_exited_iff :
    msgs.foldl SenderMode.after .running = .exited ↔ .stop ∈ msgs := by
  induction msgs using List.reverseRecOn with
  | nil => simp
  | append_singleton front last ih =>
    rw [foldl_concat, mem_append, mem_singleton, ← ih]
    cases hm : front.foldl SenderMode.after .running <;> cases last <;> simp [SenderMode.after]

theorem foldl_after_eq_paused_iff :
    msgs.foldl SenderMode.after .running = .paused ↔ LeavesPaused msgs := by
  induction msgs using List.reverseRecOn with
  | nil => simp [LeavesPaused]
  | append_singleton front last ih =>
    have he := foldl_after_eq_exited_iff front
    unfold LeavesPaused at ih ⊢
    rw [foldl_concat, filter_append, mem_append]
    cases hm : front.foldl SenderMode.after .running <;> cases last <;>
      simp_all [SenderMode.after, SenderMessage.isSwitch]

end

/-! ## The waits -/

namespace SenderThread

/-- A message moves the mode, a timeout does not. -/
theorem wait_mode (t : SenderThread) (burst : Nat) (slot : Option SenderMessage) :
    (t.wait burst (slot.elim (.error .timeout) .ok)).1.mode =
      slot.toList.foldl SenderMode.after t.mode := by
  cases slot with
  | none => rfl
  | some msg => exact t.receive_mode burst msg

variable (burst : Nat) (script : List (Option SenderMessage))

/-- As long as the channel is connected, the mode is that of the messages. -/
theorem mode_afterWaits (burst : Nat) (script : List (Option SenderMessage)) :
    ∀ n, n ≤ script.length → (afterWaits burst (channelAnswers script) n).mode =
      ((script.take n).filterMap id).foldl SenderMode.after .running
  | 0, _ => rfl
  | n + 1, hn => by
      have hlt : n < script.length := hn
      have ha : channelAnswers script n = script[n].elim (.error .timeout) .ok := by
        unfold channelAnswers
        rw [getElem?_eq_getElem hlt]
        cases script[n] <;> rfl
      have ih := mode_afterWaits burst script n (Nat.le_of_lt hlt)
      have ht : script.take (n + 1) = script.take n ++ [script[n]] :=
        take_succ_eq_append_getElem hlt
      rw [afterWaits, ha, wait_mode, ih, ht, filterMap_append, foldl_append]
      cases script[n] <;> rfl

theorem mode_disconnected (t : SenderThread) (burst : Nat) :
    (t.wait burst (.error .disconnected)).1.mode =
      if t.mode = .paused then .paused else .exited := by
  unfold wait
  cases hm : t.mode <;> simp [hm]

/-- Past the script every wait is a disconnect. -/
theorem mode_beyond : ∀ k, (afterWaits burst (channelAnswers script) (script.length + k + 1)).mode =
      if (script.filterMap id).foldl SenderMode.after .running = .paused then .paused
      else .exited := by
  have ha : ∀ n, script.length ≤ n → channelAnswers script n = .error .disconnected := by
    intro n hn
    unfold channelAnswers
    rw [getElem?_eq_none hn]
  have hc := mode_afterWaits burst script script.length le_rfl
  rw [take_length] at hc
  intro k
  induction k with
  | zero => rw [afterWaits, ha _ (by omega), mode_disconnected, hc]
  | succ _ ih =>
    rw [afterWaits, ha _ (by omega), mode_disconnected, ← Nat.add_assoc, ih]
    split <;> simp_all

/-- Left paused, the thread goes round in the inner loop for good. -/
theorem paused_stays {script : List (Option SenderMessage)}
    (hp : LeavesPaused (script.filterMap id)) (n : Nat) :
    (afterWaits burst (channelAnswers script) n).mode ≠ .exited := by
  rw [← foldl_after_eq_paused_iff] at hp
  intro he
  rcases Nat.lt_or_ge script.length n with hb | hw
  · obtain ⟨k, rfl⟩ := Nat.exists_eq_add_of_lt hb
    rw [mode_beyond, if_pos hp] at he
    cases he
  · -- once exited, the thread does not come back
    rw [mode_afterWaits burst script n hw] at he
    have hs := congrArg (List.filterMap id) (take_append_drop n script)
    rw [filterMap_append] at hs
    rw [← hs, foldl_append, he, foldl_after_exited] at hp
    cases hp

end SenderThread

/-! ## The thread returns -/

/-- `sender_thread_main` returns after finitely many waits on a channel that
is disconnected in the end exactly when the messages do not leave it
paused. -/
theorem sender_thread_returns_iff (burstSize : Nat) (script : List (Option SenderMessage)) :
    (∃ n, (SenderThread.afterWaits burstSize (channelAnswers script) n).mode = .exited) ↔
      ¬ LeavesPaused (script.filterMap id) := by
  constructor
  · rintro ⟨n, he⟩ hp
    exact paused_stays burstSize hp n he
  · intro hn
    refine ⟨script.length + 0 + 1, ?_⟩
    rw [mode_beyond burstSize script 0, if_neg (mt (foldl_after_eq_paused_iff _).mp hn)]

/-- A pause and then a disconnect: the thread waits forever. -/
theorem paused_thread_never_returns :
    ¬ ∃ n, (SenderThread.afterWaits 1 (channelAnswers [some .pause]) n).mode = .exited := by
  rintro ⟨n, he⟩
  exact paused_stays 1 ⟨by decide, by decide⟩ n he

end OpenAirCast.Audio

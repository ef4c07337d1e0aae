/-
Backend.TransitionTheorems — what a rejected transition leaves of
a receiver's machine.

`operate` puts the public operations of the machine side by side. Two of them
write before they ask for the edge, and a machine that is streaming has no
edge to another role: `Keeps` says of an operation that neither matters.
-/
import OpenAirCast.Backend.Recovery

namespace OpenAirCast.Backend

inductive MachineOperation where
  | setServiceAvailable (available : Bool)
  | beginGeneration (generation attempt : Nat)
  | enterSetup (role : ReceiverRole) (phase : SetupPhase)
  | enterStreaming (role : ReceiverRole)
  | fail (retryable : Bool) (error : String)
  | waitRetry (attempt : Nat) (retryAt : Instant)
  | retryNow
  | leaveSession
  | release

namespace ReceiverMachine

variable {machine : ReceiverMachine}

/-- The machine after an operation, and whether it returned `Ok`. -/
def operate (machine : ReceiverMachine) : MachineOperation → ReceiverMachine × Bool
  | .setServiceAvailable available => machine.setServiceAvailable available
  | .beginGeneration generation attempt => machine.beginGeneration generation attempt
  | .enterSetup role phase => machine.enterSetup role phase
  | .enterStreaming role => machine.enterStreaming role
  | .fail retryable error => machine.fail retryable error
  | .waitRetry attempt retryAt => machine.waitRetry attempt retryAt
  | .retryNow => machine.retryNow
  | .leaveSession => (machine.leaveSession, true)
  | .release => (machine.release, true)

/-- A rejection leaves everything as it was, and a machine told to stream in a
role does. -/
structure Answers (machine : ReceiverMachine) (operation : MachineOperation) : Prop where
  rejected : (machine.operate operation).2 = false → (machine.operate operation).1 = machine
  streaming : ∀ role, operation = .enterStreaming role → (machine.operate operation).2 = true
      ∧ (machine.operate operation).1.state = .streaming role
      ∧ (machine.operate operation).1.role = some role

/-- The edge is permitted, or what is written before it is there already; and
a streaming machine holds the role it is told. -/
def Keeps (machine : ReceiverMachine) : MachineOperation → Prop
  | .enterSetup role phase =>
    machine.state.permitted (.settingUp role phase) = true ∨ machine.role = some role
  | .waitRetry attempt retryAt =>
    machine.state.permitted (.retryWaiting attempt retryAt) = true
      ∨ machine.state = .retryWaiting attempt retryAt
      ∨ machine.attempt = attempt ∧ machine.nextRetry = some retryAt
  | .enterStreaming role =>
    ∀ held, machine.state = .streaming held → held = role ∧ machine.role = some role
  | .setServiceAvailable _ | .beginGeneration _ _ | .fail _ _ | .retryNow | .leaveSession
  | .release => True

/-! ## One operation -/

theorem transition_ok {to_ : Lifecycle} (h : machine.state.permitted to_ = true) :
    machine.transition to_ = ({ machine with state := to_ }, true) := by
  unfold transition
  rw [if_pos h]
  split
  · rename_i hs
    rw [← hs]
  · rfl

variable (role : ReceiverRole)

theorem permitted_settingUp_self (ph : SetupPhase) :
    (Lifecycle.settingUp role ph).permitted (.settingUp role ph) = true := rfl

variable (machine)

theorem setServiceAvailable_ok (available : Bool) :
    (machine.setServiceAvailable available).2 = true := by
  unfold setServiceAvailable
  dsimp only
  split
  · split
    · rename_i hu
      rw [transition_ok (by rw [hu]; rfl)]
    · rfl
  · split
    · rfl
    · rw [transition_ok (by cases machine.state <;> rfl)]

theorem retryNow_ok : machine.retryNow.2 = true := by
  unfold retryNow
  dsimp only
  split
  · rename_i hb
    unfold inBackoff at hb
    rw [transition_ok]
    cases hs : machine.state with
    | retryWaiting | failed => rfl
    | discovered | connecting | settingUp | ready | streaming | unavailable => simp [hs] at hb
  · rfl

/-- A rejected setup step has written the role. -/
theorem enterSetup_keeps (ph : SetupPhase) :
    ((machine.enterSetup role ph).2 = false → (machine.enterSetup role ph).1 = machine)
      ↔ machine.Keeps (.enterSetup role ph) := by
  by_cases hp : machine.state.permitted (.settingUp role ph) = true
  · have ho : machine.enterSetup role ph
        = ({ machine with role := some role, state := .settingUp role ph }, true) := by
      unfold enterSetup
      exact transition_ok hp
    simp [Keeps, ho, hp]
  · have hne : machine.state ≠ .settingUp role ph := by
      intro hs
      rw [hs] at hp
      exact hp (permitted_settingUp_self role ph)
    have hr : machine.enterSetup role ph = ({ machine with role := some role }, false) := by
      simp [enterSetup, transition, hne, hp]
    rw [hr]
    constructor
    · intro h
      rw [← h rfl]
      exact .inr rfl
    · rintro (h | h) _
      · exact absurd h hp
      · rw [← h]

theorem waitRetry_keeps (attempt : Nat) (retryAt : Instant) :
    ((machine.waitRetry attempt retryAt).2 = false →
      (machine.waitRetry attempt retryAt).1 = machine)
      ↔ machine.Keeps (.waitRetry attempt retryAt) := by
  by_cases hp : machine.state.permitted (.retryWaiting attempt retryAt) = true
  · have ho : machine.waitRetry attempt retryAt = ({ machine with
        attempt := attempt
        nextRetry := some retryAt
        state := .retryWaiting attempt retryAt }, true) := by
      unfold waitRetry
      exact transition_ok hp
    simp [Keeps, ho, hp]
  · by_cases hs : machine.state = .retryWaiting attempt retryAt
    · have ho : (machine.waitRetry attempt retryAt).2 = true := by simp [waitRetry, transition, hs]
      simp [Keeps, ho, hs]
    · have hr : machine.waitRetry attempt retryAt
          = ({ machine with attempt := attempt, nextRetry := some retryAt }, false) := by
        simp [waitRetry, transition, hs, hp]
      rw [hr]
      constructor
      · intro h
        rw [← h rfl]
        exact .inr (.inr ⟨rfl, rfl⟩)
      · rintro (h | h | ⟨ha, ht⟩) _
        · exact absurd h hp
        · exact absurd h hs
        · rw [← ha, ← ht]

variable {machine}

/-- Outside `Streaming` the walk always arrives. -/
theorem enterStreaming_arrives (h : ∀ held, machine.state ≠ .streaming held) :
    machine.enterStreaming role
      = ({ machine with role := some role, state := .streaming role }, true) := by
  obtain ⟨state, _, _, _, _, _, _⟩ := machine
  cases state with
  | streaming role' => exact absurd rfl (h role')
  | discovered | connecting | settingUp | ready | retryWaiting | unavailable | failed =>
    simp [enterStreaming, transition, Lifecycle.permitted, Lifecycle.ownedByGeneration]

/-- There is no edge from streaming in one role to another. -/
theorem enterStreaming_other {held role : ReceiverRole}
    (h : machine.state = .streaming held) (hne : held ≠ role) :
    machine.enterStreaming role = ({ machine with role := some role }, false) := by
  obtain ⟨_, _, _, _, _, _, _⟩ := machine
  dsimp only at h
  subst h
  simp [enterStreaming, transition, Lifecycle.permitted, Lifecycle.ownedByGeneration, hne]

theorem enterStreaming_same {role : ReceiverRole}
    (h : machine.state = .streaming role) : machine.enterStreaming role = (machine, true) := by
  simp [enterStreaming, h]

theorem enterStreaming_answers (machine : ReceiverMachine) (role : ReceiverRole) :
    machine.Answers (.enterStreaming role) ↔ machine.Keeps (.enterStreaming role) := by
  by_cases hsr : ∃ held, machine.state = .streaming held
  · obtain ⟨held, hs⟩ := hsr
    by_cases hm : held = role
    · subst hm
      constructor
      · intro h
        obtain ⟨-, -, hr⟩ := h.streaming held rfl
        intro other ho
        rw [hs] at ho
        cases ho
        rw [operate, enterStreaming_same hs] at hr
        exact ⟨rfl, hr⟩
      · intro h
        obtain ⟨-, hr⟩ := h held hs
        refine ⟨fun _ => ?_, fun other ho => ?_⟩
        · rw [operate, enterStreaming_same hs]
        · cases ho
          rw [operate, enterStreaming_same hs]
          exact ⟨rfl, hs, hr⟩
    · constructor
      · intro h
        obtain ⟨hk, -⟩ := h.streaming role rfl
        rw [operate, enterStreaming_other hs hm] at hk
        cases hk
      · intro h
        exact absurd (h held hs).1 hm
  · have ht : ∀ held, machine.state ≠ .streaming held := fun held h => hsr ⟨held, h⟩
    refine iff_of_true ⟨?_, ?_⟩ (fun held h => absurd h (ht held))
    · rw [operate, enterStreaming_arrives role ht]
      simp
    · intro other ho
      cases ho
      rw [operate, enterStreaming_arrives role ht]
      exact ⟨rfl, rfl, rfl⟩

/-- An operation that is never rejected answers. -/
theorem answers_of_ok {operation : MachineOperation} (ho : (machine.operate operation).2 = true)
    (ht : ∀ role, operation ≠ .enterStreaming role) : machine.Answers operation where
  rejected h := by
    rw [ho] at h
    cases h
  streaming role h := absurd h (ht role)

theorem answers_iff (machine : ReceiverMachine) (operation : MachineOperation) :
    machine.Answers operation ↔ machine.Keeps operation := by
  cases operation with
  | enterStreaming role => exact enterStreaming_answers machine role
  | enterSetup =>
    rw [← enterSetup_keeps]
    exact ⟨fun h => h.rejected, fun h => ⟨h, fun _ ho => by cases ho⟩⟩
  | waitRetry =>
    rw [← waitRetry_keeps]
    exact ⟨fun h => h.rejected, fun h => ⟨h, fun _ ho => by cases ho⟩⟩
  | setServiceAvailable available =>
    exact iff_of_true (answers_of_ok (setServiceAvailable_ok machine available) (by simp)) trivial
  | retryNow => exact iff_of_true (answers_of_ok (retryNow_ok machine) (by simp)) trivial
  | beginGeneration | fail | leaveSession | release =>
    exact iff_of_true (answers_of_ok rfl (by simp)) trivial

/-! ## Reachable machines -/

/-- At any machine a run of operations reaches, the next operation keeps the
row and streams where it is told exactly under `Keeps`. -/
theorem rejected_leaves_row_iff (available : Bool) (before : List MachineOperation)
    (operation : MachineOperation) :
    (Mealy.run operate (new available) before).Answers operation ↔
      (Mealy.run operate (new available) before).Keeps operation :=
  answers_iff _ operation

/-- A secondary that streams is told to stream as the primary: the move is
rejected, the row still says secondary, and the role says primary. -/
theorem streaming_role_change_rejected :
    ¬ (Mealy.run operate (new true) [.beginGeneration 1 0, .enterStreaming .secondary]).Answers
      (.enterStreaming .primary) := by
  intro h
  have ho := (h.streaming .primary rfl).1
  revert ho
  decide

end ReceiverMachine

end OpenAirCast.Backend

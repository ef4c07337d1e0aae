/-
Backend.MachineTheorems — the receiver machines and discovery.

`Sound` and `Lets` say of an operation on a machine that it keeps it in its
place and takes no receiver into a generation. `Mirrored` is the agreement
between the machines and the inventory: what discovery offers as castable
has a machine that knows it and a known time online. The rows keep it
(`settleMachines_mirrored`), and a discovery event restores it
(`syncServiceAvailability_mirrored`).
-/
import OpenAirCast.Backend.ControllerTheorems

namespace OpenAirCast.Backend

open ReceiverMachine SortedMap

/-! ## Receiver machines -/

namespace ReceiverMachine

/-- A machine whose service is there is not `Unavailable`. -/
def Placed (machine : ReceiverMachine) : Prop :=
  machine.serviceAvailable = true → machine.state ≠ .unavailable

/-- An operation that leaves the service alone and the machine placed. -/
structure Sound (op : ReceiverMachine → ReceiverMachine) : Prop where
  service : ∀ machine, (op machine).serviceAvailable = machine.serviceAvailable
  placed : ∀ machine, machine.Placed → (op machine).Placed

/-- An operation that takes no receiver into a generation. -/
def Lets (op : ReceiverMachine → ReceiverMachine) : Prop :=
  ∀ machine, (op machine).state.ownedByGeneration = true → machine.state.ownedByGeneration = true

theorem idle_ne_unavailable : Lifecycle.idle true ≠ .unavailable := by decide

variable (available : Bool)

theorem idle_not_owned : (Lifecycle.idle available).ownedByGeneration = false := by
  cases available <;> rfl

theorem new_placed : (new available).Placed := by
  cases available
  · intro h
    cases h
  · intro _
    exact idle_ne_unavailable

variable (machine : ReceiverMachine) (to_ : Lifecycle)

theorem transition_service :
    (machine.transition to_).1.serviceAvailable = machine.serviceAvailable := by
  unfold transition
  split
  · rfl
  · split <;> rfl

theorem transition_state :
    (machine.transition to_).1.state = machine.state ∨ (machine.transition to_).1.state = to_ := by
  unfold transition
  split
  · exact .inl rfl
  · split
    · exact .inr rfl
    · exact .inl rfl

theorem transition_placed {machine : ReceiverMachine} {to_ : Lifecycle} (h : machine.Placed)
    (ht : to_ ≠ .unavailable) : (machine.transition to_).1.Placed := by
  intro ha
  rw [transition_service] at ha
  rcases transition_state machine to_ with heq | heq <;> rw [heq]
  · exact h ha
  · exact ht

theorem beginGeneration_sound (gen att : Nat) :
    Sound (fun machine => (machine.beginGeneration gen att).1) :=
  ⟨fun _ => rfl, fun _ _ _ h => by cases h⟩

theorem fail_sound (retryable : Bool) (err : String) :
    Sound (fun machine => (machine.fail retryable err).1) :=
  ⟨fun _ => rfl, fun _ _ _ h => by cases h⟩

theorem fail_lets (retryable : Bool) (err : String) :
    Lets (fun machine => (machine.fail retryable err).1) :=
  fun _ h => by cases h

theorem waitRetry_sound (att : Nat) (retryAt : Instant) :
    Sound (fun machine => (machine.waitRetry att retryAt).1) := by
  refine ⟨fun machine => transition_service _ _, fun machine h => ?_⟩
  exact transition_placed h (by simp)

theorem waitRetry_lets (attempt : Nat) (retryAt : Instant) :
    Lets (fun machine => (machine.waitRetry attempt retryAt).1) := by
  intro machine h
  rcases transition_state { machine with attempt, nextRetry := some retryAt }
    (.retryWaiting attempt retryAt) with heq | heq
  · exact (congrArg Lifecycle.ownedByGeneration heq).symm.trans h
  · cases (congrArg Lifecycle.ownedByGeneration heq).symm.trans h

theorem retryNow_sound : Sound (fun machine => (machine.retryNow).1) := by
  constructor
  · intro machine
    unfold retryNow
    dsimp only
    split
    · exact transition_service _ _
    · rfl
  · intro machine h
    unfold retryNow
    dsimp only
    split
    · exact transition_placed h (by simp)
    · exact h

variable (role : ReceiverRole)

/-- Whatever the machine was at, it ends up streaming. -/
theorem enterStreaming_state :
    (machine.enterStreaming role).1.serviceAvailable = machine.serviceAvailable ∧
      ∃ role', (machine.enterStreaming role).1.state = .streaming role' := by
  obtain ⟨st⟩ := machine
  cases st with
  | streaming role' =>
    by_cases h : role' = role <;>
      simp [enterStreaming, transition, Lifecycle.permitted, Lifecycle.ownedByGeneration, h]
  | discovered | connecting | settingUp | ready | retryWaiting | unavailable | failed =>
    simp [enterStreaming, transition, Lifecycle.permitted, Lifecycle.ownedByGeneration]

theorem enterStreaming_sound : Sound (fun machine => (machine.enterStreaming role).1) := by
  refine ⟨fun machine => (enterStreaming_state machine role).1, fun machine _ _ h => ?_⟩
  obtain ⟨_, hs⟩ := (enterStreaming_state machine role).2
  rw [hs] at h
  cases h

theorem leaveSession_sound : Sound leaveSession := by
  constructor
  · intro machine
    unfold leaveSession
    split <;> rfl
  · intro machine h
    unfold leaveSession
    split
    · intro ha
      rw [show machine.serviceAvailable = true from ha]
      exact idle_ne_unavailable
    · exact h

/-- Nothing is left in a generation. -/
theorem leaveSession_not_owned : machine.leaveSession.state.ownedByGeneration = false := by
  unfold leaveSession
  split
  · exact idle_not_owned _
  · simpa using ‹¬ machine.state.ownedByGeneration = true›

theorem release_sound : Sound release := by
  constructor
  · intro machine
    unfold release
    split <;> rfl
  · intro machine h
    unfold release
    split
    · exact h
    · intro ha
      rw [show machine.serviceAvailable = true from ha]
      exact idle_ne_unavailable

theorem setServiceAvailable_lets :
    Lets (fun machine => (machine.setServiceAvailable available).1) := by
  intro machine h
  unfold setServiceAvailable at h
  dsimp only at h
  cases available with
  | true =>
    split at h
    · split at h
      · rcases transition_state { machine with serviceAvailable := _ } .discovered
          with heq | heq <;> rw [heq] at h
        · exact h
        · cases h
      · exact h
    · contradiction
  | false =>
    split at h
    · contradiction
    · split at h
      · exact h
      · rcases transition_state { machine with serviceAvailable := false, role := none }
          .unavailable with heq | heq <;> rw [heq] at h
        · exact h
        · cases h

theorem setServiceAvailable_spec :
    (machine.setServiceAvailable available).1.serviceAvailable = available ∧
      (machine.setServiceAvailable available).1.Placed := by
  unfold setServiceAvailable
  cases available with
  | true =>
    dsimp only
    rw [if_pos rfl]
    split
    · rename_i hs
      simp [transition, hs, Lifecycle.permitted, Placed]
    · exact ⟨rfl, fun _ => ‹_›⟩
  | false =>
    dsimp only
    rw [if_neg Bool.false_ne_true]
    split
    · exact ⟨rfl, fun h => by cases h⟩
    · refine ⟨transition_service _ _, fun h => ?_⟩
      rw [transition_service] at h
      cases h

end ReceiverMachine

namespace Controller

variable {c : Controller}

/-! ## Machines and discovery -/

/-- Every machine stands where its service says. -/
def AllPlaced (c : Controller) : Prop :=
  ∀ id machine, c.machines.get id = some machine → machine.Placed

/-- Machines and discovery agree: what is castable has a machine that knows
it, and its time online is known. -/
structure Mirrored (c : Controller) : Prop where
  placed : AllPlaced c
  offered : ∀ id, c.castable id = true →
    ∃ machine, c.machines.get id = some machine ∧ machine.serviceAvailable = true
  online : ∀ id, c.castable id = true → (c.rejoin.onlineSince.get id).isSome = true

/-- The receiver's machine belongs to a generation. -/
def owned (c : Controller) (id : ReceiverId) : Bool :=
  (c.machines.get id).any (·.state.ownedByGeneration)

/-- What the first pass over the rows leaves for a receiver. -/
def settled (c : Controller) (id : ReceiverId) : ReceiverMachine :=
  (c.machines.get id).getD (.new (c.castable id))

theorem settleMachines_castable (c : Controller) (id : ReceiverId) :
    c.settleMachines.castable id = c.castable id := by
  show ((c.inventory.retain _).get id).any InventoryEntry.offered = _
  rw [get_retain]
  unfold castable
  cases c.inventory.get id with
  | none => rfl
  | some ent =>
    by_cases hm : id ∈ c.snapshot.desiredMembers <;>
      by_cases h : ent.offered <;> simp [Option.filter, h, hm]

/-- Missing machines are made, the others stay. -/
theorem ensureMachine_foldl (castable : ReceiverId → Bool) (id : ReceiverId) :
    ∀ (ids : List ReceiverId) (machines : SortedMap ReceiverId ReceiverMachine),
      (ids.foldl (ensureMachine castable) machines).get id =
        (machines.get id).or (if id ∈ ids then some (.new (castable id)) else none)
  | [], machines => by simp
  | first :: rest, machines => by
      have hf : (ensureMachine castable machines first).get id = (machines.get id).or
          (if id = first then some (.new (castable id)) else none) := by
        unfold ensureMachine
        cases hg : machines.get first with
        | some =>
          by_cases hi : id = first
          · subst hi
            simp [hg]
          · simp [hi]
        | none =>
          by_cases hi : id = first
          · subst hi
            simp [hg]
          · simp [hi]
      rw [List.foldl_cons, ensureMachine_foldl castable id rest, hf, Option.or_assoc]
      by_cases hi : id = first <;> simp [hi]

theorem settleMachines_get (c : Controller) (id : ReceiverId) : c.settleMachines.machines.get id =
      if id ∈ c.settleMachines.rowIds then
        some (if id ∈ c.snapshot.desiredMembers then c.settled id else (c.settled id).release)
      else none := by
  have hc := settleMachines_castable c id
  show (SortedMap.mapValues _ _).get id = _
  rw [get_mapValues, get_retain, ensureMachine_foldl]
  show (Option.filter (fun _ => decide (id ∈ c.settleMachines.rowIds))
    ((c.machines.get id).or (if id ∈ sortedIds c.settleMachines.rowIds then
      some (.new (c.settleMachines.castable id)) else none))).map _ = _
  rw [hc]
  unfold settled
  by_cases hr : id ∈ c.settleMachines.rowIds
  · cases c.machines.get id <;> simp [hr, Option.filter]
  · cases c.machines.get id <;> simp [hr, Option.filter]

theorem settled_placed (h : AllPlaced c) (id : ReceiverId) : (c.settled id).Placed := by
  unfold settled
  cases hg : c.machines.get id with
  | none => exact new_placed _
  | some machine => exact h id machine hg

theorem settleMachines_placed (h : AllPlaced c) : AllPlaced c.settleMachines := by
  intro id machine hg
  rw [settleMachines_get] at hg
  split at hg
  · cases hg
    split
    · exact settled_placed h id
    · exact release_sound.placed _ (settled_placed h id)
  · cases hg

theorem mem_rowIds {id : ReceiverId} (h : c.castable id = true) : id ∈ c.rowIds := by
  refine Finset.mem_union_left _ (List.mem_toFinset.mpr (mem_keys.mpr ?_))
  unfold castable at h
  cases hg : c.inventory.get id with
  | none =>
    rw [hg] at h
    cases h
  | some => rfl

theorem settleMachines_mirrored (h : Mirrored c) : Mirrored c.settleMachines where
  placed := settleMachines_placed h.placed
  offered := by
    intro id hc
    have hr := mem_rowIds hc
    rw [settleMachines_castable] at hc
    obtain ⟨machine, hg, ha⟩ := h.offered id hc
    have hs : c.settled id = machine := by simp [settled, hg]
    rw [settleMachines_get, if_pos hr, hs]
    split
    · exact ⟨machine, rfl, ha⟩
    · exact ⟨machine.release, rfl, (release_sound.service _).trans ha⟩
  online := by
    intro id hc
    rw [settleMachines_castable] at hc
    exact h.online id hc

theorem settleMachines_owned {id : ReceiverId}
    (hm : id ∈ c.snapshot.desiredMembers) (h : c.settleMachines.owned id = true) :
    c.owned id = true := by
  unfold owned at h ⊢
  rw [settleMachines_get] at h
  split at h
  · unfold settled at h
    cases hg : c.machines.get id with
    | none =>
      rw [hg] at h
      exact absurd h (by simp [ReceiverMachine.new, idle_not_owned])
    | some =>
      rw [hg] at h
      exact h
  · cases h

theorem drive_get (c : Controller) (recv : ReceiverId)
    (apply : ReceiverMachine → ReceiverMachine × Bool) (id : ReceiverId) :
    (c.drive recv apply).machines.get id =
      if id = recv then some (apply (c.settled recv)).1 else c.machines.get id := by
  show (c.machines.insert recv (apply (c.settled recv)).1).get id = _
  rw [get_insert]
  split <;> rfl

variable {apply : ReceiverMachine → ReceiverMachine × Bool}

theorem drive_mirrored (h : Mirrored c) (recv : ReceiverId)
    (hs : ReceiverMachine.Sound (fun machine => (apply machine).1)) :
    Mirrored (c.drive recv apply) where
  placed := by
    intro id machine hg
    rw [drive_get] at hg
    split at hg
    · cases hg
      exact hs.placed _ (settled_placed h.placed recv)
    · exact h.placed id machine hg
  offered := by
    intro id hc
    obtain ⟨machine, hg, ha⟩ := h.offered id hc
    rw [drive_get]
    split
    · rename_i heq
      subst heq
      have ht : c.settled id = machine := by simp [settled, hg]
      exact ⟨_, rfl, by rw [hs.service, ht]; exact ha⟩
    · exact ⟨machine, hg, ha⟩
  online := h.online

theorem drive_owned {recv id : ReceiverId}
    (hl : ReceiverMachine.Lets (fun machine => (apply machine).1))
    (h : (c.drive recv apply).owned id = true) : c.owned id = true := by
  unfold owned at h ⊢
  rw [drive_get] at h
  split at h
  · rename_i heq
    subst heq
    have hb := hl _ h
    unfold settled at hb
    cases hg : c.machines.get id with
    | none =>
      rw [hg] at hb
      exact absurd hb (by simp [ReceiverMachine.new, idle_not_owned])
    | some =>
      rw [hg] at hb
      exact hb
  · exact h

/-! ## Discovery events -/

/-- The machine says what discovery says. -/
def Synced (c : Controller) (id : ReceiverId) : Prop :=
  (∃ machine, c.machines.get id = some machine ∧ machine.serviceAvailable = c.castable id) ∧
  (c.castable id = true → (c.rejoin.onlineSince.get id).isSome = true)

variable (now : Instant)

theorem syncOne_castable (c : Controller) (id : ReceiverId) :
    (c.syncOne now id).castable = c.castable := by
  unfold syncOne
  dsimp only
  split <;> rfl

theorem syncOne_placed (h : AllPlaced c) (now : Instant) (id : ReceiverId) :
    AllPlaced (c.syncOne now id) := by
  unfold syncOne
  dsimp only
  split
  · exact h
  · intro j machine hg
    rw [drive_get] at hg
    split at hg
    · cases hg
      exact (setServiceAvailable_spec _ _).2
    · exact h j machine hg

/-- The discoverability window of the receiver is open exactly while it is
castable. -/
theorem syncOne_online (c : Controller) (id j : ReceiverId) :
    (c.syncOne now id).rejoin.onlineSince.get j = if j = id then
        if c.castable id then some ((c.rejoin.onlineSince.get id).getD now) else none
      else c.rejoin.onlineSince.get j := by
  have hr : (c.syncOne now id).rejoin = if c.castable id then c.rejoin.noteDiscovered now id
      else c.rejoin.noteLost id := by
    unfold syncOne
    dsimp only
    split <;> rfl
  rw [hr]
  by_cases hc : c.castable id
  · rw [if_pos hc, if_pos hc]
    unfold RejoinRestartLimiter.noteDiscovered
    cases ho : c.rejoin.onlineSince.get id with
    | some => by_cases hj : j = id <;> simp [hj, ho]
    | none => by_cases hj : j = id <;> simp [hj]
  · rw [if_neg hc, if_neg hc]
    unfold RejoinRestartLimiter.noteLost
    by_cases hj : j = id <;> simp [hj]

theorem syncOne_machine (c : Controller) (id : ReceiverId) :
    (∃ machine, (c.syncOne now id).machines.get id = some machine ∧
      machine.serviceAvailable = c.castable id) ∧
    ∀ j, j ≠ id → (c.syncOne now id).machines.get j = c.machines.get j := by
  unfold syncOne
  dsimp only
  split
  · rename_i ha
    refine ⟨?_, fun _ _ => rfl⟩
    cases hg : c.machines.get id with
    | none =>
      rw [hg] at ha
      cases ha
    | some machine =>
      rw [hg] at ha
      exact ⟨machine, rfl, by simpa using ha⟩
  · refine ⟨⟨((c.settled id).setServiceAvailable (c.castable id)).1, ?_,
      (setServiceAvailable_spec _ _).1⟩, fun j hj => ?_⟩
    · rw [drive_get, if_pos rfl]
      rfl
    · rw [drive_get, if_neg hj]

theorem syncOne_synced (c : Controller) (id : ReceiverId) :
    Synced (c.syncOne now id) id ∧ ∀ j, Synced c j → Synced (c.syncOne now id) j := by
  obtain ⟨ho, ht⟩ := syncOne_machine now c id
  have hs : Synced (c.syncOne now id) id := by
    unfold Synced
    rw [syncOne_castable, syncOne_online, if_pos rfl]
    refine ⟨ho, fun h => ?_⟩
    rw [if_pos h]
    rfl
  refine ⟨hs, fun j hj => ?_⟩
  by_cases hi : j = id
  · rw [hi]
    exact hs
  · unfold Synced at hj ⊢
    rw [syncOne_castable, syncOne_online, if_neg hi, ht j hi]
    exact hj

/-- After the loop over its keys every machine is in step. -/
theorem syncOne_foldl (now : Instant) : ∀ (ids : List ReceiverId) (c : Controller),
    AllPlaced c → AllPlaced (ids.foldl (syncOne now) c) ∧
      (ids.foldl (syncOne now) c).castable = c.castable ∧
      ∀ j, j ∈ ids ∨ Synced c j → Synced (ids.foldl (syncOne now) c) j
  | [], c, h => ⟨h, rfl, fun j hj => hj.resolve_left (by simp)⟩
  | id :: rest, c, h => by
      obtain ⟨hs, hk⟩ := syncOne_synced now c id
      obtain ⟨hp, hc, hy⟩ := syncOne_foldl now rest (c.syncOne now id) (syncOne_placed h now id)
      refine ⟨hp, hc.trans (syncOne_castable now c id), fun j hj => hy j ?_⟩
      rcases hj with hj | hj
      · rcases List.mem_cons.mp hj with rfl | hj
        · exact .inr hs
        · exact .inl hj
      · exact .inr (hk j hj)

theorem syncServiceAvailability_mirrored (h : AllPlaced c) (now : Instant) :
    Mirrored (c.settleMachines.syncServiceAvailability now) := by
  have hp := settleMachines_placed h
  obtain ⟨hs, hc, hy⟩ := syncOne_foldl now c.settleMachines.machines.keys _ hp
  have hall : ∀ id, c.settleMachines.castable id = true →
      Synced (c.settleMachines.syncServiceAvailability now) id := by
    intro id hi
    refine hy id (.inl (mem_keys.mpr ?_))
    rw [settleMachines_get, if_pos (mem_rowIds hi)]
    rfl
  refine ⟨hs, fun id hi => ?_, fun id hi => ?_⟩
  · have hb : c.settleMachines.castable id = true := (congrFun hc id).symm.trans hi
    obtain ⟨machine, hg, ha⟩ := (hall id hb).1
    exact ⟨machine, hg, ha.trans hi⟩
  · have hb : c.settleMachines.castable id = true := (congrFun hc id).symm.trans hi
    exact (hall id hb).2 hi

end Controller

end OpenAirCast.Backend

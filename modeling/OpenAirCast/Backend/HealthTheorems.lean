/-
Backend.HealthTheorems — the health of the store that the
snapshot shows.

`turns` lists the commands of a run, each with the actor before and after it.
Only they move the flag: `turns_chained` says that between two of them it
stays, and within one it is raised by a failed write and never lowered. So
it agrees with the newest write until one succeeds after a failed one, and
not beyond (`shown_iff`).
-/
import OpenAirCast.Backend.LadderTheorems

namespace OpenAirCast.Backend.Controller

variable [Lowercase]

/-- One command, with the actor before and after it. -/
structure CommandTurn where
  before : Controller
  ports : Ports
  envelope : ControllerEnvelope
  after : Controller

/-- The answer to the write of the command, if it attempted one. -/
def CommandTurn.attempt (t : CommandTurn) : Option Bool :=
  Controller.attempt t.before t.ports t.envelope

/-- The commands of a batch that run. -/
def batchTurns (ports : Ports) (b : Batch) : List ControllerEnvelope → List CommandTurn
  | [] => []
  | e :: rest =>
    (if b.shutdown then [] else [⟨b.actor, ports, e, (b.execute ports e).actor⟩])
      ++ batchTurns ports (b.next ports e) rest

variable (c : Controller)

def passTurns (input : Ports × Event) : List CommandTurn :=
  if c.finished ∨ c.crashed then []
  else match input.2 with
    | .batch envelopes =>
      batchTurns input.1 { actor := { c with out := [] } } (PendingBatch.ofList envelopes).order
    | _ => []

/-- All commands of a run, first to last. -/
def turns (c : Controller) : List (Ports × Event) → List CommandTurn
  | [] => []
  | input :: rest => c.passTurns input ++ turns (c.step input).1 rest

/-- The answer to the newest write, with the one before the turns. -/
def newestWrite (last : Option Bool) (turns : List CommandTurn) : Option Bool :=
  turns.foldl (fun last t => t.attempt.or last) last

/-- From one command to the next the flag stays, and a command leaves it as
its write says. -/
inductive Chained : PersistenceSnapshot → List CommandTurn → PersistenceSnapshot → Prop
  | nil (shown : PersistenceSnapshot) : Chained shown [] shown
  | cons {t : CommandTurn} {rest : List CommandTurn} {last : PersistenceSnapshot}
      (flagged : Flagged t.before t.after t.attempt)
      (chained : Chained t.after.snapshot.persistence rest last) :
      Chained t.before.snapshot.persistence (t :: rest) last

theorem Chained.append {a b c : PersistenceSnapshot} {xs ys : List CommandTurn}
    (hx : Chained a xs b) (hy : Chained b ys c) : Chained a (xs ++ ys) c := by
  induction hx with
  | nil => exact hy
  | cons flagged _ ih => exact .cons flagged (ih hy)

theorem batchTurns_chained (ports : Ports) (order : List ControllerEnvelope) : ∀ b : Batch,
    Chained b.actor.snapshot.persistence (batchTurns ports b order)
      (order.foldl (Batch.next ports) b).actor.snapshot.persistence := by
  induction order with
  | nil => exact fun b => .nil _
  | cons e _ ih =>
    intro b
    have hr := ih (b.next ports e)
    rw [List.foldl_cons, batchTurns]
    cases hd : b.shutdown with
    | true =>
      have hs : b.next ports e = b := by simp [Batch.next, hd]
      rw [hs] at hr ⊢
      exact hr
    | false =>
      have hn : b.next ports e = b.execute ports e := by simp [Batch.next, hd]
      rw [hn] at hr ⊢
      exact @Chained.cons _ ⟨b.actor, ports, e, (b.execute ports e).actor⟩ _ _
        (Batch.execute_flagged b ports e) hr

/-- A pass hands the flag on from command to command. -/
theorem step_chained (inp : Ports × Event) :
    Chained c.snapshot.persistence (c.passTurns inp) (c.step inp).1.snapshot.persistence := by
  obtain ⟨ports, ev⟩ := inp
  unfold passTurns step
  split
  · exact .nil _
  · have hs : ∀ c' : Controller, c'.snapshot.persistence = c.snapshot.persistence →
        Chained c.snapshot.persistence [] c'.snapshot.persistence := by
      intro c' hm
      rw [hm]
      exact .nil _
    have haside : isAside ev = true → Chained c.snapshot.persistence []
        ({ c with out := [] }.handle ports ev).snapshot.persistence :=
      fun h => hs _ (other_unmoved { c with out := [] } ports h).flag
    cases ev with
    | batch envs =>
      have hr := batchTurns_chained ports (PendingBatch.ofList envs).order
        { actor := { c with out := [] } }
      have ht := (Batch.settle_unmoved ((PendingBatch.ofList envs).order.foldl
        (Batch.next ports) { actor := { c with out := [] } })).flag
      rw [← ht] at hr
      exact hr
    | session upd => exact hs _ (session_ascends { c with out := [] } ports upd).flag
    | discovery | capture | captureTelemetry | endpoints | system | resumeSettled | retryDue
    | autoConnectDue => exact haside rfl

theorem turns_chained (ins : List (Ports × Event)) : ∀ c : Controller,
    Chained c.snapshot.persistence (c.turns ins) (run c ins).snapshot.persistence := by
  induction ins with
  | nil => exact fun c => .nil _
  | cons inp _ ih => exact fun c => (step_chained c inp).append (ih (c.step inp).1)

/-- A command that writes successfully while the flag is up. -/
def CommandTurn.recovers (t : CommandTurn) : Bool :=
  decide (t.before.snapshot.persistence = .error) && decide (t.attempt = some true)

/-- One command keeps flag and newest write together, unless it recovers. -/
theorem Flagged.shown_iff {t : CommandTurn} (h : Flagged t.before t.after t.attempt)
    {last : Option Bool} (hs : t.before.snapshot.persistence = .error ↔ last = some false) :
    (t.after.snapshot.persistence = .error ↔ t.attempt.or last = some false) ↔
      t.recovers = false := by
  have hf := h.flag
  unfold CommandTurn.recovers
  cases ha : t.attempt with
  | none =>
    rw [ha, if_neg (by simp)] at hf
    simp [hf, hs]
  | some ans =>
    cases ans with
    | true =>
      rw [ha, if_neg (by simp)] at hf
      simp [hf]
    | false =>
      rw [ha, if_pos rfl] at hf
      simp [hf]

theorem Chained.shown_iff {shown final : PersistenceSnapshot} {ts : List CommandTurn}
    (h : Chained shown ts final) : ∀ {last : Option Bool}, (shown = .error ↔ last = some false) →
      ((∀ front t, front ++ [t] <+: ts → (t.after.snapshot.persistence = .error ↔
          newestWrite last (front ++ [t]) = some false)) ↔ ∀ t ∈ ts, t.recovers = false) := by
  induction h with
  | nil =>
    intro last _
    simp
  | @cons t rest final flagged chained ih =>
    intro last hs
    have ho := flagged.shown_iff hs
    constructor
    · intro hall
      have hf : t.after.snapshot.persistence = .error ↔ t.attempt.or last = some false :=
        hall [] t ⟨rest, rfl⟩
      have hrs := (ih hf).mp (fun front t' hr =>
        hall (t :: front) t' (List.cons_prefix_cons.mpr ⟨rfl, hr⟩))
      exact List.forall_mem_cons.mpr ⟨ho.mp hf, hrs⟩
    · intro hc
      obtain ⟨hk, hl⟩ := List.forall_mem_cons.mp hc
      have hf := ho.mpr hk
      intro front t' hr
      cases front with
      | nil =>
        obtain rfl : t' = t := by simpa using hr
        exact hf
      | cons _ front =>
        obtain ⟨rfl, ht⟩ := List.cons_prefix_cons.mp hr
        exact (ih hf).mpr hl front t' ht

/-- After every command of a run the flag says how the newest write ended,
exactly when no write of the run succeeds while the flag is up. -/
theorem health_current_iff (loaded : LoadedState) (calibration : CalibrationProfile)
    (launch : Instant) (inputs : List (Ports × Event)) :
    (∀ front t, front ++ [t] <+: (start loaded calibration launch).turns inputs →
      (t.after.snapshot.persistence = .error ↔ newestWrite none (front ++ [t]) = some false)) ↔
    ∀ t ∈ (start loaded calibration launch).turns inputs, t.recovers = false := by
  refine (turns_chained inputs (start loaded calibration launch)).shown_iff ?_
  exact iff_of_false (fun h => by cases h) (fun h => by cases h)

/-- The disk is full for the first command and free for the second. -/
def retriedRun : List (Ports × Event) :=
  [({ saves := fun _ => false }, .batch [{ id := 1, command := .setMuted true }]),
   ({}, .batch [{ id := 2, command := .setMuted true }])]

omit [Lowercase] in
/-- The second save succeeds, and the snapshot still shows an error. -/
theorem error_outlives_success :
    letI := asciiLowercase
    let launched := start armedLaunch {} 0
    let ts := launched.turns retriedRun
    ts.map (·.attempt) = [some false, some true] ∧ newestWrite none ts = some true ∧
      ts.map (·.after.snapshot.persistence) = [.error, .error] ∧
      (run launched retriedRun).persisted.muted = true := by
  let := asciiLowercase
  decide

end OpenAirCast.Backend.Controller

/-
Platform.HotkeyTheorems — whether the shortcut that is reported
is the one in force.

`apply` begins by releasing the chord, so what it leaves behind depends on
the call and on the applied binding alone, whatever came before
(`apply_shows_iff`). The restore of a failed replacement does not ask whether
the binding it restores was enabled. `registered` follows the registrar
(`Kept`), which is what `shutdown` needs.
-/
import OpenAirCast.Platform.Hotkey

namespace OpenAirCast.Platform.HotkeyEngine

abbrev HotkeyTurn := Mealy.Turn HotkeyEngine Call (Option (HotkeyBinding × Option String))

variable (engine : HotkeyEngine)

/-- The system holds the chord of the applied binding if that is enabled,
and none otherwise. -/
def InForce : Prop :=
  engine.held = if engine.applied.enabled then some (chordOf engine.applied) else none

instance (engine : HotkeyEngine) : Decidable engine.InForce := inferInstanceAs (Decidable (_ = _))

/-- What a call reports is what the system does. -/
structure Shows (t : HotkeyTurn) : Prop where
  inForce : t.after.InForce
  returned : ∀ requested first second, t.input = .apply requested first second →
    ∃ failure, t.output = some (t.after.applied, failure) ∧
      (t.after.applied ≠ requested → failure.isSome)
  released : t.input = .shutdown → t.after.held = none

/-- A replacement that fails restores a binding that was not enabled. -/
def Revives : Call → Prop
  | .apply requested (some _) none => requested.enabled = true ∧ engine.applied.enabled = false
  | _ => False

instance (engine : HotkeyEngine) (call : Call) : Decidable (engine.Revives call) := by
  unfold Revives
  split <;> infer_instance

/-- `registered` says whether the system holds a chord. -/
def Kept : Prop := engine.registered = engine.held.isSome

section

variable (engine : HotkeyEngine)

variable (requested : HotkeyBinding)

theorem apply_kept
    (first second : Option String) : (engine.apply requested first second).1.Kept := by
  unfold apply Kept
  cases requested.enabled <;> cases first <;> cases second <;> rfl

/-- Every call keeps `registered` true of the system. -/
theorem step_kept (call : Call) (h : engine.Kept) : (engine.step call).1.Kept := by
  cases call with
  | apply requested first second => exact engine.apply_kept requested first second
  | shutdown =>
    unfold Kept at h
    simp only [step, shutdown, Kept]
    split
    · rfl
    · exact h

theorem apply_inForce_iff (first second : Option String) :
    (engine.apply requested first second).1.InForce
      ↔ ¬ engine.Revives (.apply requested first second) := by
  unfold apply InForce Revives
  cases he : requested.enabled with
  | false => cases first <;> cases second <;> simp [he, unregister]
  | true =>
    cases first with
    | none => simp [he, register]
    | some =>
      cases second with
      | none => cases hp : engine.applied.enabled <;> simp [he, hp, register, unregister]
      | some => simp [register, unregister]

theorem apply_returned (first second : Option String) : ∃ fail,
      (engine.apply requested first second).2
        = ((engine.apply requested first second).1.applied, fail) ∧
      ((engine.apply requested first second).1.applied ≠ requested → fail.isSome) := by
  unfold apply
  cases requested.enabled <;> cases first <;> cases second <;> simp [register, unregister]

end

variable {engine}

theorem shutdown_released (h : engine.Kept) :
    engine.shutdown.held = none ∧ engine.shutdown.InForce := by
  have hh : engine.shutdown.held = none := by
    unfold Kept at h
    simp only [shutdown]
    split
    · rfl
    · rename_i hf
      simpa [h] using hf
  refine ⟨hh, ?_⟩
  unfold InForce
  rw [hh]
  simp [shutdown]

/-- A turn shows the truth exactly if it revives nothing. -/
theorem step_shows_iff (call : Call) (h : engine.Kept) :
    Shows (Mealy.turn step engine call) ↔ ¬ engine.Revives call := by
  cases call with
  | apply requested first second =>
    rw [← apply_inForce_iff]
    refine ⟨fun hs => hs.inForce, fun hf => ⟨hf, ?_, nofun⟩⟩
    rintro _ _ _ ⟨⟩
    obtain ⟨fail, hr, hl⟩ := engine.apply_returned requested first second
    exact ⟨fail, congrArg some hr, hl⟩
  | shutdown =>
    obtain ⟨he, hf⟩ := shutdown_released h
    exact iff_of_true ⟨hf, nofun, fun _ => he⟩ id

theorem new_inForce (initial : HotkeyBinding) (first second : Option String) :
    (new initial first second).Kept ∧ (new initial first second).InForce := by
  unfold new apply Kept InForce
  cases he : initial.enabled <;> cases first <;> cases second <;> simp [he, register, unregister]

/-- The engine begins with what it reports in force, and stays so up to the
first restore of a binding that was not enabled. -/
theorem reported_in_force_iff (initial : HotkeyBinding) (first second : Option String)
    (calls : List Call) :
    (new initial first second).InForce ∧
    ((∀ t ∈ Mealy.trace step (new initial first second) calls, Shows t) ↔
      Mealy.Along step (fun engine call => ¬ engine.Revives call) (new initial first second)
        calls) := by
  obtain ⟨hk, hf⟩ := new_inForce initial first second
  refine ⟨hf, ?_⟩
  rw [Mealy.along_iff_forall_turn]
  have ht := Mealy.forall_turn (P := fun t => Shows t ↔ ¬ t.before.Revives t.input)
    step_kept (fun _ call h => step_shows_iff call h) calls hk
  exact forall₂_congr ht

/-- The shortcut is switched off, and another chord asked for that is taken:
the old one works again, and the engine reports that none does. -/
theorem disabled_chord_revived : ∃ t ∈ Mealy.trace step (new {} none none)
      [.apply { enabled := false } none none, .apply { virtualKey := 0x50#32 } (some "taken") none],
    t.after.held = some (MOD_CONTROL ||| MOD_ALT, 0x48#32) ∧ t.after.applied.enabled = false ∧
      ¬ Shows t :=
  ⟨_, List.mem_cons_of_mem _ List.mem_cons_self, rfl, rfl, fun h => absurd h.inForce (by decide)⟩

end OpenAirCast.Platform.HotkeyEngine

/-
Platform.Hotkey — the global shortcut, from `platform/hotkey.rs`.

The registrar is the chord the system holds for the application. A
registration that succeeds replaces it, one that fails leaves it. Which
registrations succeed is given with each call: `none` is `Ok`, `some` the
text of the failure.
-/
import OpenAirCast.App.State
import OpenAirCast.Lib.Mealy

namespace OpenAirCast.Platform

/-- The modifiers and the key of a chord. -/
abbrev Chord := BitVec 32 × BitVec 32

/-- What a registration of the binding asks for, enabled or not. -/
def chordOf (binding : HotkeyBinding) : Chord := (binding.modifiers, binding.virtualKey)

structure HotkeyEngine where
  /-- The registrar. -/
  held : Option Chord
  applied : HotkeyBinding
  registered : Bool

namespace HotkeyEngine

variable (engine : HotkeyEngine)

def unregister : HotkeyEngine := { engine with held := none }

def register (binding : HotkeyBinding) (failure : Option String) :
    HotkeyEngine :=
  match failure with
  | none => { engine with held := some (chordOf binding) }
  | some _ => engine

/-- `first` is the registration of the requested binding, `second` that of
the previous one. -/
def apply (requested : HotkeyBinding) (first second : Option String) :
    HotkeyEngine × HotkeyBinding × Option String :=
  let engine := { engine.unregister with registered := false }
  if !requested.enabled then ({ engine with applied := requested }, requested, none)
  else
    let tried := engine.register requested first
    match first with
    | none => ({ tried with registered := true, applied := requested }, requested, none)
    | some failure =>
      let restored := tried.register tried.applied second
      match second with
      | none => ({ restored with registered := true }, restored.applied, some failure)
      | some _ =>
        let disabled := { restored.applied with enabled := false }
        ({ restored with applied := disabled }, disabled,
          some (failure ++ "; the previous chord could not be restored either"))

def new (initial : HotkeyBinding) (first second : Option String) : HotkeyEngine :=
  let (engine, applied, _) :=
    apply { held := none, applied := initial, registered := false } initial first second
  { engine with applied := applied }

def shutdown : HotkeyEngine :=
  let engine := if engine.registered then { engine.unregister with registered := false }
    else engine
  { engine with applied := { engine.applied with enabled := false } }

inductive Call where
  | apply (requested : HotkeyBinding) (first second : Option String)
  | shutdown

/-- What the call returns: the binding and the failure of an `apply`. -/
def step (engine : HotkeyEngine) : Call → HotkeyEngine × Option (HotkeyBinding × Option String)
  | .apply requested first second =>
    let (engine, answer) := engine.apply requested first second
    (engine, some answer)
  | .shutdown => (engine.shutdown, none)

end HotkeyEngine

end OpenAirCast.Platform

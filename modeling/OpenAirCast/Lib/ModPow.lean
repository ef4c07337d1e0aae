/-
Lib.ModPow — powers modulo a number, computed by squaring, and
what they do modulo a prime.

`modpow_eq` says that the squaring computes the remainder of the power.
Modulo a prime that does not divide the base, the exponent may be reduced
modulo the prime less one, and a difference may be taken above or below
zero.
-/
import Mathlib.FieldTheory.Finite.Basic
import Mathlib.Data.ZMod.Basic

namespace OpenAirCast

open ZMod

/-- `base ^ exponent % n`, by squaring. -/
def modpow (base exponent n : Nat) : Nat :=
  if exponent = 0 then 1 % n
  else
    let half := modpow (base * base % n) (exponent / 2) n
    if exponent % 2 = 1 then base * half % n else half
  termination_by exponent
  decreasing_by omega

theorem modpow_eq (base exponent n : Nat) : modpow base exponent n = base ^ exponent % n := by
  induction exponent using Nat.strong_induction_on generalizing base with
  | _ exponent ih =>
    rw [modpow]
    split
    · rename_i hz
      rw [hz, Nat.pow_zero]
    · rename_i hpos
      have hh : modpow (base * base % n) (exponent / 2) n = base ^ (2 * (exponent / 2)) % n := by
        rw [ih (exponent / 2) (by omega), ← Nat.pow_mod, Nat.pow_mul, Nat.pow_two]
      dsimp only
      rw [hh]
      split
      · rename_i ho
        rw [Nat.mul_mod, Nat.mod_mod, ← Nat.mul_mod, ← Nat.pow_succ']
        congr 2
        omega
      · rename_i he
        congr 2
        omega

theorem modpow_lt {n : Nat} (hn : 0 < n) (base exponent : Nat) : modpow base exponent n < n := by
  rw [modpow_eq]
  exact Nat.mod_lt _ hn

/-- In the residues the remainder of a power is the power. -/
@[simp] theorem cast_modpow (base exponent n : Nat) :
    ((modpow base exponent n : Nat) : ZMod n) = (base : ZMod n) ^ exponent := by
  rw [modpow_eq, natCast_mod, Nat.cast_pow]

/-- Below the modulus, equal residues are equal numbers. -/
theorem eq_of_cast_eq {a b n : Nat} (ha : a < n) (hb : b < n) (h : (a : ZMod n) = (b : ZMod n)) :
    a = b := by
  rw [natCast_eq_natCast_iff', Nat.mod_eq_of_lt ha, Nat.mod_eq_of_lt hb] at h
  exact h

/-- A difference modulo `n`, taken with `n` added where it would go below zero. -/
theorem cast_sub_mod {a b n : Nat} (hb : b < n) :
    (((if b ≤ a then (a - b) % n else (a + n - b) % n : Nat)) : ZMod n) =
      (a : ZMod n) - (b : ZMod n) := by
  split
  · rename_i hle
    rw [natCast_mod, Nat.cast_sub hle]
  · rw [natCast_mod, Nat.cast_sub (by omega), Nat.cast_add, natCast_self, add_zero]

/-- The exponent of a residue counts modulo the prime less one. -/
theorem pow_mod_pred {p : Nat} [Fact p.Prime] {a : ZMod p} (ha : a ≠ 0) (exponent : Nat) :
    a ^ (exponent % (p - 1)) = a ^ exponent := by
  conv_rhs => rw [← Nat.mod_add_div exponent (p - 1), pow_add, pow_mul,
    pow_card_sub_one_eq_one ha, one_pow, mul_one]

end OpenAirCast

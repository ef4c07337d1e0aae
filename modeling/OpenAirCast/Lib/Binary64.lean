/-
Lib.Binary64 — IEEE 754 binary64 values by their bit pattern,
as far as a program widens a binary32 value or divides one count by
another.

`rounded` is the value nearest to a positive quotient, with ties to even;
the exponents of a binary32 value and of 64-bit counts stay well inside the
normal range, so nothing overflows or becomes subnormal.
-/
import OpenAirCast.Lib.Binary32

namespace OpenAirCast

/-- One binary64 value. -/
structure F64 where
  bits : BitVec 64
  deriving DecidableEq

namespace F64

/-- `n / d`, to nearest with ties to even. -/
def roundDiv (n d : Nat) : Nat :=
  let double := 2 * (n % d)
  if d < double ∨ (double = d ∧ n / d % 2 = 1) then n / d + 1 else n / d

/-- `n / d * 2 ^ shift`, rounded. -/
def scaled (n d : Nat) (shift : Int) : Nat :=
  if 0 ≤ shift then roundDiv (n <<< shift.toNat) d else roundDiv n (d <<< (-shift).toNat)

/-- The shift that gives the quotient its 53 bits. -/
def shiftFor (n d : Nat) : Int :=
  let shift : Int := 52 + d.log2 - n.log2
  if 0 ≤ shift ∧ (n <<< shift.toNat) / d < 2 ^ 52
      ∨ shift < 0 ∧ n / (d <<< (-shift).toNat) < 2 ^ 52 then shift + 1 else shift

/-- The magnitude of `n / d` for two positive numbers. A carry out of the
significand lands in the exponent. -/
def rounded (n d : Nat) : Nat :=
  let shift := shiftFor n d
  (1075 - shift).toNat * 2 ^ 52 + scaled n d shift - 2 ^ 52

/-- The whole number a count becomes. -/
def roundNat (n : Nat) : Nat :=
  if n < 2 ^ 53 then n
  else
    let shift := n.log2 - 52
    roundDiv n (2 ^ shift) <<< shift

/-- `a as f64 / b as f64`, for a positive `b`. -/
def quotient (a b : Nat) : F64 :=
  if a = 0 then ⟨0⟩ else ⟨BitVec.ofNat 64 (rounded (roundNat a) (roundNat b))⟩

/-- The magnitude of `f64::from`. A NaN becomes a quiet one. -/
def widened (magnitude : Nat) : Nat :=
  if 0x7F800000 < magnitude then
    0x7FF8000000000000 + magnitude % 0x400000 * 2 ^ 29
  else if magnitude = 0x7F800000 then 0x7FF0000000000000
  else if 0x800000 ≤ magnitude then magnitude * 2 ^ 29 + 896 * 2 ^ 52
  else if magnitude = 0 then 0
  else rounded magnitude (2 ^ 149)

/-- `f64::from`. -/
def ofF32 (x : F32) : F64 :=
  ⟨BitVec.ofNat 64 (widened x.magnitude + if x.negative then 2 ^ 63 else 0)⟩

-- 1 / 3, 0.1f32 and the smallest positive binary32 value
example : quotient 1 3 = ⟨0x3FD5555555555555#64⟩ := by decide
example : ofF32 ⟨0x3DCCCCCD#32⟩ = ⟨0x3FB99999A0000000#64⟩ := by decide
example : ofF32 ⟨0x80000001#32⟩ = ⟨0xB6A0000000000000#64⟩ := by decide

end F64

end OpenAirCast

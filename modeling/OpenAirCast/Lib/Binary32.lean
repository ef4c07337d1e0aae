/-
Lib.Binary32 — IEEE 754 binary32 values by their bit pattern,
with the comparisons, `clamp`, `max` and the product a program can
observe.

A value is its 32 bits. The comparisons go through `rank`, the position
of a non-NaN value on the number line: sign and magnitude of the bit
pattern order the finite values and the infinities exactly as the
numbers they stand for, and give both zeros the same place. NaN is equal
to nothing, itself included, and below nothing.

Multiplication is the only arithmetic here. It works on the significands
as whole numbers and rounds once, to nearest with ties to even.

`canon` drops the sign of zero. Two values the program's `==` calls
equal have the same canonical form (`canon_eq_of_eq`), and away from NaN
the converse holds (`eq_of_canon_eq`): `canon` is what `==` can see.
-/
import Mathlib.Algebra.Group.Nat.Defs
import Mathlib.Data.Int.Basic
import Mathlib.Tactic.SplitIfs

namespace OpenAirCast

/-- One binary32 value. -/
structure F32 where
  bits : BitVec 32
  deriving DecidableEq

namespace F32

variable {a b : F32}

variable (x : F32)

/-- Exponent and fraction bits read as one number. -/
def magnitude : Nat := x.bits.toNat % 0x80000000

/-- The sign bit. -/
def negative : Bool := decide (0x80000000 ≤ x.bits.toNat)

def isNan : Bool := decide (0x7F800000 < x.magnitude)

def isFinite : Bool := decide (x.magnitude < 0x7F800000)

/-- Place on the number line; meaningless for NaN. -/
def rank : Int := if x.negative then -(x.magnitude : Int) else x.magnitude

/-- `a == b`. -/
def eq (a b : F32) : Bool := !a.isNan && !b.isNan && decide (a.rank = b.rank)

/-- `a < b`. -/
def lt (a b : F32) : Bool := !a.isNan && !b.isNan && decide (a.rank < b.rank)

/-- `a <= b`. -/
def le (a b : F32) : Bool := !a.isNan && !b.isNan && decide (a.rank ≤ b.rank)

/-- The comparison derived equality uses; not reflexive on NaN. -/
instance : BEq F32 := ⟨F32.eq⟩

/-- `f32::clamp`: two comparisons, so a NaN passes through. -/
def clamp (lo hi : F32) : F32 :=
  let raised := if x.lt lo then lo else x
  if hi.lt raised then hi else raised

/-- `f32::max`: a NaN operand loses against a number. -/
def max (a b : F32) : F32 :=
  if a.isNan then b else if b.isNan then a else if a.lt b then b else a

def zero : F32 := ⟨0x00000000#32⟩
def one : F32 := ⟨0x3F800000#32⟩

/-! ## Multiplication -/

/-- The significand as a whole number, hidden bit included. -/
def significand : Nat :=
  if x.magnitude < 0x800000 then x.magnitude else 0x800000 + x.magnitude % 0x800000

/-- The power of two the significand counts, offset by 149 so that the
subnormals are at zero. -/
def scale : Nat := x.magnitude / 0x800000 - 1

/-- `n / 2 ^ shift`, to nearest with ties to even. -/
def roundShift (n shift : Nat) : Nat :=
  let quotient := n >>> shift
  let double := 2 * (n % 2 ^ shift)
  if 2 ^ shift < double ∨ (double = 2 ^ shift ∧ quotient % 2 = 1) then quotient + 1 else quotient

/-- The magnitude of `n * 2 ^ (scale - 298)`, rounded; `scale` is the sum of
two offset scales. A carry out of the significand lands in the exponent. -/
def roundedMagnitude (n scale : Nat) : Nat :=
  -- 149 takes the sum of two offsets back to one of them
  let quantum := Nat.max (n.log2 + scale - 23) 149
  Nat.min ((quantum - 149) * 0x800000
    + if quantum ≤ scale then n <<< (scale - quantum) else roundShift n (quantum - scale))
    0x7F800000

def signed (negative : Bool) (magnitude : Nat) : F32 :=
  ⟨BitVec.ofNat 32 (magnitude + if negative then 0x80000000 else 0)⟩

/-- `a * b`. -/
def mul (a b : F32) : F32 :=
  let negative := a.negative != b.negative
  if a.isNan || b.isNan then ⟨0x7FC00000#32⟩
  else if a.isFinite && b.isFinite then
    if a.significand = 0 ∨ b.significand = 0 then signed negative 0
    else signed negative (roundedMagnitude (a.significand * b.significand) (a.scale + b.scale))
  else if a.magnitude = 0 ∨ b.magnitude = 0 then ⟨0x7FC00000#32⟩
  else signed negative 0x7F800000

-- 0.25 * 0.5 = 0.125, and 0.1 * 0.1 rounds to 0x3C23D70B
example : mul ⟨0x3E800000#32⟩ ⟨0x3F000000#32⟩ = ⟨0x3E000000#32⟩ := by decide
example : mul ⟨0x3DCCCCCD#32⟩ ⟨0x3DCCCCCD#32⟩ = ⟨0x3C23D70B#32⟩ := by decide

/-! ## What `==` can see -/

/-- The value with the sign of zero dropped. -/
def canon : F32 := if x.magnitude = 0 then zero else x

theorem beq_eq (a b : F32) : (a == b) = a.eq b := rfl

theorem bits_toNat : x.bits.toNat = x.magnitude + if x.negative then 0x80000000 else 0 := by
  have hlt := x.bits.isLt
  simp only [magnitude, negative, decide_eq_true_eq]
  split_ifs with h <;> omega

/-- Sign and magnitude determine the value. -/
theorem ext_sign_magnitude (hs : a.negative = b.negative)
    (hm : a.magnitude = b.magnitude) : a = b := by
  have ha := bits_toNat a
  have hb := bits_toNat b
  rw [hs, hm] at ha
  cases a; cases b
  congr 1
  exact BitVec.eq_of_toNat_eq (ha.trans hb.symm)

theorem canon_eq_of_eq (h : (a == b) = true) : a.canon = b.canon := by
  rw [beq_eq] at h
  simp only [eq, Bool.and_eq_true, decide_eq_true_eq] at h
  obtain ⟨-, hr⟩ := h
  simp only [rank] at hr
  have hm : a.magnitude = b.magnitude := by split_ifs at hr <;> omega
  by_cases h0 : a.magnitude = 0
  · simp [canon, h0, ← hm]
  · have hs : a.negative = b.negative := by
      cases ha : a.negative <;> cases hb : b.negative <;> simp [ha, hb] at hr ⊢ <;> omega
    rw [ext_sign_magnitude hs hm]

theorem eq_of_canon_eq (ha : a.isNan = false) (h : a.canon = b.canon) : (a == b) = true := by
  have hz : zero.magnitude = 0 := rfl
  by_cases h0 : a.magnitude = 0
  · have hb0 : b.magnitude = 0 := by
      by_contra hb
      simp only [canon, h0, hb, if_true, if_false] at h
      exact hb (h ▸ hz)
    simp [beq_eq, eq, isNan, rank, h0, hb0]
  · have hb0 : b.magnitude ≠ 0 := by
      intro hb
      simp only [canon, h0, hb, if_true, if_false] at h
      exact h0 (h ▸ hz)
    simp only [canon, h0, hb0, if_false] at h
    subst h
    simp [beq_eq, eq, ha]

theorem beq_self_of_not_nan (h : a.isNan = false) : (a == a) = true :=
  eq_of_canon_eq h rfl

theorem not_nan_of_beq (h : (a == b) = true) : a.isNan = false ∧ b.isNan = false := by
  rw [beq_eq] at h
  simp only [eq, Bool.and_eq_true, Bool.not_eq_true'] at h
  exact h.1

theorem beq_symm (h : (a == b) = true) : (b == a) = true :=
  eq_of_canon_eq (not_nan_of_beq h).2 (canon_eq_of_eq h).symm

theorem beq_trans {c : F32} (ha : (a == b) = true) (hb : (b == c) = true) : (a == c) = true :=
  eq_of_canon_eq (not_nan_of_beq ha).1 ((canon_eq_of_eq ha).trans (canon_eq_of_eq hb))

theorem not_nan_of_isFinite (h : a.isFinite = true) : a.isNan = false := by
  simp only [isFinite, decide_eq_true_eq] at h
  simp only [isNan, decide_eq_false_iff_not]
  omega

end F32

end OpenAirCast

/-
Lib.Bytes — byte strings as lists, cut into chunks, and
unsigned numbers in little-endian and in big-endian order.

`chunks` is what a slice gives when it is read in pieces of a fixed size:
all of them full but the last. Each of its properties is one lemma, and
`chunks_induction` is the induction that follows the cutting.
-/
import Mathlib.Algebra.Group.Nat.Defs
import Mathlib.Data.Nat.Basic
import Mathlib.Tactic.SplitIfs

namespace OpenAirCast

open List Nat

abbrev Bytes := List UInt8

/-! ## Chunks -/

section Chunks

variable {α : Type}

/-- At most `fuel` pieces. -/
def chunksFrom (size : Nat) : Nat → List α → List (List α)
  | 0, _ => []
  | _ + 1, [] => []
  | fuel + 1, xs => xs.take size :: chunksFrom size fuel (xs.drop size)

/-- Pieces of the given size, the last one shorter if it does not come out
even. -/
def chunks (size : Nat) (xs : List α) : List (List α) := chunksFrom size xs.length xs

@[simp] theorem chunks_nil (size : Nat) : chunks size ([] : List α) = [] := rfl

theorem chunksFrom_congr {size : Nat} (hsize : 0 < size) : ∀ (fuel fuel' : Nat) (xs : List α),
    xs.length ≤ fuel → xs.length ≤ fuel' → chunksFrom size fuel xs = chunksFrom size fuel' xs := by
  intro fuel
  induction fuel with
  | zero =>
    intro fuel' xs h _
    obtain rfl := eq_nil_of_length_eq_zero (le_zero.mp h)
    cases fuel' <;> rfl
  | succ _ ih =>
    intro fuel' xs h h'
    cases xs with
    | nil => cases fuel' <;> rfl
    | cons x xs =>
      cases fuel' with
      | zero => simp at h'
      | succ fuel' =>
        simp only [length_cons] at h h'
        have hd : ((x :: xs).drop size).length ≤ xs.length := by
          simp only [length_drop, length_cons]
          omega
        simp only [chunksFrom]
        rw [ih fuel' ((x :: xs).drop size) (by omega) (by omega)]

variable {xs : List α}

/-- The first piece, and the pieces of what is left. -/
theorem chunks_of_ne_nil {size : Nat} (hsize : 0 < size) (h : xs ≠ []) :
    chunks size xs = xs.take size :: chunks size (xs.drop size) := by
  cases xs with
  | nil => exact absurd rfl h
  | cons x xs =>
    have hd : ((x :: xs).drop size).length ≤ xs.length := by
      simp only [length_drop, length_cons]
      omega
    unfold chunks
    simp only [length_cons, chunksFrom]
    rw [chunksFrom_congr hsize xs.length _ _ hd le_rfl]

/-- What holds of nothing, and of a list if it holds behind its first
piece, holds of every list. -/
theorem chunks_induction {size : Nat} (hsize : 0 < size) {P : List α → Prop} (nil : P [])
    (step : ∀ xs, xs ≠ [] → P (xs.drop size) → P xs) (xs : List α) : P xs := by
  generalize hn : xs.length = n
  induction n using Nat.strong_induction_on generalizing xs with
  | _ _ ih =>
    cases xs with
    | nil => exact nil
    | cons =>
      refine step _ (by simp) (ih _ ?_ _ rfl)
      rw [← hn]
      simp only [length_drop, length_cons]
      omega

variable {size : Nat} (hsize : 0 < size)
include hsize

theorem flatten_chunks (xs : List α) : (chunks size xs).flatten = xs := by
  induction xs using chunks_induction hsize with
  | nil => rfl
  | step _ h ih => rw [chunks_of_ne_nil hsize h, flatten_cons, ih, take_append_drop]

variable {chunk : List α}

theorem length_of_mem_chunks (h : chunk ∈ chunks size xs) :
    chunk.length ≤ size := by
  induction xs using chunks_induction hsize with
  | nil => simp at h
  | step _ hne ih =>
    rw [chunks_of_ne_nil hsize hne] at h
    rcases mem_cons.mp h with rfl | h
    · exact length_take_le _ _
    · exact ih h

theorem ne_nil_of_mem_chunks (h : chunk ∈ chunks size xs) : chunk ≠ [] := by
  induction xs using chunks_induction hsize with
  | nil => simp at h
  | step _ hne ih =>
    rw [chunks_of_ne_nil hsize hne] at h
    rcases mem_cons.mp h with rfl | h
    · simp [hne, ne_of_gt hsize]
    · exact ih h

theorem chunks_ne_nil (h : xs ≠ []) : chunks size xs ≠ [] := by
  rw [chunks_of_ne_nil hsize h]
  exact cons_ne_nil _ _

/-- As many pieces as the length divided by the size, rounded up. -/
theorem length_chunks (xs : List α) : (chunks size xs).length = (xs.length + size - 1) / size := by
  induction xs using chunks_induction hsize with
  | nil =>
    have hs : (0 + size - 1) / size = 0 := div_eq_of_lt (by omega)
    simpa using hs.symm
  | step xs hne ih =>
    have hlen : 0 < xs.length := length_pos_iff.mpr hne
    rw [chunks_of_ne_nil hsize hne, length_cons, ih, length_drop]
    by_cases hl : xs.length ≤ size
    · have hs : (xs.length - size + size - 1) / size = 0 := div_eq_of_lt (by omega)
      have ho : (xs.length + size - 1) / size = 1 := Nat.div_eq_of_lt_le (by omega) (by omega)
      omega
    · have hp : xs.length + size - 1 = (xs.length - size + size - 1) + size := by omega
      rw [hp, add_div_right _ hsize]

end Chunks

/-! ## Little-endian numbers -/

/-- The lowest `width` bytes, lowest first. -/
def toLeBytes : Nat → Nat → Bytes
  | 0, _ => []
  | width + 1, n => UInt8.ofNat (n % 256) :: toLeBytes width (n / 256)

def fromLeBytes : Bytes → Nat
  | [] => 0
  | byte :: rest => byte.toNat + 256 * fromLeBytes rest

variable (width : Nat)

@[simp] theorem length_toLeBytes : ∀ n, (toLeBytes width n).length = width := by
  induction width with
  | zero => exact fun _ => rfl
  | succ _ ih => simp [toLeBytes, ih]

/-- The bytes say the number, up to what does not fit. -/
theorem fromLeBytes_toLeBytes : ∀ n, fromLeBytes (toLeBytes width n) = n % 256 ^ width := by
  induction width with
  | zero => exact fun n => (mod_one n).symm
  | succ width ih =>
    intro n
    have hb : (UInt8.ofNat (n % 256)).toNat = n % 256 :=
      UInt8.toNat_ofNat_of_lt' (mod_lt _ (by decide))
    rw [toLeBytes, fromLeBytes, hb, ih, pow_succ, mul_comm (256 ^ width) 256, mod_mul]

theorem toLeBytes_fromLeBytes (bytes : Bytes) :
    toLeBytes bytes.length (fromLeBytes bytes) = bytes := by
  induction bytes with
  | nil => rfl
  | cons b rest ih =>
    have hb : b.toNat < 256 := b.toNat_lt
    have hl : (b.toNat + 256 * fromLeBytes rest) % 256 = b.toNat := by omega
    have hh : (b.toNat + 256 * fromLeBytes rest) / 256 = fromLeBytes rest := by omega
    simp [toLeBytes, fromLeBytes, hl, hh, ih]

/-- Numbers that fit and have the same bytes are equal. -/
theorem toLeBytes_inj {width n m : Nat} (hn : n < 256 ^ width) (hm : m < 256 ^ width)
    (h : toLeBytes width n = toLeBytes width m) : n = m := by
  have hs := congrArg fromLeBytes h
  rwa [fromLeBytes_toLeBytes, fromLeBytes_toLeBytes, mod_eq_of_lt hn, mod_eq_of_lt hm] at hs

/-! ## Big-endian numbers -/

variable (n : Nat)

/-- The lowest `width` bytes, highest first. -/
def toBeBytes : Bytes := (toLeBytes width n).reverse

def fromBeBytes (bytes : Bytes) : Nat := fromLeBytes bytes.reverse

@[simp] theorem length_toBeBytes : (toBeBytes width n).length = width := by
  simp [toBeBytes]

theorem fromBeBytes_toBeBytes : fromBeBytes (toBeBytes width n) = n % 256 ^ width := by
  rw [fromBeBytes, toBeBytes, reverse_reverse, fromLeBytes_toLeBytes]

/-- The lowest bytes, and those of what is left. -/
theorem toLeBytes_add (low high n : Nat) :
    toLeBytes (low + high) n = toLeBytes low n ++ toLeBytes high (n / 256 ^ low) := by
  induction low generalizing n with
  | zero => simp [toLeBytes]
  | succ _ ih =>
    rw [Nat.succ_add, toLeBytes, toLeBytes, ih, Nat.div_div_eq_div_mul, Nat.pow_succ,
      mul_comm 256, cons_append]

/-- Bytes that are not written do not matter. -/
theorem toLeBytes_mod : toLeBytes width (n % 256 ^ width) = toLeBytes width n := by
  induction width generalizing n with
  | zero => rfl
  | succ width ih =>
    have hb : n % 256 ^ (width + 1) % 256 = n % 256 :=
      mod_mod_of_dvd _ ⟨256 ^ width, by rw [pow_succ, mul_comm]⟩
    have hr : n % 256 ^ (width + 1) / 256 = n / 256 % 256 ^ width := by
      rw [pow_succ, mul_comm, mod_mul_right_div_self]
    rw [toLeBytes, toLeBytes, hb, hr, ih]

theorem toBeBytes_append (high low a b : Nat) (hb : b < 256 ^ low) :
    toBeBytes (high + low) (a * 256 ^ low + b) = toBeBytes high a ++ toBeBytes low b := by
  have hpos : 0 < 256 ^ low := lt_of_le_of_lt (zero_le _) hb
  have hl : toLeBytes low (a * 256 ^ low + b) = toLeBytes low b := by
    rw [← toLeBytes_mod, mul_comm, mul_add_mod, mod_eq_of_lt hb]
  have hh : (a * 256 ^ low + b) / 256 ^ low = a := by
    rw [mul_comm, mul_add_div hpos, div_eq_of_lt hb, add_zero]
  unfold toBeBytes
  rw [add_comm high low, toLeBytes_add, hl, hh, reverse_append]

end OpenAirCast

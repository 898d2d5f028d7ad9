import Mathlib.Data.Rat.Init
import Mathlib.Data.Rat.Defs
import Mathlib.Algebra.Order.Floor.Defs
import Mathlib.Data.Rat.Floor

/-!
# Single-precision numbers

A `Binary32` is its 32-bit pattern. Comparisons are exact on every pattern: they read the sign and
magnitude as an integer key and are false on a NaN. Arithmetic is exact on the rationals the finite
patterns stand for, then rounded to nearest with ties to even.

`FloatOps` names the operations a program does on its floats, so that one definition of the program
runs on `Binary32` and on exact rationals.
-/

namespace IotPlatform

/-- The operations of C's `float` on a carrier. -/
class FloatOps (F : Type) where
  lt : F → F → Bool
  eq : F → F → Bool
  neg : F → F
  sub : F → F → F
  div : F → F → F
  /-- A constant of the source, or an integer converted to `float`. -/
  ofRat : ℚ → F

namespace FloatOps

variable {F : Type} [FloatOps F]

def le (a b : F) : Bool := lt a b || eq a b

end FloatOps

instance : FloatOps ℚ where
  lt a b := decide (a < b)
  eq a b := decide (a = b)
  neg a := -a
  sub a b := a - b
  div a b := a / b
  ofRat q := q

structure Binary32 where
  bits : UInt32
  deriving DecidableEq, Repr

namespace Binary32

def sign (x : Binary32) : Bool := decide (2 ^ 31 ≤ x.bits.toNat)

/-- Exponent and fraction fields, read as one number. -/
def magnitude (x : Binary32) : Nat := x.bits.toNat % 2 ^ 31

def infMagnitude : Nat := 255 * 2 ^ 23

def isNaN (x : Binary32) : Bool := decide (infMagnitude < x.magnitude)

def isInf (x : Binary32) : Bool := decide (x.magnitude = infMagnitude)

/-- Comparison key: the order of the patterns that are not NaN, with one zero. -/
def key (x : Binary32) : Int := if x.sign then -x.magnitude else x.magnitude

def lt (x y : Binary32) : Bool := !x.isNaN && !y.isNaN && decide (x.key < y.key)

def eq (x y : Binary32) : Bool := !x.isNaN && !y.isNaN && decide (x.key = y.key)

def ofParts (negative : Bool) (magnitude : Nat) : Binary32 :=
  ⟨UInt32.ofNat (magnitude + if negative then 2 ^ 31 else 0)⟩

def nan : Binary32 := ofParts false (infMagnitude + 2 ^ 22)

def inf (negative : Bool) : Binary32 := ofParts negative infMagnitude

def zero (negative : Bool) : Binary32 := ofParts negative 0

def toRat (x : Binary32) : ℚ :=
  let exponent : ℕ := x.magnitude / 2 ^ 23
  let fraction : ℕ := x.magnitude % 2 ^ 23
  let value : ℚ := if exponent = 0 then mkRat fraction (2 ^ 149)
    else mkRat ((2 ^ 23 + fraction) * 2 ^ exponent : ℕ) (2 ^ 150)
  if x.sign then -value else value

/-- `p / q` to the nearest integer, ties to even. -/
def divNearest (p q : Nat) : Nat :=
  let low := p / q
  let twice := 2 * (p % q)
  if twice < q ∨ (twice = q ∧ low % 2 = 0) then low else low + 1

/-- `p / q` rounded to the nearest magnitude. The step of the exponent is found from the lengths of `p` and
`q`; a carry out of the fraction moves into the exponent field by itself. -/
def roundMagnitude (p q : Nat) : Nat :=
  if p = 0 then 0
  else
    let estimate : Int := (p.log2 : Int) - q.log2
    let exponent : Int := if p * 2 ^ (-estimate).toNat < q * 2 ^ estimate.toNat then estimate - 1 else estimate
    let clamped := max exponent (-126)
    let step : Int := clamped - 23
    let digits := divNearest (p * 2 ^ (-step).toNat) (q * 2 ^ step.toNat)
    min infMagnitude ((clamped + 126).toNat * 2 ^ 23 + digits)

def ofRat (r : ℚ) : Binary32 := ofParts (decide (r < 0)) (roundMagnitude r.num.natAbs r.den)

def neg (x : Binary32) : Binary32 := ofParts (!x.sign) x.magnitude

def sub (x y : Binary32) : Binary32 :=
  if x.isNaN || y.isNaN then nan
  else if x.isInf then (if y.isInf && x.sign == y.sign then nan else x)
  else if y.isInf then neg y
  else
    let r := x.toRat - y.toRat
    -- An exact zero is positive unless both operands of the sum are negative zeros.
    if r = 0 then zero (x.magnitude = 0 && x.sign && !y.sign) else ofRat r

def div (x y : Binary32) : Binary32 :=
  let negative := x.sign != y.sign
  if x.isNaN || y.isNaN then nan
  else if x.isInf then (if y.isInf then nan else inf negative)
  else if y.isInf then zero negative
  else if y.magnitude = 0 then (if x.magnitude = 0 then nan else inf negative)
  else
    let r := x.toRat / y.toRat
    if r = 0 then zero negative else ofParts negative (roundMagnitude r.num.natAbs r.den)

def add (x y : Binary32) : Binary32 := sub x (neg y)

def mul (x y : Binary32) : Binary32 :=
  let negative := x.sign != y.sign
  if x.isNaN || y.isNaN then nan
  else if x.isInf || y.isInf then (if x.magnitude = 0 || y.magnitude = 0 then nan else inf negative)
  else
    let r := x.toRat * y.toRat
    if r = 0 then zero negative else ofParts negative (roundMagnitude r.num.natAbs r.den)

instance : FloatOps Binary32 where
  lt := lt
  eq := eq
  neg := neg
  sub := sub
  div := div
  ofRat := ofRat

theorem lt_nan_left {x y : Binary32} (h : x.isNaN = true) : lt x y = false := by simp [lt, h]

theorem lt_nan_right {x y : Binary32} (h : y.isNaN = true) : lt x y = false := by simp [lt, h]

theorem eq_nan_left {x y : Binary32} (h : x.isNaN = true) : eq x y = false := by simp [eq, h]

theorem isNaN_nan : nan.isNaN = true := by decide

theorem isNaN_sub {x y : Binary32} (h : x.isNaN = true) : (sub x y).isNaN = true := by
  simp [sub, h, isNaN_nan]

theorem isNaN_div {x y : Binary32} (h : x.isNaN = true) : (div x y).isNaN = true := by
  simp [div, h, isNaN_nan]

theorem le_of_not_lt {x y : Binary32} (hx : x.isNaN = false) (hy : y.isNaN = false) (h : lt y x = false) :
    FloatOps.le x y = true := by
  simp only [lt, hx, hy, Bool.not_false, Bool.true_and, decide_eq_false_iff_not] at h
  simp only [FloatOps.le, FloatOps.lt, FloatOps.eq, lt, eq, hx, hy, Bool.not_false, Bool.true_and, Bool.or_eq_true,
    decide_eq_true_eq]
  omega

theorem not_le_of_lt {x y : Binary32} (h : FloatOps.lt x y = true) : FloatOps.le y x = false := by
  simp only [FloatOps.lt, lt, Bool.and_eq_true, Bool.not_eq_true', decide_eq_true_eq] at h
  obtain ⟨⟨hx, hy⟩, below⟩ := h
  simp only [FloatOps.le, FloatOps.lt, FloatOps.eq, lt, eq, hx, hy, Bool.not_false, Bool.true_and, Bool.or_eq_false_iff,
    decide_eq_false_iff_not]
  omega

theorem le_iff {x y : Binary32} :
    FloatOps.le x y = true ↔ x.isNaN = false ∧ y.isNaN = false ∧ x.key ≤ y.key := by
  cases hx : x.isNaN <;> cases hy : y.isNaN <;>
    simp [FloatOps.le, FloatOps.lt, FloatOps.eq, lt, eq, hx, hy, Int.le_iff_lt_or_eq]

theorem le_trans {x y z : Binary32} (first : FloatOps.le x y = true) (second : FloatOps.le y z = true) :
    FloatOps.le x z = true := by
  rw [le_iff] at *
  exact ⟨first.1, second.2.1, first.2.2.trans second.2.2⟩

theorem roundMagnitude_le (p q : Nat) : roundMagnitude p q ≤ infMagnitude := by
  unfold roundMagnitude
  split
  · exact Nat.zero_le _
  · exact Nat.min_le_left ..

theorem magnitude_ofParts (negative : Bool) {m : Nat} (small : m < 2 ^ 31) : (ofParts negative m).magnitude = m := by
  cases negative <;> simp [magnitude, ofParts] <;> omega

theorem isNaN_ofRat (r : ℚ) : (ofRat r).isNaN = false := by
  have small := roundMagnitude_le r.num.natAbs r.den
  have inside : infMagnitude < 2 ^ 31 := by decide
  rw [isNaN, ofRat, magnitude_ofParts _ (by omega), decide_eq_false_iff_not]
  omega

example : ofRat 0 = ⟨0⟩ ∧ ofRat (1 / 10) = ⟨0x3DCCCCCD⟩ := by decide +kernel

theorem le_nan_right {x y : Binary32} (h : y.isNaN = true) : FloatOps.le x y = false := by
  simp [FloatOps.le, FloatOps.lt, FloatOps.eq, lt, eq, h]

end Binary32

end IotPlatform

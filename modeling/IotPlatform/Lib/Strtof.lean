import Mathlib.Data.List.Basic
import IotPlatform.Lib.CText
import IotPlatform.Lib.Rounding

/-!
# Reading a number

`strtof` of the C library in the `C` locale, as a scan of the bytes: white space, a sign, then a decimal or hexadecimal
number, `inf` or `nan`. A byte that cannot go on with the number stops the scan, as the terminator does. The result is
rounded to nearest; of a NaN only the sign is read.
-/

namespace IotPlatform

inductive Radix where
  | decimal | hexadecimal
  deriving DecidableEq, Repr

def decimalDigit (byte : UInt8) : Option Nat :=
  if 0x30 ≤ byte ∧ byte ≤ 0x39 then some (byte.toNat - 0x30) else none

def lowerCase (byte : UInt8) : UInt8 := if 0x41 ≤ byte ∧ byte ≤ 0x5A then byte + 0x20 else byte

namespace Radix

def base : Radix → Nat
  | .decimal => 10
  | .hexadecimal => 16

def digit : Radix → UInt8 → Option Nat
  | .decimal, byte => decimalDigit byte
  | .hexadecimal, byte =>
    if 0x61 ≤ lowerCase byte ∧ lowerCase byte ≤ 0x66 then some ((lowerCase byte).toNat - 0x61 + 10) else decimalDigit byte

/-- The letter before the exponent. -/
def marker : Radix → UInt8
  | .decimal => 0x65
  | .hexadecimal => 0x70

/-- What the exponent is an exponent of. -/
def power : Radix → Nat
  | .decimal => 10
  | .hexadecimal => 2

/-- By how much a digit behind the point lowers the exponent. -/
def perDigit : Radix → Nat
  | .decimal => 1
  | .hexadecimal => 4

end Radix

/-- The digits of a number so far, read as one integer, and how many of them stand behind the point. -/
structure Mantissa where
  radix : Radix
  negative : Bool
  digits : Nat := 0
  behind : Nat := 0
  pointed : Bool := false
  read : Bool := false

namespace Mantissa

def push (m : Mantissa) (digit : Nat) : Mantissa :=
  { m with digits := m.radix.base * m.digits + digit, behind := m.behind + if m.pointed then 1 else 0, read := true }

/-- The number with an exponent. -/
def value (m : Mantissa) (negativeExponent : Bool) (exponent : Nat) : Binary32 :=
  let below := m.radix.power ^ (m.radix.perDigit * m.behind)
  let shift := m.radix.power ^ exponent
  Binary32.ofParts m.negative
    (if negativeExponent then Binary32.roundMagnitude m.digits (below * shift)
    else Binary32.roundMagnitude (m.digits * shift) below)

/-- Without a digit a decimal number is no number, and `0x` is the zero before the `x`. -/
def result (m : Mantissa) : Binary32 :=
  if m.read then m.value false 0
  else
    match m.radix with
    | .decimal => .zero false
    | .hexadecimal => .zero m.negative

end Mantissa

inductive SpecialWord where
  | inf | nan
  deriving DecidableEq, Repr

def SpecialWord.second : SpecialWord → UInt8
  | .inf => 0x6E
  | .nan => 0x61

def SpecialWord.third : SpecialWord → UInt8
  | .inf => 0x66
  | .nan => 0x6E

def SpecialWord.value (negative : Bool) : SpecialWord → Binary32
  | .inf => .inf negative
  | .nan => .ofParts negative (Binary32.infMagnitude + 2 ^ 22)

inductive Scan where
  | space
  | signed (negative : Bool)
  /-- Behind a first `0`. -/
  | zero (negative : Bool)
  | mantissa (m : Mantissa)
  | marker (m : Mantissa)
  | exponent (m : Mantissa) (negative : Bool) (value : Nat)
  /-- Behind one letter of a word, or two. -/
  | word (negative : Bool) (word : SpecialWord) (two : Bool)
  | stopped (value : Binary32)

namespace Scan

def isSpace (byte : UInt8) : Bool := byte = 0x20 || (0x09 ≤ byte && byte ≤ 0x0D)

/-- The number if nothing more comes. -/
def value : Scan → Binary32
  | space => .zero false
  | signed _ => .zero false
  | zero negative => .zero negative
  | mantissa m => m.result
  | marker m => m.value false 0
  | exponent m negative e => m.value negative e
  | word .. => .zero false
  | stopped value => value

def stepMantissa (m : Mantissa) (byte : UInt8) : Scan :=
  match m.radix.digit byte with
  | some digit => mantissa (m.push digit)
  | none =>
    if byte = 0x2E ∧ m.pointed = false then mantissa { m with pointed := true }
    else if lowerCase byte = m.radix.marker ∧ m.read = true then marker m
    else stopped m.result

def stepExponent (m : Mantissa) (negative : Bool) (e : Nat) (byte : UInt8) : Scan :=
  match decimalDigit byte with
  | some digit => exponent m negative (10 * e + digit)
  | none => stopped (m.value negative e)

/-- The first byte behind the sign. -/
def begin (negative : Bool) (byte : UInt8) : Scan :=
  if byte = 0x30 then zero negative
  else if lowerCase byte = 0x69 then word negative .inf false
  else if lowerCase byte = 0x6E then word negative .nan false
  else stepMantissa { radix := .decimal, negative := negative } byte

def step : Scan → UInt8 → Scan
  | space, byte =>
    if isSpace byte then space
    else if byte = 0x2B then signed false
    else if byte = 0x2D then signed true
    else begin false byte
  | signed negative, byte => begin negative byte
  | zero negative, byte =>
    if lowerCase byte = 0x78 then mantissa { radix := .hexadecimal, negative := negative }
    else stepMantissa { radix := .decimal, negative := negative, read := true } byte
  | mantissa m, byte => stepMantissa m byte
  | marker m, byte =>
    if byte = 0x2B then exponent m false 0
    else if byte = 0x2D then exponent m true 0
    else stepExponent m false 0 byte
  | exponent m negative e, byte => stepExponent m negative e byte
  | word negative w two, byte =>
    if two then (if lowerCase byte = w.third then stopped (w.value negative) else stopped (.zero false))
    else if lowerCase byte = w.second then word negative w true
    else stopped (.zero false)
  | stopped value, _ => stopped value

def run (q : Scan) (text : List UInt8) : Scan := text.foldl step q

end Scan

/-- `text` are the bytes of a C string and what stands behind it. -/
def strtof (text : List UInt8) : Binary32 := (Scan.space.run text).value

example : strtof (asciiBytes " -21.5e1x") = Binary32.ofRat (-215) ∧ strtof (asciiBytes "0x1.8p1") = Binary32.ofRat 3 ∧
    strtof (asciiBytes "1e+") = Binary32.ofRat 1 ∧ strtof (asciiBytes "-inFin") = .inf true ∧
    strtof (asciiBytes "+.e1") = .zero false := by
  decide +kernel

/-! ### The extremes of the exponent -/

namespace Binary32

theorem ofParts_inj {negative : Bool} {a b : Nat} (left : a < 2 ^ 31) (right : b < 2 ^ 31) :
    ofParts negative a = ofParts negative b ↔ a = b := by
  constructor
  · intro same
    have magnitudes := congrArg magnitude same
    rwa [magnitude_ofParts negative left, magnitude_ofParts negative right] at magnitudes
  · rintro rfl
    rfl

theorem infMagnitude_lt : infMagnitude < 2 ^ 31 := by decide

theorem inf_ne_zero (negative sign : Bool) : inf negative ≠ zero sign := by
  cases negative <;> cases sign <;> decide

end Binary32

theorem Radix.two_le_power (radix : Radix) : 2 ≤ radix.power := by cases radix <;> decide

theorem Radix.power_pos (radix : Radix) (n : Nat) : 0 < radix.power ^ n := Nat.pow_pos (by cases radix <;> decide)

theorem Radix.two_pow_le (radix : Radix) (n : Nat) : 2 ^ n ≤ radix.power ^ n := Nat.pow_le_pow_left radix.two_le_power n

theorem Radix.power_le (radix : Radix) {a b : Nat} (le : a ≤ b) : radix.power ^ a ≤ radix.power ^ b :=
  Nat.pow_le_pow_right (radix.power_pos 1 |>.trans_eq (pow_one _)) le

namespace Mantissa
open Binary32

variable {m : Mantissa} {e e' : Nat}

theorem value_eq_inf_iff : m.value false e = .inf m.negative ↔
    (2 ^ 25 - 1) * 2 ^ 103 * m.radix.power ^ (m.radix.perDigit * m.behind) ≤ m.digits * m.radix.power ^ e := by
  have small := Nat.lt_of_le_of_lt (roundMagnitude_le (m.digits * m.radix.power ^ e)
    (m.radix.power ^ (m.radix.perDigit * m.behind))) infMagnitude_lt
  rw [value, inf, if_neg Bool.false_ne_true, ofParts_inj small infMagnitude_lt,
    roundMagnitude_eq_inf_iff (m.radix.power_pos _)]

theorem value_eq_zero_iff : m.value true e = .zero m.negative ↔
    m.digits * 2 ^ 150 ≤ m.radix.power ^ (m.radix.perDigit * m.behind) * m.radix.power ^ e := by
  have small := Nat.lt_of_le_of_lt (roundMagnitude_le m.digits
    (m.radix.power ^ (m.radix.perDigit * m.behind) * m.radix.power ^ e)) infMagnitude_lt
  rw [value, zero, if_pos rfl, ofParts_inj small (by decide),
    roundMagnitude_eq_zero_iff (Nat.mul_pos (m.radix.power_pos _) (m.radix.power_pos _))]

theorem value_of_no_digits (none : m.digits = 0) (negativeExponent : Bool) (e : Nat) :
    m.value negativeExponent e = .zero m.negative := by
  simp [value, none, roundMagnitude, zero]

/-- The largest exponents read as the extreme of their sign. -/
def extreme (m : Mantissa) (negativeExponent : Bool) : Binary32 :=
  if negativeExponent then .zero m.negative else .inf m.negative

theorem extreme_mono {negativeExponent : Bool} (le : e ≤ e')
    (reached : m.value negativeExponent e = m.extreme negativeExponent) :
    m.value negativeExponent e' = m.extreme negativeExponent := by
  have more := m.radix.power_le le
  cases negativeExponent with
  | true =>
    apply value_eq_zero_iff.mpr
    exact Nat.le_trans (value_eq_zero_iff.mp reached) (Nat.mul_le_mul_left _ more)
  | false =>
    apply value_eq_inf_iff.mpr
    exact Nat.le_trans (value_eq_inf_iff.mp reached) (Nat.mul_le_mul_left _ more)

theorem extreme_reached (nonzero : m.digits ≠ 0) (negativeExponent : Bool) :
    ∃ bound, ∀ e, bound ≤ e → m.value negativeExponent e = m.extreme negativeExponent := by
  cases negativeExponent with
  | true =>
    refine ⟨m.digits + 150, fun e le => extreme_mono le (value_eq_zero_iff.mpr ?_)⟩
    calc m.digits * 2 ^ 150 ≤ 2 ^ m.digits * 2 ^ 150 := Nat.mul_le_mul_right _ (Nat.le_of_lt Nat.lt_two_pow_self)
      _ = 2 ^ (m.digits + 150) := (Nat.pow_add ..).symm
      _ ≤ m.radix.power ^ (m.digits + 150) := m.radix.two_pow_le _
      _ ≤ m.radix.power ^ (m.radix.perDigit * m.behind) * m.radix.power ^ (m.digits + 150) :=
        Nat.le_mul_of_pos_left _ (m.radix.power_pos _)
  | false =>
    refine ⟨128 + m.radix.perDigit * m.behind, fun e le => extreme_mono le (value_eq_inf_iff.mpr ?_)⟩
    calc (2 ^ 25 - 1) * 2 ^ 103 * m.radix.power ^ (m.radix.perDigit * m.behind)
        ≤ 2 ^ 128 * m.radix.power ^ (m.radix.perDigit * m.behind) := Nat.mul_le_mul_right _ (by decide)
      _ ≤ m.radix.power ^ 128 * m.radix.power ^ (m.radix.perDigit * m.behind) :=
        Nat.mul_le_mul_right _ (m.radix.two_pow_le 128)
      _ = m.radix.power ^ (128 + m.radix.perDigit * m.behind) := (Nat.pow_add ..).symm
      _ ≤ m.digits * m.radix.power ^ (128 + m.radix.perDigit * m.behind) :=
        Nat.le_mul_of_pos_left _ (Nat.pos_of_ne_zero nonzero)

end Mantissa

/-! ### Where the rest of a text does not matter -/

namespace Scan

/-- The number has ended, or no exponent can change it any more. -/
def Decided : Scan → Prop
  | stopped _ => True
  | marker m => m.digits = 0
  | exponent m negative e => m.digits = 0 ∨ m.value negative e = m.extreme negative
  | _ => False

/-- Two ways to go on give two numbers. -/
def Undecided (q : Scan) : Prop := ∃ rest rest', (q.run rest).value ≠ (q.run rest').value

variable {q : Scan} {m : Mantissa}

theorem run_cons (q : Scan) (byte : UInt8) (rest : List UInt8) : q.run (byte :: rest) = (q.step byte).run rest := rfl

theorem run_append (q : Scan) (text rest : List UInt8) : q.run (text ++ rest) = (q.run text).run rest :=
  List.foldl_append

theorem Decided.stepExponent {negative : Bool} {e : Nat} (decided : m.digits = 0 ∨ m.value negative e = m.extreme negative)
    (byte : UInt8) : (stepExponent m negative e byte).Decided ∧
      (Scan.stepExponent m negative e byte).value = m.value negative e := by
  rw [Scan.stepExponent]
  split
  · rename_i digit _
    rcases decided with none | reached
    · refine ⟨.inl none, ?_⟩
      rw [value, Mantissa.value_of_no_digits none, Mantissa.value_of_no_digits none]
    · have later : m.value negative (10 * e + digit) = m.extreme negative := Mantissa.extreme_mono (by omega) reached
      exact ⟨.inr later, later.trans reached.symm⟩
  · exact ⟨trivial, rfl⟩

theorem Decided.step (decided : q.Decided) (byte : UInt8) : (q.step byte).Decided ∧ (q.step byte).value = q.value := by
  cases q with
  | stopped value => exact ⟨trivial, rfl⟩
  | exponent m negative e => exact Decided.stepExponent decided byte
  | marker m =>
    have zero : m.digits = 0 := decided
    rw [Scan.step]
    split
    · exact ⟨.inl zero, rfl⟩
    · split
      · refine ⟨.inl zero, ?_⟩
        rw [value, value, Mantissa.value_of_no_digits zero, Mantissa.value_of_no_digits zero]
      · exact Decided.stepExponent (.inl zero) byte
  | _ => cases decided

theorem Decided.run (decided : q.Decided) (rest : List UInt8) : (q.run rest).value = q.value := by
  induction rest generalizing q with
  | nil => rfl
  | cons byte rest ih =>
    obtain ⟨still, same⟩ := decided.step byte
    rw [run_cons, ih still, same]

theorem undecided_of_step (q : Scan) (byte : UInt8) (undecided : (q.step byte).Undecided) : q.Undecided := by
  obtain ⟨rest, rest', different⟩ := undecided
  exact ⟨byte :: rest, byte :: rest', different⟩

/-- A run of nines makes an exponent as large as is wanted. -/
theorem run_nines (m : Mantissa) (negative : Bool) (e n : Nat) :
    ∃ e', (exponent m negative e).run (List.replicate n 0x39) = exponent m negative e' ∧ e + n ≤ e' := by
  induction n generalizing e with
  | zero => exact ⟨e, rfl, Nat.le_refl _⟩
  | succ n ih =>
    obtain ⟨e', reached, above⟩ := ih (10 * e + 9)
    exact ⟨e', reached, by omega⟩

/-- The extreme is reached from every exponent of its sign. -/
theorem exists_extreme (nonzero : m.digits ≠ 0) (negative : Bool) (e : Nat) :
    ∃ rest, ((exponent m negative e).run rest).value = m.extreme negative := by
  obtain ⟨bound, reached⟩ := Mantissa.extreme_reached nonzero negative
  obtain ⟨e', run, above⟩ := run_nines m negative e bound
  refine ⟨List.replicate bound 0x39, ?_⟩
  rw [run]
  exact reached e' (by omega)

theorem undecided_exponent (nonzero : m.digits ≠ 0) {negative : Bool} {e : Nat}
    (before : m.value negative e ≠ m.extreme negative) : (exponent m negative e).Undecided := by
  obtain ⟨rest, reached⟩ := exists_extreme nonzero negative e
  refine ⟨[], rest, ?_⟩
  rw [reached]
  exact before

theorem undecided_marker (nonzero : m.digits ≠ 0) : (marker m).Undecided := by
  obtain ⟨rest, large⟩ := exists_extreme nonzero false 0
  obtain ⟨rest', small⟩ := exists_extreme nonzero true 0
  refine ⟨0x2B :: rest, 0x2D :: rest', ?_⟩
  have up : (marker m).step 0x2B = exponent m false 0 := rfl
  have down : (marker m).step 0x2D = exponent m true 0 := rfl
  rw [run_cons, run_cons, up, down, large, small]
  exact Binary32.inf_ne_zero m.negative m.negative

/-- A digit, the marker and an exponent go on with every number that has none yet. -/
theorem undecided_mantissa (m : Mantissa) : (mantissa m).Undecided := by
  have digit : (mantissa m).step 0x31 = mantissa (m.push 1) := by
    cases radix : m.radix <;> simp [step, stepMantissa, Radix.digit, radix] <;> rfl
  have marked : (mantissa (m.push 1)).step m.radix.marker = marker (m.push 1) := by
    cases radix : m.radix <;> simp [step, stepMantissa, Radix.digit, Radix.marker, Mantissa.push, radix] <;> rfl
  apply undecided_of_step _ 0x31
  rw [digit]
  apply undecided_of_step _ m.radix.marker
  rw [marked]
  exact undecided_marker (Nat.succ_ne_zero _)

theorem undecided_word (negative : Bool) (w : SpecialWord) (two : Bool) : (word negative w two).Undecided := by
  have third : (word negative w true).Undecided := by
    refine ⟨[w.third], [], ?_⟩
    cases w <;> cases negative <;> decide
  cases two with
  | true => exact third
  | false =>
    apply undecided_of_step _ w.second
    cases w <;> exact third

theorem undecided_begin (negative : Bool) : (begin negative 0x31).Undecided := undecided_mantissa _

theorem undecided_zero (negative : Bool) : (zero negative).Undecided := by
  apply undecided_of_step _ 0x31
  exact undecided_mantissa ({ radix := .decimal, negative := negative, read := true : Mantissa }.push 1)

/-- The rest of a text does not matter exactly where the number is decided. -/
theorem decided_iff (q : Scan) : (∀ rest rest', (q.run rest).value = (q.run rest').value) ↔ q.Decided := by
  constructor
  · intro same
    have settled : ¬q.Undecided := fun ⟨rest, rest', different⟩ => different (same rest rest')
    cases q with
    | stopped value => trivial
    | space => exact absurd (undecided_of_step space 0x31 (undecided_begin false)) settled
    | signed negative => exact absurd (undecided_of_step (signed negative) 0x31 (undecided_begin negative)) settled
    | zero negative => exact absurd (undecided_zero negative) settled
    | mantissa m => exact absurd (undecided_mantissa m) settled
    | word negative w two => exact absurd (undecided_word negative w two) settled
    | marker m =>
      by_contra nonzero
      exact settled (undecided_marker nonzero)
    | exponent m negative e =>
      by_contra open_
      obtain ⟨nonzero, before⟩ := not_or.mp open_
      exact settled (undecided_exponent nonzero before)
  · intro decided rest rest'
    rw [decided.run, decided.run]

end Scan

end IotPlatform

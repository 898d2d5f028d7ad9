import IotPlatform.Lib.Binary32
import IotPlatform.Lib.CText

/-!
# Printed numbers

The texts of `printf` for `%llu` and for `%g` on a value of a `float`.
-/

namespace IotPlatform

def printUnsigned (n : Nat) : List UInt8 := (Nat.toDigits 10 n).map Char.toUInt8

/-- The exponent of the first significant digit of the positive value `p / q`. -/
def decimalExponent (p q : Nat) : Int :=
  (((List.range 84).map fun (i : Nat) => (38 : Int) - i).find? fun e => decide (q * 10 ^ e.toNat ≤ p * 10 ^ (-e).toNat)).getD
    (-45)

/-- Six significant digits, as a number, and the exponent after they were rounded. -/
def sixDigits (p q : Nat) : Nat × Int :=
  let e := decimalExponent p q
  let digits := Binary32.divNearest (p * 10 ^ (5 - e).toNat) (q * 10 ^ (e - 5).toNat)
  if digits = 10 ^ 6 then (10 ^ 5, e + 1) else (digits, e)

/-- The decimals, without the zeros at their end, and no point if none are left. -/
def withDecimals (whole decimals : List UInt8) : List UInt8 :=
  let kept := (decimals.reverse.dropWhile (· == 0x30)).reverse
  if kept = [] then whole else whole ++ asciiBytes "." ++ kept

def printExponent (e : Int) : List UInt8 :=
  asciiBytes (if e < 0 then "e-" else "e+") ++ (if e.natAbs < 10 then asciiBytes "0" else []) ++ printUnsigned e.natAbs

def printMagnitude (p q : Nat) : List UInt8 :=
  let digits := printUnsigned (sixDigits p q).1
  let e := (sixDigits p q).2
  if -4 ≤ e ∧ e < 0 then withDecimals (asciiBytes "0") (List.replicate (-e - 1).toNat 0x30 ++ digits)
  else if 0 ≤ e ∧ e < 6 then withDecimals (digits.take (e.toNat + 1)) (digits.drop (e.toNat + 1))
  else withDecimals (digits.take 1) (digits.drop 1) ++ printExponent e

def printG (x : Binary32) : List UInt8 :=
  (if x.sign then asciiBytes "-" else []) ++
    if x.isNaN then asciiBytes "nan"
    else if x.isInf then asciiBytes "inf"
    else if x.magnitude = 0 then asciiBytes "0"
    else printMagnitude x.toRat.num.natAbs x.toRat.den

example : printG ⟨0x41AC0000⟩ = asciiBytes "21.5" := by decide +kernel

/-- Neither control characters nor blanks. -/
def Visible (text : List UInt8) : Prop := ∀ byte ∈ text, 0x20 < byte

instance (text : List UInt8) : Decidable (Visible text) := List.decidableBAll (fun byte => 0x20 < byte) text

theorem Visible.append {text text' : List UInt8} (visible : Visible text) (visible' : Visible text') :
    Visible (text ++ text') := by
  intro byte member
  exact (List.mem_append.mp member).elim (visible byte) (visible' byte)

theorem Visible.of_sublist {text text' : List UInt8} (visible : Visible text) (sublist : text'.Sublist text) :
    Visible text' :=
  fun byte member => visible byte (sublist.subset member)

theorem printUnsigned_visible (n : Nat) : Visible (printUnsigned n) := by
  intro byte member
  obtain ⟨c, digit, rfl⟩ := List.mem_map.mp member
  have range := Nat.isDigit_of_mem_toDigits (by decide) (by decide) digit
  rw [Char.isDigit, Bool.and_eq_true, decide_eq_true_eq, decide_eq_true_eq, ge_iff_le, UInt32.le_iff_toNat_le,
    UInt32.le_iff_toNat_le] at range
  rw [UInt8.lt_iff_toNat_lt, Char.toUInt8, UInt32.toNat_toUInt8]
  have low : '0'.val.toNat = 48 := rfl
  have high : '9'.val.toNat = 57 := rfl
  have bound : (0x20 : UInt8).toNat = 32 := rfl
  omega

theorem printUnsigned_ne_nil (n : Nat) : printUnsigned n ≠ [] := by
  rw [printUnsigned, Ne, List.map_eq_nil_iff]
  exact Nat.toDigits_ne_nil

theorem withDecimals_visible {whole decimals : List UInt8} (visible : Visible whole) (visible' : Visible decimals) :
    Visible (withDecimals whole decimals) := by
  rw [withDecimals]
  split
  · exact visible
  · have kept : Visible (decimals.reverse.dropWhile (· == 0x30)).reverse := by
      intro byte member
      exact visible' byte (List.mem_reverse.mp ((List.dropWhile_sublist _).subset (List.mem_reverse.mp member)))
    exact (visible.append (by decide)).append kept

theorem withDecimals_ne_nil {whole : List UInt8} (nonempty : whole ≠ []) (decimals : List UInt8) :
    withDecimals whole decimals ≠ [] := by
  rw [withDecimals]
  split
  · exact nonempty
  · simp [nonempty]

theorem printExponent_visible (e : Int) : Visible (printExponent e) := by
  refine (Visible.append ?_ ?_).append (printUnsigned_visible _)
  · split <;> decide
  · split <;> decide

theorem printMagnitude_visible (p q : Nat) : Visible (printMagnitude p q) ∧ printMagnitude p q ≠ [] := by
  have digits := printUnsigned_visible (sixDigits p q).1
  have some_digit := printUnsigned_ne_nil (sixDigits p q).1
  have first : ∀ n, (printUnsigned (sixDigits p q).1).take (n + 1) ≠ [] := by
    intro n
    rw [Ne, List.take_eq_nil_iff, not_or]
    exact ⟨Nat.succ_ne_zero n, some_digit⟩
  rw [printMagnitude]
  split
  · refine ⟨withDecimals_visible (by decide) (Visible.append ?_ digits), withDecimals_ne_nil (by decide) _⟩
    intro byte member
    rw [(List.mem_replicate.mp member).2]
    decide
  · split
    · exact ⟨withDecimals_visible (digits.of_sublist (List.take_sublist ..)) (digits.of_sublist (List.drop_sublist ..)),
        withDecimals_ne_nil (first _) _⟩
    · refine ⟨(withDecimals_visible (digits.of_sublist (List.take_sublist ..))
        (digits.of_sublist (List.drop_sublist ..))).append (printExponent_visible _), ?_⟩
      simp [withDecimals_ne_nil (first 0)]

theorem printG_visible (x : Binary32) : Visible (printG x) ∧ printG x ≠ [] := by
  have number : ∀ text : List UInt8, Visible text ∧ text ≠ [] →
      Visible ((if x.sign then asciiBytes "-" else []) ++ text) ∧ (if x.sign then asciiBytes "-" else []) ++ text ≠ [] := by
    rintro text ⟨visible, nonempty⟩
    refine ⟨Visible.append ?_ visible, List.append_ne_nil_of_right_ne_nil _ nonempty⟩
    split <;> decide
  rw [printG]
  apply number
  split
  · decide
  · split
    · decide
    · split
      · decide
      · exact printMagnitude_visible _ _

end IotPlatform

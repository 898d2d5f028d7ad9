import Mathlib.Data.List.GetD
import Mathlib.Data.List.TakeWhile

/-!
# C strings

The text of a `char` array is what stands before its terminator. `strncpy` and `snprintf` cut a text to the array they
fill, and neither says so.
-/

namespace IotPlatform

/-- The bytes before the terminator. -/
def cString (array : List UInt8) : List UInt8 := array.takeWhile (· ≠ 0)

theorem cString_of_forall {text : List UInt8} (rest : List UInt8) (printable : ∀ byte ∈ text, byte ≠ 0) :
    cString (text ++ 0 :: rest) = text := by
  rw [cString, List.takeWhile_append_of_pos fun byte member => decide_eq_true (printable byte member),
    List.takeWhile_cons_of_neg (by decide), List.append_nil]

theorem ne_zero_of_mem_cString {array : List UInt8} {byte : UInt8} (member : byte ∈ cString array) : byte ≠ 0 :=
  of_decide_eq_true (List.mem_takeWhile_imp (p := fun byte => decide (byte ≠ 0)) member)

theorem length_cString_lt {array : List UInt8} (terminated : 0 ∈ array) : (cString array).length < array.length := by
  induction array with
  | nil => cases terminated
  | cons byte rest ih =>
    by_cases ended : byte = 0
    · subst ended
      exact Nat.succ_pos _
    · have inside : 0 ∈ rest := (List.mem_cons.mp terminated).resolve_left fun zero => ended zero.symm
      rw [cString, List.takeWhile_cons_of_pos (p := fun byte => decide (byte ≠ 0)) (decide_eq_true ended)]
      exact Nat.succ_lt_succ (ih inside)

theorem cString_append {array : List UInt8} (terminated : 0 ∈ array) (rest : List UInt8) :
    cString (array ++ rest) = cString array := by
  have shorter := length_cString_lt terminated
  rw [cString, List.takeWhile_append, ← cString, if_neg (Nat.ne_of_lt shorter)]

theorem ofFn_getD {text : List UInt8} {size : Nat} (fits : text.length ≤ size) :
    (Vector.ofFn (n := size) fun i => text.getD i 0).toList = text ++ List.replicate (size - text.length) 0 := by
  apply List.ext_getElem
  · simp
    omega
  · intro i inside _
    rw [Vector.getElem_toList, Vector.getElem_ofFn]
    rcases Nat.lt_or_ge i text.length with low | high
    · rw [List.getElem_append_left low, List.getD_eq_getElem _ _ low]
    · rw [List.getElem_append_right high, List.getElem_replicate, List.getD_eq_default _ _ high]

theorem cString_ofFn {text : List UInt8} {size : Nat} (fits : text.length < size) (printable : ∀ byte ∈ text, byte ≠ 0) :
    cString (Vector.ofFn (n := size) fun i => text.getD i 0).toList = text := by
  obtain ⟨k, room⟩ := Nat.exists_eq_add_of_lt fits
  rw [ofFn_getD (Nat.le_of_lt fits), show size - text.length = k + 1 by omega, List.replicate_succ]
  exact cString_of_forall _ printable

theorem cString_take_printable (source : List UInt8) (n : Nat) : ∀ byte ∈ (cString source).take n, byte ≠ 0 :=
  fun _ member => ne_zero_of_mem_cString (List.mem_of_mem_take member)

theorem cString_cString (source : List UInt8) : cString (cString source) = cString source :=
  List.takeWhile_idem

/-! ### Terminated arrays -/

/-- A `char` array with its terminator in it. -/
def CArray (size : Nat) : Type := { array : Vector UInt8 size // 0 ∈ array }

instance {size : Nat} : DecidableEq (CArray size) :=
  inferInstanceAs (DecidableEq { array : Vector UInt8 size // 0 ∈ array })

variable {size : Nat}

def CArray.text (array : CArray size) : List UInt8 := cString array.val.toList

theorem CArray.length_text (array : CArray size) : array.text.length < size := by
  have shorter := length_cString_lt (Vector.mem_toList_iff.mpr array.property)
  rwa [Vector.length_toList] at shorter

/-- `strncpy` of `room` bytes into a zeroed array that has one more. -/
def strncpy (room : Nat) (source : List UInt8) : CArray (room + 1) :=
  ⟨Vector.ofFn fun i => ((cString source).take room).getD i 0, by
    refine Vector.mem_ofFn.mpr ⟨⟨room, Nat.lt_succ_self room⟩, List.getD_eq_default _ _ ?_⟩
    rw [List.length_take]
    exact Nat.min_le_left ..⟩

@[simp] theorem strncpy_text (room : Nat) (source : List UInt8) :
    (strncpy room source).text = (cString source).take room := by
  have short : ((cString source).take room).length < room + 1 := by
    rw [List.length_take]
    omega
  exact cString_ofFn short (cString_take_printable source _)

theorem strncpy_text_of_short {room : Nat} {source : List UInt8} (printable : ∀ byte ∈ source, byte ≠ 0)
    (short : source.length ≤ room) : (strncpy room source).text = source := by
  have whole : cString source = source := List.takeWhile_eq_self_iff.mpr fun byte member => decide_eq_true (printable byte member)
  rw [strncpy_text, whole]
  exact List.take_of_length_le short

/-- A copy reads its source to the terminator. -/
theorem strncpy_cString (room : Nat) (source : List UInt8) : strncpy room (cString source) = strncpy room source := by
  apply Subtype.ext
  simp only [strncpy, cString_cString]

/-- What `snprintf` leaves in a buffer, of the text it was to print; it returns the length of the whole text. -/
def snprintf (size : Nat) (text : List UInt8) : List UInt8 := text.take (size - 1)

theorem snprintf_of_lt {text : List UInt8} (fits : text.length < size) : snprintf size text = text :=
  List.take_of_length_le (by omega)

/-- The bytes of a string literal. -/
def asciiBytes (text : String) : List UInt8 := text.toUTF8.data.toList

end IotPlatform

import Mathlib.Data.Fintype.Basic
import Mathlib.Tactic.FinCases
import IotPlatform.Lib.Bytes

/-!
# SHA-256

The block function and the context of mbedTLS. The register names of a round move on by one from round to round, so that
eight rounds are written out; `MBEDTLS_SHA256_SMALLER` moves the registers instead.
-/

namespace IotPlatform.Sha256
open Bytes

def getUint32Be (data : List UInt8) (offset : Nat) : UInt32 :=
  (data.getD offset 0).toUInt32 <<< 24 ||| (data.getD (offset + 1) 0).toUInt32 <<< 16 |||
    (data.getD (offset + 2) 0).toUInt32 <<< 8 ||| (data.getD (offset + 3) 0).toUInt32

def putUint32Be (n : UInt32) : List UInt8 := [(n >>> 24).toUInt8, (n >>> 16).toUInt8, (n >>> 8).toUInt8, n.toUInt8]

def K : List UInt32 :=
  [0x428A2F98, 0x71374491, 0xB5C0FBCF, 0xE9B5DBA5, 0x3956C25B, 0x59F111F1, 0x923F82A4, 0xAB1C5ED5,
   0xD807AA98, 0x12835B01, 0x243185BE, 0x550C7DC3, 0x72BE5D74, 0x80DEB1FE, 0x9BDC06A7, 0xC19BF174,
   0xE49B69C1, 0xEFBE4786, 0x0FC19DC6, 0x240CA1CC, 0x2DE92C6F, 0x4A7484AA, 0x5CB0A9DC, 0x76F988DA,
   0x983E5152, 0xA831C66D, 0xB00327C8, 0xBF597FC7, 0xC6E00BF3, 0xD5A79147, 0x06CA6351, 0x14292967,
   0x27B70A85, 0x2E1B2138, 0x4D2C6DFC, 0x53380D13, 0x650A7354, 0x766A0ABB, 0x81C2C92E, 0x92722C85,
   0xA2BFE8A1, 0xA81A664B, 0xC24B8B70, 0xC76C51A3, 0xD192E819, 0xD6990624, 0xF40E3585, 0x106AA070,
   0x19A4C116, 0x1E376C08, 0x2748774C, 0x34B0BCB5, 0x391C0CB3, 0x4ED8AA4A, 0x5B9CCA4F, 0x682E6FF3,
   0x748F82EE, 0x78A5636F, 0x84C87814, 0x8CC70208, 0x90BEFFFA, 0xA4506CEB, 0xBEF9A3F7, 0xC67178F2]

def rotr (x n : UInt32) : UInt32 := x >>> n ||| x <<< (32 - n)

def s0 (x : UInt32) : UInt32 := rotr x 7 ^^^ rotr x 18 ^^^ x >>> 3
def s1 (x : UInt32) : UInt32 := rotr x 17 ^^^ rotr x 19 ^^^ x >>> 10
def s2 (x : UInt32) : UInt32 := rotr x 2 ^^^ rotr x 13 ^^^ rotr x 22
def s3 (x : UInt32) : UInt32 := rotr x 6 ^^^ rotr x 11 ^^^ rotr x 25

def f0 (x y z : UInt32) : UInt32 := x &&& y ||| z &&& (x ||| y)
def f1 (x y z : UInt32) : UInt32 := z ^^^ x &&& (y ^^^ z)

abbrev State := Vector UInt32 8

/-- The macro `P`; of its eight arguments the first names the register and the others follow it around. -/
def P (A : State) (a : Fin 8) (x k : UInt32) : State :=
  let temp1 := A[a + 7] + s3 A[a + 4] + f1 A[a + 4] A[a + 5] A[a + 6] + k + x
  let temp2 := s2 A[a] + f0 A[a] A[a + 1] A[a + 2]
  let d := a + 3
  let h := a + 7
  (A.set d.val (A[d] + temp1) d.isLt).set h.val (temp1 + temp2) h.isLt

/-- The macro `R`: the next word of the schedule. -/
def R (W : List UInt32) (t : Nat) : UInt32 :=
  s1 (W.getD (t - 2) 0) + W.getD (t - 7) 0 + s0 (W.getD (t - 15) 0) + W.getD (t - 16) 0

def schedule (W : List UInt32) (t : Nat) : List UInt32 := if t < 16 then W else W ++ [R W t]

def loadWords (data : List UInt8) : List UInt32 := (List.range 16).map fun i => getUint32Be data (4 * i)

/-- Round `t`: the names start at register `-t`. -/
def round (s : State × List UInt32) (t : Nat) : State × List UInt32 :=
  let W := schedule s.2 t
  (P s.1 (0 - Fin.ofNat 8 t) (W.getD t 0) (K.getD t 0), W)

def process (state : State) (data : List UInt8) : State :=
  let A := ((List.range 64).foldl round (state, loadWords data)).1
  state.zipWith (· + ·) A

/-- A round of the smaller variant: the names stay and the registers move on. -/
def smallerRound (s : State × List UInt32) (t : Nat) : State × List UInt32 :=
  let W := schedule s.2 t
  let A := P s.1 0 (W.getD t 0) (K.getD t 0)
  (#v[A[7], A[0], A[1], A[2], A[3], A[4], A[5], A[6]], W)

def smallerProcess (state : State) (data : List UInt8) : State :=
  let A := ((List.range 64).foldl smallerRound (state, loadWords data)).1
  state.zipWith (· + ·) A

structure Context where
  total0 : UInt32
  total1 : UInt32
  state : State
  buffer : List UInt8
  is224 : Bool

def initialState (is224 : Bool) : State :=
  if is224 then #v[0xC1059ED8, 0x367CD507, 0x3070DD17, 0xF70E5939, 0xFFC00B31, 0x68581511, 0x64F98FA7, 0xBEFA4FA4]
  else #v[0x6A09E667, 0xBB67AE85, 0x3C6EF372, 0xA54FF53A, 0x510E527F, 0x9B05688C, 0x1F83D9AB, 0x5BE0CD19]

/-- `mbedtls_sha256_starts_ret`; the buffer keeps what is in it. -/
def starts (ctx : Context) (is224 : Bool) : Context :=
  { ctx with total0 := 0, total1 := 0, state := initialState is224, is224 := is224 }

/-- The loop over the blocks of an input, with at most `rounds` left. -/
def processBlocks : (rounds : Nat) → State → List UInt8 → State × List UInt8
  | 0, state, input => (state, input)
  | rounds + 1, state, input =>
    if 64 ≤ input.length then processBlocks rounds (process state (input.take 64)) (input.drop 64) else (state, input)

/-- What `mbedtls_sha256_update_ret` does once the buffer is out of the way: the blocks, and the rest behind `left`. -/
def takeIn (ctx : Context) (left : Nat) (input : List UInt8) : Context :=
  let (state, rest) := processBlocks input.length ctx.state input
  { ctx with state := state, buffer := if rest = [] then ctx.buffer else overwrite ctx.buffer left rest }

def update (ctx : Context) (input : List UInt8) : Context :=
  if input = [] then ctx
  else
    let left := (ctx.total0 &&& 0x3F).toNat
    let fill := 64 - left
    let ilen := UInt32.ofNat input.length
    let total0 := ctx.total0 + ilen
    let ctx := { ctx with total0 := total0, total1 := if total0 < ilen then ctx.total1 + 1 else ctx.total1 }
    if left ≠ 0 ∧ fill ≤ input.length then
      let buffer := overwrite ctx.buffer left (input.take fill)
      takeIn { ctx with buffer := buffer, state := process ctx.state buffer } 0 (input.drop fill)
    else takeIn ctx left input

def output (is224 : Bool) (state : State) : List UInt8 :=
  (if is224 then state.toList.take 7 else state.toList).flatMap putUint32Be

/-- The padding of `mbedtls_sha256_finish_ret`, up to the length. -/
def pad (ctx : Context) : Context :=
  let used := (ctx.total0 &&& 0x3F).toNat
  let marked := overwrite ctx.buffer used [0x80]
  let used := used + 1
  if used ≤ 56 then { ctx with buffer := overwrite marked used (List.replicate (56 - used) 0) }
  else
    let filled := overwrite marked used (List.replicate (64 - used) 0)
    { ctx with state := process ctx.state filled, buffer := overwrite filled 0 (List.replicate 56 0) }

def finish (ctx : Context) : Context × List UInt8 :=
  let padded := pad ctx
  let high := ctx.total0 >>> 29 ||| ctx.total1 <<< 3
  let low := ctx.total0 <<< 3
  let buffer := overwrite (overwrite padded.buffer 56 (putUint32Be high)) 60 (putUint32Be low)
  let ctx := { padded with buffer := buffer, state := process padded.state buffer }
  (ctx, output ctx.is224 ctx.state)

/-- `mbedtls_sha256_init` clears the context. -/
def init : Context := { total0 := 0, total1 := 0, state := .replicate 8 0, buffer := .replicate 64 0, is224 := false }

/-! ### The two variants of the block function -/

/-- Register `i` of the one is register `i - r` of the other. -/
def Renamed (r : Fin 8) (A B : State) : Prop := ∀ i : Fin 8, B[i] = A[i - r]

theorem getElem_P (A : State) (a : Fin 8) (x k : UInt32) (i : Fin 8) :
    let temp1 := A[a + 7] + s3 A[a + 4] + f1 A[a + 4] A[a + 5] A[a + 6] + k + x
    let temp2 := s2 A[a] + f0 A[a] A[a + 1] A[a + 2]
    (P A a x k)[i] = if a + 7 = i then temp1 + temp2 else if a + 3 = i then A[a + 3] + temp1 else A[i] := by
  simp only [P, Fin.getElem_fin, Vector.getElem_set, Fin.val_inj]

theorem Renamed.names {r : Fin 8} {A B : State} (renamed : Renamed r A B) (j : Fin 8) : A[0 - r + j] = B[0 + j] := by
  have same : ∀ r j : Fin 8, 0 - r + j = 0 + j - r := by decide
  simp only [renamed (0 + j), same]

theorem Renamed.P {r : Fin 8} {A B : State} (renamed : Renamed r A B) (x k : UInt32) :
    Renamed r (P A (0 - r) x k) (P B 0 x k) := by
  intro i
  have named : ∀ r i j : Fin 8, 0 - r + j = i - r ↔ 0 + j = i := by decide
  have first : A[0 - r] = B[(0 : Fin 8)] := (renamed 0).symm
  simp only [getElem_P, renamed.names, named, first, renamed i]

theorem Renamed.moved {r : Fin 8} {A B : State} (renamed : Renamed r A B) :
    Renamed (r + 1) A #v[B[7], B[0], B[1], B[2], B[3], B[4], B[5], B[6]] := by
  have before : ∀ i : Fin 8, #v[B[7], B[0], B[1], B[2], B[3], B[4], B[5], B[6]][i] = B[i - 1] := by
    intro i
    fin_cases i <;> rfl
  have same : ∀ i r : Fin 8, i - 1 - r = i - (r + 1) := by decide
  intro i
  simp only [before, renamed (i - 1), same]

theorem round_renamed {t : Nat} {s s' : State × List UInt32} (renamed : Renamed (Fin.ofNat 8 t) s.1 s'.1)
    (words : s.2 = s'.2) :
    Renamed (Fin.ofNat 8 (t + 1)) (round s t).1 (smallerRound s' t).1 ∧ (round s t).2 = (smallerRound s' t).2 := by
  have next : Fin.ofNat 8 (t + 1) = Fin.ofNat 8 t + 1 := by
    ext
    simp [Fin.val_add]
  rw [round, smallerRound, words, next]
  exact ⟨(renamed.P _ _).moved, rfl⟩

theorem rounds_renamed (state : State) (W : List UInt32) (n : Nat) :
    Renamed (Fin.ofNat 8 n) ((List.range n).foldl round (state, W)).1 ((List.range n).foldl smallerRound (state, W)).1 ∧
      ((List.range n).foldl round (state, W)).2 = ((List.range n).foldl smallerRound (state, W)).2 := by
  induction n with
  | zero =>
    have same : ∀ i : Fin 8, i - Fin.ofNat 8 0 = i := by decide
    exact ⟨fun i => by simp only [same, List.range_zero, List.foldl_nil], rfl⟩
  | succ n ih =>
    simp only [List.range_succ, List.foldl_append, List.foldl_cons, List.foldl_nil]
    exact round_renamed ih.1 ih.2

theorem Renamed.eq {A B : State} (renamed : Renamed 0 A B) : B = A := by
  have same : ∀ i : Fin 8, i - 0 = i := by decide
  apply Vector.ext
  intro i inside
  have named := renamed ⟨i, inside⟩
  simp only [same] at named
  exact named

/-- After 64 rounds the names are back at their registers: both variants compute the same block function. -/
theorem smallerProcess_eq (state : State) (data : List UInt8) : smallerProcess state data = process state data := by
  have renamed := (rounds_renamed state (loadWords data) 64).1
  have back : Fin.ofNat 8 64 = 0 := rfl
  rw [back] at renamed
  rw [smallerProcess, process, renamed.eq]

end IotPlatform.Sha256

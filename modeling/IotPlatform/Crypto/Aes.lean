import Mathlib.Algebra.GroupWithZero.Nat
import Mathlib.Logic.Function.Basic
import IotPlatform.Lib.Rijndael

/-!
# AES

`aes.c` of mbedTLS with tables that it generates: a round looks up each byte of the state in a table of words that already
hold the mixed columns.
-/

namespace IotPlatform.Aes
open Rijndael

/-- A block has columns, and each of them rows. -/
theorem four_columns : NeZero 4 :=
  ⟨by decide⟩

attribute [local instance] four_columns

/-! ### The tables -/

/-- `XTIME`, cut to a byte. -/
def xtime (x : UInt8) : UInt8 := x <<< 1 ^^^ if x &&& 0x80 ≠ 0 then 0x1B else 0x00

structure PowLog where
  x : UInt8
  pow : Nat → UInt8
  log : UInt8 → Nat

def powLogStep (s : PowLog) (i : Nat) : PowLog :=
  { x := s.x ^^^ xtime s.x, pow := Function.update s.pow i s.x, log := Function.update s.log s.x i }

/-- The first loop of `aes_gen_tables`. The arrays start with anything: what is not written is not read. -/
def powLog : PowLog := (List.range 256).foldl powLogStep { x := 1, pow := fun _ => 0, log := fun _ => 0 }

/-- `MUL` -/
def mulTable (x y : UInt8) : UInt8 :=
  if x ≠ 0 ∧ y ≠ 0 then powLog.pow ((powLog.log x + powLog.log y) % 255) else 0

/-- The `uint32_t` words of ten bytes that are doubled from one to the next. -/
def roundConstant (i : Nat) : UInt32 := (xtime^[i] 1).toUInt32

/-- `(y << 1) | (y >> 7)` -/
def rotlByte (y : UInt8) : UInt8 := y <<< 1 ||| y >>> 7

/-- What the third loop makes of the inverse. -/
def sBoxAffine (x : UInt8) : UInt8 :=
  let y := rotlByte x
  let x := x ^^^ y
  let y := rotlByte y
  let x := x ^^^ y
  let y := rotlByte y
  let x := x ^^^ y
  let y := rotlByte y
  x ^^^ (y ^^^ 0x63)

def sBoxStep (boxes : (UInt8 → UInt8) × (UInt8 → UInt8)) (i : Nat) : (UInt8 → UInt8) × (UInt8 → UInt8) :=
  let x := sBoxAffine (powLog.pow (255 - powLog.log (UInt8.ofNat i)))
  (Function.update boxes.1 (UInt8.ofNat i) x, Function.update boxes.2 x (UInt8.ofNat i))

def sBoxes : (UInt8 → UInt8) × (UInt8 → UInt8) :=
  (List.range' 1 255).foldl sBoxStep
    (Function.update (fun _ => 0) 0x00 0x63, Function.update (fun _ => 0) 0x63 0x00)

def FSb : UInt8 → UInt8 := sBoxes.1

def RSb : UInt8 → UInt8 := sBoxes.2

/-- A word of four bytes, lowest first. -/
def word (b0 b1 b2 b3 : UInt8) : UInt32 := b0.toUInt32 ^^^ b1.toUInt32 <<< 8 ^^^ b2.toUInt32 <<< 16 ^^^ b3.toUInt32 <<< 24

def rotl8 (x : UInt32) : UInt32 := x <<< 8 ||| x >>> 24

def FT0 (i : UInt8) : UInt32 :=
  let x := FSb i
  let y := xtime x
  let z := y ^^^ x
  word y x x z

def FT1 (i : UInt8) : UInt32 := rotl8 (FT0 i)
def FT2 (i : UInt8) : UInt32 := rotl8 (FT1 i)
def FT3 (i : UInt8) : UInt32 := rotl8 (FT2 i)

def RT0 (i : UInt8) : UInt32 :=
  let x := RSb i
  word (mulTable 0x0E x) (mulTable 0x09 x) (mulTable 0x0D x) (mulTable 0x0B x)

def RT1 (i : UInt8) : UInt32 := rotl8 (RT0 i)
def RT2 (i : UInt8) : UInt32 := rotl8 (RT1 i)
def RT3 (i : UInt8) : UInt32 := rotl8 (RT2 i)

/-! ### The key schedules -/

/-- `MBEDTLS_BYTE_0` to `MBEDTLS_BYTE_3` -/
def byte (r : Fin 4) (x : UInt32) : UInt8 := (x >>> (8 * UInt32.ofNat r)).toUInt8

def getUint32Le (data : List UInt8) (offset : Nat) : UInt32 :=
  (data.getD offset 0).toUInt32 ||| (data.getD (offset + 1) 0).toUInt32 <<< 8 |||
    (data.getD (offset + 2) 0).toUInt32 <<< 16 ||| (data.getD (offset + 3) 0).toUInt32 <<< 24

/-- `mbedtls_aes_context`: the number of rounds, and the buffer of the round keys. -/
structure AesContext where
  nr : Nat
  rk : Nat → UInt32

/-- The bytes of a word looked up in the S-box, with `turn` bytes rotated to the front. -/
def subWordTurned (turn : Fin 4) (x : UInt32) : UInt32 :=
  word (FSb (byte turn x)) (FSb (byte (turn + 1) x)) (FSb (byte (turn + 2) x)) (FSb (byte (turn + 3) x))

def expand10 (RK : Nat → UInt32) (i : Nat) : Nat → UInt32 :=
  let o := 4 * i
  let RK := Function.update RK (o + 4) (RK o ^^^ roundConstant i ^^^ subWordTurned 1 (RK (o + 3)))
  let RK := Function.update RK (o + 5) (RK (o + 1) ^^^ RK (o + 4))
  let RK := Function.update RK (o + 6) (RK (o + 2) ^^^ RK (o + 5))
  Function.update RK (o + 7) (RK (o + 3) ^^^ RK (o + 6))

def expand12 (RK : Nat → UInt32) (i : Nat) : Nat → UInt32 :=
  let o := 6 * i
  let RK := Function.update RK (o + 6) (RK o ^^^ roundConstant i ^^^ subWordTurned 1 (RK (o + 5)))
  let RK := Function.update RK (o + 7) (RK (o + 1) ^^^ RK (o + 6))
  let RK := Function.update RK (o + 8) (RK (o + 2) ^^^ RK (o + 7))
  let RK := Function.update RK (o + 9) (RK (o + 3) ^^^ RK (o + 8))
  let RK := Function.update RK (o + 10) (RK (o + 4) ^^^ RK (o + 9))
  Function.update RK (o + 11) (RK (o + 5) ^^^ RK (o + 10))

def expand14 (RK : Nat → UInt32) (i : Nat) : Nat → UInt32 :=
  let o := 8 * i
  let RK := Function.update RK (o + 8) (RK o ^^^ roundConstant i ^^^ subWordTurned 1 (RK (o + 7)))
  let RK := Function.update RK (o + 9) (RK (o + 1) ^^^ RK (o + 8))
  let RK := Function.update RK (o + 10) (RK (o + 2) ^^^ RK (o + 9))
  let RK := Function.update RK (o + 11) (RK (o + 3) ^^^ RK (o + 10))
  let RK := Function.update RK (o + 12) (RK (o + 4) ^^^ subWordTurned 0 (RK (o + 11)))
  let RK := Function.update RK (o + 13) (RK (o + 5) ^^^ RK (o + 12))
  let RK := Function.update RK (o + 14) (RK (o + 6) ^^^ RK (o + 13))
  Function.update RK (o + 15) (RK (o + 7) ^^^ RK (o + 14))

/-- The rounds for a key of so many bits. -/
def roundsOf (keybits : Nat) : Option Nat :=
  if keybits = 128 then some 10 else if keybits = 192 then some 12 else if keybits = 256 then some 14 else none

/-- `mbedtls_aes_setkey_enc`; no context is an invalid key length. -/
def setkeyEnc (ctx : AesContext) (key : List UInt8) (keybits : Nat) : Option AesContext :=
  match roundsOf keybits with
  | none => none
  | some nr =>
    let RK := (List.range (keybits / 32)).foldl (fun RK i => Function.update RK i (getUint32Le key (4 * i))) ctx.rk
    if nr = 10 then some { nr := nr, rk := (List.range 10).foldl expand10 RK }
    else if nr = 12 then some { nr := nr, rk := (List.range 8).foldl expand12 RK }
    else some { nr := nr, rk := (List.range 7).foldl expand14 RK }

/-- The sum of a column's lookups, a table for each row. -/
def tableSum (T : Fin 4 → UInt8 → UInt32) (y : Fin 4 → UInt8) : UInt32 := T 0 (y 0) ^^^ T 1 (y 1) ^^^ T 2 (y 2) ^^^ T 3 (y 3)

def RT : Fin 4 → UInt8 → UInt32 := ![RT0, RT1, RT2, RT3]

/-- A word of the schedule for decryption. -/
def inverseWord (SK : UInt32) : UInt32 := tableSum (fun k b => RT k (FSb b)) fun k => byte k SK

/-- `mbedtls_aes_setkey_dec`: the round keys backwards, all but the first and the last through the tables. -/
def setkeyDec (ctx : AesContext) (key : List UInt8) (keybits : Nat) : Option AesContext :=
  (setkeyEnc { nr := 0, rk := fun _ => 0 } key keybits).map fun cty =>
    let written := (List.range 4).map (fun j => cty.rk (4 * cty.nr + j)) ++
      (List.range (cty.nr - 1)).flatMap (fun i => (List.range 4).map fun j => inverseWord (cty.rk (4 * (cty.nr - 1 - i) + j))) ++
      (List.range 4).map cty.rk
    { nr := cty.nr, rk := fun k => written.getD k (ctx.rk k) }

/-! ### A block -/

abbrev Block := Vector UInt8 16

abbrev Words := Fin 4 → UInt32

def FT : Fin 4 → UInt8 → UInt32 := ![FT0, FT1, FT2, FT3]

/-- The last round looks up in the S-box alone. -/
def lastTable (box : UInt8 → UInt8) (k : Fin 4) (b : UInt8) : UInt32 := (box b).toUInt32 <<< (8 * UInt32.ofNat k)

/-- `AES_FROUND` with `turn` 1 and `AES_RROUND` with `turn` 3: byte `k` of a column comes from `k` times as many columns on. -/
def tableRound (T : Fin 4 → UInt8 → UInt32) (turn : Fin 4) (RK : Nat → UInt32) (o : Nat) (y : Words) : Words := fun c =>
  RK (o + c) ^^^ tableSum T fun k => byte k (y (c + k * turn))

/-- The loop over pairs of rounds, with `i` of them left and the round keys from word `o` on. -/
def roundPairs (round : Nat → Words → Words) : (i : Nat) → (o : Nat) → Words → Nat × Words
  | 0, o, x => (o, x)
  | i + 1, o, x => roundPairs round i (o + 8) (round (o + 4) (round o x))

def loadBlock (RK : Nat → UInt32) (input : Block) : Words := fun c => getUint32Le input.toList (4 * c) ^^^ RK c

def storeBlock (x : Words) : Block := Vector.ofFn fun i => byte (Fin.ofNat 4 i) (x (Fin.ofNat 4 (i / 4)))

/-- The common body of `mbedtls_internal_aes_encrypt` and `mbedtls_internal_aes_decrypt`. -/
def aesRounds (T last : Fin 4 → UInt8 → UInt32) (turn : Fin 4) (ctx : AesContext) (input : Block) : Block :=
  let (o, x) := roundPairs (tableRound T turn ctx.rk) (ctx.nr / 2 - 1) 4 (loadBlock ctx.rk input)
  let y := tableRound T turn ctx.rk o x
  storeBlock (tableRound last turn ctx.rk (o + 4) y)

def aesEncrypt (ctx : AesContext) (input : Block) : Block := aesRounds FT (lastTable FSb) 1 ctx input

def aesDecrypt (ctx : AesContext) (input : Block) : Block := aesRounds RT (lastTable RSb) 3 ctx input

inductive AesMode where
  | encrypt | decrypt

/-- `mbedtls_aes_crypt_ecb` -/
def aesCryptEcb (ctx : AesContext) (mode : AesMode) (input : Block) : Block :=
  match mode with
  | .encrypt => aesEncrypt ctx input
  | .decrypt => aesDecrypt ctx input

end IotPlatform.Aes

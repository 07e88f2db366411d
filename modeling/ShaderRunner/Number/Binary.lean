/-! Binary floating-point formats in exact arithmetic. -/

namespace ShaderRunner.Number

/-- `b ^ e` is `raised b e / lowered b e`, and one of the two is 1. -/
def raised (b : Nat) (e : Int) : Nat := Nat.pow b e.toNat

def lowered (b : Nat) (e : Int) : Nat := Nat.pow b (-e).toNat

/-- The bits of a significand, its leading one included, and the bits of an exponent. -/
structure Binary where
  significand : Nat
  exponent : Nat

namespace Binary

def single : Binary := ⟨24, 8⟩
def double : Binary := ⟨53, 11⟩

variable (f : Binary)

def least : Int := 3 - Nat.pow 2 (f.exponent - 1) - f.significand

def hidden : Nat := Nat.pow 2 (f.significand - 1)
def infinity : Nat := (Nat.pow 2 f.exponent - 1) * f.hidden
def signBit : Nat := Nat.pow 2 f.exponent * f.hidden

/-- What a bit pattern stands for: `finite m q` is `m · 2 ^ q`. -/
inductive Content
  | nan
  | infinite
  | finite (m : Nat) (q : Int)

def negative (bits : Nat) : Bool := bits / f.signBit % 2 == 1

def content (bits : Nat) : Content :=
  let rest := bits % f.signBit
  let e := rest / f.hidden
  let m := rest % f.hidden
  if rest > f.infinity then .nan
  else if rest = f.infinity then .infinite
  else if e = 0 then .finite m f.least
  else .finite (f.hidden + m) (f.least + e - 1)

def magnitude (num den : Nat) : Int :=
  let t : Int := num.log2 - den.log2
  if den * raised 2 t ≤ num * lowered 2 t then t else t - 1

def roundHalfEven (num den : Nat) : Nat :=
  let d := num / den
  let r := 2 * (num % den)
  if r < den || (r == den && d % 2 == 0) then d else d + 1

/-- The pattern nearest to `num / den`; infinity from the middle between the greatest number and the
number that would come after it. -/
def nearest (num den : Nat) : Nat :=
  if num = 0 then 0
  else
    let e := max f.least (magnitude num den - (f.significand - 1))
    let m := roundHalfEven (num * lowered 2 e) (den * raised 2 e)
    min f.infinity ((e - f.least).toNat * f.hidden + m)

def signed (negative : Bool) (bits : Nat) : Nat := if negative then f.signBit + bits else bits

end Binary

def singleOfBits (bits : Nat) : Float32 := Float32.ofBits (UInt32.ofNat bits)
def doubleOfBits (bits : Nat) : Float := Float.ofBits (UInt64.ofNat bits)

def singleOfInt (n : Int) : Float32 :=
  singleOfBits (Binary.single.signed (n < 0) (Binary.single.nearest n.natAbs 1))

def narrow (x : Float) : Float32 :=
  let bits := x.toBits.toNat
  singleOfBits <| Binary.single.signed (Binary.double.negative bits) <|
    match Binary.double.content bits with
    | .nan => Binary.single.infinity + Nat.pow 2 22
    | .infinite => Binary.single.infinity
    | .finite m q => Binary.single.nearest (m * raised 2 q) (lowered 2 q)

end ShaderRunner.Number

import ShaderRunner.Number.Binary

namespace ShaderRunner.Number

/-- What rounds to `m · 2 ^ (s + 2)`: from `low` to `high` in units of `2 ^ s`, ends included or not. -/
structure Interval where
  low : Nat
  value : Nat
  high : Nat
  scale : Int
  closed : Bool

/-- The gap below a power of two is half the gap above it, and an even significand takes both ends. -/
def Interval.around (f : Binary) (m : Nat) (q : Int) : Interval where
  low := if m = f.hidden then 4 * m - 1 else 4 * m - 2
  value := 4 * m
  high := 4 * m + 2
  scale := q - 2
  closed := m % 2 == 0

namespace Interval

variable (i : Interval) (k : Int)

/-- `x · 2 ^ scale` and `d · 10 ^ k` compare as `x * i.coarse k` and `d * i.fine k` do. -/
def coarse : Nat := raised 2 i.scale * lowered 10 k
def fine : Nat := lowered 2 i.scale * raised 10 k

def holds (d : Nat) : Bool :=
  if i.closed then i.low * i.coarse k ≤ d * i.fine k && d * i.fine k ≤ i.high * i.coarse k
  else i.low * i.coarse k < d * i.fine k && d * i.fine k < i.high * i.coarse k

def multiple? : Option Nat :=
  let d := i.value * i.coarse k / i.fine k
  let above := (2 * d + 1) * i.fine k ≤ 2 * (i.value * i.coarse k)
  match i.holds k d, i.holds k (d + 1) with
  | true, true => some (if above then d + 1 else d)
  | true, false => some d
  | false, true => some (d + 1)
  | false, false => none

def beyond : Int := (i.high.log2 + 1 + i.scale) * 30103 / 100000 + 2

def shortest : Nat × Int :=
  ((List.range 24).findSome? fun (n : Nat) => (i.multiple? (i.beyond - n)).map (·, i.beyond - n)).getD (0, 0)

end Interval

def plain (d : Nat) (k : Int) : List Char :=
  let ds := Nat.toDigits 10 d
  let places := (-k).toNat
  if places = 0 then ds ++ List.replicate k.toNat '0'
  else if places < ds.length then ds.take (ds.length - places) ++ '.' :: ds.drop (ds.length - places)
  else '0' :: '.' :: List.replicate (places - ds.length) '0' ++ ds

def text (f : Binary) (bits : Nat) : String :=
  let sign := if f.negative bits then ['-'] else []
  match f.content bits with
  | .nan => "NaN"
  | .infinite => String.ofList (sign ++ "inf".toList)
  | .finite 0 _ => String.ofList (sign ++ ['0'])
  | .finite m q =>
    let (d, k) := (Interval.around f m q).shortest
    String.ofList (sign ++ plain d k)

def singleText (x : Float32) : String := text .single x.toBits.toNat

def doubleText (x : Float) : String :=
  let bits := x.toBits.toNat
  let sign := if Binary.double.negative bits then ['-'] else []
  match Binary.double.content bits with
  | .finite m q =>
    if m % lowered 2 q = 0 then
      String.ofList (sign ++ Nat.toDigits 10 (m * raised 2 q / lowered 2 q) ++ ".0".toList)
    else text .double bits
  | _ => text .double bits

end ShaderRunner.Number

import ShaderRunner.Files.Jpeg.Coded
import ShaderRunner.Files.Jpeg.Picture

/-!
Blocks of 64 numbers, which come at once or in passes. Of the numbers only those matter that are not zero, because
further bits of them follow.
-/

namespace ShaderRunner.Jpeg.Block

open Coded

variable (data : ByteArray)

def firstNumber (code : PrefixCode) : Reader Unit := do
  fill data
  let n ← symbol code
  let _ ← take n

def signed (n value : Nat) : Int :=
  if value < 1 <<< (n - 1) then (value : Int) - (1 <<< n : Nat) + 1 else value

def shortBits : Nat := 9

def isShort (window : UInt64) (n m : Nat) : Bool :=
  let v := signed m ((window <<< UInt64.ofNat n) >>> UInt64.ofNat (64 - m)).toNat
  m ≠ 0 && n + m ≤ shortBits && -128 ≤ v && v ≤ 127

def numbersFrom (code : PrefixCode) (k : Nat) : Nat → Reader Unit
  | 0 => return
  | fuel + 1 => do
    if 64 ≤ k then return
    fill data
    let window := (← get).window
    let (x, n) ← peek code
    let zeros := x / 16
    let m := x % 16
    if isShort window n m then
      drop (n + m)
      numbersFrom code (k + zeros + 1) fuel
    else
      drop n
      if m ≠ 0 then
        let _ ← take m
        numbersFrom code (k + zeros + 1) fuel
      else if zeros = 15 then numbersFrom code (k + 16) fuel
      else return

def all (first other : PrefixCode) : Reader Unit := do
  firstNumber data first
  numbersFrom data other 1 64

/-- The places of the numbers that are not zero, as bits. -/
abbrev Mask := UInt64

def Mask.bit (k : Nat) : Mask := 1 <<< UInt64.ofNat (k % 64)

def Mask.has (m : Mask) (k : Nat) : Bool := m &&& bit k ≠ 0

def Mask.set (m : Mask) (k : Nat) (isZero : Bool) : Mask := if isZero then m &&& ~~~bit k else m ||| bit k

def refineFirst : Reader Unit := do
  if (← get).count = 0 then fill data
  let _ ← bit

def takeRun (n : Nat) : Reader Nat := return (1 <<< n) + (← take n)

def setRun (n : Nat) : Reader Unit := modify fun c => { c with run := n }

/-- Numbers have 16 bits; what a shift leaves of them may be zero. -/
def isLost (low : Nat) (v : Int) : Bool := v * (1 <<< low : Nat) % 65536 = 0

def passFrom (code : PrefixCode) (s : Scan) (m : Mask) (k : Nat) : Nat → Reader Mask
  | 0 => return m
  | fuel + 1 => do
    fill data
    let x ← symbol code
    let zeros := x / 16
    let n := x % 16
    if n ≠ 0 then
      let k := k + zeros
      let m := m.set k (isLost s.low (signed n (← take n)))
      if s.stop < k + 1 then return m else passFrom code s m (k + 1) fuel
    else if zeros ≠ 15 then
      setRun ((← takeRun zeros) - 1)
      return m
    else if s.stop < k + 16 then return m
    else passFrom code s m (k + 16) fuel

def pass (code : PrefixCode) (s : Scan) (m : Mask) : Reader Mask := passFrom data code s m s.start 64

def refineNumber : Reader Unit := do
  let _ ← bit
  if (← get).count = 0 then fill data

def refineOver (s : Scan) (m : Mask) (zeros k : Nat) : Nat → Reader Nat
  | 0 => return k
  | fuel + 1 => do
    if m.has k then refineNumber data
    if !m.has k && zeros = 0 || k = s.stop then return k
    refineOver s m (if m.has k then zeros else zeros - 1) (k + 1) fuel

def refineFrom (code : PrefixCode) (s : Scan) (m : Mask) (k : Nat) : Nat → Reader (Mask × Nat)
  | 0 => return (m, k)
  | fuel + 1 => do
    fill data
    let x ← symbol code
    let zeros := x / 16
    let n := x % 16
    if n = 0 && zeros ≠ 15 then
      setRun (← takeRun zeros)
      return (m, k)
    if 1 < n then throw .data
    if n = 1 then
      let _ ← bit
    let k ← if k ≤ s.stop then refineOver data s m zeros k 64 else pure k
    let m := if n = 1 then m.set k false else m
    if s.stop < k + 1 then return (m, k + 1) else refineFrom code s m (k + 1) fuel

def refineRest (s : Scan) (m : Mask) (k : Nat) : Nat → Reader Unit
  | 0 => return
  | fuel + 1 => do
    if s.stop < k then return
    if m.has k then
      let _ ← bit
    if (← get).count = 0 then fill data
    refineRest s m (k + 1) fuel

def refine (code : PrefixCode) (s : Scan) (m : Mask) : Reader Mask := do
  let (m, k) ← if (← get).run = 0 then refineFrom data code s m s.start 64 else pure (m, s.start)
  let run := (← get).run
  if run ≠ 0 then
    if m &&& ~~~Mask.bit 0 ≠ 0 then
      fill data
      refineRest data s m k 64
    setRun (run - 1)
  return m

end ShaderRunner.Jpeg.Block

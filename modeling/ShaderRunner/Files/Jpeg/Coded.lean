import ShaderRunner.Files.Bytes
import ShaderRunner.Files.Jpeg.Marker
import ShaderRunner.Files.PrefixCode

/-!
Coded data are read ahead into a window of 64 bits. A full byte in the data has a zero behind it; behind the last
bits, the window goes on with zeros and then with what it had before.
-/

namespace ShaderRunner.Jpeg

open Bytes

inductive Fault
  | unknownMarker
  | data
  deriving DecidableEq, Repr

/-- `place` is behind what has been read ahead: `recent` ends with it, `window` begins with the next bit, and
`count` bits of it are new. `run` counts the blocks that are left out, and `beyond` the bytes that were asked for at
the end of the file. -/
structure Coded where
  place : Nat
  recent : UInt64 := 0
  window : UInt64 := 0
  count : Nat := 0
  marker : Option Marker := none
  isOver : Bool := false
  run : Nat := 0
  beyond : Nat := 0

abbrev Reader := StateT Coded (Except Fault)

namespace Coded

variable (data : ByteArray)

def reset (c : Coded) : Coded := { place := c.place, isOver := c.isOver, beyond := c.beyond }

def aligned (c : Coded) : Coded := { c with window := c.recent <<< UInt64.ofNat (64 - c.count) }

def byteAt (i : Nat) : Nat × Nat :=
  match byte? data i with
  | some b => (b, i + 1)
  | none => (0, i)

def passFull (i : Nat) : Nat → Nat × Nat
  | 0 => (0, i)
  | fuel + 1 =>
    match byteAt data i with
    | (0xFF, next) => passFull next fuel
    | x => x

def fillBytes : Nat → Reader Unit
  | 0 => modify aligned
  | n + 1 => do
    let c ← get
    let (b, next) := byteAt data c.place
    let beyond := if data.size ≤ next then c.beyond + 1 else c.beyond
    let filled : Coded :=
      { c with place := next, recent := c.recent <<< 8 ||| UInt64.ofNat b, count := c.count + 8, beyond }
    if b ≠ 0xFF then
      set filled
      fillBytes n
    else
      match passFull data next (data.size + 1) with
      | (0, next) =>
        set { filled with place := next }
        fillBytes n
      | (m, next) =>
        match Marker.ofByte? m with
        | none => throw .data
        | some m =>
          let c : Coded := { c with place := next, marker := some m, beyond }
          set (if c.count = 0 then c else c.aligned)

def plainWord? (i : Nat) : Option Nat := do
  let bytes ← (List.range 4).mapM fun k => byte? data (i + k)
  if bytes.contains 0xFF then none else return bytes.foldl (fun n b => 256 * n + b) 0

def fill : Reader Unit := do
  let c ← get
  if c.count < 32 && c.marker.isNone && !c.isOver then
    match plainWord? data c.place with
    | some w =>
      let recent := c.recent <<< 32 ||| UInt64.ofNat w
      set ({ c with place := c.place + 4, recent, count := c.count + 32 } : Coded).aligned
    | none => fillBytes data 4

def drop (n : Nat) : Reader Unit :=
  modify fun c => { c with window := c.window <<< UInt64.ofNat n, count := c.count - n }

def take (n : Nat) : Reader Nat := do
  if n = 0 then return 0
  let w := (← get).window
  let high := w >>> UInt64.ofNat (64 - n)
  modify fun c => { c with window := w <<< UInt64.ofNat n ||| high, count := c.count - n }
  return high.toNat

def bit : Reader Bool := do
  let c ← get
  drop 1
  return c.window >>> 63 = 1

def bitOf (w : UInt64) (i : Nat) : Nat := (w >>> UInt64.ofNat (63 - i) &&& 1).toNat

def peek (code : PrefixCode) : Reader (Nat × Nat) := do
  match code.find? (bitOf (← get).window) with
  | some x => return x
  | none => throw .data

def symbol (code : PrefixCode) : Reader Nat := do
  let (x, n) ← peek code
  drop n
  return x

def findMarker (i : Nat) : Nat → Except Fault (Marker × Nat)
  | 0 => throw .data
  | fuel + 1 =>
    match byte? data i with
    | none => throw .data
    | some 0xFF =>
      match passFull data (i + 1) (data.size + 1) with
      | (0, next) => findMarker next fuel
      | (b, next) =>
        match Marker.ofByte? b with
        | some m => return (m, next)
        | none => throw .unknownMarker
    | some _ => findMarker (i + 1) fuel

def nextMarker : Reader Marker := do
  let c ← get
  match c.marker with
  | some m =>
    set { c with marker := none }
    return m
  | none =>
    let (m, place) ← findMarker data c.place (data.size + 1)
    set { c with place }
    return m

end Coded

end ShaderRunner.Jpeg

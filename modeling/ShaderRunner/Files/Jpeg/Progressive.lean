import ShaderRunner.Files.Jpeg.Block
import ShaderRunner.Files.Jpeg.Layout
import ShaderRunner.Files.Jpeg.Units

/-!
A scan of one component brings a part of all its blocks, and a scan of several ones brings their first numbers. Where
the data are wrong the picture stays as it is up to there.
-/

namespace ShaderRunner.Jpeg.Progressive

open Coded Block

variable (data : ByteArray)

abbrev Masks := Array Mask

def readFirst (s : Scan) (code : PrefixCode) : Reader Unit :=
  if s.high = 0 then firstNumber data code else refineFirst data

def readFirsts (s : Scan) (code : PrefixCode) : Nat → Reader Unit
  | 0 => return
  | n + 1 => do
    readFirst data s code
    readFirsts s code n

def parts? (p : Picture) : Option (List (PrefixCode × Nat)) :=
  p.scan.chosen.mapM fun k => do
    let c ← p.components[k]?
    return (← p.first.lookup c.first, c.across * c.down)

def readParts (s : Scan) : List (PrefixCode × Nat) → Reader Unit
  | [] => return
  | (code, n) :: parts => do
    readFirsts data s code n
    readParts s parts

def readUnits (parts : List (PrefixCode × Nat)) (p : Picture) : Nat → Reader Picture
  | 0 => return p
  | n + 1 => do
    readParts data p.scan parts
    readUnits parts (← p.countUnit data) n

/-- How the blocks of a component are passed over: the blocks of one row, and the blocks that a row begins after the
one before; no block is there from `stop` on. -/
structure Grid where
  row : Nat
  stride : Nat
  stop : Nat

/-- The blocks of a picture that is not sampled, and those of a first component with factors, are passed over up
to its edges. -/
def grid (l : Layout) (k : Nat) (c : Component) : Grid × Nat :=
  let isClose := k = 0 && (c.across ≠ 1 || c.down ≠ 1) || !l.isSampled
  let row := if isClose then groups l.width 8 else l.unitsAcross
  let rows := if isClose then groups l.height 8 else l.unitsDown
  (⟨row, l.strides.getD k 0 / 8, l.blocks k⟩, row * rows)

def readFirstPass (code : PrefixCode) (g : Grid) (p : Picture) (i : Nat) : Nat → Reader Picture
  | 0 => return p
  | n + 1 => do
    if g.stop ≤ i % g.row + i / g.row * g.stride then throw .data
    readFirst data p.scan code
    readFirstPass code g (← p.countUnit data) (i + 1) n

def readOther (code : PrefixCode) (s : Scan) (g : Grid) (masks : Masks) (i : Nat) : Reader Masks := do
  let run := (← get).run
  if s.high = 0 && run ≠ 0 then
    setRun (run - 1)
    return masks
  let block := i % g.row + i / g.row * g.stride
  if g.stop ≤ block then throw .data
  let m := masks.getD block 0
  let m ← if s.high = 0 then pass data code s m else refine data code s m
  return masks.setIfInBounds block m

def readOtherPass (code : PrefixCode) (g : Grid) (p : Picture) (masks : Masks) (i : Nat) :
    Nat → Reader (Picture × Masks)
  | 0 => return (p, masks)
  | n + 1 => do
    let masks ← readOther data code p.scan g masks i
    readOtherPass code g (← p.countUnit data) masks (i + 1) n

def readScan (l : Layout) (p : Picture) (masks : Array Masks) : Reader (Picture × Array Masks) := do
  modify reset
  let s := p.scan
  if p.colours.count < s.chosen.length then throw .data
  match s.chosen with
  | [k] =>
    if s.stop ≠ 0 && s.start = 0 then throw .data
    let c ← orFault p.components[k]?
    let (g, n) := grid l k c
    if s.start = 0 then
      let code ← orFault (p.first.lookup (c.first % 4))
      return (← readFirstPass data code g p 0 n, masks)
    else
      match p.other.lookup c.other with
      | none => throw .data
      | some code =>
        let (p, ms) ← readOtherPass data code g p (masks.getD k #[]) 0 n
        return (p, masks.setIfInBounds k ms)
  | _ =>
    if s.stop ≠ 0 then throw .data
    let parts ← orFault (parts? p)
    return (← readUnits data parts p (l.unitsAcross * l.unitsDown), masks)

def finish (l : Layout) (p : Picture) : Reader Unit := do
  if (l.components.zip l.strides).any fun x => 8 * l.unitsAcross * x.1.across < x.2 then throw .data
  let _ ← orFault (l.joinAll p.colours)

def mostScans : Nat := 100

def readFrom (l : Layout) (p : Picture) (masks : Array Masks) (seen : Nat) (m : Marker) : Nat → Reader Unit
  | 0 => throw .data
  | fuel + 1 => do
    match m with
    | .stop => finish l p
    | .scan =>
      let p ← p.readSegment data .scan
      match ← attempt (readScan data l p masks) with
      | none => finish l p
      | some (p, masks) =>
        match ← attempt (nextMarker data) with
        | none => finish l p
        | some m =>
          if mostScans ≤ seen then throw .data
          readFrom l p masks (seen + 1) m fuel
    | m =>
      let p ← if m = .restart then pure { p with todo := p.interval } else p.readSegment data m
      match ← attempt (nextMarker data) with
      | none => finish l p
      | some m => readFrom l p masks seen m fuel

def read (p : Picture) : Reader Unit := do
  let l := Layout.of p
  let masks := Array.ofFn fun k : Fin p.components.length => Array.replicate (l.blocks k) (0 : Mask)
  match ← attempt (readScan data l p masks) with
  | none => finish l p
  | some (p, masks) =>
    if (← get).marker.isNone then throw .data
    readFrom data l p masks 1 (← nextMarker data) data.size

end ShaderRunner.Jpeg.Progressive

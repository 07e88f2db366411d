import ShaderRunner.Files.Jpeg.Block
import ShaderRunner.Files.Jpeg.Layout
import ShaderRunner.Files.Jpeg.Units

/-!
One scan holds all components, and its rows are joined as they come, or every scan holds some of them. Where the data
are wrong the picture stays as it is up to there.
-/

namespace ShaderRunner.Jpeg.Sequential

open Coded Picture

variable (data : ByteArray)

inductive Ending
  | full
  | stopped
  | scan
  | segment (m : Marker)

def hasCodes (p : Picture) : Bool :=
  p.components.all fun c => (p.first.lookup c.first).isSome && (p.other.lookup c.other).isSome

def checkCodes (p : Picture) : Reader Unit := if hasCodes p then return else throw .data

def times (r : Reader Unit) : Nat → Reader Unit
  | 0 => return
  | n + 1 => do
    r
    times r n

def readComponent (p : Picture) (c : Component) : Reader Unit := do
  let first ← orFault (p.first.lookup c.first)
  let other ← orFault (p.other.lookup c.other)
  times (Block.all data first other) (c.across * c.down)

def readUnit (p : Picture) : List Nat → Reader Unit
  | [] => return
  | k :: ks => do
    readComponent data p (← orFault p.components[k]?)
    readUnit p ks

/-- What a marker means that comes with a unit: some end the row. The one that stops the picture is taken off, and
one for a restart stays until it is due. -/
def afterUnit (p : Picture) : Reader (Picture × Ending) := do
  match (← get).marker with
  | none | some .restart => return (p, .full)
  | some .stop =>
    modify fun c => { c with marker := none, isOver := true }
    return (p, .full)
  | some .scan => return (p, .scan)
  | some m =>
    match m with
    | .codes | .quantization | .interval | .comment | .application _ => return (p, .segment m)
    | _ => return (← p.readSegment data m, .full)

def readRow (p : Picture) : Nat → Reader (Picture × Ending)
  | 0 => return (p, .full)
  | n + 1 => do
    match ← attempt (readUnit data p p.scan.chosen) with
    | none => return (p, .stopped)
    | some _ =>
      match ← afterUnit data p with
      | (p, .full) => readRow (← p.countUnit data) n
      | (p, ending) => return (p.passUnit, ending)

def mostBeyond : Nat := 37

def readRows (l : Layout) (isWhole : Bool) (p : Picture) (i written : Nat) : Nat → Reader (Picture × Ending × Nat)
  | 0 => return (p, .full, written)
  | n + 1 => do
    if mostBeyond < (← get).beyond then return (p, .full, written)
    let (p, ending) ← readRow data p l.unitsAcross
    let written ← if isWhole then orFault (l.join p.colours i written) else pure written
    match ending with
    | .full => readRows l isWhole p (i + 1) written n
    | _ => return (p, ending, written)

def nextScan (p : Picture) : Nat → Reader (Option Picture)
  | 0 => throw .data
  | fuel + 1 => do
    match ← nextMarker data with
    | .stop => return none
    | .scan => some <$> p.readSegment data .scan
    | m => nextScan (← p.readSegment data m) fuel

def readAmong (p : Picture) (m : Marker) : Reader Picture := do
  match m with
  | .application 0 | .application 1 | .application 2 | .application 13 | .application 14 => p.readSegment data m
  | .application _ =>
    let c ← get
    let length ← orFault (Bytes.word16? data c.place)
    set { c.reset with place := c.place + max length 2 }
    return p
  | m => p.readSegment data m

/-- Reads the scans. The picture stands when the data are over, though rows may be missing. -/
def readScans (l : Layout) (isWhole : Bool) (p : Picture) (written : Nat) : Nat → Reader Unit
  | 0 => throw .data
  | fuel + 1 => do
    checkCodes p
    let (p, ending, written) ← readRows data l isWhole p 0 written l.unitsDown
    let next : Option Picture ←
      match ending with
      | .stopped => return
      | .scan => if isWhole then return else some <$> p.readSegment data .scan
      | .segment m => nextScan data (← readAmong data p m) data.size
      | .full => if isWhole then return else nextScan data p data.size
    match next with
    | some p => readScans l isWhole p written fuel
    | none =>
      if isWhole then return
      let _ ← orFault (l.joinAll p.colours)

def read (p : Picture) : Reader Unit :=
  readScans data (.of p) (p.scan.chosen.length = p.components.length) p 0 data.size

end ShaderRunner.Jpeg.Sequential

import ShaderRunner.Files.Jpeg.Coded
import ShaderRunner.Files.Jpeg.Picture

namespace ShaderRunner.Jpeg

def attempt {α : Type} (r : Reader α) : Reader (Option α) := fun c =>
  match r c with
  | .ok (a, c) => .ok (some a, c)
  | .error .data => .ok (none, c)
  | .error e => .error e

def orFault {α : Type} : Option α → Reader α
  | some a => return a
  | none => throw .data

namespace Picture

open Coded

variable (data : ByteArray)

def readSegment (p : Picture) (m : Marker) : Reader Picture := do
  let c ← get
  let (p, place) ← orFault (p.segment? data m c.place)
  set { c.reset with place }
  return p

def passUnit (p : Picture) : Picture := { p with todo := p.todo - 1 }

def countUnit (p : Picture) : Reader Picture := do
  if p.todo ≠ 1 then return p.passUnit
  fill data
  let c ← get
  if c.marker.isNone && !c.isOver then
    let m ← nextMarker data
    modify fun c => { c with marker := some m }
  match (← get).marker with
  | none | some .stop => pure ()
  | some .restart => modify reset
  | some _ => throw .data
  return { p with todo := p.interval }

end Picture

end ShaderRunner.Jpeg

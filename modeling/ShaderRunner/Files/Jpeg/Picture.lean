import ShaderRunner.Files.Bytes
import ShaderRunner.Files.Jpeg.Marker
import ShaderRunner.Files.PrefixCode

namespace ShaderRunner.Jpeg

open Bytes

/-- `across` and `down` tell how many blocks of it a unit has; `first` and `other` are the places of its codes. -/
structure Component where
  id : Nat
  across : Nat
  down : Nat
  quantization : Nat
  first : Nat := 0
  other : Nat := 0

inductive Colours
  | grey
  | luminance
  | rgb
  | inks
  | inkLuminance
  deriving DecidableEq, Repr

def Colours.count : Colours → Nat
  | grey => 1
  | luminance | rgb => 3
  | inks | inkLuminance => 4

/-- A scan holds some components, the numbers of a block from `start` to `stop`, and their bits from `low` up; those
from `high` up are known, unless it is zero. -/
structure Scan where
  chosen : List Nat := []
  start : Nat := 0
  stop : Nat := 0
  high : Nat := 0
  low : Nat := 0

/-- `todo` counts the units down to the next restart; zero means that there are none. -/
structure Picture where
  width : Nat := 0
  height : Nat := 0
  progressive : Bool := false
  components : List Component := []
  colours : Colours := .luminance
  quantization : List Nat := []
  first : List (Nat × PrefixCode) := []
  other : List (Nat × PrefixCode) := []
  isFilm : Bool := false
  interval : Nat := 0
  todo : Nat := 0
  scan : Scan := {}

variable (data : ByteArray)

namespace Picture

variable (p : Picture)

def isPresent (i length : Nat) : Bool := i + length ≤ data.size

def quantizationFrom (p : Picture) (i stop : Nat) : Nat → Option Picture
  | 0 => none
  | fuel + 1 => do
    if i = stop then return p
    let b ← byte? data i
    let next := i + 1 + 64 * (b / 16 + 1)
    if 1 < b / 16 || 4 ≤ b % 16 || stop < next || data.size < next then none
    quantizationFrom { p with quantization := b % 16 :: p.quantization } next stop fuel

def hasRoom (free : Nat) : List Nat → Bool
  | [] => true
  | n :: ns => n < 2 * free && hasRoom (2 * free - n) ns

def codesFrom (p : Picture) (i stop : Nat) : Nat → Option Picture
  | 0 => none
  | fuel + 1 => do
    if i = stop then return p
    if stop < i + 17 then none
    let b ← byte? data i
    let counts ← (List.range 16).mapM fun k => byte? data (i + 1 + k)
    let n := counts.foldl (· + ·) 0
    let next := i + 17 + n
    if 4 ≤ b % 16 || 256 < n || stop < next || !hasRoom 1 counts then none
    let symbols ← (List.range n).mapM fun k => byte? data (i + 17 + k)
    let code : PrefixCode := ⟨counts, symbols.toArray⟩
    match b / 16 with
    | 0 =>
      if symbols.all (· < 16) then codesFrom { p with first := (b, code) :: p.first } next stop fuel else none
    | 1 => codesFrom { p with other := (b % 16, code) :: p.other } next stop fuel
    | _ => none

def component? (i : Nat) : Option Component := do
  let id ← byte? data i
  let factors ← byte? data (i + 1)
  let quantization ← byte? data (i + 2)
  let across := factors / 16
  let down := factors % 16
  if [1, 2, 4].contains across && [1, 2, 3, 4].contains down && quantization < 4 then
    return { id, across, down, quantization }
  else none

def frame? (progressive : Bool) (i length : Nat) : Option Picture := do
  if !p.components.isEmpty then none
  let depth ← byte? data i
  let height ← word16? data (i + 1)
  let width ← word16? data (i + 3)
  let n ← byte? data (i + 5)
  if depth ≠ 8 || height = 0 || width = 0 || n = 0 || 4 < n || length ≠ 6 + 3 * n then none
  let components ← (List.range n).mapM fun k => component? data (i + 6 + 3 * k)
  let colours :=
    if n = 1 then .grey else if n = 4 && p.colours = .luminance then .inks else p.colours
  return { p with width, height, progressive, components, colours }

def choose? (id places : Nat) : Option (Nat × Picture) := do
  let k ← p.components.findIdx? (·.id == id)
  let components := p.components.modify k fun c => { c with first := places / 16, other := places % 16 }
  return (k, { p with components })

def chooseFrom (p : Picture) (i : Nat) : Nat → Option (List Nat × Picture)
  | 0 => some ([], p)
  | n + 1 => do
    let (k, p) ← p.choose? (← byte? data i) (← byte? data (i + 1))
    let (ks, p) ← chooseFrom p (i + 2) n
    return (k :: ks, p)

def scan? (i length : Nat) : Option Picture := do
  let n ← byte? data i
  if n = 0 || 4 < n || length ≠ 4 + 2 * n then none
  let (chosen, p) ← p.chooseFrom data (i + 1) n
  let start ← byte? data (i + 1 + 2 * n)
  let stop ← byte? data (i + 2 + 2 * n)
  let steps ← byte? data (i + 3 + 2 * n)
  let high := steps / 16
  let low := steps % 16
  if 63 < start || 63 < stop || 13 < high || 13 < low then none
  return { p with scan := { chosen, start, stop, high, low } }

def filmed? (i length : Nat) : Option (Picture × Nat) := do
  if length < 4 then return (p, i + length)
  if !isPresent data i 5 then none
  return ({ p with isFilm := p.isFilm || standsAt data [65, 86, 73, 49, 0] i }, i + max length 5)

def extension : List Nat :=
  [104, 116, 116, 112, 58, 47, 47, 110, 115, 46, 97, 100, 111, 98, 101, 46, 99, 111, 109, 47, 120, 109, 112, 47,
    101, 120, 116, 101, 110, 115, 105, 111, 110, 47, 0]

def extensionLength : Nat := 75

def isMetadata (i length : Nat) : Bool :=
  isPresent data i length &&
    !(extension.length < length && length < extensionLength && standsAt data extension i)

def coloured? (i length : Nat) : Option Picture := do
  if !isPresent data i length then none
  if !standsAt data [65, 100, 111, 98, 101] i then return p
  if length < 12 then none
  match ← byte? data (i + 11) with
  | 0 => return { p with colours := .inks }
  | 1 => return { p with colours := .luminance }
  | 2 => return { p with colours := .inkLuminance }
  | _ => none

def restarted? (i length : Nat) : Option Picture := do
  if length ≠ 2 then none
  let n ← word16? data i
  return { p with interval := n, todo := n }

def content? (m : Marker) (i length : Nat) : Option (Picture × Nat) :=
  let next := i + length
  match m with
  | .frame progressive => (p.frame? data progressive i length).map (·, next)
  | .codes => (p.codesFrom data i next (length + 1)).map (·, next)
  | .quantization => (p.quantizationFrom data i next (length + 1)).map (·, next)
  | .scan => (p.scan? data i length).map (·, next)
  | .interval => (p.restarted? data i length).map (·, next)
  | .application 0 => p.filmed? data i length
  | .application 1 => if isMetadata data i length then some (p, next) else none
  | .application 2 | .application 13 => if isPresent data i length then some (p, next) else none
  | .application 14 => (p.coloured? data i length).map (·, next)
  | .stop | .arithmetic | .lines => none
  | .restart | .start | .application _ | .comment => some (p, next)

def segment? (m : Marker) (i : Nat) : Option (Picture × Nat) := do
  let length ← word16? data i
  if length < 2 then none else p.content? data m (i + 2) (length - 2)

def fill? (announced : Bool) (i : Nat) : Nat → Option (Nat × Bool × Nat)
  | 0 => none
  | fuel + 1 => do
    let b ← byte? data i
    if b = 0xFF then fill? true (i + 1) fuel else if b = 0 then fill? false (i + 1) fuel
    else return (b, announced, i + 1)

def unknown? (i : Nat) : Option Nat := do
  let length ← word16? data i
  if length < 2 then none else return i + length

def named : Picture :=
  if p.components.map (·.id) = [82, 71, 66] then { p with colours := .rgb } else p

def headers (p : Picture) (last i : Nat) : Nat → Option (Picture × Nat)
  | 0 => none
  | fuel + 1 => do
    let b ← byte? data i
    let (b, announced, i) ←
      if last = 0xFF && (b = 0xFF || b = 0) then fill? data true i data.size else some (b, last == 0xFF, i + 1)
    if !announced then headers p b i fuel
    else
      match Marker.ofByte? b with
      | none => headers p b (← unknown? data i) fuel
      | some .scan => (p.segment? data .scan i).map fun x => (x.1.named, x.2)
      | some m => do
        let (p, next) ← p.segment? data m i
        headers p b next fuel

end Picture

end ShaderRunner.Jpeg

import ShaderRunner.Files.Inflate
import ShaderRunner.Texture.Image

/-! PNG files: whether a file holds a picture, and its size. -/

namespace ShaderRunner.Png

open Bytes

def signature : List Nat := [137, 80, 78, 71, 13, 10, 26, 10]

structure Chunk where
  kind : List Nat
  start : Nat
  length : Nat

variable (data : ByteArray)

def chunk? (i : Nat) : Option Chunk := do
  let length ← word32? data i
  let kind ← (List.range 4).mapM fun k => byte? data (i + 4 + k)
  return ⟨kind, i + 8, length⟩

namespace Chunk

variable (c : Chunk)

def named (name : String) : Bool := c.kind == name.toList.map Char.toNat

def isCritical : Bool := c.kind.head?.any fun b => b / 32 % 2 == 0

def isPresent : Bool := c.start + c.length + 4 ≤ data.size

def isSound : Bool :=
  word32? data (c.start + c.length) == some (checksum data (c.start - 4) (c.length + 4)).toNat

def next : Nat := c.start + c.length + 4

end Chunk

structure Header where
  size : Size
  depth : Nat
  colour : Nat
  interlaced : Bool

def samples? (colour : Nat) : Option (Nat × List Nat) :=
  match colour with
  | 0 => some (1, [1, 2, 4, 8, 16])
  | 2 => some (3, [8, 16])
  | 3 => some (1, [1, 2, 4, 8])
  | 4 => some (2, [8, 16])
  | 6 => some (4, [8, 16])
  | _ => none

def header? (c : Chunk) : Option Header := do
  if !c.named "IHDR" || c.length ≠ 13 || !c.isPresent data || !c.isSound data then none
  let width ← word32? data c.start
  let height ← word32? data (c.start + 4)
  let depth ← byte? data (c.start + 8)
  let colour ← byte? data (c.start + 9)
  let (_, depths) ← samples? colour
  if width = 0 || height = 0 || !depths.contains depth then none
  if byte? data (c.start + 10) ≠ some 0 || byte? data (c.start + 11) ≠ some 0 then none
  let interlace ← byte? data (c.start + 12)
  if 1 < interlace then none
  return ⟨⟨UInt32.ofNat width, UInt32.ofNat height⟩, depth, colour, interlace = 1⟩

def Header.isIndexed (h : Header) : Bool := h.colour == 3

/-- What is known of the picture when its data begin; `sequence` is the number of the last frame control. -/
structure Prelude where
  palette : Bool := false
  codePoints : Bool := false
  sequence : Option Nat := none

def Prelude.nextInSequence (p : Prelude) : Nat := (p.sequence.map (· + 1)).getD 0

def palette? (h : Header) (p : Prelude) (c : Chunk) : Option Prelude :=
  if p.palette || c.length = 0 || 768 < c.length || (h.isIndexed && c.length % 3 ≠ 0) then none
  else some { p with palette := true }

def frameControl? (h : Header) (p : Prelude) (c : Chunk) : Option Prelude := do
  let numbers ← (List.range 5).mapM fun k => word32? data (c.start + 4 * k)
  if numbers ≠ [p.nextInSequence, h.size.width.toNat, h.size.height.toNat, 0, 0] then none
  if !(byte? data (c.start + 24)).any (· ≤ 2) || !(byte? data (c.start + 25)).any (· ≤ 1) then none
  return { p with sequence := some p.nextInSequence }

def codePoints? (p : Prelude) (c : Chunk) : Option Prelude :=
  if c.length ≠ 4 then some p
  else if byte? data (c.start + 2) == some 0 && (byte? data (c.start + 3)).any (· ≤ 1) then
    some { p with codePoints := true }
  else none

/-- The rules for a chunk in front of the image data. An ancillary chunk with a wrong checksum is passed over, but
no frame may come first. -/
def Prelude.after? (h : Header) (p : Prelude) (c : Chunk) : Option Prelude :=
  if !c.isPresent data || c.named "fdAT" || (c.named "fcTL" && c.length ≠ 26) then none
  else if !c.isSound data then if c.isCritical then none else some p
  else if c.named "PLTE" then palette? h p c
  else if c.isCritical then none
  else if c.named "fcTL" then frameControl? data h p c
  else if c.named "bKGD" && h.isIndexed && !p.palette then none
  else if c.named "cICP" && !p.palette && !p.codePoints then codePoints? data p c
  else some p

def blockSize : Nat := 8192

def piecesFrom (i stop : Nat) : Nat → List ByteArray
  | 0 => []
  | fuel + 1 =>
    let next := (i / blockSize + 1) * blockSize
    if stop ≤ next then [data.extract i stop] else data.extract i next :: piecesFrom next stop fuel

def pictureData : Option (List ByteArray) → Nat → Nat → Option (List ByteArray)
  | _, _, 0 => none
  | found, i, fuel + 1 => do
    let c ← chunk? data i
    if !c.named "IDAT" then found
    else if c.isPresent data && c.isSound data then
      pictureData (some (found.getD [] ++ piecesFrom data c.start (c.start + c.length) data.size)) c.next fuel
    else none

def imageData (h : Header) (p : Prelude) (i : Nat) : Nat → Option (Prelude × List ByteArray)
  | 0 => none
  | fuel + 1 => do
    let c ← chunk? data i
    if c.named "IDAT" then return (p, ← pictureData data none i data.size)
    else imageData h (← p.after? data h c) c.next fuel

/-- First column and row of each pass over an interlaced picture, and the steps to the next ones. -/
def passes : List (Nat × Nat × Nat × Nat) :=
  [(0, 0, 8, 8), (4, 0, 8, 8), (0, 4, 4, 8), (2, 0, 4, 4), (0, 2, 2, 4), (1, 0, 2, 2), (0, 1, 1, 2)]

def Header.parts (h : Header) : List (Nat × Nat) :=
  let w := h.size.width.toNat
  let t := h.size.height.toNat
  if h.interlaced then
    (passes.map fun (x, y, dx, dy) => ((w - x + dx - 1) / dx, (t - y + dy - 1) / dy)).filter fun p =>
      p.1 ≠ 0 && p.2 ≠ 0
  else [(w, t)]

def Header.rows (h : Header) : List (Nat × Nat) :=
  let bits := ((samples? h.colour).map (·.1)).getD 1 * h.depth
  h.parts.map fun p => (1 + (p.1 * bits + 7) / 8, p.2)

def Header.rowBytes (h : Header) : Nat := h.rows.foldl (fun n r => n + r.1 * r.2) 0

def rowsFrom (length i : Nat) : Nat → Option Nat
  | 0 => some i
  | n + 1 => if (byte? data i).any (· ≤ 4) then rowsFrom length (i + length) n else none

def Header.hasFilters (h : Header) : Bool := (h.rows.foldlM (fun i r => rowsFrom data r.1 i r.2) 0).isSome

def size? : Option Size := do
  if !standsAt data signature 0 then none
  let first ← chunk? data 8
  let h ← header? data first
  let (p, pieces) ← imageData data h {} first.next data.size
  if h.isIndexed && !p.palette then none
  let rows ← Inflate.inflate pieces h.rowBytes
  if h.hasFilters rows then return h.size else none

end ShaderRunner.Png

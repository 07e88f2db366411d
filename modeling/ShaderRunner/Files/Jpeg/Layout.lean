import ShaderRunner.Files.Jpeg.Picture

/-!
A unit has the blocks of all components that belong together. Rows of units are joined to rows of pixels, for which
every component must have samples enough.
-/

namespace ShaderRunner.Jpeg

def groups (m n : Nat) : Nat := (m + n - 1) / n

/-- `across` and `down` are the largest factors; `strides` tells the samples that a row of each component has. -/
structure Layout where
  width : Nat
  height : Nat
  across : Nat
  down : Nat
  components : List Component
  strides : List Nat

namespace Layout

def stridesFrom (width largest : Nat) : List Component → List Nat
  | [] => []
  | c :: cs =>
    let largest := max largest c.across
    groups width (8 * largest) * c.across * 8 :: stridesFrom width largest cs

def of (p : Picture) : Layout where
  width := p.width
  height := p.height
  across := p.components.foldl (fun n c => max n c.across) 1
  down := p.components.foldl (fun n c => max n c.down) 1
  components := p.components
  strides := stridesFrom p.width 1 p.components

variable (l : Layout)

def isSampled : Bool := l.across ≠ 1 || l.down ≠ 1

def unitsAcross : Nat := groups l.width (8 * l.across)

def unitsDown : Nat := groups l.height (8 * l.down)

def blocks (k : Nat) : Nat :=
  match l.components[k]? with
  | some c => l.unitsAcross * l.unitsDown * c.across * c.down
  | none => 0

def stretch (c : Component) : Nat × Nat := (l.across / c.across, l.down / c.down)

def spare (k : Nat) (c : Component) : Nat :=
  match l.components with
  | b :: _ => if (b.across = 2 || b.down = 2) && k ≠ 0 && (c.across ≠ 1 || c.down ≠ 1) then 2 else 1
  | [] => 1

def samples (k stride : Nat) (c : Component) : Nat :=
  let (across, down) := l.stretch c
  if across = 1 && down = 1 then stride * c.down * 8 else stride * across * down * l.spare k c * 8

def held (stride : Nat) (c : Component) : Nat :=
  let (across, down) := l.stretch c
  c.down * stride * across * down

def isCrossing : Bool :=
  l.components.any fun c => l.stretch c = (1, 2) || l.stretch c = (2, 2)

def writeRows (samples : List Nat) (rows written : Nat) : Option Nat :=
  let rows := min rows (l.height - written)
  let row := groups l.width (8 * l.across) * (8 * l.across)
  if samples.all (rows * row ≤ ·) then some (written + rows) else none

def joinRow (i written : Nat) : Option Nat := do
  if !l.isSampled then return written
  let samples := (l.components.zip l.strides).mapIdx fun k x => l.samples k x.2 x.1
  if !l.isCrossing then l.writeRows samples (8 * l.down) written
  else
    let held := (l.components.zip l.strides).map fun x => l.held x.2 x.1
    let written ← if i = 0 then some written else l.writeRows held l.down written
    let isLast := i + 1 = l.unitsDown
    l.writeRows samples ((if isLast then 8 else 7) * l.down) written

def join (colours : Colours) (i written : Nat) : Option Nat :=
  if l.components.length = 1 then
    if colours = .inks || colours = .inkLuminance then none else some written
  else l.joinRow i written

def joinAll (colours : Colours) : Option Nat :=
  (List.range l.unitsDown).foldlM (fun written i => l.join colours i written) 0

end Layout

namespace Picture

def simplified (p : Picture) : Picture :=
  if p.colours = .grey then { p with components := p.components.map fun c => { c with across := 1, down := 1 } }
  else p

def coloured (p : Picture) : Picture :=
  if p.components.length = 3 && p.colours = .inks then { p with colours := .rgb } else p

def prepared? (p : Picture) : Option Picture :=
  if p.components.all fun c => p.quantization.contains c.quantization then some p.coloured.simplified else none

end Picture

end ShaderRunner.Jpeg

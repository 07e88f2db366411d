import ShaderRunner.Device.Call
import ShaderRunner.Uniform.Declaration

/-!
A graphics device without a screen. It records every call, keeps the objects that are alive, and may be told to refuse
creations and to fail compiles and links.
-/

namespace ShaderRunner

structure Shader where
  stage : Stage
  source : String
  compiled : Bool
  deriving DecidableEq, Repr

/-- `uniforms` and `attributes` are the names that the last successful link found. -/
structure Program where
  shaders : List ShaderHandle := []
  linked : Bool := false
  uniforms : List String := []
  attributes : List String := []
  deriving DecidableEq, Repr

/-- The creations that give nothing: those of a kind in `refused`, and those whose object would get a number in
`withheld`. An operation ends with its first refusal and each creation before it takes a number, so that `withheld` can
refuse any one of them. -/
structure Refusals where
  refused : List Resource := []
  withheld : List Nat := []
  deriving DecidableEq

def Refusals.refuses (f : Refusals) (r : Resource) (number : Nat) : Bool :=
  f.refused.contains r || f.withheld.contains number

/-- A stage fails to compile, or a program to link, with the log given for it. `next` is the number of the next object, a
count without a bound; `extra` are the names that resolve in every program, and `sources` the texts given to shaders,
latest first. -/
structure Device extends Refusals where
  size : Size := ⟨800, 600⟩
  vertexError : Option String := none
  fragmentError : Option String := none
  linkError : Option String := none
  calls : Array Call := #[]
  next : Nat := 1
  shaders : List (ShaderHandle × Shader) := []
  programs : List (ProgramHandle × Program) := []
  buffers : List BufferHandle := []
  textures : List TextureHandle := []
  extra : List String := []
  sources : List (Stage × String) := []
  deriving DecidableEq

namespace Device

variable (d : Device)

def record (c : Call) : Device := { d with calls := d.calls.push c }

def refuses (r : Resource) : Bool := d.toRefusals.refuses r d.next

def stageError : Stage → Option String
  | .vertex => d.vertexError
  | .fragment => d.fragmentError

def shader? (s : ShaderHandle) : Option Shader := d.shaders.lookup s
def program? (p : ProgramHandle) : Option Program := d.programs.lookup p

def modifyShader (s : ShaderHandle) (f : Shader → Shader) : Device :=
  { d with shaders := d.shaders.map fun e => if e.1 = s then (e.1, f e.2) else e }

def modifyProgram (p : ProgramHandle) (f : Program → Program) : Device :=
  { d with programs := d.programs.map fun e => if e.1 = p then (e.1, f e.2) else e }

def resolveAlways (name : String) : Device :=
  if d.extra.contains name then d else { d with extra := d.extra ++ [name] }

def clearCalls : Device := { d with calls := #[] }

def createShader (stage : Stage) : Option ShaderHandle × Device :=
  if d.refuses (.shader stage) then (none, d)
  else
    let s : ShaderHandle := ⟨d.next⟩
    let shaders := d.shaders ++ [(s, Shader.mk stage "" false)]
    (some s, { d with next := d.next + 1, shaders }.record (.createShader s stage))

def shaderSource (s : ShaderHandle) (source : String) : Device :=
  (match d.shader? s with
    | none => d
    | some x =>
      { d.modifyShader s ({ · with source := source }) with sources := (x.stage, source) :: d.sources }).record
    (.shaderSource s)

def compileShader (s : ShaderHandle) : Device :=
  (d.modifyShader s fun x => { x with compiled := (d.stageError x.stage).isNone }).record (.compileShader s)

def compileStatus (s : ShaderHandle) : Bool := (d.shader? s).any (·.compiled)

def shaderLog (s : ShaderHandle) : String := ((d.shader? s).bind fun x => d.stageError x.stage).getD ""

def deleteShader (s : ShaderHandle) : Device :=
  { d with shaders := d.shaders.filter (·.1 ≠ s) }.record (.deleteShader s)

def createProgram : Option ProgramHandle × Device :=
  if d.refuses .program then (none, d)
  else
    let p : ProgramHandle := ⟨d.next⟩
    let programs := d.programs ++ [(p, ({} : Program))]
    (some p, { d with next := d.next + 1, programs }.record (.createProgram p))

def attachShader (p : ProgramHandle) (s : ShaderHandle) : Device :=
  (d.modifyProgram p fun x => { x with shaders := x.shaders ++ [s] }).record (.attachShader p s)

def compiledShaders (x : Program) : List Shader := (x.shaders.filterMap d.shader?).filter (·.compiled)

def linkable (x : Program) : Bool :=
  !x.shaders.isEmpty && x.shaders.all fun s => (d.shader? s).any (·.compiled)

def distinct (names : List String) : List String :=
  names.foldl (fun acc n => if acc.contains n then acc else acc ++ [n]) []

def linked (x : Program) : Program :=
  if d.linkError.isNone && d.linkable x then
    { x with
      linked := true
      uniforms := distinct ((d.compiledShaders x).flatMap fun s => declaredUniforms s.source)
      attributes := (d.compiledShaders x).flatMap fun s => declaredAttributes s.source }
  else { x with linked := false }

def linkProgram (p : ProgramHandle) : Device := (d.modifyProgram p d.linked).record (.linkProgram p)

def linkStatus (p : ProgramHandle) : Bool := (d.program? p).any (·.linked)

def programLog (p : ProgramHandle) : String :=
  if d.linkStatus p then "" else d.linkError.getD "one or more attached shaders not compiled"

def deleteProgram (p : ProgramHandle) : Device :=
  { d with programs := d.programs.filter (·.1 ≠ p) }.record (.deleteProgram p)

def useProgram (p : Option ProgramHandle) : Device := d.record (.useProgram p)

def resolvedNames (p : ProgramHandle) : List String :=
  let own := (((d.program? p).filter (·.linked)).map (·.uniforms)).getD []
  own ++ d.extra.filter (!own.contains ·)

/-- A program has room for a thousand names. -/
def uniformLocation (p : ProgramHandle) (name : String) : Option Location :=
  ((d.resolvedNames p).idxOf? name).map fun i => ⟨UInt32.ofNat (p.id * 1000 + i)⟩

def attribLocation (p : ProgramHandle) (name : String) : Option UInt32 :=
  (((d.program? p).filter (·.linked)).bind (·.attributes.idxOf? name)).map UInt32.ofNat

def createBuffer : Option BufferHandle × Device :=
  if d.refuses .buffer then (none, d)
  else
    let b : BufferHandle := ⟨d.next⟩
    (some b, { d with next := d.next + 1, buffers := d.buffers ++ [b] }.record (.createBuffer b))

def deleteBuffer (b : BufferHandle) : Device :=
  { d with buffers := d.buffers.filter (· ≠ b) }.record (.deleteBuffer b)

def createTexture : Option TextureHandle × Device :=
  if d.refuses .texture then (none, d)
  else
    let t : TextureHandle := ⟨d.next⟩
    (some t, { d with next := d.next + 1, textures := d.textures ++ [t] }.record (.createTexture t))

def deleteTexture (t : TextureHandle) : Device :=
  { d with textures := d.textures.filter (· ≠ t) }.record (.deleteTexture t)

end Device

end ShaderRunner

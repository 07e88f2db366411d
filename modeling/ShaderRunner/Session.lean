import ShaderRunner.Device.Statistics
import ShaderRunner.Manifest.Decode
import ShaderRunner.Renderer.BuiltIn

namespace ShaderRunner

inductive SessionFailure
  | manifest (e : ManifestFailure)
  | notVector (name : String) (components : Nat)
  | image (path : String) (e : ImageError)
  | uniform (name : String) (e : Failure)
  | compile (label : String) (e : Failure)
  | frame (number : Nat) (e : Failure)
  | plain (e : Failure)
  deriving DecidableEq

def SessionFailure.chain : SessionFailure → List String
  | manifest e => e.chain
  | notVector name n => [s!"uniform '{name}': {n} components is not a vector"]
  | image path e => [s!"Failed to load image {Text.quoted path}: {e.message}"]
  | uniform name e => [s!"Invalid uniform '{name}'", e.message]
  | compile label e => [s!"Failed to compile shader '{label}'", e.message]
  | frame n e => [s!"Failed to render frame {n}", e.message]
  | plain e => [e.message]

def SessionFailure.brief : SessionFailure → String
  | image path _ => s!"Failed to load image {Text.quoted path}"
  | e => "\n".intercalate e.chain

structure Tick where
  began : Float32
  ended : Float32

structure Report where
  frames : Nat
  draws : Nat
  uploads : Nat
  textures : Nat
  deriving DecidableEq, Repr

structure Session where
  renderer : Renderer
  uniforms : UniformSet
  inputs : Inputs
  frames : UInt32

namespace Session

/-- The value of a manifest entry. Every image that is loaded is an object of its own. -/
def entryValue (m : Manifest) (f : Files) (place : Nat) (u : UniformEntry) : Except SessionFailure Value := do
  match ← u.source.mapError .manifest with
  | .value (.int n) => return .int n
  | .value (.float x) => return .float x
  | .value (.vector [x, y]) => return .vec2 ⟨x, y⟩
  | .value (.vector [x, y, z]) => return .vec3 ⟨x, y, z⟩
  | .value (.vector [x, y, z, w]) => return .vec4 ⟨x, y, z, w⟩
  | .value (.vector xs) => throw (.notVector u.name xs.length)
  | .value (.points vs) => return .points vs
  | .texture path =>
    let path := m.resolve path
    return .image ⟨.entry place, ← (f.imageSize path).mapError (.image path)⟩
  | .static text => return .text text

def declareEntries (m : Manifest) (f : Files) (wrapped : String) (place : Nat) (s : UniformSet) :
    List UniformEntry → Except SessionFailure UniformSet
  | [] => .ok s
  | u :: us => do
    let v ← entryValue m f place u
    let s ← (s.declare u.name v wrapped).mapError (.uniform u.name)
    declareEntries m f wrapped (place + 1) s us

/-- Builds the set and compiles the shader. Kinds are read off the wrapped source, so that what a mode
declares counts. -/
def ofManifest (m : Manifest) (f : Files) : Except SessionFailure Session := do
  let source ← (m.shaderSource f).mapError .manifest
  let mode := m.mode.resolve source
  let s ← declareEntries m f (mode.wrap source) 0 (BuiltIn.initial mode) m.uniforms
  match Renderer.init m.shader.label { size := m.surface.size } source s mode with
  | (.error e, _) => throw (.compile m.shader.label e)
  | (.ok _, renderer, uniforms) =>
    let inputs : Inputs :=
      { width := Number.singleOfInt m.surface.size.width.toNat
        height := Number.singleOfInt m.surface.size.height.toNat
        scale := m.surface.scale }
    return { renderer, uniforms, inputs, frames := m.surface.frames }

def load (f : Files) (path : String) : Except SessionFailure Session := do
  ofManifest (← (Manifest.load f path).mapError .manifest) f

variable (s : Session)

def frame (t : Tick) : Except SessionFailure Unit × Session :=
  match BuiltIn.refresh s.renderer s.uniforms t.began s.inputs with
  | (.error e, uniforms) => (.error (.plain e), { s with uniforms })
  | (.ok (), uniforms) =>
    match s.renderer.render uniforms t.ended with
    | (.error e, renderer, uniforms) => (.error (.frame renderer.frame e), { s with renderer, uniforms })
    | (.ok (), renderer, uniforms) => (.ok (), { s with renderer, uniforms })

def drawFrames (clock : Nat → Tick) : Nat → Session → Except SessionFailure Unit × Session
  | 0, s => (.ok (), s)
  | n + 1, s =>
    match s.frame (clock s.renderer.frame) with
    | (.error e, s) => (.error e, s)
    | (.ok (), s) => drawFrames clock n s

def report : Report where
  frames := s.renderer.frame
  draws := s.renderer.device.drawCount
  uploads := s.renderer.device.uploads.length
  textures := s.renderer.device.textures.length

def run (clock : Nat → Tick) (frames : Option UInt32) : Except SessionFailure Report × Session :=
  match drawFrames clock (frames.getD s.frames).toNat s with
  | (.error e, s) => (.error e, s)
  | (.ok (), s) => (.ok s.report, s)

def setUniform (name : String) (v : Value) : Except SessionFailure Outcome × Session :=
  match s.renderer.update s.uniforms name v with
  | (r, renderer, uniforms) => (r.mapError .plain, { s with renderer, uniforms })

def setMouse (mouse : Mouse) : Session := { s with inputs := { s.inputs with mouse } }

end Session

end ShaderRunner

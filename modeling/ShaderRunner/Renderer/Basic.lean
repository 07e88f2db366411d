import ShaderRunner.Program.Build
import ShaderRunner.Program.Mode
import ShaderRunner.StaticCall.Substitution
import ShaderRunner.Uniform.Commit

/-!
A renderer owns a device and draws one program to it. It starts without a program; a compile that
succeeds gives it one, and replaces it only once the new one is linked.
-/

namespace ShaderRunner

/-- `source` is the text of the user, `processed` the text that the current program was built from,
and `lastFrameTime` the reading of the clock when the last frame was done. -/
structure Renderer where
  label : String
  device : Device
  mode : Mode
  program : Option ProgramHandle := none
  source : String := ""
  processed : String := ""
  diagnostics : List Diagnostic := []
  frame : Nat := 0
  lastFrameTime : Float32 := 0
  needsRecompile : Bool := false
  positionAttribute : Option UInt32 := none
  vertexBuffer : Option BufferHandle := none
  deriving DecidableEq

inductive Phase
  | uninitialized
  | compiled
  deriving DecidableEq, Repr

def missingUniforms (s : UniformSet) (source : String) : List Diagnostic :=
  ((declaredUniforms source).filter (!s.contains ·)).map .missingUniform ++
    (s.entries.filter (·.2.kind == .unused)).map (.unusedUniform ·.1)

def UniformSet.relocate (s : UniformSet) (d : Device) (p : ProgramHandle) : UniformSet :=
  s.map fun n u => { u with location := if u.kind.bindable then d.uniformLocation p n else none }

namespace Renderer

def positionName : String := "a_position"

def quad : List Float32 := [-1, -1, 1, -1, -1, 1, -1, 1, 1, -1, 1, 1]

variable (r : Renderer)

def phase : Phase := if r.program.isSome then .compiled else .uninitialized

def ensureBuffer : Attempt Unit Renderer :=
  if r.vertexBuffer.isSome then (.ok (), r)
  else
    match r.device.createBuffer with
    | (none, d) => (.error (.refused .buffer), { r with device := d })
    | (some b, d) =>
      (.ok (), { r with
        device := (d.record (.bindArrayBuffer (some b))).record (.arrayBufferData quad)
        vertexBuffer := some b })

def adopt (p : ProgramHandle) (processed : String) (d : Device) : Renderer :=
  let d := match r.program with
    | some old => d.deleteProgram old
    | none => d
  { r with
    device := d
    program := some p
    processed := processed
    positionAttribute := d.attribLocation p positionName }

def compile (source : String) (s : UniformSet) : Attempt (List Diagnostic) (Renderer × UniformSet) :=
  let r := { r with source := source }
  match prepare (r.mode.wrap source) s with
  | .error e => (.error e, r, s)
  | .ok prepared =>
    match r.device.buildProgram prepared.source with
    | (.error e, d) => (.error e, { r with device := d }, s)
    | (.ok p, d) =>
      let r := r.adopt p prepared.source d
      let s := s.relocate r.device p
      match r.ensureBuffer with
      | (.error e, r) => (.error e, r, s)
      | (.ok (), r) =>
        let ds := prepared.diagnostics ++ missingUniforms s prepared.source
        (.ok ds, { r with diagnostics := ds, needsRecompile := false }, s)

def init (label : String) (d : Device) (source : String) (s : UniformSet) (m : Mode) :
    Attempt (List Diagnostic) (Renderer × UniformSet) :=
  compile { label := label, device := d, mode := m.resolve source } source s

def openFrame (p : ProgramHandle) : Device :=
  let d := (r.device.record (.viewport 0 0 r.device.size)).useProgram (some p)
  match r.positionAttribute with
  | none => d
  | some a =>
    ((d.record (.enableVertexAttribArray a)).record (.bindArrayBuffer r.vertexBuffer)).record
      (.vertexAttribPointer a 2 0 0)

def draw (p : ProgramHandle) (s : UniformSet) (ended : Float32) : Attempt Unit (Renderer × UniformSet) :=
  match s.commit p (r.openFrame p) with
  | (.error e, d, s) => (.error e, { r with device := d }, s)
  | (.ok (), d, s) =>
    (.ok (), { r with
      device := d.record (.drawTriangles 0 6)
      frame := r.frame + 1
      lastFrameTime := ended }, s)

def render (s : UniformSet) (ended : Float32) : Attempt Unit (Renderer × UniformSet) :=
  match r.program with
  | none => (.error .notCompiled, r, s)
  | some p =>
    if r.needsRecompile then
      match r.compile r.source s with
      | (.error e, r, s) => (.error e, r, s)
      | (.ok _, r, s) =>
        match r.program with
        | none => (.error .notCompiled, r, s)
        | some p => r.draw p s ended
    else r.draw p s ended

def update (s : UniformSet) (name : String) (v : Value) : Attempt Outcome (Renderer × UniformSet) :=
  match s.get? name with
  | none => (.error (.unknownUniform name), r, s)
  | some u =>
    match u.update v r.device with
    | (.error e, d, u) => (.error e, { r with device := d }, s.modify name fun _ => u)
    | (.ok o, d, u) =>
      (.ok o, { r with device := d, needsRecompile := r.needsRecompile || o == .recompileRequired },
        s.modify name fun _ => u)

def declare (s : UniformSet) (name : String) (v : Value) : Except Failure UniformSet :=
  let location := r.program.bind (r.device.uniformLocation · name)
  (Uniform.createInferred location name v (r.mode.wrap r.source)).map (s.insert name)

def destroy : Renderer :=
  let d := match r.program with
    | some p => r.device.deleteProgram p
    | none => r.device
  let d := match r.vertexBuffer with
    | some b => d.deleteBuffer b
    | none => d
  { r with device := d, program := none, vertexBuffer := none, positionAttribute := none }

end Renderer

end ShaderRunner

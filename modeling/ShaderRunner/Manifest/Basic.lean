import ShaderRunner.Files.Content
import ShaderRunner.Manifest.Bundled
import ShaderRunner.Number.Shortest
import ShaderRunner.Text.Quoted
import ShaderRunner.Uniform.Value

namespace ShaderRunner

inductive ValueSpec
  | int (n : Int32)
  | float (x : Float32)
  | vector (xs : List Float32)
  | points (vs : List Vec3)
  deriving DecidableEq

inductive StaticSpec
  | int (n : Int64)
  | float (x : Float)
  | text (s : String)
  deriving DecidableEq

def StaticSpec.toText : StaticSpec → String
  | int n => toString n.toInt
  | float x => Number.doubleText x
  | text s => s

structure ShaderChoice where
  path : Option String := none
  bundled : Option String := none
  mode : Mode := .default
  label : String := "vader"
  deriving DecidableEq, Repr

structure Surface where
  size : Size := ⟨800, 600⟩
  scale : Float32 := 1
  frames : UInt32 := 1
  deriving DecidableEq

structure UniformEntry where
  name : String
  value : Option ValueSpec := none
  texture : Option String := none
  static : Option StaticSpec := none
  deriving DecidableEq

structure Manifest where
  shader : ShaderChoice := {}
  surface : Surface := {}
  uniforms : List UniformEntry := []
  base : String := ""
  deriving DecidableEq

inductive SurfaceFault
  | size
  | scale
  deriving DecidableEq, Repr

inductive EntryFault
  | components (n : Nat)
  | sources
  | duplicate
  deriving DecidableEq, Repr

inductive ManifestFailure
  | read (path : String) (e : FileError)
  | parse (path : String)
  | shaderSource
  | unknownBundled (name : String)
  | invalidSurface (fault : SurfaceFault)
  | invalidUniform (name : String) (fault : EntryFault)
  deriving DecidableEq, Repr

def SurfaceFault.message : SurfaceFault → String
  | size => "width and height must be non-zero"
  | scale => "scale must be positive"

def EntryFault.message : EntryFault → String
  | components n => s!"vectors need 2 to 4 components, got {n}"
  | sources => "needs exactly one of `value`, `texture` or `static`"
  | duplicate => "declared more than once"

namespace ManifestFailure

def message : ManifestFailure → String
  | read path e => s!"Failed to read {Text.quoted path}: {e.message}"
  | parse path => s!"Failed to parse {Text.quoted path}"
  | shaderSource => "[shader] needs exactly one of `path` or `bundled`"
  | unknownBundled name =>
    s!"No bundled shader named '{name}' (available: " ++ ", ".intercalate BundledShader.names ++ ")"
  | invalidSurface fault => s!"Invalid [render] section: {fault.message}"
  | invalidUniform name fault => s!"Invalid uniform '{name}': {fault.message}"

def chain (e : ManifestFailure) : List String :=
  match e with
  | read _ cause => [e.message, cause.message]
  | e => [e.message]

end ManifestFailure

inductive UniformSource
  | value (spec : ValueSpec)
  | texture (path : String)
  | static (text : String)
  deriving DecidableEq

def UniformEntry.source (u : UniformEntry) : Except ManifestFailure UniformSource :=
  match u.value, u.texture, u.static with
  | some (.vector xs), none, none =>
    if 2 ≤ xs.length && xs.length ≤ 4 then .ok (.value (.vector xs))
    else .error (.invalidUniform u.name (.components xs.length))
  | some spec, none, none => .ok (.value spec)
  | none, some path, none => .ok (.texture path)
  | none, none, some spec => .ok (.static spec.toText)
  | _, _, _ => .error (.invalidUniform u.name .sources)

namespace Manifest

variable (m : Manifest)

def validateEntries (seen : List String) : List UniformEntry → Except ManifestFailure Unit
  | [] => .ok ()
  | u :: us =>
    if seen.contains u.name then .error (.invalidUniform u.name .duplicate)
    else do
      let _ ← u.source
      validateEntries (u.name :: seen) us

def validate : Except ManifestFailure Unit := do
  if m.shader.path.isSome == m.shader.bundled.isSome then throw .shaderSource
  if let some name := m.shader.bundled then
    if (BundledShader.find? name).isNone then throw (.unknownBundled name)
  if m.surface.size.width == 0 || m.surface.size.height == 0 then throw (.invalidSurface .size)
  if m.surface.scale ≤ 0 then throw (.invalidSurface .scale)
  validateEntries [] m.uniforms

def resolve (path : String) : String := if Path.isAbsolute path then path else Path.join m.base path

def paths : List String :=
  (m.shader.path.toList ++ m.uniforms.filterMap (·.texture)).map m.resolve

def mode : Mode :=
  match m.shader.bundled.bind BundledShader.find? with
  | some b => if m.shader.path.isNone then b.mode else m.shader.mode
  | none => m.shader.mode

def shaderSource (f : Files) : Except ManifestFailure String :=
  match m.shader.path with
  | some path =>
    let path := m.resolve path
    (f.readText path).mapError (.read path ·)
  | none =>
    match m.shader.bundled with
    | none => .error .shaderSource
    | some name =>
      match BundledShader.find? name with
      | some b => .ok b.source
      | none => .error (.unknownBundled name)

end Manifest

end ShaderRunner

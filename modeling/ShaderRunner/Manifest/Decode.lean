import ShaderRunner.Manifest.Basic
import ShaderRunner.Toml.Document

/-!
Manifests from TOML. What is not known is passed over, and what is not given has a default; an array gives the fields
of a section in their order.
-/

namespace ShaderRunner

open Toml

namespace Manifest

def fields? (names : List String) : Toml.Value → Option (List (Option Toml.Value))
  | .table es => some (names.map fun n => es.lookup n)
  | .array xs => some (names.zipIdx.map fun n => xs[n.2]?)
  | .dateTime => some (names.map fun _ => none)
  | _ => none

def decodeString : Toml.Value → Option String
  | .string s => some s
  | _ => none

def optional {α : Type} (decode : Toml.Value → Option α) : Option Toml.Value → Option (Option α)
  | none => some none
  | some v => (decode v).map some

def orElse {α : Type} (default : α) (decode : Toml.Value → Option α) : Option Toml.Value → Option α
  | none => some default
  | some v => decode v

def modeNamed? : String → Option Mode
  | "default" => some .default
  | "shadertoy" => some .shadertoy
  | _ => none

def decodeMode : Toml.Value → Option Mode
  | .string s => modeNamed? s
  | .table [(s, .table [])] => modeNamed? s
  | .table [(s, .array [])] => modeNamed? s
  | _ => none

def decodeWord : Toml.Value → Option UInt32
  | .integer n => if 0 ≤ n && n < UInt32.size then some (UInt32.ofNat n.toNat) else none
  | _ => none

def decodeSingle : Toml.Value → Option Float32
  | .integer n => some (Number.singleOfInt n)
  | .float x => some (Number.narrow x)
  | _ => none

def decodePoint : Toml.Value → Option Vec3
  | .array [x, y, z] => do return ⟨← decodeSingle x, ← decodeSingle y, ← decodeSingle z⟩
  | _ => none

def decodeValue : Toml.Value → Option ValueSpec
  | .integer n =>
    if Int32.minValue.toInt ≤ n && n ≤ Int32.maxValue.toInt then some (.int (Int32.ofInt n))
    else some (.float (Number.singleOfInt n))
  | .float x => some (.float (Number.narrow x))
  | .array xs => (xs.mapM decodeSingle).map .vector <|> (xs.mapM decodePoint).map .points
  | _ => none

def decodeStatic : Toml.Value → Option StaticSpec
  | .integer n => some (.int (Int64.ofInt n))
  | .float x => some (.float x)
  | .string s => some (.text s)
  | _ => none

def decodeShader (v : Toml.Value) : Option ShaderChoice := do
  let [path, bundled, mode, label] ← fields? ["path", "bundled", "mode", "label"] v | none
  return {
    path := ← optional decodeString path
    bundled := ← optional decodeString bundled
    mode := ← orElse .default decodeMode mode
    label := ← orElse "vader" decodeString label }

def decodeSurface (v : Toml.Value) : Option Surface := do
  let [width, height, scale, frames] ← fields? ["width", "height", "scale", "frames"] v | none
  return {
    size := ⟨← orElse 800 decodeWord width, ← orElse 600 decodeWord height⟩
    scale := ← orElse 1 decodeSingle scale
    frames := ← orElse 1 decodeWord frames }

def decodeEntry (v : Toml.Value) : Option UniformEntry := do
  let [name, value, texture, static] ← fields? ["name", "value", "texture", "static"] v | none
  return {
    name := ← decodeString (← name)
    value := ← optional decodeValue value
    texture := ← optional decodeString texture
    static := ← optional decodeStatic static }

def decodeEntries : Toml.Value → Option (List UniformEntry)
  | .array xs => xs.mapM decodeEntry
  | _ => none

def decode (base : String) (es : List (String × Toml.Value)) : Option Manifest := do
  return {
    shader := ← orElse {} decodeShader (es.lookup "shader")
    surface := ← orElse {} decodeSurface (es.lookup "render")
    uniforms := ← orElse [] decodeEntries (es.lookup "uniform")
    base := base }

def parseAt (path base text : String) : Except ManifestFailure Manifest :=
  match (document? text).bind (decode base) with
  | none => .error (.parse path)
  | some m => m.validate.map fun _ => m

def parse (text base : String) : Except ManifestFailure Manifest := parseAt "" base text

def load (f : Files) (path : String) : Except ManifestFailure Manifest := do
  let text ← (f.readText path).mapError (.read path ·)
  parseAt path (Path.parent path) text

end Manifest

end ShaderRunner

import ShaderRunner.Device.Call
import ShaderRunner.Uniform.Kind
import ShaderRunner.Uniform.Value

namespace ShaderRunner

/-- `texture` was built from the image `built`; `pending` waits for a device to build it. -/
structure Sampler where
  built : Option Image := none
  texture : Option TextureHandle := none
  pending : Option Image := none
  deriving DecidableEq, Repr

def Sampler.image? (s : Sampler) : Option Image := s.pending <|> s.built

def Sampler.isBuiltFrom (s : Sampler) (i : Image) : Bool :=
  s.texture.isSome && s.built.any (·.identity == i.identity)

inductive Payload
  | int (n : Int32)
  | float (x : Float32)
  | vec2 (v : Vec2)
  | vec3 (v : Vec3)
  | vec4 (v : Vec4)
  | vec3Array (vs : List Vec3)
  | sampler (s : Sampler)
  | static (text : String)
  | unused
  deriving DecidableEq

namespace Payload

def kind : Payload → Kind
  | int _ => .int
  | float _ => .float
  | vec2 _ => .vec2
  | vec3 _ => .vec3
  | vec4 _ => .vec4
  | vec3Array _ => .vec3Array
  | sampler _ => .sampler
  | static _ => .static
  | unused => .unused

def value : Payload → Value
  | int n => .int n
  | float x => .float x
  | vec2 v => .vec2 v
  | vec3 v => .vec3 v
  | vec4 v => .vec4 v
  | vec3Array vs => .points vs
  | sampler s => (s.image?.map Value.image).getD .none
  | static t => .text t
  | unused => .none

def upload? (l : Location) : Payload → Option Call
  | int n => some (.uniform1i l n)
  | float x => some (.uniform1f l x)
  | vec2 v => some (.uniform2f l v.x v.y)
  | vec3 v => some (.uniform3f l v.x v.y v.z)
  | vec4 v => some (.uniform4f l v.x v.y v.z v.w)
  | vec3Array vs => some (.uniform3fv l (vs.flatMap Vec3.toList))
  | sampler _ | static _ | unused => none

end Payload

structure Uniform where
  location : Option Location := none
  length : Length := .single
  payload : Payload
  deriving DecidableEq

namespace Uniform

variable (u : Uniform)

def kind : Kind := u.payload.kind
def value : Value := u.payload.value

def static? : Option String :=
  match u.payload with
  | .static t => some t
  | _ => none

def sampler? : Option Sampler :=
  match u.payload with
  | .sampler s => some s
  | _ => none

end Uniform

end ShaderRunner

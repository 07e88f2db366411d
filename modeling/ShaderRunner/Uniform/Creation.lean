import ShaderRunner.Failure
import ShaderRunner.Uniform.Inference
import ShaderRunner.Uniform.Set

namespace ShaderRunner

def Payload.ofValue (k : Kind) (v : Value) : Except Failure Payload :=
  match k, v with
  | .int, .int n => .ok (.int n)
  | .float, .float x => .ok (.float x)
  | .float, .int n => .ok (.float (Number.singleOfInt n.toInt))
  | .vec2, .vec2 w => .ok (.vec2 w)
  | .vec3, .vec3 w => .ok (.vec3 w)
  | .vec4, .vec4 w => .ok (.vec4 w)
  | .vec3Array, .points vs => .ok (.vec3Array vs)
  | .vec3Array, .vec3 w => .ok (.vec3Array [w])
  | k, v => .error (.valueMismatch k v)

def Value.static (v : Value) : Except Failure String :=
  match v with
  | .image _ | .points _ => .error (.valueMismatch .static v)
  | v => .ok v.toText

namespace Uniform

def create (k : Kind) (location : Option Location) (length : Length) (v : Value) : Except Failure Uniform :=
  match k with
  | .sampler =>
    match v with
    | .image i => .ok ⟨location, length, .sampler { pending := some i }⟩
    | .none => .ok ⟨location, length, .sampler {}⟩
    | v => .error (.valueMismatch .sampler v)
  | .static => v.static.map fun t => ⟨none, .single, .static t⟩
  | .unused => .ok ⟨none, length, .unused⟩
  | k => (Payload.ofValue k v).map fun p => ⟨location, length, p⟩

def createInferred (location : Option Location) (name : String) (v : Value) (source : String) :
    Except Failure Uniform :=
  let inferred := infer name source
  match inferred.kind with
  | .unsupported t => .error (.unsupportedKind t)
  | .known k =>
    let length := match inferred.length with
      | .dynamic => .array (v.pointCount?.getD 0)
      | l => l
    create k location length v

end Uniform

def UniformSet.declare (s : UniformSet) (name : String) (v : Value) (source : String) :
    Except Failure UniformSet :=
  (Uniform.createInferred none name v source).map (s.insert name)

end ShaderRunner

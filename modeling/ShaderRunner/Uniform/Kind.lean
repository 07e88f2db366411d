
namespace ShaderRunner

inductive Kind
  | int | float | vec2 | vec3 | vec4 | vec3Array | sampler | static | unused
  deriving DecidableEq, Repr

namespace Kind

def all : List Kind := [int, float, vec2, vec3, vec4, vec3Array, sampler, static, unused]

def typeName : Kind → String
  | int => "int"
  | float => "float"
  | vec2 => "vec2"
  | vec3 => "vec3"
  | vec4 => "vec4"
  | vec3Array => "vec3v"
  | sampler => "sampler2D"
  | static => "static"
  | unused => "unused"

def ofDeclared? (typeName : String) (array : Bool) : Option Kind :=
  match typeName, array with
  | "int", false => some int
  | "float", false => some float
  | "vec2", false => some vec2
  | "vec3", false => some vec3
  | "vec4", false => some vec4
  | "vec3", true => some vec3Array
  | "sampler2D", false => some sampler
  | _, _ => none

def bindable : Kind → Bool
  | static | unused => false
  | _ => true

def takesUnit : Kind → Bool
  | sampler => true
  | _ => false

end Kind

inductive Length
  | single
  | array (n : Nat)
  | dynamic
  deriving DecidableEq, Repr

end ShaderRunner

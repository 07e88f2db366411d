import ShaderRunner.Device.Call
import ShaderRunner.Uniform.Kind
import ShaderRunner.Uniform.Value

namespace ShaderRunner

inductive Failure
  | compile (stage : Stage) (log : String) (line : Option UInt64) (context : String)
  | link (log : String)
  | missingStatic (name : String)
  | malformedStatic (text : String)
  | unsupportedKind (typeName : String)
  | valueMismatch (kind : Kind) (value : Value)
  | unknownUniform (name : String)
  | notCompiled
  | refused (object : Resource)
  deriving DecidableEq

def Resource.description : Resource → String
  | shader stage => stage.name ++ " shader"
  | program => "program"
  | buffer => "vertex buffer"
  | texture => "texture"

def Failure.message : Failure → String
  | compile stage log _ context => s!"COMPILE ERROR ({stage.name}): {log}\n------\n{context}\n------"
  | link log => s!"LINK ERROR: {log}"
  | missingStatic name => s!"'{name}' has no static value and no inline default"
  | malformedStatic text => s!"Malformed static macro '{text}'"
  | unsupportedKind t => s!"Unsupported uniform type '{t}'"
  | valueMismatch kind value => s!"Value {value.describe} cannot be stored in a {kind.typeName} uniform"
  | unknownUniform name => s!"No uniform named '{name}'"
  | notCompiled => "Render called before a program was compiled"
  | refused object => s!"Backend error: failed to create {object.description}"

inductive Diagnostic
  | missingUniform (name : String)
  | unusedUniform (name : String)
  | staticNotReferenced (name : String)
  deriving DecidableEq, Repr

def Diagnostic.name : Diagnostic → String
  | missingUniform n | unusedUniform n | staticNotReferenced n => n

def Diagnostic.message : Diagnostic → String
  | missingUniform n => s!"uniform {n} is referenced, but was not supplied"
  | unusedUniform n => s!"uniform {n} is not being referenced"
  | staticNotReferenced n => s!"static '{n}' not found in source"

end ShaderRunner

import ShaderRunner.Program.Boilerplate
import ShaderRunner.Text.LowerCase

namespace ShaderRunner

open Text

inductive Mode
  | default
  | shadertoy
  deriving DecidableEq, Repr

def Text.occurs (t : List Char) : List Char → Bool
  | [] => t.isEmpty
  | c :: r => t.isPrefixOf (c :: r) || occurs t r

namespace Mode

def directive : String := "VADER_MODE(shadertoy)"

def hasDirective (source : String) : Bool := occurs directive.toList source.toList

def resolve (m : Mode) (source : String) : Mode := if hasDirective source then .shadertoy else m

def parse (s : String) : Except String Mode :=
  let low := String.ofList (lowerCase s.toList)
  if low = "default" then .ok .default
  else if low = "shadertoy" then .ok .shadertoy
  else .error s!"unknown support mode '{low}'"

def wrap (m : Mode) (source : String) : String :=
  match m with
  | .default => Boilerplate.defaultOpening ++ source
  | .shadertoy => Boilerplate.shadertoyOpening ++ source ++ Boilerplate.shadertoyClosing

end Mode

end ShaderRunner

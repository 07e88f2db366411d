import ShaderRunner.Failure
import ShaderRunner.StaticCall.Scan
import ShaderRunner.Uniform.Set

namespace ShaderRunner

def Piece.substitute (f : StaticCall → Option (List Char)) (ps : List Piece) : List Char :=
  ps.flatMap fun
    | .plain c => [c]
    | .call m => (f m).getD m.text

def scanSource (source : List Char) : Except Failure (List Piece) :=
  (scan source).mapError fun t => .malformedStatic (String.ofList t)

def replaceCalls (source name value : List Char) : Except Failure (Option (List Char)) := do
  let ps ← scanSource source
  if (Piece.calls ps).any (·.name == name) then
    return some (Piece.substitute (fun m => if m.name = name then some value else none) ps)
  return none

def resolveDefaults (source : List Char) : Except Failure (List Char) := do
  let ps ← scanSource source
  match (Piece.calls ps).find? (·.literal.isNone) with
  | some m => throw (.missingStatic (String.ofList m.name))
  | none => return Piece.substitute StaticCall.literal ps

def fillStatics (source : List Char) :
    List (String × Uniform) → Except Failure (List Char × List Diagnostic)
  | [] => .ok (source, [])
  | (name, u) :: es =>
    match u.static? with
    | none => fillStatics source es
    | some value => do
      match ← replaceCalls source name.toList value.toList with
      | some filled => fillStatics filled es
      | none =>
        let (filled, ds) ← fillStatics source es
        return (filled, .staticNotReferenced name :: ds)

structure Prepared where
  source : String
  diagnostics : List Diagnostic
  deriving DecidableEq, Repr

def prepare (source : String) (s : UniformSet) : Except Failure Prepared := do
  let (filled, ds) ← fillStatics source.toList s.entries
  let resolved ← resolveDefaults filled
  return ⟨String.ofList resolved, ds⟩

end ShaderRunner

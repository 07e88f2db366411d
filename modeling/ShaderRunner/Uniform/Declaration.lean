import ShaderRunner.Text.Begins
import ShaderRunner.Text.Blank
import ShaderRunner.Text.Lines

namespace ShaderRunner

open Text

/-- `extent` is what stands between the brackets of an array. -/
structure Declaration where
  typeName : String
  name : String
  extent : Option (List Char)
  deriving DecidableEq, Repr

namespace Declaration

def isPrecision (w : List Char) : Bool :=
  w == "lowp".toList || w == "mediump".toList || w == "highp".toList

def afterPrecision : List (List Char) → List (List Char)
  | [] => []
  | w :: ws => if isPrecision w then ws else w :: ws

def declarator (w : List Char) : List Char × Option (List Char) :=
  let w := w.takeWhile (· ≠ ';')
  match w.dropWhile (· ≠ '[') with
  | [] => (w, none)
  | _ :: t => (w.takeWhile (· ≠ '['), some (trim (t.takeWhile (· ≠ ']'))))

def ofLine? (line : List Char) : Option Declaration :=
  match words line with
  | [] => none
  | w :: ws =>
    if w = "uniform".toList then
      match afterPrecision ws with
      | t :: d :: _ =>
        let (name, extent) := declarator d
        if name = [] then none else some ⟨String.ofList t, String.ofList name, extent⟩
      | _ => none
    else none

def attribute? (line : List Char) : Option String :=
  match after? "attribute".toList line with
  | none => none
  | some rest =>
    (words rest)[1]?.map fun w => String.ofList (w.reverse.dropWhile (· == ';')).reverse

end Declaration

def sourceLines (source : String) : List (List Char) := (lines source.toList).map trim

def declaredUniforms (source : String) : List String :=
  ((sourceLines source).filterMap Declaration.ofLine?).map (·.name)

def declaredAttributes (source : String) : List String :=
  (sourceLines source).filterMap fun l =>
    if (Declaration.ofLine? l).isSome then none else Declaration.attribute? l

end ShaderRunner

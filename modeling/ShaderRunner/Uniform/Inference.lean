import ShaderRunner.Number.Numeral
import ShaderRunner.StaticCall.Scan
import ShaderRunner.Uniform.Declaration
import ShaderRunner.Uniform.Kind

/-!
The kind of a name, read off shader text: the first line that declares it as a uniform or calls it as
a static decides, and a name without such a line is unused.
-/

namespace ShaderRunner

open Text

inductive Inferred.Kind
  | known (k : ShaderRunner.Kind)
  | unsupported (typeName : String)
  deriving DecidableEq, Repr

structure Inferred where
  kind : Inferred.Kind
  length : Length
  deriving DecidableEq, Repr

def Declaration.length (d : Declaration) : Length :=
  match d.extent with
  | none => .single
  | some t =>
    match Number.whole (UInt64.size - 1) t with
    | .ok n => if n = 0 then .dynamic else .array n
    | .error _ => .dynamic

def Declaration.inferred (d : Declaration) : Inferred where
  kind := match Kind.ofDeclared? d.typeName d.extent.isSome with
    | some k => .known k
    | none => .unsupported (if d.extent.isSome then d.typeName ++ "v" else d.typeName)
  length := d.length

namespace StaticCall

def goesOn (name s : List Char) : Bool :=
  (match after? name s with
    | some r => ((r.dropWhile isBlank).head?.any fun c => c == ',' || c == ')')
    | none => false) ||
  match s with
  | [] => false
  | c :: r => isBlank c && goesOn name r

def calledFrom (name : List Char) (inWord : Bool) : List Char → Bool
  | [] => false
  | c :: r =>
    (!inWord && (head? (c :: r)).any fun x => goesOn name x.2) || calledFrom name (isWord c) r

def called (name line : List Char) : Bool := calledFrom name false line

end StaticCall

def Inferred.ofLine? (name : String) (line : List Char) : Option Inferred :=
  match (Declaration.ofLine? line).filter (·.name == name) with
  | some d => some d.inferred
  | none => if StaticCall.called name.toList line then some ⟨.known .static, .single⟩ else none

def infer (name source : String) : Inferred :=
  ((sourceLines source).findSome? (Inferred.ofLine? name)).getD ⟨.known .unused, .single⟩

end ShaderRunner

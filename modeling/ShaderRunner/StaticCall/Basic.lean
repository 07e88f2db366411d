import ShaderRunner.Text.Blank
import ShaderRunner.Text.Bytes
import ShaderRunner.Text.WordChar

/-!
Static calls in shader text: `STATIC(name)` or `STATIC(name, body)`, with a longer spelling of the
head. A call is kept as its parts, so that its text, its name and its literal are read off it.
-/

namespace ShaderRunner

open Text

/-- `lead` and `trail` are the blanks around the name; `body` is what stands between the comma and the
closing parenthesis, if there is a comma. -/
structure StaticCall where
  head : List Char
  lead : List Char
  name : List Char
  trail : List Char
  body : Option (List Char)
  deriving DecidableEq, Repr

namespace StaticCall

def heads : List (List Char) := ["VADER_STATIC(".toList, "STATIC(".toList]

def tail (m : StaticCall) : List Char :=
  match m.body with
  | none => [')']
  | some b => ',' :: b ++ [')']

def text (m : StaticCall) : List Char := m.head ++ (m.lead ++ (m.name ++ (m.trail ++ m.tail)))

def literal (m : StaticCall) : Option (List Char) :=
  m.body.bind fun b => if trim b = [] then none else some (trim b)

def isNameStart (c : Char) : Bool := c.isAlpha || c == '_'

end StaticCall

inductive Piece
  | plain (c : Char)
  | call (m : StaticCall)
  deriving DecidableEq, Repr

namespace Piece

def text : Piece → List Char
  | plain c => [c]
  | call m => m.text

def call? : Piece → Option StaticCall
  | plain _ => none
  | call m => some m

def textOf (ps : List Piece) : List Char := ps.flatMap text

def calls (ps : List Piece) : List StaticCall := ps.filterMap call?

def spansFrom (at_ : Nat) : List Piece → List (Nat × Nat × StaticCall)
  | [] => []
  | plain c :: ps => spansFrom (at_ + c.utf8Size) ps
  | call m :: ps => (at_, at_ + utf8Size m.text, m) :: spansFrom (at_ + utf8Size m.text) ps

def spans (ps : List Piece) : List (Nat × Nat × StaticCall) := spansFrom 0 ps

end Piece

end ShaderRunner

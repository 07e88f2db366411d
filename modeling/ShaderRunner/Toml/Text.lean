import ShaderRunner.Toml.Reader

namespace ShaderRunner.Toml

open Reader

def isHexDigit (c : Char) : Bool := c.isDigit || ('a' ≤ c && c ≤ 'f') || ('A' ≤ c && c ≤ 'F')

def hexValue (c : Char) : Nat :=
  if c.isDigit then c.toNat - 48 else if 'a' ≤ c then c.toNat - 87 else c.toNat - 55

def codePoint (n : Nat) : Reader Char := do
  let s ← get
  let ds := s.take n
  if ds.length = n && ds.all isHexDigit then
    let v := ds.foldl (fun v c => 16 * v + hexValue c) 0
    if _ : v.isValidChar then do
      set (s.drop n)
      return Char.ofNat v
    else failure
  else failure

def escaped : Reader Char := do
  match ← one fun _ => true with
  | 'b' => return '\x08'
  | 'f' => return '\x0c'
  | 'n' => return '\n'
  | 'r' => return '\r'
  | 't' => return '\t'
  | '"' => return '"'
  | '\\' => return '\\'
  | 'u' => codePoint 4
  | 'U' => codePoint 8
  | _ => failure

def lineContinuation : Reader Unit := do
  exactly ['\\']
  blanks
  newline
  let _ ← repeated do
    match ← next? with
    | some '\n' | some '\r' => do newline; return some ()
    | some c => if isBlank c then do blanks; return some () else return none
    | none => return none

def plainChar (quote : Char) (escapes : Bool) : Reader (List Char) := do
  let c ← one fun c => isPrintable c && c != quote && !(escapes && c == '\\')
  return [c]

def escapeSequence : Reader (List Char) := do
  exactly ['\\']
  return [← escaped]

def lineString (quote : Char) (escapes : Bool) : Reader String := do
  exactly [quote]
  let parts ← repeated do
    match ← next? with
    | some c =>
      if c == quote then return none
      else if escapes && c == '\\' then return some (← escapeSequence)
      else return some (← plainChar quote escapes)
    | none => failure
  exactly [quote]
  return String.ofList parts.flatten

def innerQuotes (quote : Char) : Reader (Option (List Char)) := do
  let run := (← get).takeWhile (· == quote)
  if 3 ≤ run.length then return none
  exactly run
  return some run

/-- The last three quotes of a run close a string of several lines; one or two before them belong to it. -/
def closingQuotes (quote : Char) : Reader (List Char) := do
  let inner := List.replicate (min 2 (((← get).takeWhile (· == quote)).length - 3)) quote
  exactly inner
  exactly [quote, quote, quote]
  return inner

def blockString (quote : Char) (escapes : Bool) : Reader String := do
  exactly [quote, quote, quote]
  let _ ← maybe newline
  let parts ← repeated do
    match ← next? with
    | some c =>
      if c == quote then innerQuotes quote
      else if c == '\n' || c == '\r' then do newline; return some ['\n']
      else if escapes && c == '\\' then
        match ← maybe lineContinuation with
        | some () => return some []
        | none => return some (← escapeSequence)
      else return some (← plainChar quote escapes)
    | none => failure
  let last ← closingQuotes quote
  return String.ofList (parts.flatten ++ last)

def stringOf (quote : Char) (escapes : Bool) : Reader String := do
  if ← sees [quote, quote, quote] then blockString quote escapes else lineString quote escapes

def string : Reader String := stringOf '"' true <|> stringOf '\'' false

def keyString : Reader String := lineString '"' true <|> lineString '\'' false

end ShaderRunner.Toml

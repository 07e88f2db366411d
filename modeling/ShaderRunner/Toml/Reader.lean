import ShaderRunner.Text.Begins

/-!
Reading a document from the front. A reader takes characters off a text or fails; what it took is
gone, and a choice puts it back.
-/

namespace ShaderRunner.Toml

abbrev Reader := StateT (List Char) Option

namespace Reader

def rest : Reader (List Char) := get

def next? : Reader (Option Char) := return (← get).head?

def one (p : Char → Bool) : Reader Char := do
  match ← get with
  | c :: r => if p c then do set r; return c else failure
  | [] => failure

def exactly (t : List Char) : Reader Unit := do
  match Text.after? t (← get) with
  | some r => set r
  | none => failure

def sees (t : List Char) : Reader Bool := return t.isPrefixOf (← get)

def span (p : Char → Bool) : Reader (List Char) := do
  let s ← get
  set (s.dropWhile p)
  return s.takeWhile p

def maybe {α : Type} (r : Reader α) : Reader (Option α) := fun s =>
  match r s with
  | some (a, t) => some (some a, t)
  | none => some (none, s)

def loop {α : Type} (step : Reader (Option α)) : Nat → Reader (List α)
  | 0 => failure
  | fuel + 1 => do
    match ← step with
    | none => return []
    | some a => return a :: (← loop step fuel)

/-- Repeats a step until it stops; a step that goes on has to take a character. -/
def repeated {α : Type} (step : Reader (Option α)) : Reader (List α) := do
  loop step ((← get).length + 1)

def isBlank (c : Char) : Bool := c == ' ' || c == '\t'

def blanks : Reader Unit := do let _ ← span isBlank

def newline : Reader Unit := exactly ['\n'] <|> exactly ['\r', '\n']

def isBeyondAscii (c : Char) : Bool := 0x80 ≤ c.toNat

def isPrintable (c : Char) : Bool := c == '\t' || (0x20 ≤ c.toNat && c.toNat ≤ 0x7E) || isBeyondAscii c

def comment : Reader Unit := do
  exactly ['#']
  let _ ← span isPrintable

def lineEnd : Reader Unit := do
  if (← get).isEmpty then return else newline

def lineRest : Reader Unit := do
  blanks
  if ← sees ['#'] then comment
  lineEnd

def gap : Reader Unit := do
  let _ ← repeated do
    match ← next? with
    | some '#' => do comment; newline; return some ()
    | some '\n' | some '\r' => do newline; return some ()
    | some c => if isBlank c then do blanks; return some () else return none
    | none => return none

end Reader

end ShaderRunner.Toml

import ShaderRunner.Session

namespace ShaderRunner.CommandLine

def usage : String := "usage: vader <manifest.toml> [--frames N] [--print-source] [--dump]"

structure Arguments where
  manifest : String := ""
  frames : Option UInt32 := none
  printSource : Bool := false
  dump : Bool := false
  help : Bool := false
  deriving DecidableEq, Repr

inductive ArgumentFailure
  | framesMissing
  | framesInvalid (value : String) (e : Number.WholeError)
  | unknownOption (flag : String)
  | secondManifest
  | noManifest
  deriving DecidableEq

def ArgumentFailure.chain : ArgumentFailure → List String
  | framesMissing => ["--frames needs a value"]
  | framesInvalid value e => [s!"Invalid frame count '{value}'", e.message]
  | unknownOption flag => [s!"Unknown option '{flag}'\n{usage}"]
  | secondManifest => [s!"Only one manifest may be given\n{usage}"]
  | noManifest => [s!"Missing manifest path\n{usage}"]

def parseFrom (a : Arguments) (manifest : Option String) : List String → Except ArgumentFailure (Arguments × Option String)
  | [] => .ok (a, manifest)
  | arg :: args =>
    if arg = "--frames" || arg = "-n" then
      match args with
      | [] => .error .framesMissing
      | value :: args =>
        match Number.whole (UInt32.size - 1) value.toList with
        | .error e => .error (.framesInvalid value e)
        | .ok n => parseFrom { a with frames := some (UInt32.ofNat n) } manifest args
    else if arg = "--print-source" then parseFrom { a with printSource := true } manifest args
    else if arg = "--dump" then parseFrom { a with dump := true } manifest args
    else if arg = "--help" || arg = "-h" then parseFrom { a with help := true } manifest args
    else if arg.toList.head? = some '-' then .error (.unknownOption arg)
    else if manifest.isSome then .error .secondManifest
    else parseFrom a (some arg) args

def parse (args : List String) : Except ArgumentFailure Arguments := do
  match ← parseFrom {} none args with
  | (a, some path) => return { a with manifest := path }
  | (a, none) => if a.help then return a else throw .noManifest

def indented (lead further text : String) : String :=
  lead ++ ("\n" ++ further).intercalate (text.splitOn "\n")

def report (chain : List String) : String :=
  match chain with
  | [] => ""
  | [top] => s!"Error: {top}\n"
  | [top, cause] => s!"Error: {top}\n\nCaused by:\n" ++ indented "    " "    " cause ++ "\n"
  | top :: causes =>
    s!"Error: {top}\n\nCaused by:\n" ++ String.join (causes.zipIdx.map fun x =>
      let number := toString x.2
      indented (String.ofList (List.replicate (5 - number.length) ' ') ++ number ++ ": ") "       " x.1 ++ "\n")

structure Result where
  exit : UInt32 := 0
  stdout : String := ""
  stderr : String := ""
  deriving DecidableEq, Repr

def Result.fail (r : Result) (chain : List String) : Result :=
  { r with exit := 1, stderr := r.stderr ++ report chain }

def opening (a : Arguments) (s : Session) : Result where
  stdout := if a.printSource then s.renderer.processed ++ "\n" else ""
  stderr := String.join (s.renderer.diagnostics.map fun d => s!"warning: {d.message}\n")

def closing (a : Arguments) (r : Result) : Except SessionFailure Unit × Session → Result
  | (.error e, _) => r.fail e.chain
  | (.ok (), s) => if a.dump then { r with stdout := r.stdout ++ s.uniforms.listing } else r

def start (args : List String) (f : Files) : Except Result (Arguments × Session) :=
  match parse args with
  | .error e => .error (({} : Result).fail e.chain)
  | .ok a =>
    if a.help then .error { stdout := usage ++ "\n" }
    else
      match Session.load f a.manifest with
      | .error e => .error (({} : Result).fail (s!"Failed to start {Text.quoted a.manifest}" :: e.chain))
      | .ok s => .ok (a, s)

def frameCount (a : Arguments) (s : Session) : Nat := (a.frames.getD s.frames).toNat

def run (args : List String) (f : Files) (clock : Nat → Tick) : Result :=
  match start args f with
  | .error r => r
  | .ok (a, s) => closing a (opening a s) (Session.drawFrames clock (frameCount a s) s)

end ShaderRunner.CommandLine

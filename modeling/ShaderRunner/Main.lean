import ShaderRunner.CommandLine

namespace ShaderRunner.Program

def errorOf : IO.Error → FileError
  | .inappropriateType _ code _ => if code = 21 then .isDirectory else .notDirectory
  | _ => .notFound

def readFile (path : String) : IO (Except FileError FileContent) := do
  try return .ok (.bytes (← IO.FS.readBinFile path))
  catch e => return .error (errorOf e)

def readFiles (paths : List String) : IO Files := do
  let found ← paths.mapM fun path => return (path, ← readFile path)
  return ⟨fun path => (found.lookup path).getD (.error .notFound)⟩

def gather (args : List String) : IO Files := do
  match CommandLine.parse args with
  | .error _ => return ⟨fun _ => .error .notFound⟩
  | .ok a =>
    let files ← readFiles [a.manifest]
    match Manifest.load files a.manifest with
    | .error _ => return files
    | .ok m => readFiles (a.manifest :: m.paths)

def secondsSince (epoch : Nat) : IO Float32 :=
  return Float32.ofNat ((← IO.monoNanosNow) - epoch) / 1000000000

def drawFrames (epoch : Nat) : Nat → Session → IO (Except SessionFailure Unit × Session)
  | 0, s => return (.ok (), s)
  | n + 1, s => do
    let now ← secondsSince epoch
    match s.frame ⟨now, ← secondsSince epoch⟩ with
    | (.error e, s) => return (.error e, s)
    | (.ok (), s) => drawFrames epoch n s

def finish (r : CommandLine.Result) : IO UInt32 := do
  IO.print r.stdout
  IO.eprint r.stderr
  return r.exit

end ShaderRunner.Program

open ShaderRunner ShaderRunner.Program in
def main (args : List String) : IO UInt32 := do
  let epoch ← IO.monoNanosNow
  match CommandLine.start args (← gather args) with
  | .error r => finish r
  | .ok (a, s) =>
    let drawn ← drawFrames epoch (CommandLine.frameCount a s) s
    finish (CommandLine.closing a (CommandLine.opening a s) drawn)

import ShaderRunner.Device.Basic
import ShaderRunner.Program.Boilerplate
import ShaderRunner.Program.ErrorWindow
import ShaderRunner.Uniform.Update

namespace ShaderRunner

open Text

def Failure.ofLog (stage : Stage) (source log : String) : Failure :=
  let log := if trim log.toList = [] then "Error report unavailable" else log
  let line := ErrorWindow.lineOf? log
  .compile stage (String.ofList (trimEnd log.toList)) line (ErrorWindow.context source (line.getD 1))

namespace Device

def compileStage (d : Device) (stage : Stage) (source : String) : Attempt ShaderHandle Device :=
  match d.createShader stage with
  | (none, d) => (.error (.refused (.shader stage)), d)
  | (some s, d) =>
    let d := (d.shaderSource s source).compileShader s
    if d.compileStatus s then (.ok s, d)
    else (.error (.ofLog stage source (d.shaderLog s)), d.deleteShader s)

def linkStages (d : Device) (v f : ShaderHandle) : Attempt ProgramHandle Device :=
  match d.createProgram with
  | (none, d) => (.error (.refused .program), (d.deleteShader v).deleteShader f)
  | (some p, d) =>
    let d := ((d.attachShader p v).attachShader p f).linkProgram p
    let d := (d.deleteShader v).deleteShader f
    if d.linkStatus p then (.ok p, d) else (.error (.link (d.programLog p)), d.deleteProgram p)

def buildProgram (d : Device) (fragment : String) : Attempt ProgramHandle Device :=
  match d.compileStage .vertex Boilerplate.vertex with
  | (.error e, d) => (.error e, d)
  | (.ok v, d) =>
    match d.compileStage .fragment fragment with
    | (.error e, d) => (.error e, d.deleteShader v)
    | (.ok f, d) => d.linkStages v f

end Device

end ShaderRunner

import ShaderRunner.Device.Basic

namespace ShaderRunner.Device

variable (d : Device)

def countCalls (p : Call → Bool) : Nat := d.calls.toList.countP p

def drawCount : Nat := d.countCalls fun | .drawTriangles .. => true | _ => false
def programsCreated : Nat := d.countCalls fun | .createProgram _ => true | _ => false
def texturesCreated : Nat := d.countCalls fun | .createTexture _ => true | _ => false

def unitsActivated : List UInt32 :=
  d.calls.toList.filterMap fun | .activeTexture u => some u | _ => none

def uploads : List Call := d.calls.toList.filter (·.uploadLocation?.isSome)

def uploadsFor (l : Location) : List Call := d.calls.toList.filter (·.uploadLocation? == some l)

def currentProgram : Option ProgramHandle :=
  (d.calls.toList.reverse.findSome? fun | .useProgram p => some p | _ => none).join

def lastSource (stage : Stage) : Option String := d.sources.lookup stage

end ShaderRunner.Device

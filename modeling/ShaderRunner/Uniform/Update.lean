import ShaderRunner.Texture.Upload
import ShaderRunner.Uniform.Creation

namespace ShaderRunner

abbrev Attempt (α σ : Type) := Except Failure α × σ

inductive Outcome
  | applied
  | unchanged
  | deferred
  | recompileRequired
  deriving DecidableEq, Repr

namespace Uniform

variable (u : Uniform)

def storeValue (v : Value) : Attempt Outcome Uniform :=
  match Payload.ofValue u.kind v with
  | .ok p => (.ok .applied, { u with payload := p })
  | .error e => (.error e, u)

def storeText (v : Value) : Attempt Outcome Uniform :=
  match v.static with
  | .ok t => (.ok .recompileRequired, { u with payload := .static t })
  | .error e => (.error e, u)

def imageUpdate (v : Value) : Except Failure (Sampler × Image) :=
  match v with
  | .image i =>
    match u.sampler? with
    | some s => .ok (s, i)
    | none => .error (.unsupportedKind u.kind.typeName)
  | v => .error (.valueMismatch .sampler v)

def stageImage (v : Value) : Attempt Outcome Uniform :=
  match u.imageUpdate v with
  | .error e => (.error e, u)
  | .ok (s, i) =>
    if s.isBuiltFrom i then (.ok .unchanged, { u with payload := .sampler { s with pending := none } })
    else (.ok .deferred, { u with payload := .sampler { s with pending := some i } })

def storeImage (v : Value) (d : Device) : Attempt Outcome (Device × Uniform) :=
  match u.imageUpdate v with
  | .error e => (.error e, d, u)
  | .ok (s, i) =>
    if s.isBuiltFrom i then (.ok .unchanged, d, { u with payload := .sampler { s with pending := none } })
    else
      match s.build i d with
      | (none, d) => (.error (.refused .texture), d, u)
      | (some s, d) => (.ok .applied, d, { u with payload := .sampler { s with pending := none } })

def stageAs (k : Kind) (v : Value) : Attempt Outcome Uniform :=
  match k with
  | .sampler => u.stageImage v
  | .static => u.storeText v
  | .unused => (.ok .unchanged, u)
  | _ => u.storeValue v

def updateAs (k : Kind) (v : Value) (d : Device) : Attempt Outcome (Device × Uniform) :=
  match k with
  | .sampler => u.storeImage v d
  | k => let (r, u) := u.stageAs k v; (r, d, u)

def stage (v : Value) : Attempt Outcome Uniform := u.stageAs u.kind v
def update (v : Value) (d : Device) : Attempt Outcome (Device × Uniform) := u.updateAs u.kind v d

end Uniform

end ShaderRunner

import ShaderRunner.Uniform.Update

/-!
Committing uniforms to a program. The uniforms of a set go in order, each to its location; samplers
take texture units, counted from one whether they have a location or not.
-/

namespace ShaderRunner

def Sampler.settle (s : Sampler) (d : Device) : Attempt Sampler Device :=
  match s.pending with
  | none => (.ok s, d)
  | some i =>
    if s.isBuiltFrom i then (.ok { s with pending := none }, d)
    else
      match s.build i d with
      | (none, d) => (.error (.refused .texture), d)
      | (some s, d) => (.ok { s with pending := none }, d)

def Sampler.bind (s : Sampler) (unit : UInt32) (d : Device) : Device :=
  if s.built.isNone then d
  else
    match s.texture with
    | none => d
    | some t => (d.record (.activeTexture unit)).record (.bindTexture2d (some t))

namespace Uniform

variable (u : Uniform)

def commitValue (d : Device) : Attempt Unit (Device × Uniform) :=
  match u.location with
  | none => (.ok (), d, u)
  | some l =>
    match u.payload.upload? l with
    | some c => (.ok (), d.record c, u)
    | none => (.error (.unsupportedKind u.kind.typeName), d, u)

def commitSampler (unit : UInt32) (d : Device) : Attempt Unit (Device × Uniform) :=
  match u.sampler? with
  | none => (.error (.unsupportedKind u.kind.typeName), d, u)
  | some s =>
    match s.settle d with
    | (.error e, d) => (.error e, d, u)
    | (.ok s, d) =>
      let d := match u.location with
        | some l => d.record (.uniform1i l unit.toInt32)
        | none => d
      (.ok (), s.bind unit d, { u with payload := .sampler s })

def commitAs (k : Kind) (unit : UInt32) (d : Device) : Attempt Unit (Device × Uniform) :=
  match k with
  | .sampler => u.commitSampler unit d
  | .static | .unused => (.ok (), d, u)
  | _ => u.commitValue d

def commit (unit : UInt32) (d : Device) : Attempt Unit (Device × Uniform) := u.commitAs u.kind unit d

def located (d : Device) (p : ProgramHandle) (name : String) : Uniform :=
  if u.kind.bindable && u.location.isNone then { u with location := d.uniformLocation p name } else u

end Uniform

/-- Commits one entry after the other up to the first failure; `unit` is the last unit taken. -/
def commitEntries (p : ProgramHandle) (unit : UInt32) (d : Device) :
    List (String × Uniform) → Attempt Unit (Device × List (String × Uniform))
  | [] => (.ok (), d, [])
  | (name, u) :: es =>
    let u := u.located d p name
    let unit := if u.kind.takesUnit then unit + 1 else unit
    match u.commit unit d with
    | (.error e, d, u) => (.error e, d, (name, u) :: es)
    | (.ok (), d, u) =>
      match commitEntries p unit d es with
      | (r, d, es) => (r, d, (name, u) :: es)

theorem commitEntries_names (p : ProgramHandle) (unit : UInt32) (d : Device) (es : List (String × Uniform)) :
    (commitEntries p unit d es).2.2.map Prod.fst = es.map Prod.fst := by
  induction es generalizing unit d with
  | nil => rfl
  | cons e es ih =>
    simp only [commitEntries]
    split
    · rfl
    · simpa using ih _ _

def UniformSet.commit (s : UniformSet) (p : ProgramHandle) (d : Device) : Attempt Unit (Device × UniformSet) :=
  let r := commitEntries p 0 d s.entries
  (r.1, r.2.1, s.withEntries r.2.2 (commitEntries_names p 0 d s.entries))

end ShaderRunner

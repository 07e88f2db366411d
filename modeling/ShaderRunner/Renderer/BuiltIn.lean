import ShaderRunner.Renderer.Basic

namespace ShaderRunner

structure Mouse where
  x : Float32 := 0
  y : Float32 := 0
  down : Bool := false

structure Inputs where
  width : Float32 := 0
  height : Float32 := 0
  scale : Float32 := 1
  mouse : Mouse := {}

namespace BuiltIn

def initial (m : Mode) : UniformSet :=
  let es : List (String × Payload) := match m with
    | .shadertoy =>
      [("iResolution", .vec3 ⟨0, 0, 1⟩), ("iFrame", .int 0), ("iFrameRate", .float 0), ("iTime", .float 0),
        ("iTimeDelta", .float 0), ("iMouse", .vec4 ⟨0, 0, 0, 0⟩)]
    | .default => [("u_resolution", .vec2 ⟨0, 0⟩), ("u_time", .float 0), ("u_mouse", .vec4 ⟨0, 0, 0, 0⟩)]
  UniformSet.ofList (es.map fun e => (e.1, { payload := e.2 }))

def clockNames : Mode → List String
  | .default => ["u_time"]
  | .shadertoy => ["iTime", "iTimeDelta", "iFrameRate"]

/-- The values at the reading `now` of the clock, in the order in which they are stored. The rate is
zero unless time has passed since the last frame. -/
def values (r : Renderer) (now : Float32) (i : Inputs) : List (String × Value) :=
  let scale := if 0 < i.scale then i.scale else 1
  let width := i.width / scale
  let height := i.height / scale
  let mouse : Vec4 := ⟨i.mouse.x, i.mouse.y, if i.mouse.down then 1 else 0, 0⟩
  match r.mode with
  | .shadertoy =>
    let delta := now - r.lastFrameTime
    let rate := if 0 < delta then 1 / delta else 0
    [("iResolution", .vec3 ⟨width, height, 1⟩), ("iFrame", .int (Int32.ofNat r.frame)), ("iTime", .float now),
      ("iTimeDelta", .float delta), ("iFrameRate", .float rate), ("iMouse", .vec4 mouse)]
  | .default => [("u_resolution", .vec2 ⟨width, height⟩), ("u_time", .float now), ("u_mouse", .vec4 mouse)]

def store (s : UniformSet) (name : String) (v : Value) : Attempt Unit UniformSet :=
  match s.get? name with
  | none => (.ok (), s)
  | some u =>
    match u.stage v with
    | (.error e, u) => (.error e, s.modify name fun _ => u)
    | (.ok _, u) => (.ok (), s.modify name fun _ => u)

def storeAll (s : UniformSet) : List (String × Value) → Attempt Unit UniformSet
  | [] => (.ok (), s)
  | (name, v) :: vs =>
    match store s name v with
    | (.error e, s) => (.error e, s)
    | (.ok (), s) => storeAll s vs

def refresh (r : Renderer) (s : UniformSet) (now : Float32) (i : Inputs) : Attempt Unit UniformSet :=
  storeAll s (values r now i)

end BuiltIn

end ShaderRunner

import Mathlib.Tactic.Common
import ShaderRunner.Renderer.BuiltIn

namespace ShaderRunner

structure Faults extends Refusals where
  vertexError : Option String := none
  fragmentError : Option String := none
  linkError : Option String := none

def Device.withFaults (d : Device) (f : Faults) : Device :=
  { d with
    toRefusals := f.toRefusals
    vertexError := f.vertexError
    fragmentError := f.fragmentError
    linkError := f.linkError }

structure Scene where
  renderer : Renderer
  uniforms : UniformSet

/-- `stage` and `store` update a uniform behind the back of the renderer, without and with its device;
`insert` creates a uniform of a given kind, `define` and `declare` infer the kind from a source. -/
inductive Operation
  | compile (source : String)
  | render (ended : Float32)
  | destroy
  | update (name : String) (v : Value)
  | stage (name : String) (v : Value)
  | store (name : String) (v : Value)
  | refresh (now : Float32) (i : Inputs)
  | insert (name : String) (k : Kind) (length : Length) (v : Value)
  | define (name : String) (v : Value) (source : String)
  | declare (name : String) (v : Value)
  | arrange (f : Faults)
  | resolve (name : String)

namespace Scene

variable (x : Scene)

def new (label : String) (m : Mode) (size : Size) (s : UniformSet) : Scene :=
  ⟨{ label := label, device := { size := size }, mode := m }, s⟩

abbrev device : Device := x.renderer.device

def withDevice (d : Device) : Scene := { x with renderer := { x.renderer with device := d } }

def withUniform (name : String) (u : Uniform) : Scene := { x with uniforms := x.uniforms.modify name fun _ => u }

def withUniforms : Except Failure UniformSet → Attempt Unit Scene
  | .ok s => (.ok (), { x with uniforms := s })
  | .error e => (.error e, x)

def ofAttempt {α : Type} (a : Attempt α (Renderer × UniformSet)) : Attempt Unit Scene :=
  (a.1.map fun _ => (), ⟨a.2.1, a.2.2⟩)

end Scene

def Operation.apply (o : Operation) (x : Scene) : Attempt Unit Scene :=
  match o with
  | .compile source => Scene.ofAttempt (x.renderer.compile source x.uniforms)
  | .render ended => Scene.ofAttempt (x.renderer.render x.uniforms ended)
  | .destroy => (.ok (), { x with renderer := x.renderer.destroy })
  | .update name v => Scene.ofAttempt (x.renderer.update x.uniforms name v)
  | .stage name v =>
    match x.uniforms.get? name with
    | none => (.error (.unknownUniform name), x)
    | some u => ((u.stage v).1.map fun _ => (), x.withUniform name (u.stage v).2)
  | .store name v =>
    match x.uniforms.get? name with
    | none => (.error (.unknownUniform name), x)
    | some u =>
      let a := u.update v x.device
      (a.1.map fun _ => (), (x.withDevice a.2.1).withUniform name a.2.2)
  | .refresh now i =>
    let a := BuiltIn.refresh x.renderer x.uniforms now i
    (a.1, { x with uniforms := a.2 })
  | .insert name k length v => x.withUniforms ((Uniform.create k none length v).map (x.uniforms.insert name))
  | .define name v source => x.withUniforms (x.uniforms.declare name v source)
  | .declare name v => x.withUniforms (x.renderer.declare x.uniforms name v)
  | .arrange f => (.ok (), x.withDevice (x.device.withFaults f))
  | .resolve name => (.ok (), x.withDevice (x.device.resolveAlways name))

lemma ok_of_isOk {a : Except Failure Unit} (h : a.isOk = true) : a = .ok () := by
  cases a with
  | error e => contradiction
  | ok _ => rfl

namespace Scene

def run (x : Scene) : List Operation → Scene
  | [] => x
  | o :: os => run (o.apply x).2 os

def Succeeds (x : Scene) : List Operation → Prop
  | [] => True
  | o :: os => (o.apply x).1.isOk = true ∧ Succeeds (o.apply x).2 os

instance decidableSucceeds : (x : Scene) → (os : List Operation) → Decidable (x.Succeeds os)
  | _, [] => isTrue trivial
  | x, o :: os =>
    have := decidableSucceeds (o.apply x).2 os
    inferInstanceAs (Decidable (_ ∧ _))

lemma run_append (x : Scene) (os ps : List Operation) : x.run (os ++ ps) = (x.run os).run ps := by
  induction os generalizing x with
  | nil => rfl
  | cons o os ih => exact ih _

lemma succeeds_append (x : Scene) (os ps : List Operation) :
    x.Succeeds (os ++ ps) ↔ x.Succeeds os ∧ (x.run os).Succeeds ps := by
  induction os generalizing x with
  | nil => simp [Succeeds, run]
  | cons o os ih => simp [Succeeds, run, ih, and_assoc]

end Scene

abbrev Ledger := List (String × Value)

namespace Ledger

def last? (vs : Ledger) (name : String) : Option Value := vs.reverse.lookup name

def entry {α : Type} (r : Except Failure α) (name : String) (v : Value) : Ledger :=
  match r with
  | .ok _ => [(name, v)]
  | .error _ => []

@[simp] lemma entry_map {α β : Type} (r : Except Failure α) (f : α → β) (name : String) (v : Value) :
    entry (r.map f) name v = entry r name v := by
  cases r <;> rfl

end Ledger

def BuiltIn.accepted (s : UniformSet) : List (String × Value) → Ledger
  | [] => []
  | (name, v) :: vs =>
    match s.get? name with
    | none => accepted s vs
    | some u =>
      match u.stage v with
      | (.error _, _) => []
      | (.ok _, u) => (name, v) :: accepted (s.modify name fun _ => u) vs

def Operation.accepted (o : Operation) (x : Scene) : Ledger :=
  match o with
  | .update name v | .stage name v | .store name v | .insert name _ _ v | .define name v _ | .declare name v =>
    .entry (o.apply x).1 name v
  | .refresh now i => BuiltIn.accepted x.uniforms (BuiltIn.values x.renderer now i)
  | _ => []

def Scene.accepted (x : Scene) : List Operation → Ledger
  | [] => []
  | o :: os => o.accepted x ++ accepted (o.apply x).2 os

end ShaderRunner

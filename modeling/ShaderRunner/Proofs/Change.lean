import Mathlib.Tactic.Common
import ShaderRunner.Proofs.Run

/-! Every operation of a run is a sequence of small changes, so that an invariant is proved once for each change. -/

namespace ShaderRunner

namespace Renderer

def adopted (r : Renderer) (source : String) (t : Prepared) (p : ProgramHandle) (d : Device) : Renderer :=
  { r with source := source }.adopt p t.source d

inductive Compiles (r : Renderer) (source : String) (s : UniformSet) :
    Attempt (List Diagnostic) (Renderer × UniformSet) → Prop
  | unprepared {e} : prepare (r.mode.wrap source) s = .error e →
      Compiles r source s (.error e, { r with source := source }, s)
  | unbuilt {t e d} : prepare (r.mode.wrap source) s = .ok t → r.device.buildProgram t.source = (.error e, d) →
      Compiles r source s (.error e, { r with source := source, device := d }, s)
  | unbuffered {t p d e r'} : prepare (r.mode.wrap source) s = .ok t →
      r.device.buildProgram t.source = (.ok p, d) → (r.adopted source t p d).ensureBuffer = (.error e, r') →
      Compiles r source s (.error e, r', s.relocate (r.adopted source t p d).device p)
  | compiled {t p d r'} (ds) : prepare (r.mode.wrap source) s = .ok t →
      r.device.buildProgram t.source = (.ok p, d) → (r.adopted source t p d).ensureBuffer = (.ok (), r') →
      Compiles r source s (.ok ds, { r' with diagnostics := ds, needsRecompile := false },
        s.relocate (r.adopted source t p d).device p)

lemma compile_compiles (r : Renderer) (source : String) (s : UniformSet) :
    r.Compiles source s (r.compile source s) := by
  cases hp : prepare (r.mode.wrap source) s with
  | error e => simpa [compile, hp] using Compiles.unprepared hp
  | ok t =>
    rcases hb : r.device.buildProgram t.source with ⟨e | p, d⟩
    · simpa [compile, hp, hb] using Compiles.unbuilt hp hb
    · rcases he : (r.adopted source t p d).ensureBuffer with ⟨e | _, r'⟩
      · have h := Compiles.unbuffered hp hb he
        simp only [adopted] at he h
        simpa [compile, hp, hb, he] using h
      · have h := Compiles.compiled (t.diagnostics ++ missingUniforms
          (s.relocate (r.adopted source t p d).device p) t.source) hp hb he
        simp only [adopted] at he h
        simpa [compile, hp, hb, he] using h

variable {r r' : Renderer} {s s' : UniformSet} {ended : Float32}

lemma render_ok (h : r.render s ended = (.ok (), r', s')) :
    ∃ r₁ s₁ p, (r.needsRecompile = false ∧ r₁ = r ∧ s₁ = s ∨
        r.needsRecompile = true ∧ ∃ ds, r.compile r.source s = (.ok ds, r₁, s₁)) ∧
      r₁.program = some p ∧ r₁.draw p s₁ ended = (.ok (), r', s') := by
  unfold render at h
  cases hp : r.program with
  | none => simp [hp] at h
  | some p =>
    simp only [hp] at h
    cases hn : r.needsRecompile with
    | false =>
      simp only [hn, Bool.false_eq_true, if_false] at h
      exact ⟨r, s, p, .inl ⟨rfl, rfl, rfl⟩, hp, h⟩
    | true =>
      simp only [hn, if_true] at h
      rcases hc : r.compile r.source s with ⟨e | ds, r₁, s₁⟩
      · simp [hc] at h
      · simp only [hc] at h
        cases hq : r₁.program with
        | none => simp [hq] at h
        | some q =>
          simp only [hq] at h
          exact ⟨r₁, s₁, q, .inr ⟨rfl, ds, rfl⟩, hq, h⟩

lemma draw_ok {p : ProgramHandle} (h : r.draw p s ended = (.ok (), r', s')) :
    ∃ d, s.commit p (r.openFrame p) = (.ok (), d, s') ∧
      r' = { r with device := d.record (.drawTriangles 0 6), frame := r.frame + 1, lastFrameTime := ended } := by
  unfold draw at h
  rcases hc : s.commit p (r.openFrame p) with ⟨e | _, d, s₁⟩
  · simp [hc] at h
  · simp only [hc, Prod.mk.injEq, true_and] at h
    exact ⟨d, by rw [h.2], h.1.symm⟩

end Renderer

namespace Uniform

lemma createInferred_ok {location : Option Location} {name source : String} {v : Value} {u : Uniform}
    (h : createInferred location name v source = .ok u) : ∃ k length, create k location length v = .ok u := by
  simp only [createInferred] at h
  split at h
  · simp at h
  · exact ⟨_, _, h⟩

end Uniform

namespace Scene

/-- One step of an operation, with the value that it accepts; `noted` is any bookkeeping of the renderer. -/
inductive Change : Scene → Ledger → Scene → Prop
  | noted {x : Scene} (r : Renderer) : r.device = x.device → r.program = x.renderer.program →
      r.vertexBuffer = x.renderer.vertexBuffer → Change x [] { x with renderer := r }
  | unbuilt {x t e d} : x.device.buildProgram t = (.error e, d) → Change x [] (x.withDevice d)
  | adopted {x t p d} : x.device.buildProgram t = (.ok p, d) →
      Change x [] ⟨x.renderer.adopt p t d, x.uniforms.relocate (x.renderer.adopt p t d).device p⟩
  | buffered {x} : Change x [] { x with renderer := x.renderer.ensureBuffer.2 }
  | drawn {x p} (ended : Float32) : x.renderer.program = some p →
      Change x [] ⟨(x.renderer.draw p x.uniforms ended).2.1, (x.renderer.draw p x.uniforms ended).2.2⟩
  | staged {x name u} (v : Value) : x.uniforms.get? name = some u →
      Change x (.entry (u.stage v).1 name v) (x.withUniform name (u.stage v).2)
  | stored {x name u} (v : Value) : x.uniforms.get? name = some u →
      Change x (.entry (u.update v x.device).1 name v)
        ((x.withDevice (u.update v x.device).2.1).withUniform name (u.update v x.device).2.2)
  | inserted {x k location length v u} (name : String) : Uniform.create k location length v = .ok u →
      (location = none ∨ location = x.renderer.program.bind (x.device.uniformLocation · name)) →
      Change x [(name, v)] { x with uniforms := x.uniforms.insert name u }
  | released {x} : Change x [] { x with renderer := x.renderer.destroy }
  | arranged {x} (f : Faults) : Change x [] (x.withDevice (x.device.withFaults f))
  | resolved {x} (name : String) : Change x [] (x.withDevice (x.device.resolveAlways name))

inductive Changes : Scene → Ledger → Scene → Prop
  | refl (x : Scene) : Changes x [] x
  | step {x y z l l'} : Change x l y → Changes y l' z → Changes x (l ++ l') z

namespace Changes

variable {x y z : Scene} {l l' : Ledger}

lemma single (h : Change x l y) : Changes x l y := by
  simpa using Changes.step h (.refl y)

lemma trans (h : Changes x l y) (h' : Changes y l' z) : Changes x (l ++ l') z := by
  induction h with
  | refl => exact h'
  | step hc _ ih =>
    rw [List.append_assoc]
    exact .step hc (ih h')

lemma tail (h : Changes x l y) (h' : Change y l' z) : Changes x (l ++ l') z := h.trans (.single h')

lemma preserve {P : Ledger → Scene → Prop} (hp : ∀ vs x l y, Change x l y → P vs x → P (vs ++ l) y)
    (h : Changes x l y) {vs : Ledger} (hx : P vs x) : P (vs ++ l) y := by
  induction h generalizing vs with
  | refl => simpa using hx
  | step hc _ ih =>
    rw [← List.append_assoc]
    exact ih (hp _ _ _ _ hc hx)

end Changes

variable {x y : Scene}

lemma compile_changes (source : String) (x : Scene) : Changes x [] ((Operation.compile source).apply x).2 := by
  change Changes x [] (ofAttempt _).2
  have hn : Change x [] { x with renderer := { x.renderer with source := source } } := .noted _ rfl rfl rfl
  rcases hc : x.renderer.compile source x.uniforms with ⟨a, r, s⟩
  have h := x.renderer.compile_compiles source x.uniforms
  rw [hc] at h
  cases h with
  | unprepared _ => exact .single hn
  | unbuilt _ hb => exact (Changes.single hn).tail (.unbuilt hb)
  | unbuffered _ hb he =>
    have hr : _ = r := congrArg Prod.snd he
    subst hr
    exact ((Changes.single hn).tail (.adopted hb)).tail .buffered
  | compiled ds _ hb he =>
    obtain rfl := congrArg Prod.snd he
    exact (((Changes.single hn).tail (.adopted hb)).tail .buffered).tail (.noted _ rfl rfl rfl)

lemma render_changes (ended : Float32) (x : Scene) : Changes x [] ((Operation.render ended).apply x).2 := by
  change Changes x [] (ofAttempt _).2
  unfold Renderer.render
  cases hp : x.renderer.program with
  | none => exact .refl x
  | some p =>
    cases hn : x.renderer.needsRecompile with
    | false => exact .single (.drawn ended hp)
    | true =>
      have h := compile_changes x.renderer.source x
      simp only [Operation.apply, ofAttempt] at h
      rcases hc : x.renderer.compile x.renderer.source x.uniforms with ⟨e | ds, r, s⟩
      · simpa [hc, ofAttempt] using h
      · rw [hc] at h
        cases hq : r.program with
        | none => simpa [hc, hq, ofAttempt] using h
        | some q => simpa [hc, hq, ofAttempt] using h.tail (.drawn (x := ⟨r, s⟩) ended hq)

lemma storeAll_changes (vs : List (String × Value)) (x : Scene) :
    Changes x (BuiltIn.accepted x.uniforms vs) { x with uniforms := (BuiltIn.storeAll x.uniforms vs).2 } := by
  induction vs generalizing x with
  | nil => exact .refl x
  | cons e vs ih =>
    obtain ⟨name, v⟩ := e
    simp only [BuiltIn.storeAll, BuiltIn.store, BuiltIn.accepted]
    cases hu : x.uniforms.get? name with
    | none => exact ih x
    | some u =>
      have hs := Change.staged v hu
      rcases hv : u.stage v with ⟨e | o, u'⟩ <;> rw [hv] at hs
      · simpa only [hv] using! Changes.single hs
      · simpa only [hv] using! Changes.step hs (ih _)

lemma withUniforms_insert_changes {name : String} {location : Option Location} {v : Value}
    (hl : location = none ∨ location = x.renderer.program.bind (x.device.uniformLocation · name))
    (e : Except Failure Uniform) (he : ∀ u, e = .ok u → ∃ k length, Uniform.create k location length v = .ok u) :
    Changes x (.entry (x.withUniforms (e.map (x.uniforms.insert name))).1 name v)
      (x.withUniforms (e.map (x.uniforms.insert name))).2 := by
  cases e with
  | error e => exact .refl x
  | ok u =>
    obtain ⟨k, length, hc⟩ := he u rfl
    exact .single (.inserted name hc hl)

lemma apply_changes (o : Operation) (x : Scene) : Changes x (o.accepted x) (o.apply x).2 := by
  cases o with
  | compile source => exact compile_changes source x
  | render ended => exact render_changes ended x
  | destroy => exact .single .released
  | update name v =>
    simp only [Operation.accepted, Operation.apply, Renderer.update]
    cases hu : x.uniforms.get? name with
    | none => exact .refl x
    | some u =>
      have hs := Change.stored v hu
      rcases hv : u.update v x.device with ⟨e | o, d, u'⟩ <;> rw [hv] at hs
      · simpa only [hv] using! Changes.single hs
      · simp only [hv]
        exact .step hs (.single (.noted { x.renderer with device := d, needsRecompile := _ } rfl rfl rfl))
  | stage name v =>
    simp only [Operation.accepted, Operation.apply]
    cases hu : x.uniforms.get? name with
    | none => exact .refl x
    | some u => simpa only [Ledger.entry_map] using Changes.single (.staged v hu)
  | store name v =>
    simp only [Operation.accepted, Operation.apply]
    cases hu : x.uniforms.get? name with
    | none => exact .refl x
    | some u => simpa only [Ledger.entry_map] using Changes.single (.stored v hu)
  | refresh now i => exact storeAll_changes _ x
  | insert name k length v =>
    exact withUniforms_insert_changes (.inl rfl) _ fun u hu => ⟨k, length, hu⟩
  | define name v source =>
    exact withUniforms_insert_changes (.inl rfl) _
      fun u hu => Uniform.createInferred_ok hu
  | declare name v =>
    exact withUniforms_insert_changes (.inr rfl) _
      fun u hu => Uniform.createInferred_ok hu
  | arrange f => exact .single (.arranged f)
  | resolve name => exact .single (.resolved name)

/-- What every change keeps, along with the values accepted so far, every run keeps. -/
theorem run_invariant {P : Ledger → Scene → Prop} (hp : ∀ vs x l y, Change x l y → P vs x → P (vs ++ l) y)
    (os : List Operation) {vs : Ledger} (hx : P vs x) : P (vs ++ x.accepted os) (x.run os) := by
  induction os generalizing x vs with
  | nil => simpa [accepted, run] using hx
  | cons o os ih =>
    rw [accepted, ← List.append_assoc]
    exact ih ((apply_changes o x).preserve hp hx)

theorem run_keeps {P : Scene → Prop} (hp : ∀ x l y, Change x l y → P x → P y) (os : List Operation) (hx : P x) :
    P (x.run os) := by
  have h := @run_invariant x (fun _ y => P y) (fun _ x l y hc => hp x l y hc) os []
  exact h hx

end Scene

end ShaderRunner

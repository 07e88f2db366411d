import ShaderRunner.Proofs.FailedCompile
import ShaderRunner.Proofs.StaticTexts

/-!
A compile stores its source before it knows whether it will succeed, so a render finds the source of the last compile,
of whatever outcome, and not the one that its program was built from.
-/

namespace ShaderRunner

namespace Renderer

variable (r : Renderer) (s : UniformSet)

def redraw (source : String) (ended : Float32) : Attempt Unit (Renderer × UniformSet) :=
  match r.compile source s with
  | (.error e, r, s) => (.error e, r, s)
  | (.ok _, r, s) =>
    match r.program with
    | none => (.error .notCompiled, r, s)
    | some p => r.draw p s ended

lemma compile_source (source : String) : (r.compile source s).2.1.source = source := by
  have hc := r.compile_compiles source s
  have hbuffer : ∀ t p d, (r.adopted source t p d).ensureBuffer.2.source = source := by
    intro t p d
    obtain ⟨b, hb⟩ := (r.adopted source t p d).ensureBuffer_eq
    rw [hb]
    rfl
  rcases h : r.compile source s with ⟨a, r', s'⟩
  rw [h] at hc
  cases hc with
  | unprepared _ => rfl
  | unbuilt _ _ => rfl
  | @unbuffered t p d e _ _ _ he =>
    have hb := hbuffer t p d
    rwa [he] at hb
  | @compiled t p d r₁ _ _ _ he =>
    have hb := hbuffer t p d
    rwa [he] at hb

lemma draw_source (p : ProgramHandle) (ended : Float32) : (r.draw p s ended).2.1.source = r.source := by
  rw [draw]
  rcases s.commit p (r.openFrame p) with ⟨e | _, d, s'⟩ <;> rfl

lemma redraw_source (source : String) (ended : Float32) : (r.redraw s source ended).2.1.source = source := by
  have hc := r.compile_source s source
  rw [redraw]
  rcases h : r.compile source s with ⟨e | ds, r', s'⟩ <;> rw [h] at hc
  · exact hc
  · cases hp : r'.program with
    | none => simpa only [hp] using hc
    | some p => simpa only [hp] using (r'.draw_source s' p ended).trans hc

lemma render_eq_redraw (hp : r.program.isSome = true) (hn : r.needsRecompile = true) (ended : Float32) :
    r.render s ended = r.redraw s r.source ended := by
  obtain ⟨p, hp⟩ := Option.isSome_iff_exists.mp hp
  rw [render, hp]
  dsimp only
  rw [if_pos hn]
  rfl

lemma render_source (ended : Float32) : (r.render s ended).2.1.source = r.source := by
  cases hp : r.program with
  | none => rw [render, hp]
  | some p =>
    cases hn : r.needsRecompile with
    | true =>
      rw [r.render_eq_redraw s (by simp [hp]) hn]
      exact r.redraw_source s r.source ended
    | false =>
      rw [render, hp]
      dsimp only
      rw [if_neg (by simp [hn])]
      exact r.draw_source s p ended

structure BuiltFrom (r : Renderer) (source : String) : Prop where
  text : ∃ s t, prepare (r.mode.wrap source) s = .ok t ∧ r.processed = t.source
  buffer : r.vertexBuffer.isSome = true

variable {r s}

lemma BuiltFrom.congr {r' : Renderer} {source : String} (h : r.BuiltFrom source) (hm : r'.mode = r.mode)
    (hp : r'.processed = r.processed) (hv : r'.vertexBuffer = r.vertexBuffer) : r'.BuiltFrom source := by
  refine ⟨?_, hv ▸ h.buffer⟩
  rw [hm, hp]
  exact h.text

lemma ensureBuffer_ok {r' : Renderer} (h : r.ensureBuffer = (.ok (), r')) : r'.vertexBuffer.isSome = true := by
  rw [ensureBuffer] at h
  split at h
  · next hv =>
    obtain rfl := (Prod.mk.inj h).2
    exact hv
  · split at h
    · cases (Prod.mk.inj h).1
    · obtain rfl := (Prod.mk.inj h).2
      rfl

lemma BuiltFrom.compile {source b : String} (h : (r.compile source s).1.isOk = false → r.BuiltFrom b) :
    (r.compile source s).2.1.BuiltFrom (if (r.compile source s).1.isOk then source else b) := by
  have hc := r.compile_compiles source s
  rcases ha : r.compile source s with ⟨a, r', s'⟩
  rw [ha] at h hc
  cases hc with
  | unprepared _ => exact (h rfl).congr rfl rfl rfl
  | unbuilt _ _ => exact (h rfl).congr rfl rfl rfl
  | unbuffered _ _ he =>
    have hv : r.vertexBuffer = none := (ensureBuffer_error he).2
    have hs := (h rfl).buffer
    rw [hv] at hs
    contradiction
  | compiled ds _ _ he =>
    obtain ⟨t, d, p, hp, -, hm, -, ht, -⟩ := compile_ok ha
    have hv := ensureBuffer_ok he
    exact ⟨⟨s, t, by rw [hm]; exact hp, ht⟩, hv⟩

lemma BuiltFrom.draw {b : String} (h : r.BuiltFrom b) (p : ProgramHandle) (ended : Float32) :
    (r.draw p s ended).2.1.BuiltFrom b := by
  rw [Renderer.draw]
  rcases s.commit p (r.openFrame p) with ⟨e | _, d, s'⟩ <;> exact h.congr rfl rfl rfl

lemma BuiltFrom.redraw {source b : String} (h : (r.compile source s).1.isOk = false → r.BuiltFrom b)
    (ended : Float32) :
    (r.redraw s source ended).2.1.BuiltFrom (if (r.compile source s).1.isOk then source else b) := by
  have hc := BuiltFrom.compile h
  rw [Renderer.redraw]
  rcases ha : r.compile source s with ⟨e | ds, r', s'⟩ <;> rw [ha] at hc
  · exact hc
  · cases hp : r'.program with
    | none => simpa only [hp] using hc
    | some p => simpa only [hp] using hc.draw p ended

end Renderer

def Operation.attempt? (o : Operation) (x : Scene) : Option (String × Bool) :=
  let attempt source := some (source, (x.renderer.compile source x.uniforms).1.isOk)
  match o with
  | .compile source => attempt source
  | .render _ => if x.renderer.program.isSome ∧ x.renderer.needsRecompile then attempt x.renderer.source else none
  | _ => none

namespace Scene

def attempts (x : Scene) : List Operation → List (String × Bool)
  | [] => []
  | o :: os => (o.attempt? x).toList ++ attempts (o.apply x).2 os

variable {x y : Scene} {o : Operation}

lemma apply_source (o : Operation) (x : Scene) :
    (o.apply x).2.renderer.source = ((o.attempt? x).map Prod.fst).getD x.renderer.source := by
  cases o with
  | compile source => exact x.renderer.compile_source x.uniforms source
  | render ended =>
    have h : ((Operation.render ended).apply x).2.renderer.source = x.renderer.source :=
      x.renderer.render_source x.uniforms ended
    rw [h, Operation.attempt?]
    split <;> rfl
  | _ => exact (apply_idle (by simp) (by simp) x).source

lemma apply_program (h : o.attempt? x = none) (hp : (o.apply x).2.renderer.program.isSome = true) :
    x.renderer.program.isSome = true := by
  cases o with
  | compile source => contradiction
  | render ended =>
    cases hx : x.renderer.program with
    | some p => rfl
    | none =>
      rw [Operation.apply, Renderer.render, hx] at hp
      exact hx ▸ hp
  | _ => exact (apply_idle (by simp) (by simp) x).program hp

lemma apply_vertexBuffer (hc : ∀ source, o ≠ .compile source) (hr : ∀ ended, o ≠ .render ended) (hd : o ≠ .destroy)
    (x : Scene) : (o.apply x).2.renderer.vertexBuffer = x.renderer.vertexBuffer := by
  obtain ⟨d, n, -, h⟩ := apply_renderer hc hr hd x
  rw [h]

lemma render_builtFrom {b : String} {ended : Float32} (h : x.renderer.BuiltFrom b)
    (hc : ¬ (x.renderer.program.isSome = true ∧ x.renderer.needsRecompile = true)) :
    ((Operation.render ended).apply x).2.renderer.BuiltFrom b := by
  rw [Operation.apply, Renderer.render]
  cases hp : x.renderer.program with
  | none => exact h
  | some p =>
    have hn : ¬ x.renderer.needsRecompile = true := fun hn => hc ⟨by rw [hp]; rfl, hn⟩
    dsimp only
    rw [if_neg hn]
    exact h.draw p ended

lemma apply_builtFrom (hd : o ≠ .destroy) {b : String}
    (h : (o.attempt? x).filter (·.2) = none → x.renderer.BuiltFrom b) :
    (o.apply x).2.renderer.BuiltFrom (((o.attempt? x).filter (·.2)).elim b Prod.fst) := by
  have hattempt : ∀ (source : String) (ok : Bool),
      ((some (source, ok)).filter (·.2)).elim b Prod.fst = if ok then source else b := by
    rintro source (_ | _) <;> rfl
  cases o with
  | compile source =>
    rw [Operation.attempt?] at h ⊢
    rw [hattempt]
    exact .compile fun hf => h (by simp [Option.filter, hf])
  | render ended =>
    rw [Operation.attempt?] at h ⊢
    by_cases hc : x.renderer.program.isSome = true ∧ x.renderer.needsRecompile = true
    · simp only [if_pos hc] at h ⊢
      have hr : ((Operation.render ended).apply x).2.renderer =
          (x.renderer.redraw x.uniforms x.renderer.source ended).2.1 := by
        rw [← x.renderer.render_eq_redraw x.uniforms hc.1 hc.2]
        rfl
      rw [hattempt, hr]
      exact .redraw (fun hf => h (by simp [Option.filter, hf])) ended
    · simp only [if_neg hc] at h ⊢
      exact render_builtFrom (h rfl) hc
  | destroy => contradiction
  | _ =>
    exact (h rfl).congr (apply_idle (by simp) (by simp) x).mode (apply_idle (by simp) (by simp) x).processed
      (apply_vertexBuffer (by simp) (by simp) (by simp) x)

structure Remembers (cs : List (String × Bool)) (x : Scene) : Prop where
  source : ∀ c, cs.getLast? = some c → x.renderer.source = c.1
  program : x.renderer.program.isSome = true → cs ≠ []

variable {cs : List (String × Bool)}

lemma Remembers.step (h : x.Remembers cs) (o : Operation) :
    (o.apply x).2.Remembers (cs ++ (o.attempt? x).toList) := by
  have hs := apply_source o x
  cases ha : o.attempt? x with
  | none =>
    rw [ha] at hs
    rw [Option.toList_none, List.append_nil]
    refine ⟨fun c hc => hs.trans (h.source c hc), fun hp => h.program (apply_program ha hp)⟩
  | some c =>
    rw [ha] at hs
    refine ⟨fun c' hc' => ?_, fun _ => by simp⟩
    obtain rfl : c = c' := by simpa using hc'
    exact hs

lemma Remembers.run (h : x.Remembers cs) (os : List Operation) : (x.run os).Remembers (cs ++ x.attempts os) := by
  induction os generalizing x cs with
  | nil =>
    rw [attempts, List.append_nil]
    exact h
  | cons o os ih =>
    rw [attempts, ← List.append_assoc]
    exact ih (h.step o)

lemma run_builtFrom (os : List Operation) (hd : .destroy ∉ os)
    (h : ∀ b, (cs.filter (·.2)).getLast? = some b → x.renderer.BuiltFrom b.1) :
    ∀ b, ((cs ++ x.attempts os).filter (·.2)).getLast? = some b → (x.run os).renderer.BuiltFrom b.1 := by
  induction os generalizing x cs with
  | nil =>
    rw [attempts, List.append_nil]
    exact h
  | cons o os ih =>
    rw [List.mem_cons, not_or] at hd
    rw [attempts, ← List.append_assoc]
    apply ih hd.2
    intro b hb
    have hstep := apply_builtFrom (x := x) (Ne.symm hd.1) (b := b.1)
    have hlist : (cs ++ (o.attempt? x).toList).filter (·.2) =
        cs.filter (·.2) ++ ((o.attempt? x).filter (·.2)).toList := by
      rw [List.filter_append]
      rcases o.attempt? x with _ | ⟨source, _ | _⟩ <;> rfl
    rw [hlist, List.getLast?_append] at hb
    cases ha : (o.attempt? x).filter (·.2) with
    | none =>
      rw [ha] at hb hstep
      exact hstep fun _ => h b (by simpa using hb)
    | some c =>
      rw [ha] at hb hstep
      obtain rfl : c = b := by simpa using hb
      exact hstep fun hn => by contradiction

/-- A render that finds the flag up compiles the source of the last compile, failed or not. That is the source of
the last compile that succeeded, which the program was built from, exactly if both compiles were given the same. -/
theorem render_recompiles (label : String) (m : Mode) (size : Size) (s : UniformSet) (os : List Operation)
    (ended : Float32) :
    let x := Scene.new label m size s
    let y := x.run os
    y.renderer.program.isSome = true → y.renderer.needsRecompile = true →
      ∃ c, (x.attempts os).getLast? = some c ∧
        y.renderer.render y.uniforms ended = y.renderer.redraw y.uniforms c.1 ended ∧
        ∀ b, ((x.attempts os).filter (·.2)).getLast? = some b →
          (.destroy ∉ os → y.renderer.BuiltFrom b.1) ∧
          (y.renderer.render y.uniforms ended = y.renderer.redraw y.uniforms b.1 ended ↔ c.1 = b.1) := by
  intro x y hp hn
  have h₀ : x.Remembers [] := ⟨fun c hc => by contradiction, fun h => by contradiction⟩
  have h : y.Remembers (x.attempts os) := h₀.run os
  obtain ⟨c, hc⟩ := Option.isSome_iff_exists.mp (List.getLast?_isSome.mpr (h.program hp))
  have hr : y.renderer.render y.uniforms ended = y.renderer.redraw y.uniforms c.1 ended := by
    rw [y.renderer.render_eq_redraw y.uniforms hp hn, h.source c hc]
  refine ⟨c, hc, hr, fun b hb => ⟨fun hd => ?_, fun he => ?_, fun he => by rw [hr, he]⟩⟩
  · have hnone : ∀ b, (([] : List (String × Bool)).filter (·.2)).getLast? = some b → x.renderer.BuiltFrom b.1 :=
      fun b hb => by contradiction
    exact run_builtFrom os hd hnone b hb
  · have hs := congrArg (fun a => a.2.1.source) (hr.symm.trans he)
    simpa only [Renderer.redraw_source] using hs

theorem render_recompiles_repaired :
    let x := Scene.new "scene" .default ⟨8, 8⟩ .empty
    let os := [.insert "n" .static .single (.int 1), .compile "int m = STATIC(m);", .compile "int n = STATIC(n);",
      .update "n" (.int 2)]
    let y := x.run os
    y.renderer.render y.uniforms 0 = y.renderer.redraw y.uniforms "int n = STATIC(n);" 0 := by
  intro x os y
  obtain ⟨hp, hn, hl⟩ : y.renderer.program.isSome = true ∧ y.renderer.needsRecompile = true ∧
      (x.attempts os).getLast? = some ("int n = STATIC(n);", true) := by decide +kernel
  obtain ⟨c, hc, hr, -⟩ := render_recompiles "scene" .default ⟨8, 8⟩ .empty os 0 hp hn
  obtain rfl := Option.some.inj (hl.symm.trans hc)
  exact hr

/-- The static of the program changes after another source has failed: the render compiles the other source. -/
theorem render_recompiles_failed :
    let x := Scene.new "scene" .default ⟨8, 8⟩ .empty
    let os := [.insert "n" .static .single (.int 1), .compile "int n = STATIC(n);", .compile "int m = STATIC(m);",
      .update "n" (.int 2)]
    let y := x.run os
    y.renderer.program.isSome = true ∧ y.renderer.needsRecompile = true ∧
      ((x.attempts os).filter (·.2)).getLast? = some ("int n = STATIC(n);", true) ∧
      (y.renderer.render y.uniforms 0).1 = .error (.missingStatic "m") ∧
      (y.renderer.redraw y.uniforms "int n = STATIC(n);" 0).1 = .ok () := by
  decide +kernel

end Scene

end ShaderRunner

import ShaderRunner.Proofs.AcceptedValues
import ShaderRunner.Proofs.CommitSteps
import ShaderRunner.Proofs.LoadedSession
import ShaderRunner.Proofs.Wrapping

/-!
The device of a loaded session refuses nothing and no step asks for a new program, so a frame fails only where the
value of a built-in uniform does not go into what stands under its name.
-/

namespace ShaderRunner

lemma UniformSet.kinds_modify {s : UniformSet} {name : String} {u u' : Uniform} (hu : s.get? name = some u)
    (hk : u'.kind = u.kind) : (s.modify name fun _ => u').kinds = s.kinds := by
  obtain ⟨a, b, hs, hm⟩ := entries_modify hu
  simp only [kinds, hs, hm, List.map_append, List.map_cons, hk]

namespace BuiltIn

def Fits (ks : List (String × Kind)) (vs : List (String × Value)) : Prop :=
  ∀ e ∈ vs, ∀ k ∈ ks.lookup e.1, k.takes e.2 = true

lemma store_spec (s : UniformSet) (name : String) (v : Value) : (store s name v).2.kinds = s.kinds ∧
    ((store s name v).1 = .ok () ↔ ∀ k ∈ s.kinds.lookup name, k.takes v = true) ∧
      ∀ e, (store s name v).1 = .error e → ∃ k, e = .valueMismatch k v := by
  rw [store, s.lookup_kinds]
  cases hu : s.get? name with
  | none => exact ⟨rfl, by simp, fun e he => by contradiction⟩
  | some u =>
    have hs := UniformSet.kinds_modify hu (u.stage_shape v).kind
    obtain ⟨hok, herror⟩ := u.stage_spec v
    simp only [Option.map_some, Option.mem_def, Option.some.injEq, forall_eq', ← hok]
    rcases h : u.stage v with ⟨e' | o, u'⟩ <;> rw [h] at hs herror
    · refine ⟨hs, by simp [Except.isOk, Except.toBool], fun e he => ?_⟩
      obtain rfl := Except.error.inj he
      exact ⟨u.kind, herror e' rfl⟩
    · exact ⟨hs, by simp [Except.isOk, Except.toBool], fun e he => by contradiction⟩

lemma storeAll_spec (s : UniformSet) (vs : List (String × Value)) : (storeAll s vs).2.kinds = s.kinds ∧
    ((storeAll s vs).1 = .ok () ↔ Fits s.kinds vs) ∧
      ∀ e, (storeAll s vs).1 = .error e → ∃ k v, e = .valueMismatch k v := by
  induction vs generalizing s with
  | nil => exact ⟨rfl, by simp [storeAll, Fits], fun e he => by contradiction⟩
  | cons e vs ih =>
    obtain ⟨name, v⟩ := e
    obtain ⟨hk, hok, herror⟩ := store_spec s name v
    have hfits : Fits s.kinds ((name, v) :: vs) ↔
        (∀ k ∈ s.kinds.lookup name, k.takes v = true) ∧ Fits s.kinds vs := List.forall_mem_cons
    rw [hfits, ← hok, storeAll]
    rcases h : store s name v with ⟨e' | _, s₁⟩ <;> rw [h] at hk herror
    · refine ⟨hk, by simp, fun e he => ?_⟩
      obtain rfl := Except.error.inj he
      obtain ⟨k, hk⟩ := herror e' rfl
      exact ⟨k, v, hk⟩
    · obtain ⟨hks, hoks, herrors⟩ := ih s₁
      have hk : s₁.kinds = s.kinds := hk
      exact ⟨hks.trans hk, by simpa [hk] using hoks, herrors⟩

end BuiltIn

section Refusals

namespace Device

@[simp] lemma toRefusals_record (d : Device) (c : Call) : (d.record c).toRefusals = d.toRefusals := rfl

@[simp] lemma toRefusals_shaderSource (d : Device) (s : ShaderHandle) (source : String) :
    (d.shaderSource s source).toRefusals = d.toRefusals := by
  rw [shaderSource]
  cases d.shader? s <;> rfl

@[simp] lemma toRefusals_compileShader (d : Device) (s : ShaderHandle) : (d.compileShader s).toRefusals = d.toRefusals := rfl

@[simp] lemma toRefusals_deleteShader (d : Device) (s : ShaderHandle) : (d.deleteShader s).toRefusals = d.toRefusals := rfl

@[simp] lemma toRefusals_attachShader (d : Device) (p : ProgramHandle) (s : ShaderHandle) :
    (d.attachShader p s).toRefusals = d.toRefusals := rfl

@[simp] lemma toRefusals_linkProgram (d : Device) (p : ProgramHandle) : (d.linkProgram p).toRefusals = d.toRefusals := rfl

@[simp] lemma toRefusals_deleteProgram (d : Device) (p : ProgramHandle) : (d.deleteProgram p).toRefusals = d.toRefusals := rfl

lemma compileStage_refusals (d : Device) (stage : Stage) (source : String) :
    (d.compileStage stage source).2.toRefusals = d.toRefusals := by
  rw [compileStage, createShader]
  by_cases hr : d.refuses (.shader stage) = true
  · rw [if_pos hr]
  · rw [if_neg hr]
    dsimp only
    split <;> simp

lemma linkStages_refusals (d : Device) (v f : ShaderHandle) : (d.linkStages v f).2.toRefusals = d.toRefusals := by
  rw [linkStages, createProgram]
  by_cases hr : d.refuses .program = true
  · rw [if_pos hr]
    rfl
  · rw [if_neg hr]
    dsimp only
    split <;> simp

lemma buildProgram_refusals (d : Device) (fragment : String) : (d.buildProgram fragment).2.toRefusals = d.toRefusals := by
  rw [buildProgram]
  have hv := d.compileStage_refusals .vertex Boilerplate.vertex
  rcases hcv : d.compileStage .vertex Boilerplate.vertex with ⟨e | v, d₁⟩ <;> rw [hcv] at hv
  · exact hv
  · have hf := d₁.compileStage_refusals .fragment fragment
    dsimp only at hv ⊢
    rcases hcf : d₁.compileStage .fragment fragment with ⟨e | f, d₂⟩ <;> rw [hcf] at hf <;> dsimp only at hf ⊢
    · rw [toRefusals_deleteShader, hf, hv]
    · rw [linkStages_refusals, hf, hv]

end Device

namespace Renderer

variable {r r' : Renderer} {s s' : UniformSet} {source : String} {ds : List Diagnostic}

lemma ensureBuffer_refusals (r : Renderer) : r.ensureBuffer.2.device.toRefusals = r.device.toRefusals := by
  rw [ensureBuffer, Device.createBuffer]
  by_cases hv : r.vertexBuffer.isSome = true
  · rw [if_pos hv]
  · rw [if_neg hv]
    by_cases hr : r.device.refuses .buffer = true
    · rw [if_pos hr]
    · rw [if_neg hr]
      rfl

lemma adopt_refusals (r : Renderer) (p : ProgramHandle) (t : String) (d : Device) :
    (r.adopt p t d).device.toRefusals = d.toRefusals := by
  rw [adopt]
  cases r.program <;> rfl

lemma compile_refusals (h : r.compile source s = (.ok ds, r', s')) : r'.device.toRefusals = r.device.toRefusals := by
  obtain ⟨t, d, p, -, hb, -, -, rfl⟩ := compile_built h
  have hd := r.device.buildProgram_refusals t.source
  rw [hb] at hd
  dsimp only at hd ⊢
  rw [ensureBuffer_refusals, adopted, adopt_refusals, hd]

lemma openFrame_refusals (r : Renderer) (p : ProgramHandle) : (r.openFrame p).toRefusals = r.device.toRefusals := by
  rw [openFrame]
  cases r.positionAttribute <;> rfl

end Renderer

variable {d : Device}

lemma Uniform.commit_willing (u : Uniform) (unit : UInt32) (hd : d.toRefusals = {}) :
    ∃ d' u', u.commit unit d = (.ok (), d', u') ∧ u'.kind = u.kind ∧ d'.toRefusals = {} := by
  have h := u.commit_commits unit d
  generalize u.commit unit d = a at h ⊢
  cases h with
  | refused _ hr =>
    rw [Device.refuses, hd] at hr
    contradiction
  | committed _ hr _ => exact ⟨_, _, rfl, (u.settled_shape d.next).kind, hr.trans hd⟩

lemma commitEntries_willing (p : ProgramHandle) (unit : UInt32) (hd : d.toRefusals = {}) (es : List (String × Uniform)) :
    ∃ d' es', commitEntries p unit d es = (.ok (), d', es') ∧
      es'.map (fun e => (e.1, e.2.kind)) = es.map (fun e => (e.1, e.2.kind)) ∧ d'.toRefusals = {} := by
  induction es generalizing unit d with
  | nil => exact ⟨d, [], rfl, rfl, hd⟩
  | cons e es ih =>
    obtain ⟨name, u⟩ := e
    obtain ⟨d₁, u₁, hc, hk, hd₁⟩ := (u.located d p name).commit_willing (u.unitAfter unit) hd
    obtain ⟨d₂, es₂, hes, hks, hd₂⟩ := ih (u.unitAfter unit) hd₁
    refine ⟨d₂, (name, u₁) :: es₂, ?_, ?_, hd₂⟩
    · simp only [commitEntries_cons, hc, hes]
    · rw [List.map_cons, List.map_cons, hks, hk, Uniform.located_kind]

lemma Renderer.draw_willing {r : Renderer} (p : ProgramHandle) (s : UniformSet) (ended : Float32)
    (hd : r.device.toRefusals = {}) : ∃ r' s', r.draw p s ended = (.ok (), r', s') ∧ s'.kinds = s.kinds ∧
      r'.device.toRefusals = {} ∧ r'.program = r.program ∧ r'.needsRecompile = r.needsRecompile ∧ r'.mode = r.mode := by
  obtain ⟨d, es, hc, hks, hd'⟩ := commitEntries_willing p 0 ((r.openFrame_refusals p).trans hd) s.entries
  rcases hcm : s.commit p (r.openFrame p) with ⟨a, d', s'⟩
  obtain ⟨rfl, rfl, rfl⟩ : a = .ok () ∧ d' = d ∧ s'.entries = es := by
    simpa only [Prod.mk.injEq] using (UniformSet.commit_entries hcm).symm.trans hc
  rw [draw, hcm]
  exact ⟨_, _, rfl, hks, hd', rfl, rfl, rfl⟩

end Refusals

def BuiltIn.undeclared (m : Mode) : List (String × Kind) :=
  (initial m).kinds.filter fun e => e.1 ∉ declaredUniforms m.opening

namespace BuiltIn

variable {ks : List (String × Kind)}

lemma undeclared_default : undeclared .default = [("u_mouse", .vec4)] := by decide +kernel

lemma undeclared_shadertoy : undeclared .shadertoy = [("iFrameRate", .float)] := by decide +kernel

def Clear (m : Mode) (ks : List (String × Kind)) : Prop :=
  ∀ e ∈ undeclared m, ∀ k ∈ ks.lookup e.1, k ∈ [e.2, .static, .unused]

def Keeps (m : Mode) (ks : List (String × Kind)) : Prop :=
  ∀ e ∈ (initial m).kinds, e ∉ undeclared m → ks.lookup e.1 = some e.2

lemma kinds_default : (initial .default).kinds = [("u_resolution", .vec2), ("u_time", .float), ("u_mouse", .vec4)] := by
  rfl

lemma kinds_shadertoy : (initial .shadertoy).kinds = [("iResolution", .vec3), ("iFrame", .int), ("iFrameRate", .float),
    ("iTime", .float), ("iTimeDelta", .float), ("iMouse", .vec4)] := by
  rfl

lemma lookup_initial (m : Mode) : ∀ e ∈ (initial m).kinds, (initial m).kinds.lookup e.1 = some e.2 := by
  cases m <;> decide +kernel

lemma declared (m : Mode) : ∀ e ∈ (initial m).kinds, e ∉ undeclared m →
    ((declaredBy (sourceLines m.opening)).lookup e.1).map Inferred.kind = some (.known e.2) := by
  cases m <;> decide +kernel

lemma fits_values (r : Renderer) (hk : Keeps r.mode ks) (now : Float32) (i : Inputs) :
    Fits ks (values r now i) ↔ Clear r.mode ks := by
  have hvec2 : ∀ w, Kind.vec2.takes (.vec2 w) = true := fun _ => rfl
  have hvec3 : ∀ w, Kind.vec3.takes (.vec3 w) = true := fun _ => rfl
  have hint : ∀ n, Kind.int.takes (.int n) = true := fun _ => rfl
  rw [values]
  cases hm : r.mode with
  | default =>
    have hl : ks.lookup "u_resolution" = some .vec2 ∧ ks.lookup "u_time" = some .float := by
      simpa [hm, Keeps, kinds_default, undeclared_default] using hk
    simp [Clear, Fits, undeclared_default, hl, hvec2, Kind.takes_float, Kind.takes_vec4]
  | shadertoy =>
    have hl : ks.lookup "iResolution" = some .vec3 ∧ ks.lookup "iFrame" = some .int ∧
        ks.lookup "iTime" = some .float ∧ ks.lookup "iTimeDelta" = some .float ∧ ks.lookup "iMouse" = some .vec4 := by
      simpa [hm, Keeps, kinds_shadertoy, undeclared_shadertoy] using hk
    simp [Clear, Fits, undeclared_shadertoy, hl, hvec3, hint, Kind.takes_float, Kind.takes_vec4]

end BuiltIn

namespace Session

inductive Step
  | frame (t : Tick)
  | run (clock : Nat → Tick) (frames : Option UInt32)
  | mouse (m : Mouse)

def Step.apply (o : Step) (s : Session) : Except SessionFailure Unit × Session :=
  match o with
  | frame t => s.frame t
  | run clock frames => ((s.run clock frames).1.map fun _ => (), (s.run clock frames).2)
  | mouse m => (.ok (), s.setMouse m)

def Step.draws (o : Step) (s : Session) : Bool :=
  match o with
  | frame _ => true
  | run _ frames => frames.getD s.frames ≠ 0
  | mouse _ => false

def after (s : Session) : List Step → Session
  | [] => s
  | o :: os => after (o.apply s).2 os

def Succeeds (s : Session) : List Step → Prop
  | [] => True
  | o :: os => (o.apply s).1 = .ok () ∧ Succeeds (o.apply s).2 os

structure Follows (s₀ s : Session) : Prop where
  program : s.renderer.program.isSome = true
  settled : s.renderer.needsRecompile = false
  refused : s.renderer.device.toRefusals = {}
  mode : s.renderer.mode = s₀.renderer.mode
  kinds : s.uniforms.kinds = s₀.uniforms.kinds
  frames : s.frames = s₀.frames

structure Answers (ok : Prop) (a : Except SessionFailure Unit) : Prop where
  ok_iff : a = .ok () ↔ ok
  error : ∀ e, a = .error e → ∃ k v, e = .plain (.valueMismatch k v)

variable {s₀ s : Session}

lemma Answers.of_ok {ok : Prop} (h : ok) : Answers ok (.ok ()) := ⟨by simp [h], fun e he => by contradiction⟩

lemma Follows.frame (hs₀ : BuiltIn.Keeps s₀.renderer.mode s₀.uniforms.kinds) (h : Follows s₀ s) (t : Tick) :
    Follows s₀ (s.frame t).2 ∧ Answers (BuiltIn.Clear s₀.renderer.mode s₀.uniforms.kinds) (s.frame t).1 := by
  obtain ⟨hks, hok, herror⟩ := BuiltIn.storeAll_spec s.uniforms (BuiltIn.values s.renderer t.began s.inputs)
  rw [h.kinds, BuiltIn.fits_values s.renderer (h.mode ▸ hs₀), h.mode] at hok
  rw [Session.frame, BuiltIn.refresh]
  rcases hst : BuiltIn.storeAll s.uniforms (BuiltIn.values s.renderer t.began s.inputs) with ⟨e' | _, uniforms⟩ <;>
    rw [hst] at hks hok herror
  · refine ⟨{ h with kinds := hks.trans h.kinds }, by simpa using hok, fun e he => ?_⟩
    obtain rfl := Except.error.inj he
    obtain ⟨k, v, rfl⟩ := herror e' rfl
    exact ⟨k, v, rfl⟩
  · obtain ⟨p, hp⟩ := Option.isSome_iff_exists.mp h.program
    obtain ⟨r, s', hdraw, hks', hr, hpr, hn, hm⟩ := Renderer.draw_willing p uniforms t.ended h.refused
    have hrender : s.renderer.render uniforms t.ended = (.ok (), r, s') := by
      simp [Renderer.render, hp, h.settled, hdraw]
    dsimp only
    rw [hrender]
    exact ⟨⟨hpr ▸ h.program, hn.trans h.settled, hr, hm.trans h.mode, hks'.trans (hks.trans h.kinds), h.frames⟩,
      .of_ok (hok.mp rfl)⟩

lemma Follows.drawFrames (hs₀ : BuiltIn.Keeps s₀.renderer.mode s₀.uniforms.kinds) (h : Follows s₀ s)
    (clock : Nat → Tick) (n : Nat) : Follows s₀ (drawFrames clock n s).2 ∧
      Answers (n = 0 ∨ BuiltIn.Clear s₀.renderer.mode s₀.uniforms.kinds) (drawFrames clock n s).1 := by
  induction n generalizing s with
  | zero => exact ⟨h, .of_ok (.inl rfl)⟩
  | succ n ih =>
    obtain ⟨hf, hok, herror⟩ := h.frame hs₀ (clock s.renderer.frame)
    rw [Session.drawFrames]
    rcases hfr : s.frame (clock s.renderer.frame) with ⟨e | _, s'⟩ <;> rw [hfr] at hf hok herror
    · exact ⟨hf, by simpa using hok, herror⟩
    · obtain ⟨hn, ha⟩ := ih hf
      have hc := hok.mp rfl
      refine ⟨hn, ⟨?_, ha.error⟩⟩
      rw [ha.ok_iff]
      simp [hc]

lemma Follows.step (hs₀ : BuiltIn.Keeps s₀.renderer.mode s₀.uniforms.kinds) (h : Follows s₀ s) (o : Step) :
    Follows s₀ (o.apply s).2 ∧
      Answers (o.draws s₀ = false ∨ BuiltIn.Clear s₀.renderer.mode s₀.uniforms.kinds) (o.apply s).1 := by
  cases o with
  | frame t =>
    obtain ⟨hf, ha⟩ := h.frame hs₀ t
    exact ⟨hf, by simpa [Step.draws] using! ha⟩
  | run clock frames =>
    obtain ⟨hf, ha⟩ := h.drawFrames hs₀ clock (frames.getD s.frames).toNat
    have hz : (frames.getD s.frames).toNat = 0 ↔ (Step.run clock frames).draws s₀ = false := by
      simp [Step.draws, h.frames, ← UInt32.toNat_inj]
    rw [hz] at ha
    rw [Step.apply, Session.run]
    rcases hd : Session.drawFrames clock (frames.getD s.frames).toNat s with ⟨e | _, s'⟩ <;> rw [hd] at hf ha <;>
      exact ⟨hf, ha⟩
  | mouse m => exact ⟨⟨h.program, h.settled, h.refused, h.mode, h.kinds, h.frames⟩, .of_ok (.inl rfl)⟩

lemma Follows.after (hs₀ : BuiltIn.Keeps s₀.renderer.mode s₀.uniforms.kinds) (h : Follows s₀ s) (os : List Step) :
    Follows s₀ (s.after os) ∧ (s.Succeeds os ↔
      (∀ o ∈ os, o.draws s₀ = false) ∨ BuiltIn.Clear s₀.renderer.mode s₀.uniforms.kinds) := by
  induction os generalizing s with
  | nil => exact ⟨h, by simp [Succeeds]⟩
  | cons o os ih =>
    obtain ⟨hf, ha⟩ := h.step hs₀ o
    obtain ⟨hafter, hok⟩ := ih hf
    refine ⟨hafter, ?_⟩
    rw [Succeeds, ha.ok_iff, hok, List.forall_mem_cons]
    tauto

variable {m : Manifest} {f : Files} {path : String}

lemma load_follows (hm : Manifest.load f path = .ok m) (h : load f path = .ok s) : Follows s s := by
  obtain ⟨-, -, s₀, ds, -, hc⟩ := load_ok hm h
  obtain ⟨-, d, p, -, -, -, -, -, hn⟩ := Renderer.compile_ok hc
  obtain ⟨t, d', p', -, -, -, -, hr⟩ := Renderer.compile_built hc
  refine ⟨?_, hn, (Renderer.compile_refusals hc).trans rfl, rfl, rfl, rfl⟩
  rw [hr]
  dsimp only
  rw [Renderer.ensureBuffer_program]
  rfl

lemma load_keeps (hm : Manifest.load f path = .ok m) (h : load f path = .ok s) :
    BuiltIn.Keeps s.renderer.mode s.uniforms.kinds := by
  intro e he hu
  obtain ⟨hentry, hother⟩ := load_kinds hm h e.1
  by_cases hn : e.1 ∈ m.uniforms.map UniformEntry.name
  · obtain ⟨k, hk, hi⟩ := hentry hn
    obtain ⟨i, hl, hik⟩ := Option.map_eq_some_iff.mp (BuiltIn.declared _ e he hu)
    rw [wrapped, Mode.infer_wrap, hl, Option.getD_some, hik] at hi
    rw [hk, Inferred.Kind.known.inj hi]
  · rw [hother hn, BuiltIn.lookup_initial _ e he]

lemma load_clear (hm : Manifest.load f path = .ok m) (h : load f path = .ok s) :
    BuiltIn.Clear s.renderer.mode s.uniforms.kinds ↔ ∀ e ∈ m.uniforms, ∀ k,
      (e.name, k) ∈ BuiltIn.undeclared s.renderer.mode →
        (infer e.name s.wrapped).kind ∈ [.known k, .known .static, .known .unused] := by
  constructor
  · intro hc e he k hk
    obtain ⟨k', hl, hi⟩ := (load_kinds hm h e.name).1 (List.mem_map_of_mem he)
    have := hc _ hk k' hl
    rw [hi]
    simpa using this
  · rintro hc ⟨name, k⟩ hk k' hl
    obtain ⟨hentry, hother⟩ := load_kinds hm h name
    by_cases hn : name ∈ m.uniforms.map UniformEntry.name
    · obtain ⟨e, he, rfl⟩ := List.mem_map.mp hn
      obtain ⟨k₁, hl₁, hi⟩ := hentry hn
      obtain rfl : k₁ = k' := Option.some.inj (hl₁.symm.trans hl)
      have := hc e he k hk
      rw [hi] at this
      simpa using this
    · have hk₁ := BuiltIn.lookup_initial _ _ (List.mem_of_mem_filter hk)
      obtain rfl : k = k' := Option.some.inj (hk₁.symm.trans ((hother hn).symm.trans hl))
      simp

/-- A loaded session runs, whatever it draws, exactly if no entry gives to a built-in that the mode leaves undeclared
another kind than its own. A step that fails, whatever came before it, has a value that does not fit. -/
theorem load_steps (hm : Manifest.load f path = .ok m) (h : load f path = .ok s) (os : List Step) :
    (s.Succeeds os ↔ (∀ o ∈ os, o.draws s = false) ∨ ∀ e ∈ m.uniforms, ∀ k,
      (e.name, k) ∈ BuiltIn.undeclared s.renderer.mode →
        (infer e.name s.wrapped).kind ∈ [.known k, .known .static, .known .unused]) ∧
      ∀ (o : Step) (e : SessionFailure), (o.apply (s.after os)).1 = .error e →
        ∃ k v, e = .plain (.valueMismatch k v) := by
  have hk := load_keeps hm h
  obtain ⟨hafter, hsucceeds⟩ := (load_follows hm h).after hk os
  rw [load_clear hm h] at hsucceeds
  exact ⟨hsucceeds, fun o => ((hafter.step hk o).2).error⟩

theorem load_steps_pointer :
    let text := "[shader]\npath = \"a\"\n[[uniform]]\nname = \"u_mouse\"\nvalue = [0, 0, 0, 0]\n" ++
      "[[uniform]]\nname = \"n\"\nstatic = 1"
    let f : Files := ⟨fun p =>
      if p = "v.toml" then .ok (.text text)
      else if p = "a" then .ok (.text "uniform vec4 u_mouse;\nint k = STATIC(n);")
      else .error .notFound⟩
    ∃ s, load f "v.toml" = .ok s ∧
      s.Succeeds [.run (fun _ => ⟨0, 1⟩) (some 2), .mouse { x := 1, down := true }, .frame ⟨1, 2⟩] := by
  intro text f
  let m : Manifest :=
    { shader := { path := some "a" }
      uniforms := [{ name := "u_mouse", value := some (.vector [0, 0, 0, 0]) }, { name := "n", static := some (.int 1) }] }
  let source : String := "uniform vec4 u_mouse;\nint k = STATIC(n);"
  have hm : Manifest.load f "v.toml" = .ok m := by decide +kernel
  have hload : (load f "v.toml").toOption.map (fun s => (s.wrapped, s.renderer.mode)) =
      some (Mode.default.wrap source, .default) := by decide +kernel
  obtain ⟨s, hs, hfacts⟩ := exists_of_toOption hload
  obtain ⟨hwrapped, hmode⟩ := Prod.mk.inj hfacts
  have hkinds : ∀ e ∈ m.uniforms, ∀ k ∈ Kind.all, (e.name, k) ∈ BuiltIn.undeclared .default →
      (infer e.name (Mode.default.wrap source)).kind ∈ [.known k, .known .static, .known .unused] := by decide +kernel
  refine ⟨s, hs, (load_steps hm hs _).1.mpr (.inr fun e he k hk => ?_)⟩
  rw [hwrapped]
  rw [hmode] at hk
  exact hkinds e he k (by cases k <;> decide) hk

/-- An entry for the pointer that the shader declares as a number: the session is loaded, and no frame is drawn. -/
theorem load_steps_number :
    let text := "[shader]\npath = \"a.frag\"\n[[uniform]]\nname = \"u_mouse\"\nvalue = 1.0"
    let f : Files := ⟨fun p =>
      if p = "vader.toml" then .ok (.text text)
      else if p = "a.frag" then .ok (.text "uniform float u_mouse;")
      else .error .notFound⟩
    ∃ s, load f "vader.toml" = .ok s ∧ ¬ s.Succeeds [.frame ⟨0, 0⟩] ∧
      (s.frame ⟨0, 0⟩).1 = .error (.plain (.valueMismatch .float (.vec4 ⟨0, 0, 0, 0⟩))) := by
  intro text f
  have hload : (load f "vader.toml").toOption.map (fun s =>
      (s.frame ⟨0, 0⟩).1) = some (.error (.plain (.valueMismatch .float (.vec4 ⟨0, 0, 0, 0⟩)))) := by decide +kernel
  obtain ⟨s, h, hs⟩ := exists_of_toOption hload
  refine ⟨s, h, fun hsucceeds => ?_, hs⟩
  have hok := hsucceeds.1
  rw [Step.apply, hs] at hok
  contradiction

end Session

end ShaderRunner

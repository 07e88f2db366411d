import ShaderRunner.Device.Statistics
import ShaderRunner.Proofs.Change
import ShaderRunner.Proofs.ProgramBuild
import ShaderRunner.Proofs.Textures

/-!
Building programs and opening a frame leave uploads and texture units alone; a sampler binds the texture that it
builds, uploads its unit and binds its texture there.
-/

namespace ShaderRunner

def Call.plain : Call → Bool
  | uniform1i .. | uniform1f .. | uniform2f .. | uniform3f .. | uniform4f .. | uniform3fv .. | activeTexture _
  | bindTexture2d _ => false
  | _ => true

def Call.readies : Call → Bool
  | createBuffer _ | bindArrayBuffer _ | arrayBufferData _ => true
  | c => c.builds

def Call.opens : Call → Bool
  | viewport .. | useProgram _ | enableVertexAttribArray _ | bindArrayBuffer _ | vertexAttribPointer .. => true
  | _ => false

lemma Call.plain_of_readies {c : Call} (h : c.readies = true) : c.plain = true := by
  cases c <;> first | rfl | contradiction

lemma Call.plain_of_opens {c : Call} (h : c.opens = true) : c.plain = true := by
  cases c <;> first | rfl | contradiction

lemma Call.readies_of_builds {c : Call} (h : c.builds = true) : c.readies = true := by
  cases c <;> first | rfl | contradiction

lemma Call.uploadLocation?_of_plain {c : Call} (h : c.plain = true) : c.uploadLocation? = none := by
  cases c <;> first | rfl | contradiction

namespace Device

def Adds (kind : Call → Bool) (d d' : Device) : Prop := ∃ cs, d'.log = d.log ++ cs ∧ ∀ c ∈ cs, kind c = true

variable {d d' d'' : Device} {kind kind' : Call → Bool} {c : Call}

lemma Adds.of_log (h : d'.log = d.log) : Adds kind d d' := ⟨[], by simp [h], by simp⟩

lemma Adds.refl (d : Device) : Adds kind d d := .of_log rfl

lemma Adds.trans (h : Adds kind d d') (h' : Adds kind d' d'') : Adds kind d d'' := by
  obtain ⟨cs, hl, hc⟩ := h
  obtain ⟨cs', hl', hc'⟩ := h'
  refine ⟨cs ++ cs', by rw [hl', hl, List.append_assoc], fun c hm => ?_⟩
  rcases List.mem_append.mp hm with hm | hm
  · exact hc c hm
  · exact hc' c hm

lemma Adds.record (h : Adds kind d d') (hc : kind c = true) : Adds kind d (d'.record c) :=
  h.trans ⟨[c], log_record d' c, by simpa using hc⟩

lemma Adds.mono (h : Adds kind d d') (hk : ∀ c, kind c = true → kind' c = true) : Adds kind' d d' := by
  obtain ⟨cs, hl, hc⟩ := h
  exact ⟨cs, hl, fun c hm => hk c (hc c hm)⟩

lemma Built.readies (h : d.Built d') : Adds Call.readies d d' :=
  Adds.mono h.log fun _ => Call.readies_of_builds

lemma uploads_of_log {cs : List Call} (h : d'.log = d.log ++ cs) :
    d'.uploads = d.uploads ++ cs.filter (·.uploadLocation?.isSome) := by
  have hl : d'.uploads = d'.log.filter (·.uploadLocation?.isSome) := rfl
  rw [hl, h, List.filter_append]
  rfl

lemma Adds.uploads (h : Adds Call.plain d d') : d'.uploads = d.uploads := by
  obtain ⟨cs, hl, hc⟩ := h
  have hn : cs.filter (·.uploadLocation?.isSome) = [] := by
    rw [List.filter_eq_nil_iff]
    intro c hm
    simp [Call.uploadLocation?_of_plain (hc c hm)]
  rw [uploads_of_log hl, hn, List.append_nil]

lemma makeTexture_log {size : Size} {t : TextureHandle} (h : d.makeTexture size = (some t, d')) :
    d'.log = d.log ++ [.createTexture t, .bindTexture2d (some t), .textureWrap .clampToEdge,
      .textureFilter .linear, .texImage2d size] := by
  unfold makeTexture createTexture at h
  by_cases hr : d.refuses .texture = true
  · simp [hr] at h
  · simp only [hr, Bool.false_eq_true, if_false, Prod.mk.injEq, Option.some.injEq] at h
    obtain ⟨rfl, rfl⟩ := h
    simp only [log_record, List.append_assoc]
    rfl

end Device

open Device (Adds)

namespace Renderer

variable {r r' : Renderer} {s s' : UniformSet} {source : String}

lemma adopt_readies (r : Renderer) (p : ProgramHandle) (t : String) (d : Device) :
    Adds Call.readies d (r.adopt p t d).device := by
  unfold adopt
  cases r.program with
  | none => exact .refl d
  | some q => exact .record (.refl d) rfl

lemma ensureBuffer_readies (r : Renderer) : Adds Call.readies r.device r.ensureBuffer.2.device := by
  unfold ensureBuffer Device.createBuffer
  by_cases hv : r.vertexBuffer.isSome = true
  · simp only [hv, if_true]
    exact .refl _
  · by_cases hr : r.device.refuses .buffer = true
    · simp only [hv, hr, Bool.false_eq_true, if_false, if_true]
      exact .refl _
    · simp only [hv, hr, Bool.false_eq_true, if_false]
      exact .record (.record ⟨[_], Device.log_record _ _, by simp [Call.readies]⟩ rfl) rfl

lemma compile_readies (hd : r.device.Numbered) {a : Except Failure (List Diagnostic)}
    (h : r.compile source s = (a, r', s')) : Adds Call.readies r.device r'.device := by
  have hc := r.compile_compiles source s
  rw [h] at hc
  have hb : ∀ {t : Prepared} {p d}, r.device.buildProgram t.source = (.ok p, d) →
      Adds Call.readies r.device (r.adopted source t p d).device := by
    intro t p d hb
    obtain ⟨hbu, -, -⟩ := Device.buildProgram_spec hd t.source
    rw [hb] at hbu
    exact hbu.readies.trans (Renderer.adopt_readies _ _ _ _)
  cases hc with
  | unprepared _ => exact .refl _
  | @unbuilt t _ _ _ hb =>
    obtain ⟨hbu, -, -⟩ := Device.buildProgram_spec hd t.source
    rw [hb] at hbu
    exact hbu.readies
  | @unbuffered t p d _ _ _ hb' he =>
    have hr : (r.adopted source t p d).ensureBuffer.2 = r' := congrArg Prod.snd he
    exact hr ▸ (hb hb').trans (r.adopted source t p d).ensureBuffer_readies
  | @compiled t p d r₁ _ _ hb' he =>
    have hr : (r.adopted source t p d).ensureBuffer.2 = r₁ := congrArg Prod.snd he
    exact hr ▸ (hb hb').trans (r.adopted source t p d).ensureBuffer_readies

lemma compile_plain (hd : r.device.Tracked) {a : Except Failure (List Diagnostic)}
    (h : r.compile source s = (a, r', s')) : Adds Call.plain r.device r'.device :=
  (compile_readies hd.numbered h).mono fun _ => Call.plain_of_readies

lemma openFrame_opens (r : Renderer) (p : ProgramHandle) : Adds Call.opens r.device (r.openFrame p) := by
  unfold openFrame Device.useProgram
  have hf : Adds Call.opens r.device ((r.device.record (.viewport 0 0 r.device.size)).record (.useProgram (some p))) :=
    ((Adds.refl _).record rfl).record rfl
  split
  · exact hf
  · exact ((hf.record rfl).record rfl).record rfl

lemma openFrame_plain (r : Renderer) (p : ProgramHandle) : Adds Call.plain r.device (r.openFrame p) :=
  (r.openFrame_opens p).mono fun _ => Call.plain_of_opens

end Renderer

variable {d d' : Device}

lemma Sampler.build_log {s s' : Sampler} {i : Image} (h : s.build i d = (some s', d')) :
    ∃ t d₁, s' = { s with texture := some t, built := some i } ∧ Adds Call.plain d d₁ ∧
      Adds Call.plain (d₁.record (.bindTexture2d (some t))) d' := by
  obtain ⟨t, d₁, hm, hs, hd⟩ := build_some h
  have hl := Device.makeTexture_log hm
  have h₁ : Adds Call.plain ((d.record (.createTexture t)).record (.bindTexture2d (some t))) d₁ :=
    ⟨[.textureWrap .clampToEdge, .textureFilter .linear, .texImage2d (i.size.normalized 0)],
      by simp only [hl, Device.log_record, List.append_assoc]; rfl, by simp [Call.plain]⟩
  refine ⟨t, d.record (.createTexture t), hs, (Adds.refl d).record rfl, ?_⟩
  rcases hd with ⟨-, rfl⟩ | ⟨old, -, rfl⟩
  · exact h₁
  · exact h₁.trans ⟨[_], Device.log_record _ _, by simp [Call.plain]⟩

lemma Uniform.commitSampler_ok {u u' : Uniform} {unit : UInt32} (h : u.commitSampler unit d = (.ok (), d', u')) :
    ∃ s s' d₁, u.sampler? = some s ∧ s.settle d = (.ok s', d₁) ∧ u' = { u with payload := .sampler s' } ∧
      d' = s'.bind unit ((u.location.map (Call.uniform1i · unit.toInt32)).elim d₁ d₁.record) := by
  unfold commitSampler at h
  cases hs : u.sampler? with
  | none => simp [hs] at h
  | some s =>
    rcases hc : s.settle d with ⟨e | s', d₁⟩
    · simp [hs, hc] at h
    · simp only [hs, hc, Prod.mk.injEq, true_and] at h
      obtain ⟨rfl, rfl⟩ := h
      refine ⟨s, s', d₁, rfl, hc, rfl, ?_⟩
      cases u.location <;> rfl

def Uniform.unitAfter (u : Uniform) (unit : UInt32) : UInt32 := if u.kind.takesUnit then unit + 1 else unit

lemma Uniform.SameShape.unitAfter {u u' : Uniform} (h : u.SameShape u') (unit : UInt32) :
    u'.unitAfter unit = u.unitAfter unit := by
  simp only [Uniform.unitAfter, h.kind]

@[simp] lemma Uniform.located_unitAfter (u : Uniform) (d : Device) (p : ProgramHandle) (name : String)
    (unit : UInt32) : (u.located d p name).unitAfter unit = u.unitAfter unit := by
  simp only [unitAfter, located_kind]

lemma commitEntries_cons (p : ProgramHandle) (unit : UInt32) (d : Device) (name : String) (u : Uniform)
    (es : List (String × Uniform)) : commitEntries p unit d ((name, u) :: es) =
      match (u.located d p name).commit (u.unitAfter unit) d with
      | (.error e, d', u') => (.error e, d', (name, u') :: es)
      | (.ok (), d', u') =>
        match commitEntries p (u.unitAfter unit) d' es with
        | (a, d'', es') => (a, d'', (name, u') :: es') := by
  simp only [commitEntries, Uniform.located_kind]
  rfl

lemma commitEntries_cons_ok {p : ProgramHandle} {unit : UInt32} {name : String} {u : Uniform}
    {es es' : List (String × Uniform)} (h : commitEntries p unit d ((name, u) :: es) = (.ok (), d', es')) :
    ∃ d₁ u₁ es₁, (u.located d p name).commit (u.unitAfter unit) d = (.ok (), d₁, u₁) ∧
      (u.located d p name).SameShape u₁ ∧ u₁.unitAfter unit = u.unitAfter unit ∧
      commitEntries p (u.unitAfter unit) d₁ es = (.ok (), d', es₁) ∧ es' = (name, u₁) :: es₁ := by
  rw [commitEntries_cons] at h
  rcases hc : (u.located d p name).commit (u.unitAfter unit) d with ⟨e | _, d₁, u₁⟩
  · simp [hc] at h
  · rcases hr : commitEntries p (u.unitAfter unit) d₁ es with ⟨a, d₂, es₁⟩
    simp only [hc, hr, Prod.mk.injEq] at h
    obtain ⟨rfl, rfl, rfl⟩ := h
    have hs := (u.located d p name).commit_shape (u.unitAfter unit) d
    rw [hc] at hs
    exact ⟨d₁, u₁, es₁, rfl, hs, (hs.unitAfter unit).trans (u.located_unitAfter d p name unit), hr, rfl⟩

lemma UniformSet.commit_entries {s s' : UniformSet} {p : ProgramHandle} {a : Except Failure Unit}
    (h : s.commit p d = (a, d', s')) : commitEntries p 0 d s.entries = (a, d', s'.entries) := by
  obtain ⟨ha, h'⟩ := Prod.mk.inj h
  obtain ⟨hd, hs⟩ := Prod.mk.inj h'
  rw [← ha, ← hd, ← hs]
  rfl

namespace Scene

variable {x : Scene} {ended : Float32}

lemma render_frame (hd : x.device.Tracked) (h : ((Operation.render ended).apply x).1 = .ok ()) :
    ∃ y p d s, Changes x [] y ∧ Adds Call.plain x.device y.device ∧
      (y.uniforms = x.uniforms ∨ ∃ d q, y.uniforms = x.uniforms.relocate d q) ∧ y.renderer.program = some p ∧
      y.uniforms.commit p (y.renderer.openFrame p) = (.ok (), d, s) ∧
      ((Operation.render ended).apply x).2 = ⟨{ y.renderer with
        device := d.record (.drawTriangles 0 6)
        frame := y.renderer.frame + 1
        lastFrameTime := ended }, s⟩ := by
  simp only [Operation.apply, ofAttempt] at h ⊢
  rcases hr : x.renderer.render x.uniforms ended with ⟨e | _, r, s⟩
  · simp [hr, Except.map] at h
  · obtain ⟨r₁, s₁, p, hc, hp, hdraw⟩ := Renderer.render_ok hr
    obtain ⟨d, hcm, rfl⟩ := Renderer.draw_ok hdraw
    refine ⟨⟨r₁, s₁⟩, p, d, s, ?_, ?_, ?_, hp, hcm, rfl⟩
    · rcases hc with ⟨-, rfl, rfl⟩ | ⟨-, ds, hc⟩
      · exact .refl x
      · have hx := compile_changes x.renderer.source x
        simpa only [Operation.apply, ofAttempt, hc] using hx
    · rcases hc with ⟨-, rfl, rfl⟩ | ⟨-, ds, hc⟩
      · exact .refl _
      · exact Renderer.compile_plain hd hc
    · rcases hc with ⟨-, rfl, rfl⟩ | ⟨-, ds, hc⟩
      · exact .inl rfl
      · have hx := x.renderer.compile_compiles x.renderer.source x.uniforms
        rw [hc] at hx
        cases hx with
        | compiled _ _ _ _ => exact .inr ⟨_, _, rfl⟩

end Scene

end ShaderRunner

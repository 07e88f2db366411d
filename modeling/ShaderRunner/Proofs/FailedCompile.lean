import ShaderRunner.Proofs.AtOnce
import ShaderRunner.Proofs.Ownership

/-! The current program gives way only to one that has linked, and all that comes after it is the vertex buffer. -/

namespace ShaderRunner

section Causes

variable {source : List Char} {es : List (String × Uniform)} {e : Failure} {d : Device}

lemma scanSource_error_ne (h : scanSource source = .error e) : e ≠ .refused .buffer := by
  obtain ⟨t, -, rfl⟩ := scanSource_error_iff.mp h
  exact Failure.noConfusion

lemma replaceCalls_error_ne {name value : List Char} (h : replaceCalls source name value = .error e) :
    e ≠ .refused .buffer := by
  rw [replaceCalls] at h
  rcases bind_eq_error h with h | ⟨ps, -, h⟩
  · exact scanSource_error_ne h
  · split at h <;> contradiction

lemma fillStatics_error_ne (h : fillStatics source es = .error e) : e ≠ .refused .buffer := by
  induction es generalizing source with
  | nil => contradiction
  | cons x es ih =>
    obtain ⟨name, u⟩ := x
    cases hu : u.static? with
    | none =>
      rw [fillStatics_other hu] at h
      exact ih h
    | some t =>
      rcases hr : replaceCalls source name.toList t.toList with e' | _ | filled
      · rw [fillStatics_error hu hr] at h
        obtain rfl := Except.error.inj h
        exact replaceCalls_error_ne hr
      · rw [fillStatics_unnamed hu hr] at h
        rcases bind_eq_error h with h | ⟨x, -, h⟩
        · exact ih h
        · contradiction
      · rw [fillStatics_named hu hr] at h
        exact ih h

lemma resolveDefaults_error_ne (h : resolveDefaults source = .error e) : e ≠ .refused .buffer := by
  rw [resolveDefaults] at h
  rcases bind_eq_error h with h | ⟨ps, -, h⟩
  · exact scanSource_error_ne h
  · split at h
    · obtain rfl := Except.error.inj h
      exact Failure.noConfusion
    · contradiction

lemma prepare_error_ne {source : String} {s : UniformSet} (h : prepare source s = .error e) :
    e ≠ .refused .buffer := by
  rw [prepare] at h
  rcases bind_eq_error h with h | ⟨x, -, h⟩
  · exact fillStatics_error_ne h
  · rcases bind_eq_error h with h | ⟨t, -, h⟩
    · exact resolveDefaults_error_ne h
    · contradiction

namespace Device

lemma compileStage_error_ne {stage : Stage} {source : String} (h : (d.compileStage stage source).1 = .error e) :
    e ≠ .refused .buffer := by
  rw [compileStage] at h
  split at h
  · obtain rfl := Except.error.inj h
    simp
  · dsimp only at h
    split at h
    · contradiction
    · obtain rfl := Except.error.inj h
      exact Failure.noConfusion

lemma linkStages_error_ne {v f : ShaderHandle} (h : (d.linkStages v f).1 = .error e) : e ≠ .refused .buffer := by
  rw [linkStages] at h
  split at h
  · obtain rfl := Except.error.inj h
    simp
  · dsimp only at h
    split at h
    · contradiction
    · obtain rfl := Except.error.inj h
      exact Failure.noConfusion

lemma buildProgram_error_ne {fragment : String} (h : (d.buildProgram fragment).1 = .error e) :
    e ≠ .refused .buffer := by
  rw [buildProgram] at h
  split at h
  · next hv =>
    obtain rfl := Except.error.inj h
    exact compileStage_error_ne (congrArg Prod.fst hv)
  · split at h
    · next hf =>
      obtain rfl := Except.error.inj h
      exact compileStage_error_ne (congrArg Prod.fst hf)
    · exact linkStages_error_ne h

end Device

lemma Renderer.ensureBuffer_error {r r' : Renderer} (h : r.ensureBuffer = (.error e, r')) :
    e = .refused .buffer ∧ r.vertexBuffer = none := by
  rw [ensureBuffer] at h
  split at h
  · cases congrArg Prod.fst h
  · next hv =>
    refine ⟨?_, by simpa using hv⟩
    split at h
    · exact (Except.error.inj (congrArg Prod.fst h)).symm
    · cases congrArg Prod.fst h

end Causes

namespace Device

variable {d : Device}

lemma Numbered.deleteProgram (hd : d.Numbered) (p : ProgramHandle) : (d.deleteProgram p).Numbered := by
  refine hd.mono (Nat.le_refl _) (fun _ h => .inl h) fun q h => .inl ?_
  exact (List.filter_sublist.map Prod.fst).subset h

lemma Numbered.deleteBuffer (hd : d.Numbered) (b : BufferHandle) : (d.deleteBuffer b).Numbered :=
  hd.mono (Nat.le_refl _) (fun _ h => .inl h) fun _ h => .inl h

end Device

namespace Renderer

variable {r r' : Renderer} {s s' : UniformSet} {d : Device} {p : ProgramHandle}

structure Numbered (r : Renderer) : Prop where
  device : r.device.Numbered
  program : ∀ p ∈ r.program, p.id < r.device.next

lemma Numbered.withDevice (h : r.Numbered) (hn : r.device.next ≤ d.next) (hs : d.shaders = r.device.shaders)
    (hp : d.programs = r.device.programs) : ({ r with device := d } : Renderer).Numbered :=
  ⟨h.device.mono hn (fun _ hm => .inl (hs ▸ hm)) fun _ hm => .inl (hp ▸ hm),
    fun p hm => Nat.lt_of_lt_of_le (h.program p hm) hn⟩

lemma Numbered.framed (h : r.Numbered) (hf : r.device.Framed d) : ({ r with device := d } : Renderer).Numbered :=
  h.withDevice hf.next hf.shaders hf.programs

lemma Numbered.adopt (h : r.Numbered) {t : String} (hb : r.device.buildProgram t = (.ok p, d)) (u : String) :
    (r.adopt p u d).Numbered := by
  obtain ⟨hbu, hs, hp⟩ := Device.buildProgram_spec h.device t
  rw [hb] at hbu hs hp
  obtain ⟨-, hlt, z, -, hz⟩ := hp
  dsimp only at hbu hs hlt hz
  have hd : d.Numbered := by
    refine h.device.mono hbu.next (fun _ hm => .inl (hs ▸ hm)) fun q hm => ?_
    rw [hz, List.map_append, List.mem_append] at hm
    refine hm.imp_right fun hq => ?_
    obtain rfl : q = p := by simpa using hq
    exact hlt
  rw [Renderer.adopt]
  cases r.program with
  | none => exact ⟨hd, fun q hq => Option.some.inj hq ▸ hlt⟩
  | some old => exact ⟨hd.deleteProgram old, fun q hq => Option.some.inj hq ▸ hlt⟩

lemma ensureBuffer_next (r : Renderer) : r.device.next ≤ r.ensureBuffer.2.device.next := by
  rw [ensureBuffer, Device.createBuffer]
  by_cases hv : r.vertexBuffer.isSome = true
  · simp [hv]
  · by_cases hr : r.device.refuses .buffer = true <;> simp [hv, hr]

lemma Numbered.ensureBuffer (h : r.Numbered) : r.ensureBuffer.2.Numbered := by
  obtain ⟨hp, hs, -, -⟩ := r.ensureBuffer_device
  obtain ⟨b, hb⟩ := r.ensureBuffer_eq
  have hd := h.withDevice r.ensureBuffer_next hs hp
  rw [hb]
  exact ⟨hd.device, hd.program⟩

lemma Numbered.destroy (h : r.Numbered) : r.destroy.Numbered := by
  refine ⟨?_, by simp [Renderer.destroy]⟩
  rw [Renderer.destroy]
  cases r.program <;> cases r.vertexBuffer
  · exact h.device
  · exact h.device.deleteBuffer _
  · exact h.device.deleteProgram _
  · exact (h.device.deleteProgram _).deleteBuffer _

lemma Numbered.draw (h : r.Numbered) (p : ProgramHandle) (s : UniformSet) (ended : Float32) :
    (r.draw p s ended).2.1.Numbered := by
  have hf := (r.openFrame_framed p).1.trans (commitEntries_framed p 0 (r.openFrame p) s.entries)
  have hc : ({ r with device := (s.commit p (r.openFrame p)).2.1 } : Renderer).Numbered := h.framed hf
  rw [Renderer.draw]
  rcases hcm : s.commit p (r.openFrame p) with ⟨e | ⟨⟩, d, s'⟩ <;> rw [hcm] at hc
  · exact hc
  · exact ⟨⟨hc.device.shaders, hc.device.programs⟩, hc.program⟩

lemma Numbered.change {x y : Scene} {l : Ledger} (hc : Scene.Change x l y) (h : x.renderer.Numbered) :
    y.renderer.Numbered := by
  cases hc with
  | noted r hd hp _ =>
    refine ⟨?_, ?_⟩ <;> simp only [hd, hp]
    exacts [h.device, h.program]
  | @unbuilt t e d hb =>
    obtain ⟨hbu, hs, hp⟩ := Device.buildProgram_spec h.device t
    rw [hb] at hbu hs hp
    exact h.withDevice hbu.next hs hp
  | adopted hb => exact h.adopt hb _
  | buffered => exact h.ensureBuffer
  | drawn ended _ => exact h.draw _ _ ended
  | staged v hu => exact h
  | @stored name u v hu => exact h.framed (u.update_framed v x.device)
  | inserted name _ _ => exact h
  | released => exact h.destroy
  | arranged f => exact ⟨⟨h.device.shaders, h.device.programs⟩, h.program⟩
  | resolved name =>
    obtain ⟨ns, he⟩ := x.device.resolveAlways_eq name
    rw [he]
    exact ⟨⟨h.device.shaders, h.device.programs⟩, h.program⟩

/-- The renderers of all runs. Between the operations of one renderer, others may have changed the set. -/
inductive Reachable : Renderer → Prop
  | new (label : String) (m : Mode) (size : Size) :
      Reachable { label := label, device := { size := size }, mode := m }
  | step {r : Renderer} (o : Operation) (s : UniformSet) : Reachable r → Reachable (o.apply ⟨r, s⟩).2.renderer

lemma Reachable.numbered (h : r.Reachable) : r.Numbered := by
  induction h with
  | new label m size => exact ⟨⟨by simp, by simp⟩, by simp⟩
  | @step r o s _ ih =>
    have hc := Scene.apply_changes o ⟨r, s⟩
    exact @Scene.Changes.preserve _ _ _ (fun _ x => x.renderer.Numbered) (fun _ _ _ _ hc => Numbered.change hc) hc [] ih

lemma Reachable.run {x : Scene} (h : x.renderer.Reachable) (os : List Operation) :
    (x.run os).renderer.Reachable := by
  induction os generalizing x with
  | nil => exact h
  | cons o os ih => exact ih (.step o x.uniforms h)

/-- What a renderer, its set and its device show, but for the stored source and the log of calls. -/
structure Unchanged (r : Renderer) (s : UniformSet) (r' : Renderer) (s' : UniformSet) : Prop where
  program : r'.program = r.program
  phase : r'.phase = r.phase
  processed : r'.processed = r.processed
  diagnostics : r'.diagnostics = r.diagnostics
  positionAttribute : r'.positionAttribute = r.positionAttribute
  vertexBuffer : r'.vertexBuffer = r.vertexBuffer
  needsRecompile : r'.needsRecompile = r.needsRecompile
  frame : r'.frame = r.frame
  uniforms : s' = s
  programs : r'.device.programs = r.device.programs
  shaders : r'.device.shaders = r.device.shaders
  buffers : r'.device.buffers = r.device.buffers
  textures : r'.device.textures = r.device.textures

/-- A compile that fails keeps everything, unless the device refuses the vertex buffer; and the buffer is asked
for only where there is none. -/
theorem compile_failed (hr : r.Reachable) {source : String} {e : Failure} (h : (r.compile source s).1 = .error e) :
    (Unchanged r s (r.compile source s).2.1 (r.compile source s).2.2 ↔ e ≠ .refused .buffer) ∧
      (e = .refused .buffer → r.vertexBuffer = none) := by
  have hc := r.compile_compiles source s
  rcases ha : r.compile source s with ⟨a, r', s'⟩
  rw [ha] at h hc
  obtain rfl : a = .error e := h
  cases hc with
  | unprepared hp =>
    have hne := prepare_error_ne hp
    refine ⟨iff_of_true ?_ hne, fun he => absurd he hne⟩
    exact ⟨rfl, rfl, rfl, rfl, rfl, rfl, rfl, rfl, rfl, rfl, rfl, rfl, rfl⟩
  | @unbuilt t _ d _ hb =>
    have hne := Device.buildProgram_error_ne (congrArg Prod.fst hb)
    obtain ⟨hbu, hs, hp⟩ := Device.buildProgram_spec hr.numbered.device t.source
    rw [hb] at hbu hs hp
    refine ⟨iff_of_true ?_ hne, fun he => absurd he hne⟩
    exact ⟨rfl, rfl, rfl, rfl, rfl, rfl, rfl, rfl, rfl, hp, hs, hbu.buffers, hbu.textures⟩
  | @unbuffered t p d _ _ _ hb he =>
    obtain ⟨rfl, hv⟩ := ensureBuffer_error he
    refine ⟨iff_of_false (fun hk => ?_) (by simp), fun _ => ?_⟩
    · -- the new program is in place, and it is not the old one
      have hp : r'.program = some p := by
        have hr' : r' = (r.adopted source t p d).ensureBuffer.2 := (congrArg Prod.snd he).symm
        rw [hr', ensureBuffer_program]
        rfl
      obtain ⟨-, -, hn⟩ := Device.buildProgram_spec hr.numbered.device t.source
      rw [hb] at hn
      have hlt := hr.numbered.program p (hk.program.symm.trans hp)
      exact absurd hn.1 (Nat.not_le.mpr hlt)
    · exact hv

theorem compile_failed_link :
    let x := (Scene.new "scene" .default ⟨8, 8⟩ .empty).run [.compile "", .arrange { linkError := some "no" }]
    let r := x.renderer
    let a := r.compile "int n;" .empty
    r.program = some ⟨3⟩ ∧ a.1 = .error (.link "no") ∧ Unchanged r .empty a.2.1 a.2.2 := by
  intro x r a
  have hr : r.Reachable := Reachable.run (.new "scene" .default ⟨8, 8⟩) _
  have ha : r.program = some ⟨3⟩ ∧ a.1 = .error (.link "no") := by decide +kernel
  exact ⟨ha.1, ha.2, (compile_failed hr ha.2).1.mpr Failure.noConfusion⟩

/-- The first compile gets no vertex buffer: it fails, and its program stays. -/
theorem compile_refused_buffer :
    let r : Renderer := { label := "scene", device := { size := ⟨8, 8⟩, refused := [.buffer] }, mode := .default }
    let a := r.compile "void main() {}" .empty
    r.Reachable ∧ a.1 = .error (.refused .buffer) ∧ r.program = none ∧ a.2.1.program = some ⟨3⟩ ∧
      ¬ Unchanged r .empty a.2.1 a.2.2 := by
  intro r a
  have hr : r.Reachable := .step (.arrange { refused := [.buffer] }) .empty (.new "scene" .default ⟨8, 8⟩)
  have ha : a.1 = .error (.refused .buffer) ∧ a.2.1.program = some ⟨3⟩ := by decide +kernel
  refine ⟨hr, ha.1, rfl, ha.2, fun hk => ?_⟩
  cases hk.program.symm.trans ha.2

end Renderer

end ShaderRunner

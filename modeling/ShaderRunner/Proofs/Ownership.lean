import ShaderRunner.Proofs.Change
import ShaderRunner.Proofs.ProgramBuild
import ShaderRunner.Proofs.Textures

namespace ShaderRunner

namespace Device

variable {d d' : Device}

lemma Tracked.congr (hd : d.Tracked) (hlog : d'.log = d.log) (hnext : d'.next = d.next)
    (hholds : ∀ h, d'.Holds h ↔ d.Holds h) : d'.Tracked := by
  refine ⟨hlog ▸ hd.orderly, fun h => ?_, ?_⟩
  · rw [hlog, hholds, hd.alive_iff]
  · rw [hlog, hnext]
    exact hd.bounded

lemma Tracked.withFaults (hd : d.Tracked) (f : Faults) : (d.withFaults f).Tracked :=
  hd.congr rfl rfl fun h => by cases h <;> rfl

lemma resolveAlways_eq (d : Device) (name : String) : ∃ ns, d.resolveAlways name = { d with extra := ns } := by
  unfold resolveAlways
  split <;> exact ⟨_, rfl⟩

lemma Tracked.resolveAlways (hd : d.Tracked) (name : String) : (d.resolveAlways name).Tracked := by
  obtain ⟨ns, he⟩ := d.resolveAlways_eq name
  rw [he]
  exact hd.congr rfl rfl fun h => by cases h <;> rfl

end Device

namespace Device

lemma deleteProgram_only {d : Device} {p : ProgramHandle} (hd : d.Tracked) (hp : d.programs.map Prod.fst = [p]) :
    (d.deleteProgram p).Tracked ∧ (d.deleteProgram p).programs = [] := by
  obtain ⟨e, he, rfl⟩ := List.map_eq_singleton_iff.mp hp
  exact ⟨hd.deleteProgram (by simp [Holds, he]), by simp [deleteProgram, record, he]⟩

lemma deleteBuffer_only {d : Device} {b : BufferHandle} (hd : d.Tracked) (hb : d.buffers = [b]) :
    (d.deleteBuffer b).Tracked ∧ (d.deleteBuffer b).buffers = [] :=
  ⟨hd.deleteBuffer (by simp [Holds, hb]), by simp [deleteBuffer, record, hb]⟩

end Device

structure Scene.Owned (x : Scene) : Prop where
  tracked : x.device.Tracked
  shaders : x.device.shaders = []
  programs : x.device.programs.map Prod.fst = x.renderer.program.toList
  buffers : x.device.buffers = x.renderer.vertexBuffer.toList
  textures : x.device.Backs (heldBy x.uniforms.entries)

namespace Renderer

variable {r : Renderer} {p : ProgramHandle}

lemma openFrame_framed (r : Renderer) (p : ProgramHandle) :
    r.device.Framed (r.openFrame p) ∧ (r.openFrame p).textures = r.device.textures := by
  unfold openFrame Device.useProgram
  split <;> exact ⟨by constructor <;> simp, by simp⟩

lemma openFrame_tracked (hd : r.device.Tracked) (hp : r.device.Holds (.program p))
    (hb : ∀ b, r.vertexBuffer = some b → r.device.Holds (.buffer b)) : (r.openFrame p).Tracked := by
  have hf : ((r.device.record (.viewport 0 0 r.device.size)).useProgram (some p)).Tracked :=
    (hd.record rfl rfl (by simp [Call.used])).record rfl rfl (by simpa [Call.used] using hp)
  unfold openFrame
  split
  · exact hf
  · refine ((hf.record rfl rfl (by simp [Call.used])).record rfl rfl ?_).record rfl rfl (by simp [Call.used])
    intro h hh
    obtain ⟨b, hv, rfl⟩ : ∃ b, r.vertexBuffer = some b ∧ Handle.buffer b = h := by simpa [Call.used] using hh
    exact hb b hv

lemma ensureBuffer_eq (r : Renderer) : ∃ b, r.ensureBuffer.2 =
    { r with device := r.ensureBuffer.2.device, vertexBuffer := b } := by
  unfold ensureBuffer
  split
  · exact ⟨_, rfl⟩
  · split <;> exact ⟨_, rfl⟩

lemma ensureBuffer_device (r : Renderer) :
    r.ensureBuffer.2.device.programs = r.device.programs ∧
      r.ensureBuffer.2.device.shaders = r.device.shaders ∧
      r.ensureBuffer.2.device.textures = r.device.textures ∧
      r.ensureBuffer.2.device.extra = r.device.extra := by
  unfold ensureBuffer Device.createBuffer
  by_cases hv : r.vertexBuffer.isSome = true
  · simp [hv]
  · by_cases hr : r.device.refuses .buffer = true <;> simp [hv, hr]

lemma ensureBuffer_program (r : Renderer) : r.ensureBuffer.2.program = r.program := by
  obtain ⟨b, h⟩ := r.ensureBuffer_eq
  rw [h]

lemma ensureBuffer_buffers (hd : r.device.Tracked) (hb : r.device.buffers = r.vertexBuffer.toList) :
    r.ensureBuffer.2.device.Tracked ∧ r.ensureBuffer.2.device.buffers = r.ensureBuffer.2.vertexBuffer.toList := by
  have ht := hd.createBuffer
  unfold ensureBuffer
  unfold Device.createBuffer at ht ⊢
  cases hv : r.vertexBuffer with
  | some b => simpa [hv, hb] using hd
  | none =>
    by_cases hr : r.device.refuses .buffer = true
    · simpa [hv, hr, hb] using hd
    · simp only [hr, Bool.false_eq_true, if_false, Option.isSome_none] at ht ⊢
      refine ⟨(ht.record rfl rfl ?_).record rfl rfl (by simp [Call.used]), by simp [Device.record, hb, hv]⟩
      simp [Call.used, Device.Holds, Device.record]

lemma adopt_spec {d : Device} {l : List (ProgramHandle × Program)} {z : Program} (hd : d.Tracked)
    (hl : d.programs = l ++ [(p, z)]) (hp : p ∉ l.map Prod.fst) (hr : l.map Prod.fst = r.program.toList)
    (t : String) :
    (r.adopt p t d).device.Tracked ∧ (r.adopt p t d).device.programs = [(p, z)] ∧
      (r.adopt p t d).device.shaders = d.shaders ∧ (r.adopt p t d).device.buffers = d.buffers ∧
      (r.adopt p t d).device.textures = d.textures ∧ (r.adopt p t d).device.extra = d.extra := by
  unfold adopt
  cases hc : r.program with
  | none =>
    rw [hc, Option.toList_none, List.map_eq_nil_iff] at hr
    exact ⟨hd, by simpa [hr] using hl, rfl, rfl, rfl, rfl⟩
  | some q =>
    rw [hc, Option.toList_some] at hr
    obtain ⟨y, rfl⟩ : ∃ y, l = [(q, y)] := by
      obtain ⟨e, rfl, rfl⟩ := List.map_eq_singleton_iff.mp hr
      exact ⟨e.2, rfl⟩
    have hne : p ≠ q := by simpa using hp
    refine ⟨hd.deleteProgram (by simp [Device.Holds, hl]), ?_, rfl, rfl, rfl, rfl⟩
    simp [Device.deleteProgram, Device.record, hl, hne]

lemma destroy_spec (hd : r.device.Tracked) (hp : r.device.programs.map Prod.fst = r.program.toList)
    (hb : r.device.buffers = r.vertexBuffer.toList) :
    r.destroy.device.Tracked ∧ r.destroy.device.programs = [] ∧ r.destroy.device.buffers = [] ∧
      r.destroy.device.shaders = r.device.shaders ∧ r.destroy.device.textures = r.device.textures := by
  unfold destroy
  cases hc : r.program with
  | none =>
    rw [hc, Option.toList_none, List.map_eq_nil_iff] at hp
    cases hv : r.vertexBuffer with
    | none =>
      rw [hv, Option.toList_none] at hb
      exact ⟨hd, hp, hb, rfl, rfl⟩
    | some b =>
      rw [hv, Option.toList_some] at hb
      obtain ⟨ht, hn⟩ := Device.deleteBuffer_only hd hb
      exact ⟨ht, hp, hn, rfl, rfl⟩
  | some q =>
    rw [hc, Option.toList_some] at hp
    obtain ⟨ht, hn⟩ := Device.deleteProgram_only hd hp
    cases hv : r.vertexBuffer with
    | none =>
      rw [hv, Option.toList_none] at hb
      exact ⟨ht, hn, hb, rfl, rfl⟩
    | some b =>
      rw [hv, Option.toList_some] at hb
      obtain ⟨ht', hn'⟩ := Device.deleteBuffer_only ht (show (r.device.deleteProgram q).buffers = [b] from hb)
      exact ⟨ht', hn, hn', rfl, rfl⟩

end Renderer

namespace Scene

variable {x y : Scene}

lemma heldBy_relocate (s : UniformSet) (d : Device) (p : ProgramHandle) :
    heldBy (s.relocate d p).entries = heldBy s.entries := by
  simp only [heldBy, UniformSet.relocate, UniformSet.map, UniformSet.withEntries, List.filterMap_map]
  rfl

lemma heldBy_insert {u : Uniform} (hu : u.texture? = none) (s : UniformSet) (name : String) :
    (heldBy (s.insert name u).entries).Sublist (heldBy s.entries) := by
  rcases s.entries_insert name u with ⟨a, v, b, hs, hi⟩ | hi
  · rw [hs, hi]
    simp only [heldBy_append, heldBy_cons, hu, Option.toList_none, List.nil_append]
    exact (List.sublist_append_right _ _).append_left _
  · simp [hi, heldBy, hu]

lemma Owned.renew (h : Owned x) {d : Device} {s : UniformSet}
    (hf : x.device.Framed d) (hr : Device.Renews (heldBy x.uniforms.entries) (heldBy s.entries) x.device d) :
    Owned ⟨{ x.renderer with device := d }, s⟩ := by
  obtain ⟨ht, hb⟩ := hr h.tracked [] h.textures
  exact ⟨ht, hf.shaders.trans h.shaders, (congrArg _ hf.programs).trans h.programs, hf.buffers.trans h.buffers, hb⟩

lemma Owned.openFrame (h : Owned x) {p : ProgramHandle} (hp : x.renderer.program = some p) :
    Owned ⟨{ x.renderer with device := x.renderer.openFrame p }, x.uniforms⟩ := by
  obtain ⟨hf, htx⟩ := x.renderer.openFrame_framed p
  have hlive : x.device.Holds (.program p) := by
    have hp' : p ∈ x.device.programs.map Prod.fst := by simp [h.programs, hp]
    exact hp'
  refine ⟨x.renderer.openFrame_tracked h.tracked hlive fun b hb => ?_, hf.shaders.trans h.shaders,
    (congrArg _ hf.programs).trans h.programs, hf.buffers.trans h.buffers, h.textures.of_textures htx⟩
  have hb' : b ∈ x.device.buffers := by simp [h.buffers, hb]
  exact hb'

lemma Owned.draw (h : Owned x) {p : ProgramHandle} (hp : x.renderer.program = some p) (ended : Float32) :
    Owned ⟨(x.renderer.draw p x.uniforms ended).2.1, (x.renderer.draw p x.uniforms ended).2.2⟩ := by
  have hc : Owned ⟨{ x.renderer with device := (x.uniforms.commit p (x.renderer.openFrame p)).2.1 },
      (x.uniforms.commit p (x.renderer.openFrame p)).2.2⟩ :=
    (h.openFrame hp).renew (commitEntries_framed p 0 _ _) (commitEntries_renews p 0 (x.renderer.openFrame p) x.uniforms.entries)
  unfold Renderer.draw
  rcases hcm : x.uniforms.commit p (x.renderer.openFrame p) with ⟨e | _, d, s⟩ <;> rw [hcm] at hc
  · exact hc
  · exact ⟨hc.tracked.record rfl rfl (by simp [Call.used]), hc.shaders, hc.programs, hc.buffers,
      hc.textures.of_textures rfl⟩

lemma Owned.change {l : Ledger} (hc : Change x l y) (h : Owned x) : Owned y := by
  cases hc with
  | noted r hd hp hv =>
    refine ⟨?_, ?_, ?_, ?_, ?_⟩ <;> simp only [device, hd, hp, hv]
    exacts [h.tracked, h.shaders, h.programs, h.buffers, h.textures]
  | @unbuilt t e d hb =>
    obtain ⟨hbu, hs, hp⟩ := Device.buildProgram_spec h.tracked.numbered t
    rw [hb] at hbu hs hp
    exact ⟨hbu.tracked h.tracked, hs.trans h.shaders, (congrArg _ hp).trans h.programs, hbu.buffers.trans h.buffers,
      h.textures.of_textures hbu.textures⟩
  | @adopted t p d hb =>
    obtain ⟨hbu, hs, hp⟩ := Device.buildProgram_spec h.tracked.numbered t
    rw [hb] at hbu hs hp
    -- until the new program is adopted the device holds the old one too
    obtain ⟨hn, -, z, -, hp⟩ := hp
    obtain ⟨ht', hp', hs', hb', htx, _⟩ :=
      Renderer.adopt_spec (hbu.tracked h.tracked) hp (Device.program_fresh h.tracked.numbered hn) h.programs t
    refine ⟨ht', hs'.trans (hs.trans h.shaders), congrArg (List.map Prod.fst) hp',
      hb'.trans (hbu.buffers.trans h.buffers), ?_⟩
    rw [heldBy_relocate]
    exact h.textures.of_textures (htx.trans hbu.textures)
  | buffered =>
    obtain ⟨hps, hs, ht, -⟩ := x.renderer.ensureBuffer_device
    obtain ⟨htr, hb⟩ := Renderer.ensureBuffer_buffers h.tracked h.buffers
    refine ⟨htr, hs.trans h.shaders, ?_, hb, h.textures.of_textures ht⟩
    simp only [device, hps, x.renderer.ensureBuffer_program]
    exact h.programs
  | drawn ended hp => exact h.draw hp ended
  | @staged name u v hu =>
    obtain ⟨a, b, hs, hm⟩ := UniformSet.entries_modify hu
    refine ⟨h.tracked, h.shaders, h.programs, h.buffers, ?_⟩
    have ht := h.textures
    simp only [withUniform, hm, hs, heldBy_append, heldBy_cons, Uniform.stage_texture?] at ht ⊢
    exact ht
  | @stored name u v hu =>
    obtain ⟨a, b, hs, hm⟩ := UniformSet.entries_modify hu
    refine h.renew (u.update_framed v x.device) ?_
    simp only [withDevice, hm, hs]
    exact renews_entry (u.update_renews v x.device) a b name
  | @inserted k l n v u name hu _ =>
    exact ⟨h.tracked, h.shaders, h.programs, h.buffers,
      h.textures.sublist (heldBy_insert (Uniform.create_texture? hu) x.uniforms name)⟩
  | released =>
    obtain ⟨ht, hp, hb, hs, htx⟩ := Renderer.destroy_spec h.tracked h.programs h.buffers
    exact ⟨ht, hs.trans h.shaders, congrArg (List.map Prod.fst) hp, hb, h.textures.of_textures htx⟩
  | arranged f =>
    exact ⟨h.tracked.withFaults f, h.shaders, h.programs, h.buffers, h.textures.of_textures rfl⟩
  | resolved name =>
    have ht := h.tracked.resolveAlways name
    obtain ⟨ns, he⟩ := x.device.resolveAlways_eq name
    rw [he] at ht ⊢
    exact ⟨ht, h.shaders, h.programs, h.buffers, h.textures.of_textures rfl⟩

lemma Owned.new (label : String) (m : Mode) (size : Size) {s : UniformSet}
    (hs : ∀ e ∈ s.entries, e.2.texture? = none) : (Scene.new label m size s).Owned := by
  have hd : ({ size := size } : Device).Tracked :=
    ⟨.nil, fun h => by cases h <;> simp [Alive, Device.log, Device.Holds], by simp [Device.log]⟩
  refine ⟨hd, rfl, rfl, rfl, ?_⟩
  have hn : heldBy s.entries = [] := List.filterMap_eq_nil_iff.mpr hs
  change Device.Backs _ (heldBy s.entries)
  rw [hn]
  exact ⟨List.nodup_nil, by simp⟩

lemma Owned.changes {l : Ledger} (hc : Changes x l y) (h : Owned x) : Owned y :=
  @Changes.preserve x y l (fun _ => Owned) (fun _ _ _ _ => Owned.change) hc [] h

lemma Owned.run {x : Scene} (h : Owned x) (os : List Operation) : Owned (x.run os) :=
  run_keeps (fun _ _ _ => Owned.change) os h

/-- A run that starts without textures keeps its program and its vertex buffer alive and no shader, and
its log mentions a handle between its creation and its deletion only. -/
theorem run_objects (label : String) (m : Mode) (size : Size) (s : UniformSet)
    (hs : ∀ e ∈ s.entries, e.2.texture? = none) (os : List Operation) :
    ((Scene.new label m size s).run os).device.programs.map Prod.fst =
        ((Scene.new label m size s).run os).renderer.program.toList ∧
      ((Scene.new label m size s).run os).device.buffers =
        ((Scene.new label m size s).run os).renderer.vertexBuffer.toList ∧
      ((Scene.new label m size s).run os).device.shaders = [] ∧
      Orderly ((Scene.new label m size s).run os).device.log := by
  have h := (Owned.new label m size hs).run os
  exact ⟨h.programs, h.buffers, h.shaders, h.tracked.orderly⟩

theorem run_objects_relinked :
    let s := UniformSet.ofList [("tex", { payload := .sampler { pending := some ⟨.host "a", ⟨2, 2⟩⟩ } }),
      ("cut", { payload := .sampler { pending := some ⟨.host "b", ⟨2, 2⟩⟩ } })]
    let os : List Operation := [.arrange { linkError := some "no" }, .compile "uniform sampler2D tex;",
      .arrange { withheld := [9] }, .compile "uniform sampler2D tex;", .render 0, .arrange {}, .render 0, .destroy]
    let x := (Scene.new "scene" .default ⟨8, 8⟩ s).run os
    ((Scene.new "scene" .default ⟨8, 8⟩ s).run (os.take 5)).device.textures = [⟨8⟩] ∧
      x.device.programs.map Prod.fst = x.renderer.program.toList ∧
      x.device.buffers = x.renderer.vertexBuffer.toList ∧ x.device.shaders = [] ∧ Orderly x.device.log :=
  ⟨by decide +kernel, run_objects "scene" .default ⟨8, 8⟩ _ (by decide +kernel) _⟩

end Scene

end ShaderRunner

import ShaderRunner.Proofs.DrawnFrames
import ShaderRunner.Proofs.LiveTextures

/-!
A set that goes from one renderer to another has its locations looked up anew, but its samplers keep the textures of
the first device.
-/

namespace ShaderRunner

open Device (Adds makingOf)

structure Device.Fresh (d : Device) : Prop where
  calls : d.calls = #[]
  shaders : d.shaders = []
  programs : d.programs = []
  buffers : d.buffers = []
  textures : d.textures = []

def Device.BindsOwn (d : Device) : Prop :=
  ∀ before after t, d.log = before ++ .bindTexture2d (some t) :: after → .createTexture t ∈ before

def Scene.BindsUploads (x y : Scene) : Prop :=
  ∃ frame, y.device.log = x.device.log ++ frame ∧
    ∀ name u l i, y.uniforms.get? name = some u → u.location = some l → u.value = .image i →
      ∃ k t, u.texture? = some t ∧ makingOf t (i.size.normalized 0) <:+: y.device.log ∧
        [.uniform1i l k.toInt32, .activeTexture k, .bindTexture2d (some t)] <:+: frame

lemma Device.not_bindsOwn {d : Device} {t : TextureHandle} (hb : .bindTexture2d (some t) ∈ d.log)
    (hc : .createTexture t ∉ d.log) : ¬ d.BindsOwn := by
  intro h
  obtain ⟨before, after, hl⟩ := List.append_of_mem hb
  refine hc ?_
  rw [hl]
  exact List.mem_append_left _ (h before after t hl)

lemma Device.log_extends_record (d : Device) (c : Call) : d.log <+: (d.record c).log := ⟨[c], (log_record d c).symm⟩

lemma Device.Adds.log_extends {d d' : Device} {kind : Call → Bool} (h : Adds kind d d') : d.log <+: d'.log := by
  obtain ⟨cs, hl, -⟩ := h
  exact ⟨cs, hl.symm⟩

def Sampler.Uploaded (d : Device) (s : Sampler) : Prop :=
  ∀ t, s.texture = some t → ∃ i, s.built = some i ∧ makingOf t (i.size.normalized 0) <:+: d.log

def Uniform.Uploaded (d : Device) (u : Uniform) : Prop := ∀ s, u.sampler? = some s → s.Uploaded d

section Uploaded

variable {d d' : Device} {s s' : Sampler} {u : Uniform}

lemma Sampler.Uploaded.mono (h : s.Uploaded d) (hp : d.log <+: d'.log) : s.Uploaded d' := by
  intro t ht
  obtain ⟨i, hi, hm⟩ := h t ht
  exact ⟨i, hi, hm.trans hp.isInfix⟩

lemma Sampler.Uploaded.congr (h : s.Uploaded d) (ht : s'.texture = s.texture) (hb : s'.built = s.built) :
    s'.Uploaded d := by
  rwa [Uploaded, ht, hb]

lemma Sampler.Uploaded.settle (h : s.Uploaded d) (hs : s.settle d = (.ok s', d')) : s'.Uploaded d' := by
  have hc := s.settles d
  rw [hs] at hc
  cases hc with
  | idle _ => exact h.congr rfl rfl
  | @built i t _ _ _ hl =>
    intro t' ht
    obtain rfl := Option.some.inj ht
    exact ⟨i, rfl, d.log, s.texture.toList.map .deleteTexture, by rw [hl, List.append_assoc]⟩

namespace Uniform

lemma Uploaded.mono (h : u.Uploaded d) (hp : d.log <+: d'.log) : u.Uploaded d' := fun s hs => (h s hs).mono hp

lemma uploaded_of_kind (hk : u.kind ≠ .sampler) : u.Uploaded d := fun _ hs => absurd (kind_of_sampler? hs) hk

lemma uploaded_of_texture (h : u.texture? = none) : u.Uploaded d := by
  intro s hs t ht
  rw [texture?_of_sampler hs, ht] at h
  contradiction

lemma uploaded_sampler (h : s.Uploaded d) (l : Option Location) (n : Length) : Uploaded d ⟨l, n, .sampler s⟩ := by
  rintro s' hs'
  exact Option.some.inj hs' ▸ h

lemma Uploaded.stage (h : u.Uploaded d) (v : Value) : (u.stage v).2.Uploaded d := by
  by_cases hk : u.kind = .sampler
  · obtain ⟨s, hs⟩ := exists_sampler hk
    cases hv : v.image? with
    | none =>
      rw [stage_other hs hv]
      exact h
    | some i =>
      obtain rfl := Value.eq_image hv
      obtain ⟨o, s', he, ht, hb, -⟩ := stage_image hs i
      rw [he]
      exact uploaded_sampler ((h s hs).congr ht hb) _ _
  · exact uploaded_of_kind (by rwa [(u.stage_shape v).kind])

lemma Uploaded.update (h : u.Uploaded d) (v : Value) : (u.update v d).2.2.Uploaded (u.update v d).2.1 := by
  by_cases hk : u.kind = .sampler
  · obtain ⟨s, hs⟩ := exists_sampler hk
    cases hv : v.image? with
    | none =>
      rw [update_other hs hv]
      exact h
    | some i =>
      obtain rfl := Value.eq_image hv
      have hp := (u.update_quiet (.image i) d).log_extends
      obtain ⟨o, he⟩ := update_image hs i d
      have hpend : Sampler.Uploaded d { s with pending := some i } := (h s hs).congr rfl rfl
      rcases hse : Sampler.settle { s with pending := some i } d with ⟨e | s', d'⟩ <;> rw [hse] at he <;>
        rw [he] at hp ⊢
      · exact h.mono hp
      · exact uploaded_sampler (hpend.settle hse) _ _
  · exact uploaded_of_kind (by rwa [(u.update_shape v d).kind])

lemma Uploaded.commit (h : u.Uploaded d) (unit : UInt32) :
    (u.commit unit d).2.2.Uploaded (u.commit unit d).2.1 := by
  have hp := (u.commit_quiet unit d).log_extends
  by_cases hk : u.kind = .sampler
  · obtain ⟨s, hs⟩ := exists_sampler hk
    rw [commit_sampler hk, commitSampler, hs] at hp ⊢
    dsimp only at hp ⊢
    rcases hse : s.settle d with ⟨e | s', d'⟩ <;> rw [hse] at hp
    · exact h.mono hp
    · have hu := (h s hs).settle hse
      refine uploaded_sampler (hu.mono ?_) _ _
      have hb : Adds Call.quiet d' ((u.location.map (Call.uniform1i · unit.toInt32)).elim d' d'.record) := by
        cases u.location with
        | none => exact .refl d'
        | some l => exact (Adds.refl d').record rfl
      have ht := (hb.trans (s'.bind_quiet unit _)).log_extends
      cases hl : u.location <;> rw [hl] at ht <;> exact ht
  · rw [commit_of_kind hk]
    exact h.mono hp

lemma Uploaded.located (h : u.Uploaded d) (d' : Device) (p : ProgramHandle) (name : String) :
    (u.located d' p name).Uploaded d := by
  intro s hs
  rw [sampler?, located_payload] at hs
  exact h s hs

end Uniform

lemma commitEntries_uploaded {es : List (String × Uniform)} (h : ∀ e ∈ es, e.2.Uploaded d) (p : ProgramHandle)
    (unit : UInt32) : ∀ e ∈ (commitEntries p unit d es).2.2, e.2.Uploaded (commitEntries p unit d es).2.1 := by
  refine (commitEntries_walk (R := fun d es d' es' => d.log <+: d'.log ∧
    ((∀ e ∈ es, e.2.Uploaded d) → ∀ e ∈ es', e.2.Uploaded d')) (fun d => ⟨List.prefix_rfl, id⟩) ?_ ?_ unit d es).2 h
  · intro name u k d es
    have hp := ((u.located d p name).commit_quiet k d).log_extends
    refine ⟨hp, fun h => ?_⟩
    obtain ⟨hu, hes⟩ := List.forall_mem_cons.mp h
    exact List.forall_mem_cons.mpr ⟨(hu.located d p name).commit k, fun e he => (hes e he).mono hp⟩
  · intro name u k d es d' es' ih
    have hp := ((u.located d p name).commit_quiet k d).log_extends
    refine ⟨hp.trans ih.1, fun h => ?_⟩
    obtain ⟨hu, hes⟩ := List.forall_mem_cons.mp h
    exact List.forall_mem_cons.mpr
      ⟨((hu.located d p name).commit k).mono ih.1, ih.2 fun e he => (hes e he).mono hp⟩

end Uploaded

def UniformSet.Uploaded (d : Device) (s : UniformSet) : Prop := ∀ name u, s.get? name = some u → u.Uploaded d

namespace UniformSet.Uploaded

variable {d d' : Device} {s : UniformSet} {name : String} {u : Uniform}

lemma mono (h : s.Uploaded d) (hp : d.log <+: d'.log) : s.Uploaded d' := fun name u hu => (h name u hu).mono hp

lemma of_log (h : s.Uploaded d) (hl : d'.log = d.log) : s.Uploaded d' :=
  h.mono ⟨[], (List.append_nil _).trans hl.symm⟩

lemma modify (h : s.Uploaded d) (hp : d.log <+: d'.log) (hu : u.Uploaded d') :
    (s.modify name fun _ => u).Uploaded d' := by
  intro other w hw
  rw [get?_modify] at hw
  split at hw
  · obtain ⟨_, -, rfl⟩ := Option.map_eq_some_iff.mp hw
    exact hu
  · exact (h other w hw).mono hp

lemma insert (h : s.Uploaded d) (hu : u.Uploaded d) : (s.insert name u).Uploaded d := by
  intro other w hw
  rw [get?_insert] at hw
  split at hw
  · exact Option.some.inj hw ▸ hu
  · exact h other w hw

lemma relocate (h : s.Uploaded d) (d' : Device) (p : ProgramHandle) : (s.relocate d' p).Uploaded d := by
  intro name u hu
  rw [UniformSet.relocate, get?_map] at hu
  obtain ⟨w, hw, rfl⟩ := Option.map_eq_some_iff.mp hu
  exact h name w hw

lemma commit (h : s.Uploaded d) (p : ProgramHandle) : (s.commit p d).2.2.Uploaded (s.commit p d).2.1 :=
  fun name u hu => commitEntries_uploaded (fun e he => h e.1 e.2 (mem_entries_iff.mp he)) p 0 (name, u)
    (mem_entries_iff.mpr hu)

end UniformSet.Uploaded

namespace Scene

variable {x y : Scene} {l : Ledger}

lemma uploaded_change (hc : Change x l y) (ho : x.Owned) (h : x.uniforms.Uploaded x.device) :
    y.uniforms.Uploaded y.device := by
  cases hc with
  | noted r hd _ _ => exact h.of_log (congrArg Device.log hd)
  | @unbuilt t e d hb =>
    obtain ⟨hbu, -, -⟩ := Device.buildProgram_spec ho.tracked.numbered t
    rw [hb] at hbu
    exact h.mono hbu.readies.log_extends
  | @adopted t p d hb =>
    obtain ⟨hbu, -, -⟩ := Device.buildProgram_spec ho.tracked.numbered t
    rw [hb] at hbu
    exact (h.relocate _ p).mono (hbu.readies.trans (x.renderer.adopt_readies p t d)).log_extends
  | buffered => exact h.mono x.renderer.ensureBuffer_readies.log_extends
  | @drawn p ended hp =>
    have hf : Adds Call.plain x.device (x.renderer.openFrame p) := x.renderer.openFrame_plain p
    have hu := (h.mono hf.log_extends).commit p
    rw [Renderer.draw]
    rcases hcm : x.uniforms.commit p (x.renderer.openFrame p) with ⟨e | ⟨⟩, d, s⟩ <;> rw [hcm] at hu
    · exact hu
    · exact hu.mono (d.log_extends_record _)
  | @staged name u v hu => exact h.modify List.prefix_rfl ((h name u hu).stage v)
  | @stored name u v hu => exact h.modify (u.update_quiet v x.device).log_extends ((h name u hu).update v)
  | inserted name hu _ => exact h.insert (Uniform.uploaded_of_texture (Uniform.create_texture? hu))
  | released => exact h.mono x.renderer.destroy_undrawn.calls.log_extends
  | arranged f => exact h
  | resolved name =>
    obtain ⟨ns, he⟩ := x.device.resolveAlways_eq name
    have hl : (x.device.resolveAlways name).log = x.device.log := by rw [he]; rfl
    exact h.of_log hl

structure SelfMade (x : Scene) : Prop where
  owned : x.Owned
  sound : ∀ name u, x.uniforms.get? name = some u → u.Sound
  uploaded : x.uniforms.Uploaded x.device

lemma SelfMade.change (hc : Change x l y) (h : x.SelfMade) : y.SelfMade :=
  ⟨h.owned.change hc, @each_change x y [] l _ Uniform.sound_kept hc h.sound, uploaded_change hc h.owned h.uploaded⟩

lemma SelfMade.changes (hc : Changes x l y) (h : x.SelfMade) : y.SelfMade :=
  @Changes.preserve x y l (fun _ => SelfMade) (fun _ _ _ _ => SelfMade.change) hc [] h

lemma SelfMade.run (h : x.SelfMade) (os : List Operation) : (x.run os).SelfMade :=
  run_keeps (fun _ _ _ => SelfMade.change) os h

lemma SelfMade.bindsOwn (h : x.SelfMade) : x.device.BindsOwn := by
  intro before after t hl
  obtain ⟨c, hc, hcr⟩ := h.owned.tracked.orderly.created_before before _ after hl (.texture t) (by simp [Call.used])
  cases c <;> simp only [Call.created?, Option.some.injEq, Handle.texture.injEq, reduceCtorEq] at hcr
  exact hcr ▸ hc

end Scene

section Frames

variable {d d' : Device} {p : ProgramHandle} {unit : UInt32} {es es' : List (String × Uniform)} {u u' : Uniform}

def Uniform.BoundBy (cs : List Call) (u : Uniform) : Prop :=
  ∀ s, u.sampler? = some s → s.pending = none ∧ ∀ l t, u.location = some l → s.texture = some t →
    ∃ k, [.uniform1i l (UInt32.toInt32 k), .activeTexture k, .bindTexture2d (some t)] <:+: cs

lemma Uniform.BoundBy.mono {cs cs' : List Call} (h : u.BoundBy cs) (hi : cs <:+: cs') : u.BoundBy cs' := by
  intro s hs
  obtain ⟨hp, hb⟩ := h s hs
  refine ⟨hp, fun l t hl ht => ?_⟩
  obtain ⟨k, hk⟩ := hb l t hl ht
  exact ⟨k, hk.trans hi⟩

lemma Uniform.sampler?_of_image {i : Image} (h : u.value = .image i) : ∃ s, u.sampler? = some s := by
  rw [value] at h
  cases hp : u.payload with
  | sampler s => exact ⟨s, by rw [sampler?, hp]⟩
  | int | float | vec2 | vec3 | vec4 | vec3Array | static | unused => simp [hp, Payload.value] at h

lemma Uniform.commit_boundBy (hs : u.Sound) (h : u.commit unit d = (.ok (), d', u')) :
    ∃ cs, d'.log = d.log ++ cs ∧ u'.BoundBy cs := by
  by_cases hk : u.kind = .sampler
  · rw [commit_sampler hk] at h
    obtain ⟨s, s', d₁, hsam, hset, rfl, rfl⟩ := commitSampler_ok h
    obtain ⟨hp, hb, cs, hl⟩ := Sampler.settle_log (hs s hsam) hset
    refine ⟨cs ++ ((u.location.map (Call.uniform1i · unit.toInt32)).toList ++
      s'.texture.toList.flatMap fun t => [.activeTexture unit, .bindTexture2d (some t)]), ?_, ?_⟩
    · rw [Sampler.bind_log hb]
      cases u.location <;> simp [hl]
    · intro s'' hs''
      obtain rfl := Option.some.inj hs''
      refine ⟨hp, fun l t hl ht => ⟨unit, cs, [], ?_⟩⟩
      have hloc : u.location = some l := hl
      simp [hloc, ht]
  · have hu := commit_of_kind hk unit d
    obtain ⟨cs, hl, -⟩ := u.commit_quiet unit d
    rw [h] at hu hl
    obtain rfl : u' = u := hu
    exact ⟨cs, hl, fun s hsam => absurd (kind_of_sampler? hsam) hk⟩

lemma commitEntries_boundBy (hs : ∀ e ∈ es, e.2.Sound) (h : commitEntries p unit d es = (.ok (), d', es')) :
    ∃ cs, d'.log = d.log ++ cs ∧ ∀ e ∈ es', e.2.BoundBy cs := by
  induction es generalizing unit d es' with
  | nil =>
    obtain ⟨rfl, rfl⟩ := Prod.mk.inj (Prod.mk.inj h).2
    exact ⟨[], (List.append_nil _).symm, by simp⟩
  | cons e es ih =>
    obtain ⟨name, u⟩ := e
    obtain ⟨hu, hes⟩ := List.forall_mem_cons.mp hs
    obtain ⟨d₁, u₁, es₁, hc, -, -, hr, rfl⟩ := commitEntries_cons_ok h
    have hloc : (u.located d p name).Sound := @Kept.located _ Uniform.sound_kept [] name u hu d p
    obtain ⟨cs, hl, hb⟩ := Uniform.commit_boundBy hloc hc
    obtain ⟨cs', hl', hb'⟩ := ih hes hr
    refine ⟨cs ++ cs', by rw [hl', hl, List.append_assoc], List.forall_mem_cons.mpr ⟨?_, fun e he => ?_⟩⟩
    · exact hb.mono (List.prefix_append cs cs').isInfix
    · exact (hb' e he).mono (List.suffix_append cs cs').isInfix

end Frames

namespace Scene

variable {x : Scene} {ended : Float32}

lemma SelfMade.bindsUploads (h : x.SelfMade) (hok : ((Operation.render ended).apply x).1 = .ok ()) :
    BindsUploads x ((Operation.render ended).apply x).2 := by
  have hx := h.changes (apply_changes (.render ended) x)
  obtain ⟨y, p, d, s, hc, hpl, -, -, hcm, hy⟩ := render_frame h.owned.tracked hok
  have hys := h.changes hc
  obtain ⟨cs, hl, hb⟩ := commitEntries_boundBy
    (fun e he => hys.sound e.1 e.2 (UniformSet.mem_entries_iff.mp he)) (UniformSet.commit_entries hcm)
  obtain ⟨before, hbl, -⟩ := hpl.trans (y.renderer.openFrame_plain p)
  generalize ((Operation.render ended).apply x).2 = z at hx hy ⊢
  subst hy
  refine ⟨before ++ (cs ++ [.drawTriangles 0 6]), ?_, fun name u l i hu hloc hv => ?_⟩
  · change (d.record _).log = _
    rw [Device.log_record, hl, hbl]
    simp
  · obtain ⟨w, hw⟩ : ∃ w, u.sampler? = some w := Uniform.sampler?_of_image hv
    obtain ⟨hp, hbind⟩ := hb (name, u) (UniformSet.mem_entries_iff.mpr hu) w hw
    have hi : w.built = some i := by
      have hi := Uniform.value_image? hw
      rw [hv, Sampler.image?, hp] at hi
      exact hi.symm
    obtain ⟨t, ht⟩ : ∃ t, w.texture = some t :=
      Option.isSome_iff_exists.mp (by rw [hx.sound name u hu w hw, hi]; rfl)
    obtain ⟨j, hj, hm⟩ := hx.uploaded name u hu w hw t ht
    obtain rfl := Option.some.inj (hi.symm.trans hj)
    obtain ⟨k, hk⟩ := hbind l t hloc ht
    refine ⟨k, t, (Uniform.texture?_of_sampler hw).trans ht, hm, hk.trans ?_⟩
    exact ⟨before, [.drawTriangles 0 6], by simp⟩

end Scene

def Call.makesNone : Call → Bool
  | createTexture _ => false
  | _ => true

lemma Call.makesNone_of_readies {c : Call} (h : c.readies = true) : c.makesNone = true := by
  cases c <;> first | rfl | contradiction

lemma Call.makesNone_of_opens {c : Call} (h : c.opens = true) : c.makesNone = true := by
  cases c <;> first | rfl | contradiction

def Uniform.Settled (u : Uniform) : Prop := u.kind = .unused ∨ ∃ s, u.sampler? = some s ∧ s.Sound ∧ s.pending = none

lemma Uniform.Settled.commit {u : Uniform} (h : u.Settled) (unit : UInt32) (d : Device) :
    ∃ d' u', u.commit unit d = (.ok (), d', u') ∧ Adds Call.makesNone d d' ∧
      ∀ t, u.texture? = some t → .bindTexture2d (some t) ∈ d'.log := by
  rcases h with hk | ⟨s, hs, hb, hp⟩
  · refine ⟨d, u, by rw [Uniform.commit, hk, commitAs], .refl d, fun t ht => ?_⟩
    rw [texture?_of_kind (by rw [hk]; decide)] at ht
    contradiction
  · have he : s.settle d = (.ok s, d) := by rw [Sampler.settle, hp]
    let d₁ := (u.location.map (Call.uniform1i · unit.toInt32)).elim d d.record
    have hd₁ : Adds Call.makesNone d d₁ := by
      cases hl : u.location <;> simp only [d₁, hl]
      · exact .refl d
      · exact .record (.refl d) rfl
    refine ⟨s.bind unit d₁, { u with payload := .sampler s }, ?_, hd₁.trans ⟨_, Sampler.bind_log hb unit d₁, ?_⟩,
      fun t ht => ?_⟩
    · rw [commit_sampler (kind_of_sampler? hs), commitSampler, hs]
      dsimp only
      rw [he]
      cases hl : u.location <;> simp only [d₁, hl] <;> rfl
    · cases s.texture <;> simp [Call.makesNone]
    · rw [texture?_of_sampler hs] at ht
      simp [Sampler.bind_log hb, ht]

lemma commitEntries_settled {es : List (String × Uniform)} (h : ∀ e ∈ es, e.2.Settled) (p : ProgramHandle)
    (unit : UInt32) (d : Device) :
    ∃ d' es', commitEntries p unit d es = (.ok (), d', es') ∧ Adds Call.makesNone d d' ∧
      ∀ e ∈ es, ∀ t, e.2.texture? = some t → .bindTexture2d (some t) ∈ d'.log := by
  induction es generalizing unit d with
  | nil => exact ⟨d, [], rfl, .refl d, by simp⟩
  | cons e es ih =>
    obtain ⟨name, u⟩ := e
    obtain ⟨hu, hes⟩ := List.forall_mem_cons.mp h
    have hl : (u.located d p name).Settled := by
      rwa [Uniform.Settled, Uniform.located_kind, Uniform.sampler?, Uniform.located_payload]
    obtain ⟨d₁, u₁, hc, ha, hb⟩ := hl.commit (u.unitAfter unit) d
    obtain ⟨d₂, es₂, hr, ha', hb'⟩ := ih hes (u.unitAfter unit) d₁
    refine ⟨d₂, (name, u₁) :: es₂, ?_, ha.trans ha', List.forall_mem_cons.mpr ⟨fun t ht => ?_, hb'⟩⟩
    · simp only [commitEntries_cons, hc, hr]
    · exact ha'.log_extends.subset (hb t (by rwa [Uniform.located_texture?]))

namespace Scene

variable {x : Scene} {name : String} {u : Uniform}

def blank (names : List String) : List Operation := names.map fun n => .insert n .unused .single .none

lemma run_blank (x : Scene) (names : List String) : (x.run (blank names)).renderer = x.renderer ∧
    ∀ n, (x.run (blank names)).uniforms.get? n =
      if n ∈ names then some { payload := .unused } else x.uniforms.get? n := by
  induction names generalizing x with
  | nil => exact ⟨rfl, fun n => by simp [blank, run]⟩
  | cons name names ih =>
    obtain ⟨hr, hg⟩ := ih ((Operation.insert name .unused .single .none).apply x).2
    refine ⟨hr, fun n => ?_⟩
    rw [blank, List.map_cons, run, ← blank, hg]
    by_cases hn : n ∈ names
    · rw [if_pos hn, if_pos (List.mem_cons_of_mem _ hn)]
    · have hi : ((Operation.insert name .unused .single .none).apply x).2.uniforms =
          x.uniforms.insert name { payload := .unused } := rfl
      rw [if_neg hn, hi, UniformSet.get?_insert]
      by_cases he : n = name
      · simp [he]
      · simp [he, hn]

lemma binds_held {p : ProgramHandle} {t : TextureHandle} (hp : x.renderer.program = some p)
    (hn : x.renderer.needsRecompile = false) (hg : x.uniforms.get? name = some u) (hs : u.Sound)
    (ht : u.texture? = some t) :
    ∃ ps, .bindTexture2d (some t) ∈ (x.run ps).device.log ∧ Adds Call.makesNone x.device (x.run ps).device := by
  obtain ⟨s, hsam, htex⟩ := Option.bind_eq_some_iff.mp ht
  obtain ⟨i, hi⟩ : ∃ i, s.built = some i := Option.isSome_iff_exists.mp (by rw [← hs s hsam, htex]; rfl)
  have hst : u.stage (.image i) = (.ok .unchanged, { u with payload := .sampler { s with pending := none } }) := by
    rw [Uniform.stage, Uniform.kind_of_sampler? hsam, Uniform.stageAs, Uniform.stageImage,
      Uniform.imageUpdate_image hsam]
    simp [Sampler.isBuiltFrom, htex, hi]
  let others := x.uniforms.names.filter (· ≠ name)
  obtain ⟨hr, hgo⟩ := x.run_blank others
  let y := x.run (blank others)
  have hgy : y.uniforms.get? name = some u := by
    rw [hgo, if_neg (by simp [others]), hg]
  let w : Uniform := { u with payload := .sampler { s with pending := none } }
  have hstage : ((Operation.stage name (.image i)).apply y).2 = y.withUniform name w := by
    simp only [Operation.apply, hgy, hst, w]
  -- every entry is the sampler with nothing waiting, or unused
  have hset : ∀ e ∈ (y.withUniform name w).uniforms.entries, e.2.Settled := by
    rintro ⟨n, v⟩ he
    have hv := UniformSet.mem_entries_iff.mp he
    simp only [withUniform, UniformSet.get?_modify] at hv
    split at hv
    · obtain ⟨_, -, rfl⟩ := Option.map_eq_some_iff.mp hv
      exact .inr ⟨_, rfl, (hs s hsam).pend none, rfl⟩
    · next hne =>
      rw [hgo] at hv
      split at hv
      · exact .inl (Option.some.inj hv ▸ rfl)
      · next hno =>
        have hmem : n ∈ x.uniforms.names := List.mem_map_of_mem (UniformSet.mem_entries_iff.mpr hv)
        exact absurd (List.mem_filter.mpr ⟨hmem, by simpa using hne⟩) hno
  have hw : (name, w) ∈ (y.withUniform name w).uniforms.entries := by
    refine UniformSet.mem_entries_iff.mpr ?_
    simp [withUniform, UniformSet.get?_modify, hgy]
  obtain ⟨d, es, hc, ha, hb⟩ := commitEntries_settled hset p 0 (x.renderer.openFrame p)
  have hrun : (x.run (blank others ++ [.stage name (.image i), .render 0])).device = d.record (.drawTriangles 0 6) := by
    rw [run_append]
    simp only [run]
    rw [hstage]
    have hyr : (y.withUniform name w).renderer = x.renderer := hr
    simp only [Operation.apply, ofAttempt, hyr, Renderer.render, hp, hn, Renderer.draw, UniformSet.commit, hc, device]
    rfl
  refine ⟨_, by rw [hrun, Device.log_record]; exact List.mem_append_left _ (hb _ hw t htex), ?_⟩
  rw [hrun]
  exact (((x.renderer.openFrame_opens p).mono fun _ => Call.makesNone_of_opens).trans ha).record rfl

end Scene

namespace Renderer

variable {label : String} {d : Device} {source : String} {s s' : UniformSet} {m : Mode} {ds : List Diagnostic}
  {r : Renderer}

lemma init_ok (h : init label d source s m = (.ok ds, r, s')) :
    (∃ p, r.program = some p) ∧ r.needsRecompile = false ∧ ∃ d' p, s' = s.relocate d' p := by
  have hc := compile_compiles { label := label, device := d, mode := m.resolve source } source s
  rw [init] at h
  rw [h] at hc
  cases hc with
  | @compiled t p d' r' _ _ _ he =>
    refine ⟨⟨p, ?_⟩, rfl, _, p, rfl⟩
    have hr := (adopted { label := label, device := d, mode := m.resolve source } source t p d').ensureBuffer_program
    rw [he] at hr
    exact hr

lemma init_changes (h : init label d source s m = (.ok ds, r, s')) :
    Scene.Changes ⟨{ label := label, device := d, mode := m.resolve source }, s⟩ [] ⟨r, s'⟩ := by
  have hc := Scene.compile_changes source ⟨{ label := label, device := d, mode := m.resolve source }, s⟩
  rw [init] at h
  simpa only [Operation.apply, Scene.ofAttempt, h] using hc

end Renderer

namespace Scene

lemma SelfMade.fresh {label : String} {m : Mode} {d : Device} {s : UniformSet} (hd : d.Fresh)
    (hs : ∀ name u, s.get? name = some u → u.Sound) (ht : ∀ e ∈ s.entries, e.2.texture? = none) :
    SelfMade ⟨{ label := label, device := d, mode := m }, s⟩ := by
  have hl : d.log = [] := by rw [Device.log, hd.calls]
  have htr : d.Tracked := by
    refine ⟨hl ▸ .nil, fun h => ?_, by simp [hl]⟩
    cases h <;> simp [Alive, hl, Device.Holds, hd.shaders, hd.programs, hd.buffers, hd.textures]
  have hn : heldBy s.entries = [] := List.filterMap_eq_nil_iff.mpr ht
  refine ⟨⟨htr, hd.shaders, by simp [device, hd.programs], by simp [device, hd.buffers], ?_⟩, hs, fun name u hu => ?_⟩
  · change Device.Backs _ (heldBy s.entries)
    rw [hn]
    exact ⟨List.nodup_nil, by simp⟩
  · exact Uniform.uploaded_of_texture (ht (name, u) (UniformSet.mem_entries_iff.mpr hu))

/-- Exactly if no sampler of the set holds a texture when the set is handed over, the new renderer always binds
textures of its own device, and after a frame each sampler with an image and a place has one made from the image. -/
theorem init_binds_own {s₀ : UniformSet} (h₀ : ∀ e ∈ s₀.entries, e.2.Sound) (label : String) (m : Mode) (size : Size)
    (os : List Operation) {d : Device} (hd : d.Fresh) {label' source : String} {m' : Mode} {ds : List Diagnostic}
    {r : Renderer} {s : UniformSet} :
    let used := ((Scene.new label m size s₀).run os).uniforms
    Renderer.init label' d source used m' = (.ok ds, r, s) →
      (((∀ ps, (Scene.run ⟨r, s⟩ ps).device.BindsOwn) ∧
          ∀ ps ended, ((Operation.render ended).apply (Scene.run ⟨r, s⟩ ps)).1 = .ok () →
            BindsUploads (Scene.run ⟨r, s⟩ ps) ((Operation.render ended).apply (Scene.run ⟨r, s⟩ ps)).2) ↔
        ∀ e ∈ used.entries, e.2.texture? = none) := by
  intro used h
  have hsound : ∀ name u, used.get? name = some u → u.Sound :=
    @each_run (Scene.new label m size s₀) [] _ Uniform.sound_kept
      (fun name u hu => h₀ (name, u) (UniformSet.mem_entries_iff.mpr hu)) os
  constructor
  · rintro ⟨hown, -⟩ ⟨name, u⟩ he
    by_contra hn
    obtain ⟨t, ht⟩ := Option.ne_none_iff_exists'.mp hn
    obtain ⟨⟨p, hp⟩, hf, d', q, rfl⟩ := Renderer.init_ok h
    have hu := UniformSet.mem_entries_iff.mp he
    have hg : (used.relocate d' q).get? name =
        some { u with location := if u.kind.bindable then d'.uniformLocation q name else none } := by
      rw [UniformSet.relocate, UniformSet.get?_map, hu, Option.map_some]
    obtain ⟨ps, hb, hm⟩ := binds_held (x := ⟨r, used.relocate d' q⟩) hp hf hg (hsound name u hu) ht
    -- no call creates a texture, neither in the compile nor after it
    have hlog : d.log = [] := by rw [Device.log, hd.calls]
    have hr : Adds Call.makesNone d r.device := by
      have hnum : d.Numbered := ⟨by simp [hd.shaders], by simp [hd.programs]⟩
      exact (Renderer.compile_readies (r := { label := label', device := d, mode := m'.resolve source }) hnum h).mono
        fun _ => Call.makesNone_of_readies
    obtain ⟨cs, hcs, hnone⟩ := hr.trans hm
    rw [hlog, List.nil_append] at hcs
    obtain ⟨before, after, hsplit⟩ := List.append_of_mem hb
    have hc := hown ps before after t hsplit
    have hmem : Call.createTexture t ∈ cs := by
      rw [← hcs, hsplit]
      exact List.mem_append_left _ hc
    exact absurd (hnone _ hmem) (by simp [Call.makesNone])
  · intro ht
    have hy : SelfMade ⟨r, s⟩ := (SelfMade.fresh hd hsound ht).changes (Renderer.init_changes h)
    exact ⟨fun ps => (hy.run ps).bindsOwn, fun ps ended => (hy.run ps).bindsUploads⟩

lemma eq_of_fst {α β γ : Type} {a : α × β × γ} {x : α} (h : a.1 = x) : a = (x, a.2.1, a.2.2) := by
  rw [← h]

theorem init_binds_own_waiting :
    let s₀ := UniformSet.ofList [("tex", { payload := .sampler { pending := some ⟨.host "a", ⟨2, 2⟩⟩ } })]
    let used := ((Scene.new "scene" .default ⟨8, 8⟩ s₀).run [.compile ""]).uniforms
    let a := Renderer.init "other" {} "" used .default
    a.1 = .ok [.missingUniform "u_resolution", .missingUniform "u_time"] ∧
      (∀ ps, (Scene.run ⟨a.2.1, a.2.2⟩ ps).device.BindsOwn) ∧
      ∀ ps ended, ((Operation.render ended).apply (Scene.run ⟨a.2.1, a.2.2⟩ ps)).1 = .ok () →
        BindsUploads (Scene.run ⟨a.2.1, a.2.2⟩ ps)
          ((Operation.render ended).apply (Scene.run ⟨a.2.1, a.2.2⟩ ps)).2 := by
  refine (fun (h : _ ∧ _) => ⟨h.1, (init_binds_own ?sound "scene" .default ⟨8, 8⟩ [.compile ""]
    ⟨rfl, rfl, rfl, rfl, rfl⟩ (eq_of_fst h.1)).mpr h.2⟩) ?holds
  case holds => decide +kernel
  case sound =>
    intro e he s hs
    obtain rfl := List.mem_singleton.mp he
    exact Option.some.inj hs ▸ rfl

/-- The same set after a frame: the second device is told to bind a texture of the first one. -/
theorem init_binds_foreign :
    let s₀ := UniformSet.ofList [("tex", { payload := .sampler { pending := some ⟨.host "a", ⟨2, 2⟩⟩ } })]
    let used := ((Scene.new "scene" .default ⟨8, 8⟩ s₀).run [.compile "", .render 0]).uniforms
    let a := Renderer.init "other" {} "" used .default
    let y := Scene.run ⟨a.2.1, a.2.2⟩ [.render 0]
    a.1.isOk = true ∧ .bindTexture2d (some ⟨5⟩) ∈ y.device.log ∧ .createTexture ⟨5⟩ ∉ y.device.log ∧
      ¬ y.device.BindsOwn := by
  refine And.imp_right (fun (h : _ ∧ _) => ⟨h.1, h.2, Device.not_bindsOwn h.1 h.2⟩) ?_
  decide +kernel

end Scene

end ShaderRunner

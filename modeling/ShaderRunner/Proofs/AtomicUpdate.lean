import ShaderRunner.Proofs.SamplerSteps

/-! Every failure of an update comes before its first change. -/

namespace ShaderRunner

namespace Device

variable {d : Device}

def exchange (d : Device) (size : Size) (old : Option TextureHandle) : Device :=
  { d with
    next := d.next + 1
    textures := (d.textures ++ [TextureHandle.mk d.next]).filter (old ≠ some ·)
    calls := d.calls ++ (makingOf ⟨d.next⟩ size ++ old.toList.map .deleteTexture) }

lemma makeTexture_exchange (hr : d.refuses .texture = false) (size : Size) :
    d.makeTexture size = (some ⟨d.next⟩, d.exchange size none) := by
  have ht : (d.textures ++ [TextureHandle.mk d.next]).filter (none ≠ some ·) = d.textures ++ [⟨d.next⟩] :=
    List.filter_eq_self.mpr (by simp)
  rw [makeTexture, createTexture, if_neg (by simp [hr]), exchange, ht]
  rfl

lemma exchange_deleteTexture (d : Device) (size : Size) (t : TextureHandle) :
    (d.exchange size none).deleteTexture t = d.exchange size (some t) := by
  have ht : ((d.textures ++ [TextureHandle.mk d.next]).filter (none ≠ some ·)).filter (· ≠ t) =
      (d.textures ++ [TextureHandle.mk d.next]).filter (some t ≠ some ·) := by
    rw [List.filter_filter]
    exact List.filter_congr fun x _ => by simp [ne_comm]
  rw [deleteTexture, exchange, exchange, ht]
  rfl

end Device

lemma Sampler.build_exchange {d : Device} (hr : d.refuses .texture = false) (s : Sampler) (i : Image) :
    s.build i d = (some { s with texture := some ⟨d.next⟩, built := some i },
      d.exchange (i.size.normalized 0) s.texture) := by
  rw [build, Device.makeTexture_exchange hr]
  cases s.texture with
  | none => rfl
  | some old => simp only [Device.exchange_deleteTexture]

namespace Uniform

variable {u : Uniform}

inductive Updates (u : Uniform) (v : Value) (d : Device) : Attempt Outcome (Device × Uniform) → Prop
  | failed (e : Failure) : Updates u v d (.error e, d, u)
  | stored (o : Outcome) {p : Payload} (hp : p.kind = u.kind)
      (ho : (o == .recompileRequired) = (u.kind == .static)) : Updates u v d (.ok o, d, { u with payload := p })
  | exchanged {i : Image} {s : Sampler} (hv : v = .image i) (hs : u.sampler? = some s) (hb : s.isBuiltFrom i = false) :
      Updates u v d (.ok .applied, d.exchange (i.size.normalized 0) s.texture,
        { u with payload := .sampler ⟨some i, some ⟨d.next⟩, none⟩ })

lemma storeValue_updates (hk : u.kind ≠ .static) (v : Value) (d : Device) :
    u.Updates v d ((u.storeValue v).1, d, (u.storeValue v).2) := by
  unfold storeValue
  cases hp : Payload.ofValue u.kind v with
  | error e => exact .failed e
  | ok p => exact .stored .applied (Payload.ofValue_ok hp).1 (by simpa using hk)

lemma stage_updates (hk : u.kind ≠ .sampler) (v : Value) (d : Device) :
    u.Updates v d ((u.stage v).1, d, (u.stage v).2) := by
  unfold stage
  cases hu : u.kind with
  | sampler => exact absurd hu hk
  | static =>
    rw [stageAs, storeText]
    cases v.static with
    | error e => exact .failed e
    | ok t => exact .stored .recompileRequired hu.symm (by rw [hu]; rfl)
  | unused => exact .stored (p := u.payload) .unchanged rfl (by rw [hu]; rfl)
  | int | float | vec2 | vec3 | vec4 | vec3Array => exact storeValue_updates (by rw [hu]; decide) v d

lemma storeImage_updates (hk : u.kind = .sampler) (v : Value) (d : Device) : u.Updates v d (u.storeImage v d) := by
  rw [storeImage]
  cases hi : u.imageUpdate v with
  | error e => exact .failed e
  | ok x =>
    obtain ⟨s, i⟩ := x
    obtain ⟨rfl, hs⟩ := imageUpdate_ok hi
    dsimp only
    cases hb : s.isBuiltFrom i with
    | true => exact .stored .unchanged hk.symm (by rw [hk]; rfl)
    | false =>
      cases hr : d.refuses .texture with
      | true =>
        rw [Sampler.build_refused s i hr]
        exact .failed _
      | false =>
        rw [Sampler.build_exchange hr]
        exact .exchanged rfl hs hb

lemma update_updates (u : Uniform) (v : Value) (d : Device) : u.Updates v d (u.update v d) := by
  by_cases hk : u.kind = .sampler
  · rw [update_sampler hk]
    exact storeImage_updates hk v d
  · rw [update_of_kind hk]
    exact stage_updates hk v d

end Uniform

namespace Renderer

variable {r : Renderer} {s : UniformSet}

structure Updated (r : Renderer) (s : UniformSet) (name : String) (v : Value) (r' : Renderer) (s' : UniformSet) :
    Prop where
  uniform : ∃ u p, s.get? name = some u ∧ p.kind = u.kind ∧ s'.get? name = some { u with payload := p } ∧
    r'.needsRecompile = (r.needsRecompile || u.kind == .static) ∧
    (r'.device = r.device ∨ ∃ i x, v = .image i ∧ u.sampler? = some x ∧ x.isBuiltFrom i = false ∧
      r'.device = r.device.exchange (i.size.normalized 0) x.texture ∧
      p = .sampler ⟨some i, some ⟨r.device.next⟩, none⟩)
  others : ∀ other ≠ name, s'.get? other = s.get? other
  names : s'.names = s.names
  renderer : r' = { r with device := r'.device, needsRecompile := r'.needsRecompile }

/-- An update that fails changes nothing, neither in the set nor in the renderer and its device. One that succeeds
keeps everything but the payload of the uniform, whose kind it keeps, and the texture that the payload holds; a static
asks for a new compile, and nothing else does. -/
theorem update_atomic (r : Renderer) (s : UniformSet) (name : String) (v : Value) :
    match r.update s name v with
    | (.error _, r', s') => r' = r ∧ s' = s
    | (.ok _, r', s') => Updated r s name v r' s' := by
  rw [update]
  cases hu : s.get? name with
  | none => exact ⟨rfl, rfl⟩
  | some u =>
    have hset : ∀ p : Payload, (s.modify name fun _ => { u with payload := p }).get? name =
        some { u with payload := p } := fun p => by rw [UniformSet.get?_modify, if_pos rfl, hu, Option.map_some]
    have hothers : ∀ (w : Uniform), ∀ other ≠ name, (s.modify name fun _ => w).get? other = s.get? other :=
      fun w other ho => by rw [UniformSet.get?_modify, if_neg ho]
    have h := u.update_updates v r.device
    dsimp only
    generalize u.update v r.device = a at h ⊢
    cases h with
    | failed e => exact ⟨rfl, UniformSet.modify_self hu⟩
    | @stored o p hp ho =>
      exact ⟨⟨u, p, hu, hp, hset p, by rw [ho], .inl rfl⟩, hothers _, s.names_modify name _, rfl⟩
    | @exchanged i x hv hx hb =>
      have hk := Uniform.kind_of_sampler? hx
      exact ⟨⟨u, .sampler ⟨some i, some ⟨r.device.next⟩, none⟩, hu, hk.symm, hset _, by rw [hk]; rfl,
        .inr ⟨i, x, hv, hx, hb, rfl, rfl⟩⟩, hothers _, s.names_modify name _, rfl⟩

example :
    let a : Image := ⟨.host "a", ⟨2, 2⟩⟩
    let b : Image := ⟨.host "b", ⟨4, 4⟩⟩
    let s : UniformSet := ⟨[("tex", { payload := .sampler ⟨some a, some ⟨1⟩, none⟩ })], by simp⟩
    let r : Renderer := { label := "scene", device := { next := 2, textures := [⟨1⟩] }, mode := .default }
    let r' : Renderer := { r with device := { r.device with refused := [.texture] } }
    (r.update s "tex" (.image b)).2.1.device.textures = [⟨2⟩] ∧
      (r'.update s "tex" (.image b)).1 = .error (.refused .texture) ∧ (r'.update s "tex" (.image b)).2.1 = r' := by
  decide +kernel

end Renderer

end ShaderRunner

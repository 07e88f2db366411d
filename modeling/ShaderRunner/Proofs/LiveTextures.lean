import ShaderRunner.Proofs.SamplerSteps

/-!
Updates and commits delete a texture when they replace it; only an entry put in the place of another under its name
lets go of the texture that the other held, and leaves it alive.
-/

namespace ShaderRunner

open Device (Renews)

namespace Device

def Releases (ts ts' : List TextureHandle) (d d' : Device) : Prop :=
  ∀ t ∈ d'.textures, t ∈ ts' ∨ t ∈ d.textures ∧ t ∉ ts

variable {d d' d'' : Device} {ts ts' ts'' : List TextureHandle}

namespace Releases

lemma of_textures (h : d'.textures = d.textures) (ts : List TextureHandle) : Releases ts ts d d' := by
  intro t ht
  by_cases hm : t ∈ ts
  · exact .inl hm
  · exact .inr ⟨h ▸ ht, hm⟩

lemma trans (h : Releases ts ts' d d') (h' : Releases ts' ts'' d' d'') : Releases ts ts'' d d'' := by
  intro t ht
  rcases h' t ht with hm | ⟨ht', hm⟩
  · exact .inl hm
  · exact .inr ((h t ht').resolve_left hm)

lemma append_left (h : Releases ts ts' d d') (us : List TextureHandle) : Releases (us ++ ts) (us ++ ts') d d' := by
  intro t ht
  by_cases hu : t ∈ us
  · exact .inl (List.mem_append_left ts' hu)
  · rcases h t ht with hm | ⟨ht', hm⟩
    · exact .inl (List.mem_append_right us hm)
    · exact .inr ⟨ht', by simp [hu, hm]⟩

lemma append_right (h : Releases ts ts' d d') (us : List TextureHandle) : Releases (ts ++ us) (ts' ++ us) d d' := by
  have h' := h.append_left us
  intro t ht
  simpa only [List.mem_append, or_comm] using h' t ht

end Releases

lemma makeTexture_textures {size : Size} {t : TextureHandle} (h : d.makeTexture size = (some t, d')) :
    d'.textures = d.textures ++ [t] := by
  rw [makeTexture, createTexture] at h
  cases hr : d.refuses .texture with
  | true => simp [hr] at h
  | false =>
    simp only [hr, Bool.false_eq_true, if_false, Prod.mk.injEq, Option.some.injEq] at h
    obtain ⟨rfl, rfl⟩ := h
    rfl

end Device

open Device (Releases)

namespace Sampler

variable {d d' : Device} {s s' : Sampler} {i : Image}

lemma build_releases (h : s.build i d = (some s', d')) : Releases s.texture.toList s'.texture.toList d d' := by
  obtain ⟨t, d₁, hm, rfl, hs⟩ := build_some h
  have ht := Device.makeTexture_textures hm
  have hnew : ∀ x ∈ d₁.textures, x = t ∨ x ∈ d.textures := by
    intro x hx
    simpa [ht, or_comm] using hx
  rcases hs with ⟨hs, rfl⟩ | ⟨old, hs, rfl⟩
  · intro x hx
    exact (hnew x hx).imp (by simp) fun hd => ⟨hd, by simp [hs]⟩
  · intro x hx
    obtain ⟨hx, hne⟩ : x ∈ d₁.textures ∧ x ≠ old := by simpa [Device.deleteTexture, Device.record] using hx
    exact (hnew x hx).imp (by simp) fun hd => ⟨hd, by simpa [hs] using hne⟩

lemma settle_releases (h : s.settle d = (.ok s', d')) : Releases s.texture.toList s'.texture.toList d d' := by
  rcases s.settle_cases d with hs | hs | ⟨i, s₁, d₁, -, -, hb, hs⟩ <;> rw [hs] at h
  · obtain ⟨hs', rfl⟩ := Prod.mk.inj h
    obtain rfl := Except.ok.inj hs'
    exact .of_textures rfl _
  · cases (Prod.mk.inj h).1
  · obtain ⟨hs', rfl⟩ := Prod.mk.inj h
    obtain rfl := Except.ok.inj hs'
    have h' := build_releases hb
    exact h'

lemma bind_textures (s : Sampler) (unit : UInt32) (d : Device) : (s.bind unit d).textures = d.textures := by
  rw [bind]
  split
  · rfl
  · split <;> rfl

end Sampler

namespace Uniform

variable {u : Uniform}

lemma commit_releases (u : Uniform) (unit : UInt32) (d : Device) :
    Releases u.texture?.toList (u.commit unit d).2.2.texture?.toList d (u.commit unit d).2.1 := by
  by_cases hk : u.kind = .sampler
  · rw [commit_sampler hk, commitSampler]
    cases hs : u.sampler? with
    | none => exact .of_textures rfl _
    | some s =>
      rw [texture?_of_sampler hs]
      rcases hc : s.settle d with ⟨e | s', d₁⟩
      · have hd : d₁ = d := Sampler.settle_renews hc
        simpa only [hc, hd, texture?_of_sampler hs] using Releases.of_textures rfl _
      · simp only [hc, texture?_sampler]
        refine (Sampler.settle_releases hc).trans (.of_textures ?_ _)
        rw [Sampler.bind_textures]
        cases u.location <;> rfl
  · rw [commit_of_kind hk, texture?_of_kind hk, commit_value_device hk]
    cases u.location.bind u.payload.upload? <;> exact .of_textures rfl _

lemma update_releases (u : Uniform) (v : Value) (d : Device) :
    Releases u.texture?.toList (u.update v d).2.2.texture?.toList d (u.update v d).2.1 := by
  by_cases hk : u.kind = .sampler
  · obtain ⟨s, hs⟩ := exists_sampler hk
    cases hv : v.image? with
    | none =>
      rw [update_other hs hv]
      exact .of_textures rfl _
    | some i =>
      obtain rfl := Value.eq_image hv
      obtain ⟨o, hu⟩ := update_image hs i d
      rw [hu, texture?_of_sampler hs]
      rcases hc : Sampler.settle { s with pending := some i } d with ⟨e | s', d₁⟩
      · have hd : d₁ = d := Sampler.settle_renews hc
        simpa only [hd, texture?_of_sampler hs] using Releases.of_textures rfl _
      · exact Sampler.settle_releases (s := { s with pending := some i }) hc
  · rw [update_of_kind hk, stage_texture?]
    exact .of_textures rfl _

end Uniform

section Entries

variable {d d' : Device} {u u' : Uniform}

lemma releases_entry (h : Releases u.texture?.toList u'.texture?.toList d d') (a b : List (String × Uniform))
    (name : String) : Releases (heldBy (a ++ (name, u) :: b)) (heldBy (a ++ (name, u') :: b)) d d' := by
  simp only [heldBy_append, heldBy_cons]
  exact (h.append_right _).append_left _

lemma commitEntries_releases (p : ProgramHandle) (unit : UInt32) (d : Device) (es : List (String × Uniform)) :
    Releases (heldBy es) (heldBy (commitEntries p unit d es).2.2) d (commitEntries p unit d es).2.1 := by
  have hcommit (name : String) (u : Uniform) (k : UInt32) (d : Device) :=
    u.located_texture? d p name ▸ (u.located d p name).commit_releases k d
  refine commitEntries_walk (R := fun d es d' es' => Releases (heldBy es) (heldBy es') d d')
    (fun d => .of_textures rfl _) ?_ ?_ unit d es
  · intro name u k d es
    simp only [heldBy_cons]
    exact (hcommit name u k d).append_right _
  · intro name u k d es d' es' ih
    simp only [heldBy_cons]
    exact ((hcommit name u k d).append_right _).trans (ih.append_left _)

end Entries

namespace Scene

/-- The living textures are those of the set and those that it has let go of, all of them different. -/
structure Accounts (x : Scene) (lost : List TextureHandle) : Prop where
  backs : x.device.Backs (lost ++ heldBy x.uniforms.entries)
  known : ∀ t ∈ x.device.textures, t ∈ lost ++ heldBy x.uniforms.entries

variable {x y : Scene} {lost : List TextureHandle}

lemma Accounts.congr (h : x.Accounts lost) (ht : y.device.textures = x.device.textures)
    (hh : heldBy y.uniforms.entries = heldBy x.uniforms.entries) : y.Accounts lost := by
  refine ⟨?_, ?_⟩
  · rw [hh]
    exact h.backs.of_textures ht
  · rw [hh, ht]
    exact h.known

lemma Accounts.renew (h : x.Accounts lost) (hx : x.device.Tracked)
    (hn : Renews (heldBy x.uniforms.entries) (heldBy y.uniforms.entries) x.device y.device)
    (hr : Releases (heldBy x.uniforms.entries) (heldBy y.uniforms.entries) x.device y.device) : y.Accounts lost := by
  refine ⟨(hn hx lost h.backs).2, fun t ht => List.mem_append.mpr ?_⟩
  rcases hr t ht with hm | ⟨hd, hm⟩
  · exact .inr hm
  · exact .inl ((List.mem_append.mp (h.known t hd)).resolve_right hm)

lemma Accounts.draw (h : x.Accounts lost) (ho : x.Owned) {p : ProgramHandle} (hp : x.renderer.program = some p)
    (ended : Float32) :
    Accounts ⟨(x.renderer.draw p x.uniforms ended).2.1, (x.renderer.draw p x.uniforms ended).2.2⟩ lost := by
  have hopen : Accounts ⟨{ x.renderer with device := x.renderer.openFrame p }, x.uniforms⟩ lost :=
    h.congr (x.renderer.openFrame_framed p).2 rfl
  have hc : Accounts ⟨{ x.renderer with device := (x.uniforms.commit p (x.renderer.openFrame p)).2.1 },
      (x.uniforms.commit p (x.renderer.openFrame p)).2.2⟩ lost :=
    hopen.renew (ho.openFrame hp).tracked (commitEntries_renews p 0 _ _) (commitEntries_releases p 0 _ _)
  rw [Renderer.draw]
  rcases hcm : x.uniforms.commit p (x.renderer.openFrame p) with ⟨e | _, d, s⟩ <;> rw [hcm] at hc
  · exact hc
  · exact hc.congr rfl rfl

lemma Accounts.stage (h : x.Accounts lost) {name : String} {u : Uniform} (v : Value)
    (hu : x.uniforms.get? name = some u) : (x.withUniform name (u.stage v).2).Accounts lost := by
  obtain ⟨a, b, hs, hm⟩ := UniformSet.entries_modify hu
  refine h.congr rfl ?_
  simp only [withUniform, hm, hs, heldBy_append, heldBy_cons, Uniform.stage_texture?]

lemma Accounts.store (h : x.Accounts lost) (ho : x.Owned) {name : String} {u : Uniform} (v : Value)
    (hu : x.uniforms.get? name = some u) :
    ((x.withDevice (u.update v x.device).2.1).withUniform name (u.update v x.device).2.2).Accounts lost := by
  obtain ⟨a, b, hs, hm⟩ := UniformSet.entries_modify hu
  apply h.renew ho.tracked
  · simp only [withUniform, withDevice, hm, hs]
    exact renews_entry (u.update_renews v x.device) a b name
  · simp only [withUniform, withDevice, hm, hs]
    exact releases_entry (u.update_releases v x.device) a b name

lemma Accounts.change {l : Ledger} (hc : Change x l y) (hl : l = []) (ho : x.Owned) (h : x.Accounts lost) :
    y.Accounts lost := by
  cases hc with
  | noted r hd _ _ => exact h.congr (congrArg Device.textures hd) rfl
  | @unbuilt t e d hb =>
    obtain ⟨hbu, -, -⟩ := Device.buildProgram_spec ho.tracked.numbered t
    rw [hb] at hbu
    exact h.congr hbu.textures rfl
  | @adopted t p d hb =>
    obtain ⟨hbu, -, -⟩ := Device.buildProgram_spec ho.tracked.numbered t
    rw [hb] at hbu
    refine h.congr (Eq.trans ?_ hbu.textures) (heldBy_relocate _ _ _)
    rw [device, Renderer.adopt]
    cases x.renderer.program <;> rfl
  | buffered => exact h.congr x.renderer.ensureBuffer_device.2.2.1 rfl
  | drawn ended hp => exact h.draw ho hp ended
  | staged v hu => exact h.stage v hu
  | stored v hu => exact h.store ho v hu
  | inserted name _ _ => contradiction
  | released =>
    obtain ⟨-, -, -, -, ht⟩ := Renderer.destroy_spec ho.tracked ho.programs ho.buffers
    exact h.congr ht rfl
  | arranged f => exact h.congr rfl rfl
  | resolved name =>
    obtain ⟨ns, he⟩ := x.device.resolveAlways_eq name
    rw [he]
    exact h.congr rfl rfl

lemma Accounts.changes {l : Ledger} (hc : Changes x l y) (hl : l = []) (ho : x.Owned) (h : x.Accounts lost) :
    y.Accounts lost := by
  induction hc with
  | refl => exact h
  | step hc _ ih =>
    obtain ⟨h₁, h₂⟩ := List.append_eq_nil_iff.mp hl
    exact ih h₂ (ho.change hc) (h.change hc h₁ ho)

lemma Accounts.insert (h : x.Accounts lost) {u : Uniform} (hu : u.texture? = none) (name : String) :
    Accounts { x with uniforms := x.uniforms.insert name u } (lost ++ (x.held name).toList) := by
  rcases x.uniforms.entries_insert name u with ⟨a, v, b, hs, hi⟩ | hi
  · have hv : x.held name = v.texture? := by
      have hm : (name, v) ∈ x.uniforms.entries := by simp [hs]
      rw [held, UniformSet.mem_entries_iff.mp hm, Option.bind_some]
    have hp : (lost ++ heldBy x.uniforms.entries).Perm
        (lost ++ (x.held name).toList ++ heldBy (x.uniforms.insert name u).entries) := by
      rw [hs, hi, hv, List.append_assoc]
      simp only [heldBy_append, heldBy_cons, hu, Option.toList_none, List.nil_append]
      exact (List.perm_append_comm_assoc _ _ _).append_left lost
    exact ⟨h.backs.perm hp, fun t ht => hp.mem_iff.mp (h.known t ht)⟩
  · have hn : x.held name = none := by rw [held, UniformSet.get?_of_entries_insert hi, Option.bind_none]
    rw [hn, Option.toList_none, List.append_nil]
    refine h.congr rfl ?_
    rw [hi, heldBy_append, heldBy_cons, hu]
    exact List.append_nil _

lemma Accounts.storeAll (h : x.Accounts lost) (vs : List (String × Value)) :
    Accounts { x with uniforms := (BuiltIn.storeAll x.uniforms vs).2 } lost := by
  induction vs generalizing x with
  | nil => exact h
  | cons e vs ih =>
    obtain ⟨name, v⟩ := e
    simp only [BuiltIn.storeAll, BuiltIn.store]
    cases hu : x.uniforms.get? name with
    | none => exact ih h
    | some u =>
      have hs := h.stage v hu
      rcases hv : u.stage v with ⟨e | o, u'⟩ <;> rw [hv] at hs
      · simpa only [hv] using! hs
      · simpa only [hv] using! ih hs

end Scene

def Operation.dropped (o : Operation) (x : Scene) : List TextureHandle :=
  match o with
  | .insert name .. | .define name .. | .declare name _ => if (o.apply x).1.isOk then (x.held name).toList else []
  | _ => []

namespace Scene

def dropped (x : Scene) : List Operation → List TextureHandle
  | [] => []
  | o :: os => o.dropped x ++ dropped (o.apply x).2 os

variable {x y : Scene} {lost : List TextureHandle}

lemma Accounts.withUniforms (h : x.Accounts lost) (name : String) {e : Except Failure Uniform}
    (he : ∀ u, e = .ok u → u.texture? = none) :
    (x.withUniforms (e.map (x.uniforms.insert name))).2.Accounts
      (lost ++ if (x.withUniforms (e.map (x.uniforms.insert name))).1.isOk then (x.held name).toList else []) := by
  cases e with
  | error e =>
    have hn : lost ++ [] = lost := List.append_nil lost
    exact hn.symm ▸ h
  | ok u => exact h.insert (he u rfl) name

lemma Accounts.apply (h : x.Accounts lost) (ho : x.Owned) (o : Operation) :
    (o.apply x).2.Accounts (lost ++ o.dropped x) := by
  have hkeep : ∀ {y : Scene}, y.Accounts lost → y.Accounts (lost ++ []) := by
    intro y hy
    rwa [List.append_nil]
  have hinferred : ∀ {location name v source u}, Uniform.createInferred location name v source = .ok u →
      u.texture? = none := by
    intro location name v source u hc
    obtain ⟨k, length, hc⟩ := Uniform.createInferred_ok hc
    exact Uniform.create_texture? hc
  cases o with
  | compile source | render ended | destroy | arrange f | resolve name =>
    exact hkeep (h.changes (apply_changes _ x) rfl ho)
  | insert name k length v => exact h.withUniforms name fun u hc => Uniform.create_texture? hc
  | define name v source => exact h.withUniforms name fun u hc => hinferred hc
  | declare name v => exact h.withUniforms name fun u hc => hinferred hc
  | refresh now i => exact hkeep (h.storeAll _)
  | stage name v =>
    apply hkeep
    rw [Operation.apply]
    cases hu : x.uniforms.get? name with
    | none => exact h
    | some u => exact h.stage v hu
  | store name v =>
    apply hkeep
    rw [Operation.apply]
    cases hu : x.uniforms.get? name with
    | none => exact h
    | some u => exact h.store ho v hu
  | update name v =>
    apply hkeep
    rw [Operation.apply, Renderer.update]
    cases hu : x.uniforms.get? name with
    | none => exact h
    | some u =>
      have hs := h.store ho v hu
      dsimp only
      rcases hv : u.update v x.device with ⟨e | o, d, u'⟩ <;> rw [hv] at hs
      · exact hs
      · exact hs.congr rfl rfl

lemma Accounts.run (h : x.Accounts lost) (ho : x.Owned) (os : List Operation) :
    (x.run os).Accounts (lost ++ x.dropped os) := by
  induction os generalizing x lost with
  | nil =>
    rw [dropped, List.append_nil]
    exact h
  | cons o os ih =>
    rw [dropped, ← List.append_assoc]
    exact ih (h.apply ho o) (ho.changes (apply_changes o x))

/-- Throughout a run that starts without textures the living ones are those that the set holds, each held once, and
those that were held under a name when another entry was put there. So none leaks exactly if no entry takes the
place of a sampler that holds a texture. -/
theorem run_textures (label : String) (m : Mode) (size : Size) (s : UniformSet)
    (hs : ∀ e ∈ s.entries, e.2.texture? = none) (os : List Operation) :
    let x := Scene.new label m size s
    let y := x.run os
    (heldBy y.uniforms.entries).Nodup ∧
      (∀ t, t ∈ y.device.textures ↔ t ∈ heldBy y.uniforms.entries ∨ t ∈ x.dropped os) ∧
      (∀ t ∈ x.dropped os, t ∉ heldBy y.uniforms.entries) ∧
      ((∀ t, t ∈ y.device.textures ↔ t ∈ heldBy y.uniforms.entries) ↔ x.dropped os = []) := by
  intro x y
  have hn : heldBy x.uniforms.entries = [] := List.filterMap_eq_nil_iff.mpr hs
  have h₀ : x.Accounts [] := by
    refine ⟨?_, fun t ht => by contradiction⟩
    rw [List.nil_append, hn]
    exact ⟨List.nodup_nil, by simp⟩
  have h : y.Accounts (x.dropped os) := h₀.run (Owned.new label m size hs) os
  obtain ⟨-, hheld, hdis⟩ := List.nodup_append.mp h.backs.nodup
  have hlive : ∀ t, t ∈ y.device.textures ↔ t ∈ heldBy y.uniforms.entries ∨ t ∈ x.dropped os := fun t =>
    ⟨fun ht => (List.mem_append.mp (h.known t ht)).symm, fun ht => h.backs.alive t (List.mem_append.mpr ht.symm)⟩
  have hapart : ∀ t ∈ x.dropped os, t ∉ heldBy y.uniforms.entries := fun t ht hh => hdis t ht t hh rfl
  refine ⟨hheld, hlive, hapart, fun he => ?_, fun he t => ?_⟩
  · apply List.eq_nil_iff_forall_not_mem.mpr
    intro t ht
    exact hapart t ht ((he t).mp ((hlive t).mpr (.inr ht)))
  · rw [hlive, he]
    simp

theorem run_textures_updated :
    let s := UniformSet.ofList [("tex", { payload := .sampler { pending := some ⟨.host "a", ⟨2, 2⟩⟩ } }),
      ("cut", { payload := .sampler { pending := some ⟨.host "c", ⟨2, 2⟩⟩ } })]
    let os : List Operation := [.compile "uniform sampler2D tex;", .arrange { withheld := [6] }, .render 0,
      .update "tex" (.image ⟨.host "b", ⟨2, 2⟩⟩), .arrange {}, .render 0]
    let y := (Scene.new "scene" .default ⟨8, 8⟩ s).run os
    ((Scene.new "scene" .default ⟨8, 8⟩ s).run (os.take 3)).device.textures = [⟨5⟩] ∧
      ∀ t, t ∈ y.device.textures ↔ t ∈ heldBy y.uniforms.entries :=
  ⟨by decide +kernel, (run_textures "scene" .default ⟨8, 8⟩ _ (by decide +kernel) _).2.2.2.mpr (by decide +kernel)⟩

/-- The name of a sampler with a texture is declared anew: the texture lives on, and no uniform holds it. -/
theorem run_textures_redeclared :
    let x := Scene.new "scene" .default ⟨8, 8⟩ .empty
    let os := [.compile "uniform sampler2D tex;", .declare "tex" (.image ⟨.host "a", ⟨2, 2⟩⟩), .render 0,
      .declare "tex" (.image ⟨.host "b", ⟨2, 2⟩⟩)]
    x.Succeeds os ∧ (x.run os).device.textures = [⟨5⟩] ∧ heldBy (x.run os).uniforms.entries = [] := by
  decide +kernel

end Scene

end ShaderRunner

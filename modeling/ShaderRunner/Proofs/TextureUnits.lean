import ShaderRunner.Proofs.Uploads

/-!
A frame binds the texture of each sampler to the unit of the sampler, but building a texture binds it as well, to the
unit that the sampler before it has left active.
-/

namespace ShaderRunner

structure TextureUnits where
  active : UInt32 := 0
  bound : UInt32 → Option TextureHandle := fun _ => none

namespace TextureUnits

def activate (g : TextureUnits) (unit : UInt32) : TextureUnits := { g with active := unit }

def bind (g : TextureUnits) (t : Option TextureHandle) : TextureUnits :=
  { g with bound := fun unit => if unit = g.active then t else g.bound unit }

def step (g : TextureUnits) : Call → TextureUnits
  | .activeTexture unit => g.activate unit
  | .bindTexture2d t => g.bind t
  | _ => g

lemma step_plain {c : Call} (h : c.plain = true) (g : TextureUnits) : g.step c = g := by
  cases c <;> first | rfl | contradiction

lemma foldl_step_plain {cs : List Call} (h : ∀ c ∈ cs, c.plain = true) (g : TextureUnits) : cs.foldl step g = g := by
  induction cs generalizing g with
  | nil => rfl
  | cons c cs ih =>
    obtain ⟨hc, hcs⟩ := List.forall_mem_cons.mp h
    rw [List.foldl_cons, step_plain hc, ih hcs]

lemma step_upload {c : Call} (h : c.uploadLocation?.isSome = true) (g : TextureUnits) : g.step c = g := by
  cases c <;> first | rfl | contradiction

end TextureUnits

structure Binding where
  unit : UInt32
  texture : TextureHandle
  made : Bool

def TextureUnits.commit (g : TextureUnits) (b : Binding) : TextureUnits :=
  ((if b.made then g.bind (some b.texture) else g).activate b.unit).bind (some b.texture)

namespace TextureUnits

variable {g : TextureUnits} {b : Binding} {bs : List Binding} {k : UInt32} {t : TextureHandle}

@[simp] lemma active_commit (g : TextureUnits) (b : Binding) : (g.commit b).active = b.unit := rfl

lemma bound_commit_of_unit (h : b.unit = k) : (g.commit b).bound k = some b.texture := by
  simp [commit, bind, activate, h]

lemma bound_commit_of_made (h : b.made = true) (hk : g.active = k) : (g.commit b).bound k = some b.texture := by
  simp [commit, bind, activate, h, hk]

lemma bound_commit_of_ne (hu : b.unit ≠ k) (hm : b.made = true → g.active ≠ k) :
    (g.commit b).bound k = g.bound k := by
  cases h : b.made with
  | false => simp [commit, bind, activate, h, hu.symm]
  | true => simp [commit, bind, activate, h, hu.symm, (hm h).symm]

lemma bound_foldl_ne (hb : ∀ b ∈ bs, b.texture ≠ t) (hg : g.bound k ≠ some t) :
    (bs.foldl commit g).bound k ≠ some t := by
  induction bs generalizing g with
  | nil => exact hg
  | cons b bs ih =>
    obtain ⟨hbt, hbs⟩ := List.forall_mem_cons.mp hb
    refine ih hbs ?_
    by_cases hu : b.unit = k
    · rw [bound_commit_of_unit hu]
      simpa using hbt
    · by_cases hm : b.made = true ∧ g.active = k
      · rw [bound_commit_of_made hm.1 hm.2]
        simpa using hbt
      · rwa [bound_commit_of_ne hu fun h hk => hm ⟨h, hk⟩]

/-- A texture stays bound to a unit as long as no other sampler takes the unit and, while the unit is
active, no texture is made. Only the first of the samplers that follow can find it active. -/
lemma bound_foldl_iff (hb : ∀ b ∈ bs, b.texture ≠ t) (hg : g.bound k = some t) :
    (bs.foldl commit g).bound k = some t ↔
      (∀ b ∈ bs, b.unit ≠ k) ∧ ∀ b ∈ bs.head?, b.made = true → g.active ≠ k := by
  induction bs generalizing g with
  | nil => simpa using hg
  | cons b bs ih =>
    obtain ⟨hbt, hbs⟩ := List.forall_mem_cons.mp hb
    rw [List.foldl_cons, List.forall_mem_cons, List.head?_cons]
    have hnew : some b.texture ≠ some t := by simpa using hbt
    by_cases hu : b.unit = k
    · have hne : (g.commit b).bound k ≠ some t := by rwa [bound_commit_of_unit hu]
      exact iff_of_false (bound_foldl_ne hbs hne) fun h => h.1.1 hu
    · by_cases hm : b.made = true ∧ g.active = k
      · have hne : (g.commit b).bound k ≠ some t := by rwa [bound_commit_of_made hm.1 hm.2]
        exact iff_of_false (bound_foldl_ne hbs hne) fun h => h.2 b rfl hm.1 hm.2
      · have hm' : b.made = true → g.active ≠ k := fun h hk => hm ⟨h, hk⟩
        have hkeep : (g.commit b).bound k = some t := by rw [bound_commit_of_ne hu hm', hg]
        rw [ih hbs hkeep]
        constructor
        · rintro ⟨h, -⟩
          refine ⟨⟨hu, h⟩, ?_⟩
          rintro c hc
          obtain rfl := Option.some.inj hc
          exact hm'
        · rintro ⟨⟨-, h⟩, -⟩
          -- `b` leaves its own unit active, so nothing after it is made on unit `k`
          exact ⟨h, fun _ _ _ => hu⟩

end TextureUnits

def Device.units (d : Device) : TextureUnits := d.log.foldl TextureUnits.step {}

namespace Device

variable {d d' : Device}

lemma units_record (d : Device) (c : Call) : (d.record c).units = d.units.step c := by
  simp [units]

lemma Adds.units (h : Adds Call.plain d d') : d'.units = d.units := by
  obtain ⟨cs, hl, hc⟩ := h
  rw [Device.units, hl, List.foldl_append, TextureUnits.foldl_step_plain hc]
  rfl

end Device

def Sampler.Sound (s : Sampler) : Prop := s.texture.isSome = s.built.isSome

def Uniform.Sound (u : Uniform) : Prop := ∀ s, u.sampler? = some s → s.Sound

namespace Sampler

variable {d d' : Device} {s s' : Sampler}

lemma Sound.pend (h : s.Sound) (i : Option Image) : Sound { s with pending := i } := h

lemma settle_units (h : s.settle d = (.ok s', d')) :
    (s'.texture = s.texture ∧ s'.built = s.built ∧ d'.units = d.units) ∨
      ∃ t, s'.texture = some t ∧ s'.built.isSome = true ∧ (∀ old, s.texture = some old → d.Tracked →
        old ∈ d.textures → t ≠ old) ∧ d'.units = d.units.bind (some t) := by
  rcases s.settle_cases d with hs | hs | ⟨i, s₁, d₁, -, -, hb, hs⟩ <;> rw [hs] at h
  · obtain ⟨hs', rfl⟩ := Prod.mk.inj h
    obtain rfl := Except.ok.inj hs'
    exact .inl ⟨rfl, rfl, rfl⟩
  · cases (Prod.mk.inj h).1
  · obtain ⟨hs', rfl⟩ := Prod.mk.inj h
    obtain rfl := Except.ok.inj hs'
    obtain ⟨t, d₂, rfl, h₁, h₂⟩ := build_log hb
    refine .inr ⟨t, rfl, rfl, fun old _ hd ho => ?_, by rw [h₂.units, Device.units_record, h₁.units]; rfl⟩
    obtain ⟨t', d₃, hm, hs', -⟩ := build_some hb
    obtain ⟨-, hn, -⟩ := Device.makeTexture_spec hd hm
    obtain rfl : t = t' := Option.some.inj (congrArg Sampler.texture hs')
    rintro rfl
    exact hd.fresh (h := .texture t) hn ho

lemma settle_sound (hs : s.Sound) (h : s.settle d = (.ok s', d')) : s'.Sound := by
  rcases settle_units h with ⟨ht, hb, -⟩ | ⟨t, ht, hb, -, -⟩
  · rw [Sound, ht, hb, hs]
  · rw [Sound, ht, hb, Option.isSome_some]

lemma bind_eq (hs : s.Sound) (unit : UInt32) (d : Device) : s.bind unit d =
    s.texture.elim d fun t => (d.record (.activeTexture unit)).record (.bindTexture2d (some t)) := by
  unfold bind
  cases ht : s.texture with
  | none =>
    have hb : s.built.isNone = true := by simpa [Sound, ht] using hs.symm
    simp [hb]
  | some t =>
    have hb : s.built.isNone = false := by
      rw [Sound, ht, Option.isSome_some] at hs
      simp [Option.isNone_eq_false_iff, ← hs]
    simp [hb]

lemma bind_units (hs : s.Sound) (unit : UInt32) (d : Device) :
    (s.bind unit d).units =
      s.texture.elim d.units fun t => (d.units.activate unit).bind (some t) := by
  rw [bind_eq hs]
  cases s.texture with
  | none => rfl
  | some t => simp [Device.units_record, TextureUnits.step]

end Sampler

namespace Uniform

variable {d d' : Device} {u u' : Uniform} {unit : UInt32}

def binding? (held : Option TextureHandle) (unit : UInt32) (u : Uniform) : Option Binding :=
  u.texture?.map fun t => ⟨unit, t, held != some t⟩

lemma commit_units (hs : u.Sound) (hd : d.Tracked) (ht : ∀ t, u.texture? = some t → t ∈ d.textures)
    (h : u.commit unit d = (.ok (), d', u')) :
    d'.units = (u'.binding? u.texture? unit).toList.foldl TextureUnits.commit d.units := by
  by_cases hk : u.kind = .sampler
  · rw [commit_sampler hk] at h
    obtain ⟨s, s', d₁, hsam, hset, rfl, rfl⟩ := commitSampler_ok h
    have hs' := Sampler.settle_sound (hs s hsam) hset
    have htex := texture?_of_sampler hsam
    have hl : ((u.location.map (Call.uniform1i · unit.toInt32)).elim d₁ d₁.record).units = d₁.units := by
      cases u.location with
      | none => rfl
      | some l => exact (Device.units_record _ _).trans (TextureUnits.step_upload rfl _)
    rcases Sampler.settle_units hset with ⟨hst, -, hsu⟩ | ⟨t, hst, -, hne, hsu⟩
    · rw [Sampler.bind_units hs', hl, hsu, hst, binding?, texture?_sampler, htex, hst]
      cases s.texture with
      | none => rfl
      | some t => simp [TextureUnits.commit]
    · have hm : (s.texture != some t) = true := by
        cases hold : s.texture with
        | none => rfl
        | some old =>
          have hot : t ≠ old := hne old hold hd (ht old (htex.trans hold))
          simpa using hot.symm
      rw [Sampler.bind_units hs', hl, hsu, hst, binding?, texture?_sampler, htex, hst]
      simp [TextureUnits.commit, hm]
  · have hu : u' = u := by
      have hc := commit_of_kind hk unit d
      rwa [h] at hc
    have hdev := commit_value_device hk unit d
    rw [h] at hdev
    obtain rfl := hu
    rw [binding?, texture?_of_kind hk, show d' = _ from hdev]
    cases hc : u'.location.bind u'.payload.upload? with
    | none => rfl
    | some c =>
      obtain ⟨l, -, hl⟩ := Option.bind_eq_some_iff.mp hc
      have hup : u'.upload? unit l = some c := by rw [upload?, if_neg hk, hl]
      exact (Device.units_record d c).trans (TextureUnits.step_upload (uploadLocation?_upload? hup) _)

lemma sound_of_kind (hk : u.kind ≠ .sampler) : u.Sound := fun _ hs => absurd (kind_of_sampler? hs) hk

lemma sound_sampler {s : Sampler} (hs : s.Sound) (l : Option Location) (n : Length) : Sound ⟨l, n, .sampler s⟩ := by
  intro s' hs'
  obtain rfl := Option.some.inj hs'
  exact hs

lemma create_sound {k : Kind} {l : Option Location} {n : Length} {v : Value} (h : create k l n v = .ok u) :
    u.Sound := by
  rcases create_ok h with ⟨i, rfl⟩ | ⟨t, rfl⟩ | rfl | ⟨p, hp, rfl⟩
  · exact sound_sampler (by simp [Sampler.Sound]) l n
  · exact sound_of_kind nofun
  · exact sound_of_kind nofun
  · obtain ⟨hk, hc⟩ := Payload.ofValue_ok hp
    refine sound_of_kind fun hs => ?_
    have hp' : p.kind = .sampler := hs
    rw [← hk, hp'] at hc
    contradiction

lemma stage_sound (hs : u.Sound) (v : Value) : (u.stage v).2.Sound := by
  by_cases hk : u.kind = .sampler
  · rw [stage, hk, stageAs, stageImage]
    split
    · exact hs
    · next h =>
      have hx := hs _ (imageUpdate_ok h).2
      split <;> exact sound_sampler (hx.pend _) _ _
  · exact sound_of_kind (by rwa [(u.stage_shape v).kind])

lemma update_sound (hs : u.Sound) (v : Value) (d : Device) : (u.update v d).2.2.Sound := by
  by_cases hk : u.kind = .sampler
  · rw [update_sampler hk, storeImage]
    split
    · exact hs
    · next s i h =>
      have hx := hs _ (imageUpdate_ok h).2
      split
      · exact sound_sampler (hx.pend _) _ _
      · split
        · exact hs
        · next hb =>
          obtain ⟨t, _, -, rfl, -⟩ := Sampler.build_some hb
          exact sound_sampler (by simp [Sampler.Sound]) _ _
  · rw [update_of_kind hk]
    exact stage_sound hs v

lemma commit_sound (hs : u.Sound) (unit : UInt32) (d : Device) : (u.commit unit d).2.2.Sound := by
  by_cases hk : u.kind = .sampler
  · rw [commit_sampler hk, commitSampler]
    cases hsam : u.sampler? with
    | none => exact hs
    | some s =>
      rcases hc : s.settle d with ⟨e | s', d'⟩ <;> simp only [hc]
      · exact hs
      · exact sound_sampler (Sampler.settle_sound (hs s hsam) hc) _ _
  · rwa [commit_of_kind hk]

lemma sound_kept : Kept fun _ _ u => u.Sound where
  other _ _ _ _ _ h _ := h
  moved _ _ _ _ h := h
  created _ _ _ _ _ _ _ h := create_sound h
  staged _ _ _ v h := stage_sound h v
  updated _ _ _ v d h := update_sound h v d
  committed _ _ _ unit d h := commit_sound h unit d

end Uniform

section Entries

variable {d d' : Device} {p : ProgramHandle} {es es' : List (String × Uniform)} {unit : UInt32}
  {held : String → Option TextureHandle}

def bindings (held : String → Option TextureHandle) (unit : UInt32) : List (String × Uniform) → List Binding
  | [] => []
  | (name, u) :: es => (u.binding? (held name) (u.unitAfter unit)).toList ++ bindings held (u.unitAfter unit) es

lemma bindings_textures (held : String → Option TextureHandle) (unit : UInt32) (es : List (String × Uniform)) :
    (bindings held unit es).map Binding.texture = heldBy es := by
  induction es generalizing unit with
  | nil => rfl
  | cons e es ih =>
    obtain ⟨name, u⟩ := e
    rw [bindings, List.map_append, ih, heldBy_cons]
    cases h : u.texture? <;> simp [Uniform.binding?, h]

lemma bindings_append (held : String → Option TextureHandle) (c a b : List (String × Uniform)) :
    bindings held (UInt32.ofNat (samplersIn c)) (a ++ b) =
      bindings held (UInt32.ofNat (samplersIn c)) a ++ bindings held (UInt32.ofNat (samplersIn (c ++ a))) b := by
  induction a generalizing c with
  | nil => simp [bindings]
  | cons e a ih =>
    have hih := ih (c ++ [e])
    rw [List.append_assoc, List.singleton_append] at hih
    rw [List.cons_append, bindings, bindings, unitAfter_samplersIn, hih, List.append_assoc]

lemma commitEntries_units (hs : ∀ e ∈ es, e.2.Sound) (hh : ∀ e ∈ es, held e.1 = e.2.texture?) (hd : d.Tracked)
    {A : List TextureHandle} (hb : d.Backs (A ++ heldBy es))
    (h : commitEntries p unit d es = (.ok (), d', es')) :
    d'.units = (bindings held unit es').foldl TextureUnits.commit d.units := by
  -- `A` gathers the textures of the entries already committed, so that a new one differs from them too
  induction es generalizing unit d es' A with
  | nil =>
    obtain ⟨rfl, rfl⟩ := Prod.mk.inj (Prod.mk.inj h).2
    rfl
  | cons e es ih =>
    obtain ⟨name, u⟩ := e
    obtain ⟨hu, hes⟩ := List.forall_mem_cons.mp hs
    obtain ⟨hn, hhs⟩ := List.forall_mem_cons.mp hh
    obtain ⟨d₁, u₁, es₁, hc, -, hk, hr, rfl⟩ := commitEntries_cons_ok h
    have hl : (u.located d p name).Sound := @Kept.located _ Uniform.sound_kept [] name u hu d p
    have hren := (u.located d p name).commit_renews (u.unitAfter unit) d
    rw [hc, Uniform.located_texture?] at hren
    rw [heldBy_cons] at hb
    obtain ⟨hd₁, hb₁⟩ := hren.append_right (heldBy es) hd A hb
    have ha : ∀ t, (u.located d p name).texture? = some t → t ∈ d.textures := by
      intro t ht
      rw [Uniform.located_texture?] at ht
      exact hb.alive t (by simp [ht])
    rw [← List.append_assoc] at hb₁
    rw [ih hes hhs hd₁ hb₁ hr, Uniform.commit_units hl hd ha hc, Uniform.located_texture?, ← hn, bindings, hk,
      List.foldl_append]

lemma uploadsFrom_append (c a b : List (String × Uniform)) :
    uploadsFrom (UInt32.ofNat (samplersIn c)) (a ++ b) =
      uploadsFrom (UInt32.ofNat (samplersIn c)) a ++ uploadsFrom (UInt32.ofNat (samplersIn (c ++ a))) b := by
  induction a generalizing c with
  | nil => simp [uploadsFrom]
  | cons e a ih =>
    have hih := ih (c ++ [e])
    rw [List.append_assoc, List.singleton_append] at hih
    rw [List.cons_append, uploadsFrom, uploadsFrom, unitAfter_samplersIn, hih, List.append_assoc]

end Entries

namespace Scene

def held (x : Scene) (name : String) : Option TextureHandle := (x.uniforms.get? name).bind Uniform.texture?

variable {x y : Scene}

lemma held_relocate (h : y.uniforms = x.uniforms ∨ ∃ d q, y.uniforms = x.uniforms.relocate d q) : y.held = x.held := by
  rcases h with h | ⟨d, q, h⟩
  · funext name
    rw [held, h, held]
  · funext name
    rw [held, h, UniformSet.relocate, UniformSet.get?_map, held]
    cases x.uniforms.get? name <;> rfl

/-- In every frame of a run each sampler with a place uploads its unit, and finds its texture bound there
exactly if no later sampler takes the unit and the next one with a texture brought it along. -/
theorem draw_units {x₀ : Scene} (ho : x₀.Owned) (hs : ∀ name u, x₀.uniforms.get? name = some u → u.Sound)
    (os : List Operation) (ended : Float32) :
    let x := x₀.run os
    let y := ((Operation.render ended).apply x).2
    ((Operation.render ended).apply x).1 = .ok () →
      ∃ frame, y.device.uploads = x.device.uploads ++ frame ∧
        ∀ a name u b l t, y.uniforms.entries = a ++ (name, u) :: b → u.location = some l → u.texture? = some t →
          let k := UInt32.ofNat (samplersIn a + 1)
          let later := bindings x.held k b
          Call.uniform1i l k.toInt32 ∈ frame ∧
            (y.device.units.bound k = some t ↔ (∀ c ∈ later, c.unit ≠ k) ∧ ∀ c ∈ later.head?, c.made = false) := by
  intro x y h
  have hxo : x.Owned := ho.run os
  have hxs : x.uniforms.Each (fun _ _ u => u.Sound) (x₀.accepted os) := @each_run x₀ [] _ Uniform.sound_kept hs os
  obtain ⟨z, p, d, s, hz, hpl, hset, hprog, hc, hy⟩ := render_frame hxo.tracked h
  have hfr := (hxo.changes hz).openFrame hprog
  have hzs := UniformSet.each_entries (each_changes Uniform.sound_kept hz hxs)
  have hce := UniformSet.commit_entries hc
  have hh : ∀ e ∈ z.uniforms.entries, x.held e.1 = e.2.texture? := by
    intro e he
    rw [← held_relocate hset, held, UniformSet.mem_entries_iff.mp he, Option.bind_some]
  have hu := commitEntries_units hzs hh hfr.tracked (A := []) hfr.textures hce
  have hyu : y.uniforms = s := congrArg uniforms hy
  have hyd : y.device = d.record (.drawTriangles 0 6) := congrArg device hy
  have hyo : y.Owned := hxo.changes (apply_changes (.render ended) x)
  refine ⟨uploadsFrom 0 s.entries, ?_, ?_⟩
  · rw [hyd, Device.uploads_record, commitEntries_uploads hce, (hpl.trans (z.renderer.openFrame_plain p)).uploads]
    simp [Call.uploadLocation?]
  · intro a name u b l t he hl ht k later
    rw [hyu] at he
    have hsk : u.kind = .sampler := by
      by_contra hn
      rw [Uniform.texture?_of_kind hn] at ht
      contradiction
    have hk : u.unitAfter (UInt32.ofNat (samplersIn a)) = k := by
      simp [Uniform.unitAfter, hsk, Kind.takesUnit, k]
    have hup := uploadsFrom_append [] a ((name, u) :: b)
    have hbs := bindings_append x.held [] a ((name, u) :: b)
    rw [List.nil_append, uploadsFrom, hk, ← he] at hup
    rw [List.nil_append, bindings, hk, ← he] at hbs
    refine ⟨?_, ?_⟩
    · change _ ∈ uploadsFrom (UInt32.ofNat (samplersIn [])) s.entries
      rw [hup, hl]
      simp [Uniform.upload?, hsk]
    · have hne : ∀ c ∈ later, c.texture ≠ t := by
        have hd := hyo.textures.nodup
        rw [hyu, he, heldBy_append, heldBy_cons, ht, Option.toList_some, List.singleton_append] at hd
        have hn : t ∉ heldBy b := (List.nodup_cons.mp (List.nodup_append.mp hd).2.1).1
        rintro c hc rfl
        exact hn (bindings_textures x.held k b ▸ List.mem_map_of_mem hc)
      have hg : ∀ g m, (TextureUnits.commit g ⟨k, t, m⟩).bound k = some t := fun g m =>
        TextureUnits.bound_commit_of_unit rfl
      have hyg : y.device.units = later.foldl TextureUnits.commit
          (((bindings x.held 0 a).foldl TextureUnits.commit (z.renderer.openFrame p).units).commit
            ⟨k, t, x.held name != some t⟩) := by
        rw [hyd, Device.units_record, hu]
        change (bindings x.held (UInt32.ofNat (samplersIn [])) s.entries).foldl TextureUnits.commit _ = _
        rw [hbs, List.foldl_append, List.foldl_append, Uniform.binding?, ht]
        rfl
      rw [hyg, TextureUnits.bound_foldl_iff hne (hg _ _), TextureUnits.active_commit]
      simp

def waitingPair : UniformSet :=
  ⟨[("a", { payload := .sampler { pending := some ⟨.host "a", ⟨2, 2⟩⟩ } }),
    ("b", { payload := .sampler { pending := some ⟨.host "b", ⟨2, 2⟩⟩ } })], by decide⟩

lemma waitingPair_sound : ∀ e ∈ waitingPair.entries, e.2.Sound := by
  simp [waitingPair, Uniform.Sound, Uniform.sampler?, Sampler.Sound]

theorem draw_units_waiting :
    let x := (Scene.new "scene" .default ⟨8, 8⟩ waitingPair).run [.compile "uniform sampler2D a;\nuniform sampler2D b;"]
    let y := ((Operation.render 0).apply x).2
    ∃ frame, y.device.uploads = x.device.uploads ++ frame ∧
      ∀ a name u b l t, y.uniforms.entries = a ++ (name, u) :: b → u.location = some l → u.texture? = some t →
        let k := UInt32.ofNat (samplersIn a + 1)
        let later := bindings x.held k b
        Call.uniform1i l k.toInt32 ∈ frame ∧
          (y.device.units.bound k = some t ↔ (∀ c ∈ later, c.unit ≠ k) ∧ ∀ c ∈ later.head?, c.made = false) :=
  draw_units (Owned.new "scene" .default ⟨8, 8⟩ (by decide))
    (fun name u h => waitingPair_sound (name, u) (UniformSet.mem_entries_iff.mpr h)) _ 0 (ok_of_isOk (by decide +kernel))

/-- The texture of the second sampler is made while the unit of the first is active, and stays there. -/
theorem draw_units_displaced :
    let x := (Scene.new "scene" .default ⟨8, 8⟩ waitingPair).run [.compile "uniform sampler2D a;\nuniform sampler2D b;"]
    let y := ((Operation.render 0).apply x).2
    ((Operation.render 0).apply x).1.isOk = true ∧
      (y.uniforms.get? "a").map (fun u => (u.location, u.texture?)) = some (some ⟨3002⟩, some ⟨5⟩) ∧
      y.device.uploads = [.uniform1i ⟨3002⟩ 1, .uniform1i ⟨3003⟩ 2] ∧ y.device.units.bound 1 = some ⟨6⟩ := by
  decide +kernel

end Scene

end ShaderRunner

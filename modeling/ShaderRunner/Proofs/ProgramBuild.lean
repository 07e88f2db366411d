import ShaderRunner.Program.Build
import ShaderRunner.Proofs.Lifetime

namespace ShaderRunner

section Entries

variable {κ α : Type} [DecidableEq κ] {l : List (κ × α)} {k : κ}

lemma map_fst_modify (l : List (κ × α)) (k : κ) (f : α → α) :
    (l.map fun e => if e.1 = k then (e.1, f e.2) else e).map Prod.fst = l.map Prod.fst := by
  rw [List.map_map]
  apply List.map_congr_left
  intro e _
  by_cases he : e.1 = k <;> simp [he]

lemma map_of_fresh (hk : k ∉ l.map Prod.fst) (f : α → α) :
    l.map (fun e => if e.1 = k then (e.1, f e.2) else e) = l := by
  conv_rhs => rw [← List.map_id l]
  apply List.map_congr_left
  intro e he
  have hne : e.1 ≠ k := fun h => hk (List.mem_map.mpr ⟨e, he, h⟩)
  simp [hne]

lemma map_snoc_of_fresh (hk : k ∉ l.map Prod.fst) (a : α) (f : α → α) :
    (l ++ [(k, a)]).map (fun e => if e.1 = k then (e.1, f e.2) else e) = l ++ [(k, f a)] := by
  rw [List.map_append, map_of_fresh hk]
  simp

lemma lookup_snoc_of_fresh (hk : k ∉ l.map Prod.fst) (a : α) : (l ++ [(k, a)]).lookup k = some a := by
  have hl : l.lookup k = none := by
    rw [List.lookup_eq_none_iff]
    intro e he
    have hne : k ≠ e.1 := fun h => hk (List.mem_map.mpr ⟨e, he, h.symm⟩)
    simpa using hne
  rw [List.lookup_append, hl, Option.none_or, List.lookup_cons_self]

lemma filter_of_fresh (hk : k ∉ l.map Prod.fst) : l.filter (fun e => e.1 ≠ k) = l := by
  rw [List.filter_eq_self]
  intro e he
  have hne : e.1 ≠ k := fun h => hk (List.mem_map.mpr ⟨e, he, h⟩)
  simpa using hne

lemma filter_snoc_of_fresh (hk : k ∉ l.map Prod.fst) (a : α) :
    (l ++ [(k, a)]).filter (fun e => e.1 ≠ k) = l := by
  rw [List.filter_append, filter_of_fresh hk]
  simp

end Entries

def Call.builds : Call → Bool
  | createShader .. | shaderSource _ | compileShader _ | deleteShader _ | createProgram _ | attachShader ..
  | linkProgram _ | deleteProgram _ => true
  | _ => false

structure Program.Declares (z : Program) (names : List String) : Prop where
  linked : z.linked = true
  uniforms : z.uniforms = Device.distinct names

namespace Device

structure Built (d d' : Device) : Prop where
  log : ∃ cs, d'.log = d.log ++ cs ∧ ∀ c ∈ cs, c.builds = true
  next : d.next ≤ d'.next
  buffers : d'.buffers = d.buffers
  textures : d'.textures = d.textures
  extra : d'.extra = d.extra
  tracked : d.Tracked → d'.Tracked

namespace Built

variable {d d' d'' : Device} {s : ShaderHandle} {p : ProgramHandle}

lemma refl (d : Device) : d.Built d := ⟨⟨[], by simp⟩, Nat.le_refl _, rfl, rfl, rfl, id⟩

lemma trans (h : d.Built d') (h' : d'.Built d'') : d.Built d'' := by
  obtain ⟨cs, hl, hc⟩ := h.log
  obtain ⟨cs', hl', hc'⟩ := h'.log
  refine ⟨⟨cs ++ cs', by rw [hl', hl, List.append_assoc], ?_⟩, Nat.le_trans h.next h'.next, h'.buffers.trans h.buffers,
    h'.textures.trans h.textures, h'.extra.trans h.extra, h'.tracked ∘ h.tracked⟩
  intro c hm
  rcases List.mem_append.mp hm with hm | hm
  · exact hc c hm
  · exact hc' c hm

lemma single {c : Call} (hl : d'.log = d.log ++ [c]) (hc : c.builds = true) (hn : d.next ≤ d'.next)
    (hb : d'.buffers = d.buffers) (ht : d'.textures = d.textures) (he : d'.extra = d.extra)
    (hd : d.Tracked → d'.Tracked) : d.Built d' :=
  ⟨⟨[c], hl, by simpa using hc⟩, hn, hb, ht, he, hd⟩

lemma deleteShader (hs : d.Holds (.shader s)) : d.Built (d.deleteShader s) :=
  single (log_record _ _) rfl (Nat.le_refl _) rfl rfl rfl fun hd => hd.deleteShader hs

lemma deleteProgram (hp : d.Holds (.program p)) : d.Built (d.deleteProgram p) :=
  single (log_record _ _) rfl (Nat.le_refl _) rfl rfl rfl fun hd => hd.deleteProgram hp

end Built

structure Numbered (d : Device) : Prop where
  shaders : ∀ s ∈ d.shaders.map Prod.fst, s.id < d.next
  programs : ∀ p ∈ d.programs.map Prod.fst, p.id < d.next

variable {d d' : Device}

lemma Tracked.numbered (hd : d.Tracked) : d.Numbered :=
  ⟨fun s hs => hd.id_lt (h := .shader s) hs, fun p hp => hd.id_lt (h := .program p) hp⟩

lemma Numbered.mono (hd : d.Numbered) (hn : d.next ≤ d'.next)
    (hs : ∀ s ∈ d'.shaders.map Prod.fst, s ∈ d.shaders.map Prod.fst ∨ s.id < d'.next)
    (hp : ∀ p ∈ d'.programs.map Prod.fst, p ∈ d.programs.map Prod.fst ∨ p.id < d'.next) : d'.Numbered := by
  refine ⟨fun s hm => ?_, fun p hm => ?_⟩
  · rcases hs s hm with h | h
    · exact Nat.lt_of_lt_of_le (hd.shaders s h) hn
    · exact h
  · rcases hp p hm with h | h
    · exact Nat.lt_of_lt_of_le (hd.programs p h) hn
    · exact h

lemma Numbered.addShader (hd : d.Numbered) {s : ShaderHandle} {x : Shader} (hn : d.next ≤ d'.next)
    (hs : d'.shaders = d.shaders ++ [(s, x)]) (hlt : s.id < d'.next) (hp : d'.programs = d.programs) : d'.Numbered := by
  refine hd.mono hn (fun t ht => ?_) fun p h => .inl (hp ▸ h)
  rw [hs, List.map_append, List.mem_append] at ht
  refine ht.imp_right fun h => ?_
  obtain rfl : t = s := by simpa using h
  exact hlt

lemma shader_fresh (hd : d.Numbered) {s : ShaderHandle} (hs : d.next ≤ s.id) : s ∉ d.shaders.map Prod.fst :=
  fun h => Nat.not_lt.mpr hs (hd.shaders s h)

lemma program_fresh (hd : d.Numbered) {p : ProgramHandle} (hp : d.next ≤ p.id) : p ∉ d.programs.map Prod.fst :=
  fun h => Nat.not_lt.mpr hp (hd.programs p h)

lemma holds_modifyShader (s : ShaderHandle) (f : Shader → Shader) (h : Handle) :
    (d.modifyShader s f).Holds h ↔ d.Holds h := by
  cases h <;> simp only [Holds, modifyShader, map_fst_modify]

lemma holds_modifyProgram (p : ProgramHandle) (f : Program → Program) (h : Handle) :
    (d.modifyProgram p f).Holds h ↔ d.Holds h := by
  cases h <;> simp only [Holds, modifyProgram, map_fst_modify]

lemma Tracked.use {d₀ : Device} {c : Call} (hd : d.Tracked) (hlog : d₀.log = d.log) (hnext : d₀.next = d.next)
    (hholds : ∀ h, d₀.Holds h ↔ d.Holds h) (hc : c.created? = none) (hdel : c.deleted? = none)
    (hold : ∀ h ∈ c.used, d.Holds h) : (d₀.record c).Tracked := by
  refine hd.step (c := c) (by rw [log_record, hlog]) (by simp [Device.record, hnext])
    (by simpa [hdel] using hold) (by simp [hc]) fun h => ?_
  simp [hholds, hc, hdel]

variable {l : List (ShaderHandle × Shader)} {s : ShaderHandle} {x : Shader}

lemma createShader_spec {stage : Stage} (h : d.createShader stage = (some s, d')) :
    d.Built d' ∧ d'.programs = d.programs ∧ d.next ≤ s.id ∧ s.id < d'.next ∧
      d'.shaders = d.shaders ++ [(s, ⟨stage, "", false⟩)] := by
  have ht : d.Tracked → d'.Tracked := fun hd => by
    have ht := hd.createShader stage
    rwa [h] at ht
  unfold createShader at h
  split at h
  · simp at h
  · simp only [Prod.mk.injEq, Option.some.injEq] at h
    obtain ⟨rfl, rfl⟩ := h
    exact ⟨.single (log_record _ _) rfl (Nat.le_succ _) rfl rfl rfl ht, rfl, Nat.le_refl _, Nat.lt_succ_self _, rfl⟩

lemma shaderSource_spec (hl : d.shaders = l ++ [(s, x)]) (hs : s ∉ l.map Prod.fst) (source : String) :
    d.Built (d.shaderSource s source) ∧ (d.shaderSource s source).programs = d.programs ∧
      (d.shaderSource s source).shaders = l ++ [(s, { x with source := source })] := by
  have hh : ∀ h ∈ (Call.shaderSource s).used, d.Holds h := by simp [Call.used, Holds, hl]
  have hx : d.shader? s = some x := by rw [shader?, hl, lookup_snoc_of_fresh hs]
  rw [shaderSource, hx]
  refine ⟨.single (log_record _ _) rfl (Nat.le_refl _) rfl rfl rfl fun hd =>
    hd.use rfl rfl (holds_modifyShader s ({ · with source := source })) rfl rfl hh, rfl, ?_⟩
  simp only [record, modifyShader, hl]
  exact map_snoc_of_fresh hs x ({ · with source := source })

lemma compileShader_spec (hl : d.shaders = l ++ [(s, x)]) (hs : s ∉ l.map Prod.fst) :
    d.Built (d.compileShader s) ∧ (d.compileShader s).programs = d.programs ∧
      (d.compileShader s).shaders = l ++ [(s, { x with compiled := (d.stageError x.stage).isNone })] := by
  have hh : ∀ h ∈ (Call.compileShader s).used, d.Holds h := by simp [Call.used, Holds, hl]
  let f (x : Shader) : Shader := { x with compiled := (d.stageError x.stage).isNone }
  refine ⟨.single (log_record _ _) rfl (Nat.le_refl _) rfl rfl rfl fun hd =>
    hd.use rfl rfl (holds_modifyShader s f) rfl rfl hh, rfl, ?_⟩
  simp only [compileShader, record, modifyShader, hl]
  exact map_snoc_of_fresh hs x f

lemma deleteShader_last (hl : d.shaders = l ++ [(s, x)]) (hs : s ∉ l.map Prod.fst) :
    (d.deleteShader s).shaders = l := by
  simp only [deleteShader, record, hl]
  exact filter_snoc_of_fresh hs x

lemma compileStage_spec (hd : d.Numbered) (stage : Stage) (source : String) :
    d.Built (d.compileStage stage source).2 ∧ (d.compileStage stage source).2.programs = d.programs ∧
      match (d.compileStage stage source).1 with
      | .error _ => (d.compileStage stage source).2.shaders = d.shaders
      | .ok s => d.next ≤ s.id ∧ s.id < (d.compileStage stage source).2.next ∧
          (d.compileStage stage source).2.shaders = d.shaders ++ [(s, ⟨stage, source, true⟩)] := by
  unfold compileStage
  rcases hc : d.createShader stage with ⟨_ | s, d₁⟩
  · obtain rfl : d₁ = d := by
      unfold createShader at hc
      split at hc
      · exact (Prod.mk.inj hc).2.symm
      · simp at hc
    exact ⟨.refl _, rfl, rfl⟩
  · obtain ⟨hb₁, hp₁, hn, hlt, hs₁⟩ := createShader_spec hc
    have hf := shader_fresh hd hn
    obtain ⟨hb₂, hp₂, hs₂⟩ := shaderSource_spec hs₁ hf source
    obtain ⟨hb₃, hp₃, hs₃⟩ := compileShader_spec hs₂ hf
    have hb := hb₁.trans (hb₂.trans hb₃)
    have hp := hp₃.trans (hp₂.trans hp₁)
    dsimp only
    split
    · next hok =>
      rw [compileStatus, shader?, hs₃, lookup_snoc_of_fresh hf, Option.any_some] at hok
      dsimp only at hok hs₃
      rw [hok] at hs₃
      exact ⟨hb, hp, hn, Nat.lt_of_lt_of_le hlt (hb₂.trans hb₃).next, hs₃⟩
    · exact ⟨hb.trans (.deleteShader (by simp [Holds, hs₃])), hp, deleteShader_last hs₃ hf⟩

variable {m : List (ProgramHandle × Program)} {p : ProgramHandle} {z : Program}

lemma createProgram_spec (h : d.createProgram = (some p, d')) :
    d.Built d' ∧ d'.shaders = d.shaders ∧ d.next ≤ p.id ∧ p.id < d'.next ∧
      d'.programs = d.programs ++ [(p, ({} : Program))] := by
  have ht : d.Tracked → d'.Tracked := fun hd => by
    have ht := hd.createProgram
    rwa [h] at ht
  unfold createProgram at h
  split at h
  · simp at h
  · simp only [Prod.mk.injEq, Option.some.injEq] at h
    obtain ⟨rfl, rfl⟩ := h
    exact ⟨.single (log_record _ _) rfl (Nat.le_succ _) rfl rfl rfl ht, rfl, Nat.le_refl _, Nat.lt_succ_self _, rfl⟩

lemma attachShader_spec (hm : d.programs = m ++ [(p, z)]) (hp : p ∉ m.map Prod.fst) (hs : d.Holds (.shader s)) :
    d.Built (d.attachShader p s) ∧ (d.attachShader p s).shaders = d.shaders ∧
      (d.attachShader p s).programs = m ++ [(p, { z with shaders := z.shaders ++ [s] })] := by
  have hh : d.Holds (.program p) := by simp [Holds, hm]
  let f (z : Program) : Program := { z with shaders := z.shaders ++ [s] }
  refine ⟨.single (log_record _ _) rfl (Nat.le_refl _) rfl rfl rfl fun hd =>
    hd.use rfl rfl (holds_modifyProgram p f) rfl rfl (by simp [Call.used, hh, hs]), rfl, ?_⟩
  simp only [attachShader, record, modifyProgram, hm]
  exact map_snoc_of_fresh hp z f

lemma linkProgram_spec (hm : d.programs = m ++ [(p, z)]) (hp : p ∉ m.map Prod.fst) :
    d.Built (d.linkProgram p) ∧ (d.linkProgram p).shaders = d.shaders ∧
      (d.linkProgram p).programs = m ++ [(p, d.linked z)] := by
  have hh : ∀ h ∈ (Call.linkProgram p).used, d.Holds h := by simp [Call.used, Holds, hm]
  refine ⟨.single (log_record _ _) rfl (Nat.le_refl _) rfl rfl rfl fun hd =>
    hd.use rfl rfl (holds_modifyProgram p d.linked) rfl rfl hh, rfl, ?_⟩
  simp only [linkProgram, record, modifyProgram, hm]
  exact map_snoc_of_fresh hp z d.linked

variable {v f : ShaderHandle} {y : Shader}

lemma linked_declares (h : (d.linked z).linked = true) (hz : z.shaders = [v, f]) (hv : d.shader? v = some x)
    (hf : d.shader? f = some y) : (d.linked z).Declares (declaredUniforms x.source ++ declaredUniforms y.source) := by
  refine ⟨h, ?_⟩
  rw [linked] at h ⊢
  split at h
  · next hc =>
    obtain ⟨hx, hy⟩ : x.compiled = true ∧ y.compiled = true := by
      simpa [linkable, hz, hv, hf] using (Bool.and_eq_true_iff.mp hc).2
    have hs : d.compiledShaders z = [x, y] := by simp [compiledShaders, hz, hv, hf, hx, hy]
    simp [hc, hs]
  · contradiction

lemma deleteShaders_spec (hl : d.shaders = l ++ [(v, x)] ++ [(f, y)]) (hv : v ∉ l.map Prod.fst)
    (hf : f ∉ (l ++ [(v, x)]).map Prod.fst) :
    d.Built ((d.deleteShader v).deleteShader f) ∧ ((d.deleteShader v).deleteShader f).programs = d.programs ∧
      ((d.deleteShader v).deleteShader f).shaders = l := by
  simp only [List.map_append, List.map_cons, List.map_nil, List.mem_append, List.mem_singleton, not_or] at hf
  have h₁ : (d.deleteShader v).shaders = l ++ [(f, y)] := by
    simp only [deleteShader, record, hl]
    rw [List.filter_append, filter_snoc_of_fresh hv]
    simp [hf.2]
  exact ⟨(Built.deleteShader (by simp [Holds, hl])).trans (.deleteShader (by simp [Holds, h₁])), rfl,
    deleteShader_last h₁ hf.1⟩

lemma linkStages_spec (hd : d.Numbered) (hl : d.shaders = l ++ [(v, x)] ++ [(f, y)]) (hv : v ∉ l.map Prod.fst)
    (hf : f ∉ (l ++ [(v, x)]).map Prod.fst) :
    d.Built (d.linkStages v f).2 ∧ (d.linkStages v f).2.shaders = l ∧
      match (d.linkStages v f).1 with
      | .error _ => (d.linkStages v f).2.programs = d.programs
      | .ok p => d.next ≤ p.id ∧ p.id < (d.linkStages v f).2.next ∧
          ∃ z, z.Declares (declaredUniforms x.source ++ declaredUniforms y.source) ∧
            (d.linkStages v f).2.programs = d.programs ++ [(p, z)] := by
  unfold linkStages
  rcases hc : d.createProgram with ⟨_ | p, d₁⟩
  · obtain rfl : d₁ = d := by
      unfold createProgram at hc
      split at hc
      · exact (Prod.mk.inj hc).2.symm
      · simp at hc
    obtain ⟨hb, hp, hs⟩ := deleteShaders_spec hl hv hf
    exact ⟨hb, hs, hp⟩
  · obtain ⟨hb₁, hs₁, hn, hlt, hp₁⟩ := createProgram_spec hc
    have hfresh := program_fresh hd hn
    obtain ⟨hb₂, hs₂, hp₂⟩ := attachShader_spec (s := v) hp₁ hfresh (by simp [Holds, hs₁, hl])
    obtain ⟨hb₃, hs₃, hp₃⟩ := attachShader_spec (s := f) hp₂ hfresh (by simp [Holds, hs₂, hs₁, hl])
    obtain ⟨hb₄, hs₄, hp₄⟩ := linkProgram_spec hp₃ hfresh
    have hl₃ := hs₃.trans (hs₂.trans (hs₁.trans hl))
    have hl₄ := hs₄.trans hl₃
    -- the shaders are still there when the program is linked
    have hx : ((d₁.attachShader p v).attachShader p f).shader? v = some x := by
      rw [shader?, hl₃, List.lookup_append, lookup_snoc_of_fresh hv, Option.some_or]
    have hy : ((d₁.attachShader p v).attachShader p f).shader? f = some y := by
      rw [shader?, hl₃, lookup_snoc_of_fresh hf]
    obtain ⟨hb₅, hp₅, hs₅⟩ := deleteShaders_spec hl₄ hv hf
    have hb := hb₂.trans (hb₃.trans (hb₄.trans hb₅))
    dsimp only
    generalize (d₁.attachShader p v).attachShader p f = d₃ at *
    generalize (d₃.linkProgram p).deleteShader v = d₄ at *
    generalize d₄.deleteShader f = d₅ at *
    split
    · next hok =>
      rw [linkStatus, program?, hp₅, hp₄, lookup_snoc_of_fresh hfresh, Option.any_some] at hok
      exact ⟨hb₁.trans hb, hs₅, hn, Nat.lt_of_lt_of_le hlt hb.next, _, linked_declares hok rfl hx hy, hp₅.trans hp₄⟩
    · refine ⟨(hb₁.trans hb).trans (.deleteProgram (by simp [Holds, hp₅, hp₄])), hs₅, ?_⟩
      simp only [deleteProgram, record, hp₅, hp₄]
      exact filter_snoc_of_fresh hfresh _

theorem buildProgram_spec (hd : d.Numbered) (fragment : String) :
    d.Built (d.buildProgram fragment).2 ∧ (d.buildProgram fragment).2.shaders = d.shaders ∧
      match (d.buildProgram fragment).1 with
      | .error _ => (d.buildProgram fragment).2.programs = d.programs
      | .ok p => d.next ≤ p.id ∧ p.id < (d.buildProgram fragment).2.next ∧
          ∃ z, z.Declares (declaredUniforms Boilerplate.vertex ++ declaredUniforms fragment) ∧
            (d.buildProgram fragment).2.programs = d.programs ++ [(p, z)] := by
  unfold buildProgram
  obtain ⟨hb₁, hp₁, h₁⟩ := compileStage_spec hd .vertex Boilerplate.vertex
  rcases hv : d.compileStage .vertex Boilerplate.vertex with ⟨e | v, d₁⟩ <;> rw [hv] at hb₁ hp₁ h₁
  · exact ⟨hb₁, h₁, hp₁⟩
  · obtain ⟨hn, hlt, hs₁⟩ := h₁
    dsimp only at hb₁ hp₁ hlt hs₁ ⊢
    have hd₁ := hd.addShader hb₁.next hs₁ hlt hp₁
    obtain ⟨hb₂, hp₂, h₂⟩ := compileStage_spec hd₁ .fragment fragment
    rcases hf : d₁.compileStage .fragment fragment with ⟨e | f, d₂⟩ <;> rw [hf] at hb₂ hp₂ h₂
    · dsimp only at h₂ hp₂ ⊢
      rw [hs₁] at h₂
      exact ⟨hb₁.trans (hb₂.trans (.deleteShader (by simp [Holds, h₂]))), deleteShader_last h₂ (shader_fresh hd hn),
        hp₂.trans hp₁⟩
    · obtain ⟨hm, hlt₂, hs₂⟩ := h₂
      dsimp only at hb₂ hlt₂ hs₂ hp₂ ⊢
      have hd₂ := hd₁.addShader hb₂.next hs₂ hlt₂ hp₂
      have hff := shader_fresh hd₁ hm
      rw [hs₁] at hs₂ hff
      obtain ⟨hb₃, hs₃, h₃⟩ := linkStages_spec hd₂ hs₂ (shader_fresh hd hn) hff
      refine ⟨hb₁.trans (hb₂.trans hb₃), hs₃, ?_⟩
      rcases hr : d₂.linkStages v f with ⟨e | p, d₃⟩ <;> rw [hr] at h₃
      · exact h₃.trans (hp₂.trans hp₁)
      · obtain ⟨hq, hlt₃, z, hz, hps⟩ := h₃
        exact ⟨Nat.le_trans (hb₁.trans hb₂).next hq, hlt₃, z, hz, by rw [hps, hp₂, hp₁]⟩

end Device

end ShaderRunner

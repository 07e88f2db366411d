import ShaderRunner.Proofs.Ownership

/-! A compile puts the statics of the set into the text, and a render compiles anew if the flag is up. -/

namespace ShaderRunner

def staticsOf (es : List (String × Uniform)) : List (String × String) :=
  es.filterMap fun e => e.2.static?.map (e.1, ·)

def UniformSet.statics (s : UniformSet) : List (String × String) := staticsOf s.entries

section Texts

variable {u u' : Uniform} {es : List (String × Uniform)} {s s' : UniformSet}

lemma staticsOf_cons (e : String × Uniform) (es : List (String × Uniform)) :
    staticsOf (e :: es) = (e.2.static?.map (e.1, ·)).toList ++ staticsOf es := by
  cases h : e.2.static? <;> simp [staticsOf, h]

lemma staticsOf_append (a b : List (String × Uniform)) : staticsOf (a ++ b) = staticsOf a ++ staticsOf b :=
  List.filterMap_append ..

lemma fillStatics_eq (source : List Char) (es : List (String × Uniform)) :
    fillStatics source es = fillStatics source ((staticsOf es).map fun t => (t.1, { payload := .static t.2 })) := by
  induction es generalizing source with
  | nil => rfl
  | cons e es ih =>
    obtain ⟨name, u⟩ := e
    rw [fillStatics, staticsOf_cons]
    cases h : u.static? with
    | none => exact ih source
    | some value =>
      simp only [Option.map_some, Option.toList_some, List.singleton_append, List.map_cons, fillStatics,
        Uniform.static?, ← ih]

lemma prepare_congr (h : s'.statics = s.statics) (source : String) : prepare source s' = prepare source s := by
  have hs : staticsOf s'.entries = staticsOf s.entries := h
  rw [prepare, prepare, fillStatics_eq _ s'.entries, fillStatics_eq _ s.entries, hs]

lemma Uniform.static?_of_kind (hk : u.kind ≠ .static) : u.static? = none := by
  unfold kind at hk
  cases hp : u.payload <;> simp_all [static?, Payload.kind]

lemma Uniform.located_static? (u : Uniform) (d : Device) (p : ProgramHandle) (name : String) :
    (u.located d p name).static? = u.static? := by
  simp [static?]

lemma Uniform.commit_static? (u : Uniform) (unit : UInt32) (d : Device) :
    (u.commit unit d).2.2.static? = u.static? := by
  by_cases hk : u.kind = .sampler
  · have hs : u.kind ≠ .static := by simp [hk]
    rw [static?_of_kind hs, static?_of_kind]
    rwa [(u.commit_shape unit d).kind]
  · rw [commit_of_kind hk]

lemma commitEntries_statics (p : ProgramHandle) (unit : UInt32) (d : Device) (es : List (String × Uniform)) :
    staticsOf (commitEntries p unit d es).2.2 = staticsOf es := by
  refine commitEntries_walk (R := fun _ es _ es' => staticsOf es' = staticsOf es) (fun _ => rfl) ?_ ?_ unit d es
  · intro name u k d es
    rw [staticsOf_cons, staticsOf_cons, Uniform.commit_static?, Uniform.located_static?]
  · intro name u k d es d' es' ih
    rw [staticsOf_cons, staticsOf_cons, Uniform.commit_static?, Uniform.located_static?, ih]

lemma UniformSet.statics_commit (s : UniformSet) (p : ProgramHandle) (d : Device) :
    (s.commit p d).2.2.statics = s.statics := commitEntries_statics p 0 d s.entries

lemma UniformSet.statics_relocate (s : UniformSet) (d : Device) (p : ProgramHandle) :
    (s.relocate d p).statics = s.statics := by
  simp only [statics, staticsOf, relocate, map, withEntries, List.filterMap_map]
  rfl

lemma UniformSet.statics_modify {name : String} (hu : s.get? name = some u) (h : u'.static? = u.static?) :
    (s.modify name fun _ => u').statics = s.statics := by
  obtain ⟨a, b, hs, hm⟩ := entries_modify hu
  simp only [statics, hs, hm, staticsOf_append, staticsOf_cons, h]

lemma Uniform.update_static? (u : Uniform) (v : Value) (d : Device) :
    (u.update v d).2.2.static? = u.static? ∨ (u.update v d).1 = .ok .recompileRequired := by
  by_cases hk : u.kind = .static
  · rw [update_of_kind (by simp [hk]), stage, hk, stageAs, storeText]
    cases v.static with
    | error e => exact .inl rfl
    | ok t => exact .inr rfl
  · left
    rw [static?_of_kind hk, static?_of_kind]
    rwa [(u.update_shape v d).kind]

end Texts

namespace Renderer

variable {r r' : Renderer} {s s' : UniformSet} {source : String}

lemma compile_ok {ds : List Diagnostic} (h : r.compile source s = (.ok ds, r', s')) :
    ∃ t d p, prepare (r.mode.wrap source) s = .ok t ∧ s' = s.relocate d p ∧ r'.mode = r.mode ∧
      r'.source = source ∧ r'.processed = t.source ∧ r'.needsRecompile = false := by
  have hc := r.compile_compiles source s
  rw [h] at hc
  cases hc with
  | @compiled t p d r₁ _ hp _ he =>
    obtain ⟨b, hb⟩ := (r.adopted source t p d).ensureBuffer_eq
    have hr : (r.adopted source t p d).ensureBuffer.2 = r₁ := congrArg Prod.snd he
    rw [hr] at hb
    exact ⟨t, _, p, hp, rfl, by rw [hb]; rfl, by rw [hb]; rfl, by rw [hb]; rfl, rfl⟩

end Renderer

namespace Scene

variable {x y : Scene}

def text? (x : Scene) (s : UniformSet) : Option String :=
  (prepare (x.renderer.mode.wrap x.renderer.source) s).toOption.map Prepared.source

def Current (x : Scene) : Prop := x.text? x.uniforms = some x.renderer.processed

instance : Decidable x.Current := inferInstanceAs (Decidable (_ = _))

lemma text?_congr (hm : y.renderer.mode = x.renderer.mode) (hs : y.renderer.source = x.renderer.source)
    {s s' : UniformSet} (h : s'.statics = s.statics) : y.text? s' = x.text? s := by
  rw [text?, text?, hm, hs, prepare_congr h]

end Scene

namespace Operation

def compiles (o : Operation) (x : Scene) : Bool :=
  match o with
  | compile _ => true
  | render _ => x.renderer.needsRecompile
  | _ => false

/-- Operations that compile, or that look at the outcome of the update that they make. -/
def watches : Operation → Bool
  | compile _ | render _ | update .. => true
  | _ => false

def Flags (o : Operation) (x : Scene) : Prop :=
  x.renderer.program.isSome = true → (o.apply x).2.uniforms.statics ≠ x.uniforms.statics →
    (o.apply x).2.renderer.needsRecompile = true

end Operation

namespace Scene

/-- The set that the last compile of a successful run saw, if `s` is the one that the last before it saw. -/
def compiledWith (x : Scene) (s : UniformSet) : List Operation → UniformSet
  | [] => s
  | o :: os => compiledWith (o.apply x).2 (if o.compiles x then x.uniforms else s) os

def Flagged (x : Scene) : List Operation → Prop
  | [] => True
  | o :: os => (o.watches = false → o.Flags x) ∧ Flagged (o.apply x).2 os

instance decidableFlagged : (x : Scene) → (os : List Operation) → Decidable (x.Flagged os)
  | _, [] => isTrue trivial
  | x, o :: os =>
    have := decidableFlagged (o.apply x).2 os
    inferInstanceAs (Decidable ((_ → _ → _ → _) ∧ _))

def BuiltWith (s : UniformSet) (x : Scene) : Prop :=
  x.renderer.program.isSome = true → x.text? s = some x.renderer.processed

def Noticed (s : UniformSet) (x : Scene) : Prop :=
  x.renderer.program.isSome = true → x.uniforms.statics = s.statics ∨ x.renderer.needsRecompile = true

variable {x y : Scene} {o : Operation} {s : UniformSet}

structure Compiled (s : UniformSet) (y : Scene) : Prop where
  text : y.text? s = some y.renderer.processed
  statics : y.uniforms.statics = s.statics
  flag : y.renderer.needsRecompile = false

lemma Compiled.of_compile {r : Renderer} {s' : UniformSet} {source : String} {ds : List Diagnostic}
    (h : x.renderer.compile source x.uniforms = (.ok ds, r, s')) : Compiled x.uniforms ⟨r, s'⟩ := by
  obtain ⟨t, d, p, hp, rfl, hm, hs, ht, hn⟩ := Renderer.compile_ok h
  refine ⟨?_, UniformSet.statics_relocate _ _ _, hn⟩
  simp only [text?, hm, hs, hp, ht]
  rfl

lemma Compiled.congr (h : Compiled s x) (hm : y.renderer.mode = x.renderer.mode)
    (hs : y.renderer.source = x.renderer.source) (hp : y.renderer.processed = x.renderer.processed)
    (hn : y.renderer.needsRecompile = x.renderer.needsRecompile) (hu : y.uniforms.statics = x.uniforms.statics) :
    Compiled s y :=
  ⟨by rw [text?_congr hm hs rfl, h.text, hp], hu.trans h.statics, hn.trans h.flag⟩

structure Idle (x y : Scene) : Prop where
  mode : y.renderer.mode = x.renderer.mode
  source : y.renderer.source = x.renderer.source
  processed : y.renderer.processed = x.renderer.processed
  program : y.renderer.program.isSome = true → x.renderer.program.isSome = true
  flag : x.renderer.needsRecompile = true → y.renderer.needsRecompile = true

lemma apply_renderer (ho : ∀ source, o ≠ .compile source) (hr : ∀ ended, o ≠ .render ended) (hd : o ≠ .destroy)
    (x : Scene) : ∃ d n, (x.renderer.needsRecompile = true → n = true) ∧
      (o.apply x).2.renderer = { x.renderer with device := d, needsRecompile := n } := by
  cases o with
  | compile source => exact absurd rfl (ho source)
  | render ended => exact absurd rfl (hr ended)
  | destroy => contradiction
  | update name v =>
    simp only [Operation.apply, Renderer.update]
    cases hu : x.uniforms.get? name with
    | none => exact ⟨_, _, id, rfl⟩
    | some u =>
      dsimp only
      rcases u.update v x.renderer.device with ⟨e | o, d, u'⟩
      · exact ⟨d, _, id, rfl⟩
      · exact ⟨d, _, fun h => by simp [h], rfl⟩
  | stage name v | store name v =>
    simp only [Operation.apply]
    split <;> exact ⟨_, _, id, rfl⟩
  | refresh now i | arrange f | resolve name => exact ⟨_, _, id, rfl⟩
  | insert name k length v | define name v source | declare name v =>
    simp only [Operation.apply, withUniforms]
    split <;> exact ⟨_, _, id, rfl⟩

lemma apply_idle (ho : ∀ source, o ≠ .compile source) (hr : ∀ ended, o ≠ .render ended) (x : Scene) :
    Idle x (o.apply x).2 := by
  by_cases hd : o = .destroy
  · subst hd
    exact ⟨rfl, rfl, rfl, fun h => by contradiction, id⟩
  · obtain ⟨d, n, hn, h⟩ := apply_renderer ho hr hd x
    constructor <;> rw [h]
    · exact id
    · exact hn

lemma draw_idle {r r' : Renderer} {s s' : UniformSet} {p : ProgramHandle} {ended : Float32}
    (h : r.draw p s ended = (.ok (), r', s')) :
    Idle ⟨r, s⟩ ⟨r', s'⟩ ∧ r'.needsRecompile = r.needsRecompile ∧ s'.statics = s.statics := by
  obtain ⟨d, hc, rfl⟩ := Renderer.draw_ok h
  have hs := s.statics_commit p (r.openFrame p)
  rw [hc] at hs
  exact ⟨⟨rfl, rfl, rfl, id, id⟩, rfl, hs⟩

lemma render_step {ended : Float32} (h : ((Operation.render ended).apply x).1.isOk = true) :
    x.renderer.needsRecompile = true ∧ Compiled x.uniforms ((Operation.render ended).apply x).2 ∨
      x.renderer.needsRecompile = false ∧ Idle x ((Operation.render ended).apply x).2 ∧
        ((Operation.render ended).apply x).2.renderer.needsRecompile = false ∧
        ((Operation.render ended).apply x).2.uniforms.statics = x.uniforms.statics ∧
        x.renderer.program.isSome = true := by
  have h' := ok_of_isOk h
  simp only [Operation.apply, ofAttempt] at h' ⊢
  rcases hr : x.renderer.render x.uniforms ended with ⟨e | _, r, s⟩
  · simp [hr, Except.map] at h'
  · obtain ⟨r₁, s₁, p, hc, hp, hdraw⟩ := Renderer.render_ok hr
    obtain ⟨hi, hn, hs⟩ := draw_idle hdraw
    rcases hc with ⟨hf, rfl, rfl⟩ | ⟨hf, ds, hc⟩
    · exact .inr ⟨hf, hi, hn.trans hf, hs, by simp [hp]⟩
    · exact .inl ⟨hf, (Compiled.of_compile hc).congr hi.mode hi.source hi.processed hn hs⟩

lemma step_cases (h : (o.apply x).1.isOk = true) :
    o.compiles x = true ∧ Compiled x.uniforms (o.apply x).2 ∨ o.compiles x = false ∧ Idle x (o.apply x).2 := by
  cases o with
  | compile source =>
    left
    simp only [Operation.apply, ofAttempt] at h ⊢
    rcases hc : x.renderer.compile source x.uniforms with ⟨e | ds, r, s⟩
    · rw [hc] at h
      contradiction
    · exact ⟨rfl, Compiled.of_compile hc⟩
  | render ended =>
    rcases render_step h with ⟨hn, hc⟩ | ⟨hn, hi, -⟩
    · exact .inl ⟨hn, hc⟩
    · exact .inr ⟨hn, hi⟩
  | _ => exact .inr ⟨rfl, apply_idle (by simp) (by simp) x⟩

lemma watches_flags (h : (o.apply x).1.isOk = true) (hw : o.watches = true) (hc : o.compiles x = false) :
    (o.apply x).2.uniforms.statics = x.uniforms.statics ∨ (o.apply x).2.renderer.needsRecompile = true := by
  cases o with
  | compile source => contradiction
  | render ended =>
    rcases render_step h with ⟨hn, -⟩ | ⟨-, -, -, hs, -⟩
    · exact absurd (hc.symm.trans hn) (by decide)
    · exact .inl hs
  | update name v =>
    simp only [Operation.apply, Renderer.update] at h ⊢
    cases hu : x.uniforms.get? name with
    | none => exact .inl rfl
    | some u =>
      have hv := u.update_static? v x.renderer.device
      rcases hr : u.update v x.renderer.device with ⟨e | o, d, u'⟩ <;> rw [hr] at hv <;> simp only [hr]
      · exact .inl (UniformSet.statics_modify hu (by simpa using hv))
      · rcases hv with hv | hv
        · exact .inl (UniformSet.statics_modify hu hv)
        · have ho : o = .recompileRequired := Except.ok.inj hv
          exact .inr (by simp [ofAttempt, ho])
  | _ => contradiction

lemma BuiltWith.step (hb : BuiltWith s x) (h : (o.apply x).1.isOk = true) :
    BuiltWith (if o.compiles x then x.uniforms else s) (o.apply x).2 := by
  intro hp
  rcases step_cases h with ⟨hc, hy⟩ | ⟨hc, hi⟩
  · rw [if_pos hc]
    exact hy.text
  · rw [if_neg (by simp [hc]), text?_congr hi.mode hi.source rfl, hb (hi.program hp), hi.processed]

lemma Noticed.step (hn : Noticed s x) (h : (o.apply x).1.isOk = true) (hf : o.watches = false → o.Flags x) :
    Noticed (if o.compiles x then x.uniforms else s) (o.apply x).2 := by
  intro hp
  rcases step_cases h with ⟨hc, hy⟩ | ⟨hc, hi⟩
  · rw [if_pos hc]
    exact .inl hy.statics
  · rw [if_neg (by simp [hc])]
    have hx := hi.program hp
    have hs : (o.apply x).2.uniforms.statics = x.uniforms.statics ∨
        (o.apply x).2.renderer.needsRecompile = true := by
      cases hw : o.watches with
      | true => exact watches_flags h hw hc
      | false => exact or_iff_not_imp_left.mpr (hf hw hx)
    -- stale implies flagged: without a compile only a change of the statics makes the text stale
    rcases hs with hs | hs
    · rcases hn hx with hn | hn
      · exact .inl (hs.trans hn)
      · exact .inr (hi.flag hn)
    · exact .inr hs

lemma BuiltWith.run (os : List Operation) (hb : BuiltWith s x) (h : x.Succeeds os) :
    BuiltWith (x.compiledWith s os) (x.run os) := by
  induction os generalizing x s with
  | nil => exact hb
  | cons o os ih => exact ih (hb.step h.1) h.2

lemma Noticed.run (os : List Operation) (hn : Noticed s x) (h : x.Succeeds os) (hf : x.Flagged os) :
    Noticed (x.compiledWith s os) (x.run os) := by
  induction os generalizing x s with
  | nil => exact hn
  | cons o os ih => exact ih (hn.step h.1 hf.1) h.2 hf.2

lemma flagged_append (x : Scene) (os ps : List Operation) :
    x.Flagged (os ++ ps) ↔ x.Flagged os ∧ (x.run os).Flagged ps := by
  induction os generalizing x with
  | nil => simp [Flagged, run]
  | cons o os ih => simp [Flagged, run, ih, and_assoc]

lemma render_program {ended : Float32} (h : ((Operation.render ended).apply x).1.isOk = true) :
    ((Operation.render ended).apply x).2.renderer.program.isSome = true ∧
      ((Operation.render ended).apply x).2.renderer.needsRecompile = false := by
  refine ⟨?_, ?_⟩
  · have h' := ok_of_isOk h
    simp only [Operation.apply, ofAttempt] at h' ⊢
    rcases hr : x.renderer.render x.uniforms ended with ⟨e | _, r, s⟩
    · simp [hr, Except.map] at h'
    · obtain ⟨r₁, s₁, p, -, hp, hdraw⟩ := Renderer.render_ok hr
      obtain ⟨d, -, rfl⟩ := Renderer.draw_ok hdraw
      simp [hp]
  · rcases render_step h with ⟨-, hc⟩ | ⟨-, -, hn, -⟩
    · exact hc.flag
    · exact hn

/-- In every frame of a successful run the text of the program is the one that the set of the last compile
gave. It is the text of the set as it is exactly if both give the same text, and so wherever every change of a
static has raised the flag. -/
theorem draw_current (label : String) (m : Mode) (size : Size) (s : UniformSet) (os : List Operation)
    (ended : Float32) :
    let x := Scene.new label m size s
    let y := x.run (os ++ [.render ended])
    x.Succeeds (os ++ [.render ended]) →
      (y.Current ↔ y.text? y.uniforms = y.text? (x.compiledWith s (os ++ [.render ended]))) ∧
        (x.Flagged os → y.Current) := by
  intro x y h
  have hr : ((Operation.render ended).apply (x.run os)).1.isOk = true := ((succeeds_append x os _).mp h).2.1
  obtain ⟨hp, hn⟩ := render_program hr
  have hy : y = ((Operation.render ended).apply (x.run os)).2 := run_append x os _
  rw [← hy] at hp hn
  have hb : BuiltWith s x := fun h => by contradiction
  have ht : y.text? (x.compiledWith s (os ++ [.render ended])) = some y.renderer.processed := hb.run _ h hp
  refine ⟨by rw [ht]; rfl, fun hf => ?_⟩
  have hnx : Noticed s x := fun _ => .inl rfl
  have hfr : x.Flagged (os ++ [.render ended]) := (flagged_append x os _).mpr ⟨hf, fun h => by contradiction, trivial⟩
  rcases hnx.run _ h hfr hp with hs | hs
  · rw [Current, text?_congr rfl rfl hs, ht]
  · rw [hn] at hs
    contradiction

theorem draw_current_updated :
    let x := Scene.new "scene" .default ⟨8, 8⟩ .empty
    (x.run ([.insert "n" .static .single (.int 1), .compile "int n = STATIC(n);", .update "n" (.int 2)] ++
      [.render 0])).Current :=
  (draw_current "scene" .default ⟨8, 8⟩ .empty _ 0 (by decide +kernel)).2 (by decide +kernel)

/-- A static that is declared after the compile does not get into the text. -/
theorem draw_current_declared :
    let x := Scene.new "scene" .default ⟨8, 8⟩ .empty
    let os := [.compile "int n = STATIC(n, 1);", .declare "n" (.text "2"), .render 0]
    x.Succeeds os ∧ ((x.run os).text? (x.run os).uniforms).isSome = true ∧ ¬ (x.run os).Current := by
  decide +kernel

end Scene

end ShaderRunner

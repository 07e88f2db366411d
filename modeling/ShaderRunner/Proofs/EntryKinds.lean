import ShaderRunner.Proofs.LeftoverCalls
import ShaderRunner.Proofs.LoadedSession
import ShaderRunner.Proofs.Wrapping

namespace ShaderRunner

open Text Piece StaticCall

structure Pass where
  pieces : List Piece
  text : StaticCall → Option (List Char)

def declaredKind? (name : String) (s : List Char) : Option Inferred.Kind :=
  ((declaredBy (trimmedLines s)).lookup name).map Inferred.kind

def Pass.Spares (c : Pass) (name : String) : Prop :=
  ∀ row ∈ c.pieces.splitOn (.plain '\n'), declaredKind? name (substitute c.text row) = declaredKind? name (textOf row)

instance (c : Pass) (name : String) : Decidable (c.Spares name) := inferInstanceAs (Decidable (∀ row ∈ _, _ = _))

def passes (source : List Char) : List (String × String) → List Pass
  | [] => (scanSource source).toOption.toList.map fun ps => ⟨ps, literal⟩
  | (name, value) :: ts =>
    match scanSource source with
    | .error _ => []
    | .ok ps =>
      let c : Pass := ⟨ps, fun m => if m.name = name.toList then some value.toList else none⟩
      c :: passes (substitute c.text ps) ts

section Declarations

variable {name : String} {s t : List Char} {ls : List (List Char)}

lemma declaredBy_append (ls ks : List (List Char)) : declaredBy (ls ++ ks) = declaredBy ls ++ declaredBy ks := by
  rw [declaredBy, List.filterMap_append, List.map_append, declaredBy, declaredBy]

lemma declaredKind?_append_line (name : String) (s t : List Char) :
    declaredKind? name (s ++ '\n' :: t) = (declaredKind? name s).or (declaredKind? name t) := by
  have hblank : declaredBy [[]] = [] := by decide +kernel
  have hs : declaredBy (trimmedLines (s ++ ['\n'])) = declaredBy (trimmedLines s) := by
    rcases trimmedLines_lineFeed s with h | h
    · rw [h]
    · rw [h, declaredBy_append, hblank, List.append_nil]
  rw [declaredKind?, trimmedLines_append_line, declaredBy_append, List.lookup_append, hs, declaredKind?, declaredKind?,
    Option.map_or]

lemma declaredKind?_eq_none_iff : declaredKind? name s = none ↔ name ∉ declaredUniforms (String.ofList s) := by
  have hn : declaredUniforms (String.ofList s) = (declaredBy (trimmedLines s)).map Prod.fst := by
    rw [declaredUniforms, sourceLines_eq, String.toList_ofList, declaredBy, List.map_map]
    rfl
  rw [hn, declaredKind?, Option.map_eq_none_iff, List.lookup_eq_none_iff, List.mem_map]
  constructor
  · rintro h ⟨e, he, rfl⟩
    have := h e he
    simp at this
  · intro h e he
    simpa using fun hname => h ⟨e, he, hname.symm⟩

lemma Pass.Spares.declaredKind? {c : Pass} (h : c.Spares name) :
    ShaderRunner.declaredKind? name (substitute c.text c.pieces) =
      ShaderRunner.declaredKind? name (textOf c.pieces) := by
  obtain ⟨ps, f⟩ := c
  rw [Spares] at h
  dsimp only at h ⊢
  induction ps using induction_on_splits with
  | hlast row hr =>
    rw [List.splitOn_eq_singleton hr] at h
    exact h row List.mem_cons_self
  | hsplit row ps hr ih =>
    have hsplit : (row ++ .plain '\n' :: ps).splitOn (.plain '\n') = row :: ps.splitOn (.plain '\n') := by
      refine List.splitOnP_append_cons_of_forall_mem (fun p hp => ?_) _ (by simp) _
      exact beq_false_of_ne fun he => hr (he ▸ hp)
    rw [hsplit, List.forall_mem_cons] at h
    rw [substitute_append, substitute_plain, textOf_append, textOf_plain, declaredKind?_append_line,
      declaredKind?_append_line, h.1, ih h.2]

end Declarations

section Passes

variable {name : String} {source filled : List Char} {ps : List Piece} {ds : List Diagnostic}

lemma replaceCalls_ok {name value : List Char} {r : Option (List Char)} (h : replaceCalls source name value = .ok r) :
    ∃ ps, scanSource source = .ok ps ∧
      r.getD source = substitute (fun m => if m.name = name then some value else none) ps := by
  rw [replaceCalls] at h
  obtain ⟨ps, hs, h⟩ := bind_eq_ok h
  refine ⟨ps, hs, ?_⟩
  split at h
  · rw [← Except.ok.inj h, Option.getD_some]
  · next hn =>
    have hnone : ∀ m ∈ calls ps, (if m.name = name then some value else none) = none := by simpa using hn
    rw [← Except.ok.inj h, Option.getD_none, ← textOf_replace, replace_none hnone, (scanSource_ok_iff.mp hs).1]

lemma fillStatics_cons_ok {value : String} {es : List (String × Uniform)}
    (h : fillStatics source ((name, { payload := .static value }) :: es) = .ok (filled, ds)) :
    ∃ ps ds', scanSource source = .ok ps ∧
      fillStatics (substitute (fun m => if m.name = name.toList then some value.toList else none) ps) es =
        .ok (filled, ds') := by
  have hu : ({ payload := .static value } : Uniform).static? = some value := rfl
  rcases hr : replaceCalls source name.toList value.toList with e | _ | next
  · rw [fillStatics_error hu hr] at h
    contradiction
  · obtain ⟨ps, hs, hsub⟩ := replaceCalls_ok hr
    rw [fillStatics_unnamed hu hr] at h
    obtain ⟨⟨filled', ds'⟩, hf, hds⟩ := bind_eq_ok h
    obtain ⟨rfl, rfl⟩ := Prod.mk.inj (Except.ok.inj hds)
    exact ⟨ps, ds', hs, by rw [← hsub, Option.getD_none, hf]⟩
  · obtain ⟨ps, hs, hsub⟩ := replaceCalls_ok hr
    rw [fillStatics_named hu hr] at h
    exact ⟨ps, ds, hs, by rw [← hsub, Option.getD_some, h]⟩

lemma fillStatics_declaredKind? {ts : List (String × String)}
    (hf : fillStatics source (ts.map fun t => (t.1, { payload := .static t.2 })) = .ok (filled, ds))
    (hs : scanSource filled = .ok ps) (hc : ∀ c ∈ passes source ts, c.Spares name) :
    declaredKind? name (substitute literal ps) = declaredKind? name source := by
  induction ts generalizing source ds with
  | nil =>
    obtain ⟨rfl, -⟩ := Prod.mk.inj (Except.ok.inj hf)
    have hp : passes source [] = [⟨ps, literal⟩] := by rw [passes, hs]; rfl
    rw [hp, List.forall_mem_singleton] at hc
    rw [← (scanSource_ok_iff.mp hs).1]
    exact hc.declaredKind?
  | cons t ts ih =>
    obtain ⟨name', value⟩ := t
    obtain ⟨qs, ds', hq, hf'⟩ := fillStatics_cons_ok hf
    rw [passes, hq, List.forall_mem_cons] at hc
    rw [ih hf' hc.2, ← (scanSource_ok_iff.mp hq).1]
    exact hc.1.declaredKind?

lemma prepare_declaredKind? {source : String} {s : UniformSet} {t : Prepared} (h : prepare source s = .ok t)
    (hc : ∀ c ∈ passes source.toList s.statics, c.Spares name) :
    declaredKind? name t.source.toList = declaredKind? name source.toList := by
  obtain ⟨filled, ds, ps, hf, hs, -, ht⟩ := prepare_ok h
  rw [fillStatics_eq] at hf
  rw [ht]
  exact fillStatics_declaredKind? hf hs hc

end Passes

section Infer

variable {name source : String} {ls : List (List Char)}

lemma Declaration.inferred_bindable {d : Declaration} {k : Kind} (h : d.inferred.kind = .known k) :
    k.bindable = true := by
  rw [inferred] at h
  dsimp only at h
  split at h
  · next k' hk =>
    obtain rfl := Inferred.Kind.known.inj h
    unfold Kind.ofDeclared? at hk
    split at hk <;> first | contradiction | (obtain rfl := Option.some.inj hk; rfl)
  · contradiction

lemma findSome?_declared (h : ∀ i ∈ ls.findSome? (Inferred.ofLine? name), i.kind ≠ .known .static) :
    ls.findSome? (Inferred.ofLine? name) = (declaredBy ls).lookup name := by
  induction ls with
  | nil => rfl
  | cons l ls ih =>
    rw [List.findSome?_cons] at h ⊢
    rw [lookup_declaredBy_cons]
    rw [Inferred.ofLine?] at h ⊢
    cases hd : (Declaration.ofLine? l).filter (·.name == name) with
    | some d => rfl
    | none =>
      rw [hd] at h
      cases hc : called name.toList l with
      | true => exact absurd rfl (h ⟨.known .static, .single⟩ (by rw [hc]; rfl))
      | false =>
        rw [hc] at h
        exact ih h

lemma infer_declared (h : (infer name source).kind ≠ .known .static) :
    (infer name source).kind = (declaredKind? name source.toList).getD (.known .unused) := by
  rw [infer] at h ⊢
  rw [findSome?_declared fun i hi => ?_, sourceLines_eq, declaredKind?]
  · cases (declaredBy (trimmedLines source.toList)).lookup name <;> rfl
  · rw [Option.mem_def.mp hi, Option.getD_some] at h
    exact h

lemma infer_uncalled (h : ∀ l ∈ sourceLines source, called name.toList l = false) :
    (infer name source).kind ≠ .known .static := by
  rw [infer]
  cases hi : (sourceLines source).findSome? (Inferred.ofLine? name) with
  | none => decide
  | some i =>
    obtain ⟨l, hl, hl'⟩ := List.exists_of_findSome?_eq_some hi
    rw [Inferred.ofLine?, h l hl] at hl'
    cases hd : (Declaration.ofLine? l).filter (·.name == name) with
    | none =>
      rw [hd] at hl'
      contradiction
    | some d =>
      rw [hd] at hl'
      obtain rfl := Option.some.inj hl'
      intro hk
      exact absurd (Declaration.inferred_bindable hk) (by decide)

lemma declaredKind?_bindable {s : List Char} {k : Kind} (h : declaredKind? name s = some (.known k)) :
    k.bindable = true := by
  obtain ⟨i, hi, hk⟩ := Option.map_eq_some_iff.mp h
  obtain ⟨a, b, hl, -⟩ := List.lookup_eq_some_iff.mp hi
  have hmem : (name, i) ∈ declaredBy (trimmedLines s) := by simp [hl]
  obtain ⟨d, -, hd⟩ := List.mem_map.mp hmem
  obtain rfl := (Prod.mk.inj hd).2
  exact Declaration.inferred_bindable hk

end Infer

lemma Renderer.compile_unused {r r' : Renderer} {s s' : UniformSet} {source : String} {ds : List Diagnostic}
    (h : r.compile source s = (.ok ds, r', s')) (name : String) :
    .unusedUniform name ∈ r'.diagnostics ↔ ∃ u, s'.get? name = some u ∧ u.kind = .unused := by
  obtain ⟨t, d, p, ht, -, -, rfl, rfl⟩ := compile_built h
  have hd : .unusedUniform name ∉ t.diagnostics := prepare_diagnostics ht (by simp)
  dsimp only
  rw [List.mem_append, or_iff_right hd, missingUniforms]
  simp only [List.mem_append, List.mem_map, List.mem_filter, reduceCtorEq, and_false, exists_false, false_or,
    Diagnostic.unusedUniform.injEq, beq_iff_eq]
  constructor
  · rintro ⟨⟨n, u⟩, ⟨hu, hk⟩, rfl⟩
    exact ⟨u, UniformSet.mem_entries_iff.mp hu, hk⟩
  · rintro ⟨u, hu, hk⟩
    exact ⟨(name, u), ⟨UniformSet.mem_entries_iff.mpr hu, hk⟩, rfl⟩

namespace Session

variable {m : Manifest} {f : Files} {path : String} {s : Session} {e : UniformEntry}

/-- An entry has the kind that the text of the shader in its mode gives to its name, and the program resolves the names
that the text it was built from declares. Where the replacements of static calls spare the name, these are the entries
that are used, and the second text gives them the same kind, unless a call of the name is left. -/
theorem load_entries (hm : Manifest.load f path = .ok m) (h : load f path = .ok s) (he : e ∈ m.uniforms) :
    ∃ u p, s.uniforms.get? e.name = some u ∧ s.renderer.program = some p ∧
      (infer e.name s.wrapped).kind = .known u.kind ∧
      (.unusedUniform e.name ∈ s.renderer.diagnostics ↔ u.kind = .unused) ∧
      ((s.renderer.device.uniformLocation p e.name).isSome = true ↔
        e.name ∈ declaredUniforms s.renderer.processed) ∧
      (u.kind ≠ .static → (∀ c ∈ passes s.wrapped.toList s.uniforms.statics, c.Spares e.name) →
        ((s.renderer.device.uniformLocation p e.name).isSome = true ↔ u.kind ≠ .unused) ∧
          ((∀ l ∈ sourceLines s.renderer.processed, called e.name.toList l = false) →
            (infer e.name s.renderer.processed).kind = .known u.kind)) := by
  obtain ⟨-, -, s₀, ds, hs₀, hc⟩ := load_ok hm h
  have hnumbered := (Renderer.Driven.new m.shader.label s.renderer.mode m.surface.size).numbered
  obtain ⟨p, hp, hresolves, hs, -⟩ := Renderer.compile_links hnumbered hc
  obtain ⟨t, -, -, ht, -, -, -, hprocessed, -⟩ := Renderer.compile_ok hc
  have hunused := Renderer.compile_unused hc e.name
  have hstatics : s.uniforms.statics = s₀.statics := by rw [hs, UniformSet.statics_relocate]
  obtain ⟨u₀, hu₀, hkind⟩ := (declareEntries_get? hs₀ e.name).1 (List.mem_map_of_mem he)
  obtain ⟨u, hu, hk⟩ : ∃ u, s.uniforms.get? e.name = some u ∧ u.kind = u₀.kind := by
    rw [hs, UniformSet.relocate, UniformSet.get?_map, hu₀]
    exact ⟨_, rfl, rfl⟩
  rw [← hk] at hkind
  simp only [List.not_mem_nil, or_false] at hresolves
  refine ⟨u, p, hu, hp, hkind, by simpa [hu] using hunused, hresolves e.name, fun hstatic hspares => ?_⟩
  rw [hresolves e.name]
  rw [hstatics] at hspares
  have hsame : declaredKind? e.name s.renderer.processed.toList = declaredKind? e.name s.wrapped.toList := by
    rw [hprocessed]
    exact prepare_declaredKind? ht hspares
  have hraw : (infer e.name s.wrapped).kind ≠ .known .static := by
    rw [hkind]
    exact fun hc => hstatic (Inferred.Kind.known.inj hc)
  refine ⟨?_, fun hcalled => ?_⟩
  · have hdeclared : e.name ∈ declaredUniforms s.renderer.processed ↔
        declaredKind? e.name s.renderer.processed.toList ≠ none := by
      rw [ne_eq, declaredKind?_eq_none_iff, String.ofList_toList, not_not]
    rw [hdeclared, hsame]
    rw [infer_declared hraw] at hkind
    cases hd : declaredKind? e.name s.wrapped.toList with
    | none =>
      rw [hd] at hkind
      simp [← Inferred.Kind.known.inj hkind]
    | some i =>
      obtain rfl : i = .known u.kind := by rwa [hd] at hkind
      have hb := declaredKind?_bindable hd
      simp only [ne_eq, reduceCtorEq, not_false_eq_true, true_iff]
      intro hn
      rw [hn] at hb
      contradiction
  · rw [infer_declared (infer_uncalled hcalled), hsame, ← infer_declared hraw, hkind]

theorem load_entries_array :
    let text := "[shader]\npath = \"a\"\n[[uniform]]\nname = \"lights\"\nvalue = [[0, 0, 1]]\n" ++
      "[[uniform]]\nname = \"gain\"\nstatic = \"2.5\""
    let f : Files := ⟨fun p =>
      if p = "v.toml" then .ok (.text text)
      else if p = "a" then .ok (.text "uniform vec3 lights[STATIC(N, 4)];\nfloat g = STATIC(gain);")
      else .error .notFound⟩
    ∃ s p, load f "v.toml" = .ok s ∧ s.renderer.program = some p ∧
      (infer "lights" s.renderer.processed).kind = .known .vec3Array ∧
      (s.renderer.device.uniformLocation p "lights").isSome = true := by
  intro text f
  let m : Manifest :=
    { shader := { path := some "a" }
      uniforms := [{ name := "lights", value := some (.points [⟨0, 0, 1⟩]) },
        { name := "gain", static := some (.text "2.5") }] }
  let source : String := "uniform vec3 lights[STATIC(N, 4)];\nfloat g = STATIC(gain);"
  let processed : String := "uniform vec3 lights[4];\nfloat g = 2.5;"
  have hm : Manifest.load f "v.toml" = .ok m := by decide +kernel
  have hload : (load f "v.toml").toOption.map (fun s => (s.wrapped, s.renderer.processed, s.uniforms.statics)) =
      some (Mode.default.wrap source, Mode.default.wrap processed, [("gain", "2.5")]) := by decide +kernel
  obtain ⟨s, hs, hfacts⟩ := exists_of_toOption hload
  obtain ⟨hwrapped, hprocessed, hstatics⟩ : s.wrapped = _ ∧ s.renderer.processed = _ ∧ s.uniforms.statics = _ := by
    simpa only [Prod.mk.injEq] using hfacts
  obtain ⟨u, p, -, hp, hkind, -, -, hspared⟩ := load_entries hm hs List.mem_cons_self
  have hvector : (infer "lights" s.wrapped).kind = .known .vec3Array := by
    rw [hwrapped]
    decide +kernel
  have hu : u.kind = .vec3Array := Inferred.Kind.known.inj (hkind.symm.trans hvector)
  rw [hwrapped, hprocessed, hstatics, hu] at hspared
  obtain ⟨hresolved, hinfer⟩ := hspared (by decide) (by decide +kernel)
  refine ⟨s, p, hs, hp, ?_, hresolved.mpr (by decide)⟩
  rw [hprocessed]
  exact hinfer (by decide +kernel)

/-- The type of a uniform that comes from a static call: the entry is unused and reported so, and the program has a place
for a `float` of its name. -/
theorem load_entries_type :
    let text := "[shader]\npath = \"a.frag\"\n[[uniform]]\nname = \"x\"\nvalue = 1.0"
    let f : Files := ⟨fun p =>
      if p = "vader.toml" then .ok (.text text)
      else if p = "a.frag" then .ok (.text "uniform STATIC(T, float) x;")
      else .error .notFound⟩
    ∃ s, load f "vader.toml" = .ok s ∧ s.uniforms.kinds.lookup "x" = some .unused ∧
      .unusedUniform "x" ∈ s.renderer.diagnostics ∧ (infer "x" s.renderer.processed).kind = .known .float ∧
      (s.renderer.program.bind (s.renderer.device.uniformLocation · "x")).isSome = true := by
  intro text f
  have hload : (load f "vader.toml").toOption.map (fun s => decide (s.uniforms.kinds.lookup "x" = some .unused ∧
      .unusedUniform "x" ∈ s.renderer.diagnostics ∧ (infer "x" s.renderer.processed).kind = .known .float ∧
      (s.renderer.program.bind (s.renderer.device.uniformLocation · "x")).isSome = true)) = some true := by
    decide +kernel
  obtain ⟨s, hs, hfacts⟩ := exists_of_toOption hload
  exact ⟨s, hs, of_decide_eq_true hfacts⟩

end Session

end ShaderRunner

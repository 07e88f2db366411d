import ShaderRunner.Proofs.Placement
import ShaderRunner.Proofs.Requests

/-!
The device collects names when it links, the compile looks for them in the text once more to warn about them, and the
set is asked for each of its names: all three see the declarations of one text.
-/

namespace ShaderRunner

variable {name : String}

section Diagnostics

variable {source : List Char} {es : List (String × Uniform)} {s : UniformSet}

lemma fillStatics_sublist {filled : List Char} {ds : List Diagnostic} (h : fillStatics source es = .ok (filled, ds)) :
    ds.Sublist (es.map fun e => .staticNotReferenced e.1) := by
  induction es generalizing source ds with
  | nil =>
    obtain ⟨-, rfl⟩ := Prod.mk.inj (Except.ok.inj h)
    exact .slnil
  | cons e es ih =>
    obtain ⟨n, u⟩ := e
    cases hu : u.static? with
    | none =>
      rw [fillStatics_other hu] at h
      exact (ih h).cons _
    | some t =>
      rcases hr : replaceCalls source n.toList t.toList with e | _ | next
      · rw [fillStatics_error hu hr] at h
        contradiction
      · rw [fillStatics_unnamed hu hr] at h
        obtain ⟨x, hx, hds⟩ := bind_eq_ok h
        obtain ⟨rfl, rfl⟩ := Prod.mk.inj (Except.ok.inj hds)
        exact (ih hx).cons_cons _
      · rw [fillStatics_named hu hr] at h
        exact (ih h).cons _

lemma prepare_sublist {source : String} {t : Prepared} (h : prepare source s = .ok t) :
    t.diagnostics.Sublist (s.names.map .staticNotReferenced) := by
  rw [prepare] at h
  obtain ⟨x, hf, h⟩ := bind_eq_ok h
  obtain ⟨resolved, -, h⟩ := bind_eq_ok h
  rw [← Except.ok.inj h, UniformSet.names, List.map_map]
  exact fillStatics_sublist hf

lemma prepare_diagnostics {source : String} {t : Prepared} (h : prepare source s = .ok t) {x : Diagnostic}
    (hx : ∀ n, x ≠ .staticNotReferenced n) : x ∉ t.diagnostics := by
  intro hm
  obtain ⟨n, -, rfl⟩ := List.mem_map.mp ((prepare_sublist h).subset hm)
  exact hx n rfl

lemma mem_missingUniforms {source : String} :
    .missingUniform name ∈ missingUniforms s source ↔ name ∈ declaredUniforms source ∧ s.get? name = none := by
  simp [missingUniforms, UniformSet.contains_eq_isSome]

end Diagnostics

lemma Kind.bindable_eq_false_iff {k : Kind} : k.bindable = false ↔ k = .static ∨ k = .unused := by
  cases k <;> simp [bindable]

namespace Device

variable {d d' : Device} {p q : ProgramHandle}

lemma mem_distinct {names : List String} : name ∈ distinct names ↔ name ∈ names := by
  suffices h : ∀ acc, name ∈ names.foldl (fun acc n => if acc.contains n then acc else acc ++ [n]) acc ↔
      name ∈ acc ∨ name ∈ names by simpa [distinct] using h []
  induction names with
  | nil => simp
  | cons n names ih =>
    intro acc
    rw [List.foldl_cons, ih]
    split
    · next hc =>
      have hn : n ∈ acc := List.contains_iff_mem.mp hc
      constructor
      · exact Or.imp_right (List.mem_cons_of_mem n)
      · rintro (h | h)
        · exact .inl h
        · rcases List.mem_cons.mp h with rfl | h
          · exact .inl hn
          · exact .inr h
    · simp [or_assoc]

lemma isSome_uniformLocation : (d.uniformLocation p name).isSome = true ↔ name ∈ d.resolvedNames p := by
  rw [uniformLocation, Option.isSome_map, List.isSome_idxOf?]

lemma program?_deleteProgram (h : p ≠ q) : (d.deleteProgram q).program? p = d.program? p := by
  have hl : ∀ l : List (ProgramHandle × Program), (l.filter (·.1 ≠ q)).lookup p = l.lookup p := by
    intro l
    induction l with
    | nil => rfl
    | cons e l ih =>
      by_cases he : e.1 = q
      · have hp : (p == e.1) = false := beq_false_of_ne (he ▸ h)
        rw [List.filter_cons_of_neg (by simpa using he), ih, List.lookup_cons, hp]
      · rw [List.filter_cons_of_pos (by simpa using he), List.lookup_cons, List.lookup_cons, ih]
  exact hl d.programs

lemma uniformLocation_deleteProgram (h : p ≠ q) :
    (d.deleteProgram q).uniformLocation p name = d.uniformLocation p name := by
  rw [uniformLocation, uniformLocation, resolvedNames, resolvedNames, program?_deleteProgram h]
  rfl

lemma buildProgram_resolves {fragment : String} (hd : d.Numbered) (h : d.buildProgram fragment = (.ok p, d')) :
    (d'.uniformLocation p name).isSome = true ↔ name ∈ declaredUniforms fragment ∨ name ∈ d.extra := by
  have hvertex : declaredUniforms Boilerplate.vertex = [] := by decide +kernel
  obtain ⟨hb, -, hp⟩ := buildProgram_spec hd fragment
  rw [h] at hb hp
  obtain ⟨hn, -, z, hz, hps⟩ := hp
  have hlookup : d'.program? p = some z := by
    rw [program?]
    exact hps ▸ lookup_snoc_of_fresh (program_fresh hd hn) z
  have hown : z.uniforms = distinct (declaredUniforms fragment) := by rw [hz.uniforms, hvertex, List.nil_append]
  have he : d'.extra = d.extra := hb.extra
  simp only [isSome_uniformLocation, resolvedNames, hlookup, Option.filter_some, hz.linked, if_true, Option.map_some,
    Option.getD_some, hown, he, List.mem_append, mem_distinct, List.mem_filter]
  simp only [Bool.not_eq_true', List.contains_eq_mem, decide_eq_false_iff_not, mem_distinct]
  tauto

end Device

namespace Renderer

variable {r r' : Renderer} {s s' : UniformSet} {source : String} {ds : List Diagnostic} {p : ProgramHandle}

lemma compile_built (h : r.compile source s = (.ok ds, r', s')) :
    ∃ t d p, prepare (r.mode.wrap source) s = .ok t ∧ r.device.buildProgram t.source = (.ok p, d) ∧
      s' = s.relocate (r.adopted source t p d).device p ∧ ds = t.diagnostics ++ missingUniforms s' t.source ∧
      r' = { (r.adopted source t p d).ensureBuffer.2 with diagnostics := ds, needsRecompile := false } := by
  rw [compile] at h
  dsimp only at h
  split at h
  · cases congrArg Prod.fst h
  · next t ht =>
    split at h
    · cases congrArg Prod.fst h
    · next p d hb =>
      split at h
      · cases congrArg Prod.fst h
      · next r₁ he =>
        obtain ⟨rfl, rfl, rfl⟩ : _ ∧ _ ∧ _ := by simpa only [Prod.mk.injEq, Except.ok.injEq] using h
        exact ⟨t, d, p, ht, hb, rfl, rfl, by rw [adopted, he]⟩

lemma adopt_uniformLocation {d : Device} (hp : ∀ q ∈ r.program, q ≠ p) (t : String) :
    (r.adopt p t d).device.uniformLocation p name = d.uniformLocation p name := by
  rw [adopt]
  cases hq : r.program with
  | none => rfl
  | some q => exact Device.uniformLocation_deleteProgram (hp q hq).symm

lemma compile_links (hr : r.Numbered) (h : r.compile source s = (.ok ds, r', s')) :
    ∃ p, r'.program = some p ∧
      (∀ name, (r'.device.uniformLocation p name).isSome = true ↔
        name ∈ declaredUniforms r'.processed ∨ name ∈ r.device.extra) ∧
      s' = s.relocate r'.device p ∧
      ∀ name, .missingUniform name ∈ ds ↔ name ∈ declaredUniforms r'.processed ∧ s'.get? name = none := by
  obtain ⟨t, d, p, ht, hb, rfl, rfl, rfl⟩ := compile_built h
  obtain ⟨b, hbuf⟩ := (r.adopted source t p d).ensureBuffer_eq
  obtain ⟨hps, -, -, hextra⟩ := (r.adopted source t p d).ensureBuffer_device
  -- the program that is deleted is another one
  have hold : ∀ q ∈ r.program, q ≠ p := by
    rintro q hq rfl
    obtain ⟨-, -, hp⟩ := Device.buildProgram_spec hr.device t.source
    rw [hb] at hp
    exact absurd hp.1 (Nat.not_le.mpr (hr.program q hq))
  have hadopted : ∀ name, (r.adopted source t p d).device.uniformLocation p name = d.uniformLocation p name :=
    fun name => adopt_uniformLocation hold t.source
  have hplace : ∀ name, (r.adopted source t p d).ensureBuffer.2.device.uniformLocation p name =
      (r.adopted source t p d).device.uniformLocation p name := Device.uniformLocation_congr hps hextra p
  have htext : (r.adopted source t p d).ensureBuffer.2.processed = t.source := by
    rw [hbuf]
    rfl
  refine ⟨p, (r.adopted source t p d).ensureBuffer_program, fun name => ?_, ?_, fun name => ?_⟩
  · dsimp only
    rw [hplace, hadopted, htext, Device.buildProgram_resolves hr.device hb]
  · simp only [UniformSet.relocate, hplace]
  · have hd : .missingUniform name ∉ t.diagnostics := prepare_diagnostics ht (by simp)
    dsimp only
    rw [htext, List.mem_append, mem_missingUniforms, or_iff_right hd]

/-- Every name that the text declares, and no other, resolves in the new program. It has a place in the set, or is a
static or unused there, or is reported as missing; and what else the set binds has no place. -/
theorem compile_resolves (hr : r.Driven) (he : r.device.extra = []) (h : r.compile source s = (.ok ds, r', s')) :
    ∃ p, r'.program = some p ∧
      (∀ name, (r'.device.uniformLocation p name).isSome = true ↔ name ∈ declaredUniforms r'.processed) ∧
      (∀ name, (r'.device.uniformLocation p name).isSome = true ↔
        (∃ u, s'.get? name = some u ∧ u.location.isSome = true) ∨
          (∃ u, s'.get? name = some u ∧ (u.kind = .static ∨ u.kind = .unused) ∧
            name ∈ declaredUniforms r'.processed) ∨
          .missingUniform name ∈ ds) ∧
      (∀ name, .missingUniform name ∈ ds → s'.get? name = none) ∧
      ∀ name u, s'.get? name = some u → u.kind.bindable = true → u.location = r'.device.uniformLocation p name := by
  obtain ⟨p, hp, hdeclared, hs, hmissing⟩ := compile_links hr.numbered h
  simp only [he, List.not_mem_nil, or_false] at hdeclared
  have hlocation : ∀ name u, s'.get? name = some u →
      u.location = if u.kind.bindable then r'.device.uniformLocation p name else none := by
    rintro name u hu
    rw [hs] at hu
    obtain ⟨v, -, rfl⟩ := Option.map_eq_some_iff.mp ((UniformSet.get?_map _ _ name).symm.trans hu)
    rfl
  refine ⟨p, hp, hdeclared, fun name => ?_, fun name hm => ((hmissing name).mp hm).2, fun name u hu hk => ?_⟩
  · constructor
    · intro hn
      have hd := (hdeclared name).mp hn
      cases hu : s'.get? name with
      | none => exact .inr (.inr ((hmissing name).mpr ⟨hd, hu⟩))
      | some u =>
        cases hk : u.kind.bindable with
        | true => exact .inl ⟨u, rfl, by rwa [hlocation name u hu, hk, if_pos rfl]⟩
        | false => exact .inr (.inl ⟨u, rfl, Kind.bindable_eq_false_iff.mp hk, hd⟩)
    · rintro (⟨u, hu, hl⟩ | ⟨u, -, -, hd⟩ | hm)
      · rw [hlocation name u hu] at hl
        split at hl
        · exact hl
        · contradiction
      · exact (hdeclared name).mpr hd
      · exact (hdeclared name).mpr ((hmissing name).mp hm).1
  · rw [hlocation name u hu, hk, if_pos rfl]

theorem compile_resolves_static :
    let s := UniformSet.ofList [("k", { payload := .static "b" }), ("z", { payload := .unused }),
      ("w", { payload := .float 0 })]
    let r : Renderer := { label := "scene", device := { size := ⟨8, 8⟩ }, mode := .default }
    let c := r.compile "uniform vec2 STATIC(k);\nuniform int z;" s
    c.1 = .ok [.missingUniform "u_resolution", .missingUniform "u_time", .missingUniform "b", .unusedUniform "z"] ∧
      ∃ p, c.2.1.program = some p ∧ (c.2.1.device.uniformLocation p "b").isSome = true ∧
        (c.2.1.device.uniformLocation p "z").isSome = true ∧
        (c.2.1.device.uniformLocation p "w").isSome ≠ true := by
  intro s r c
  have hc : c.1 = .ok [.missingUniform "u_resolution", .missingUniform "u_time", .missingUniform "b",
      .unusedUniform "z"] ∧ "z" ∈ declaredUniforms c.2.1.processed ∧ "w" ∉ declaredUniforms c.2.1.processed := by
    decide +kernel
  have hr : r.Driven := .new "scene" .default ⟨8, 8⟩
  obtain ⟨p, hp, hdeclared, hnames, -⟩ := compile_resolves hr rfl (Prod.ext hc.1 rfl)
  exact ⟨hc.1, p, hp, (hnames "b").mpr (.inr (.inr (by simp))), (hdeclared "z").mpr hc.2.1,
    fun h => hc.2.2 ((hdeclared "w").mp h)⟩

end Renderer

end ShaderRunner

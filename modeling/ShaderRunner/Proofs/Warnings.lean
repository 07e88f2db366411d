import Mathlib.Data.List.Count
import ShaderRunner.Proofs.LinkedNames
import ShaderRunner.Proofs.TrimmedLines

namespace ShaderRunner

def declarations (name source : String) : Nat :=
  (sourceLines source).countP fun l => (Declaration.ofLine? l).any (·.name == name)

variable {name source : String} {s : UniformSet}

lemma count_declaredUniforms (name source : String) :
    (declaredUniforms source).count name = declarations name source := by
  rw [declaredUniforms, declarations]
  induction sourceLines source with
  | nil => rfl
  | cons l ls ih =>
    rw [List.filterMap_cons, List.countP_cons, ← ih]
    cases Declaration.ofLine? l with
    | none => simp
    | some d => simp [List.count_cons]

def UniformSet.unusedNames (s : UniformSet) : List String := (s.entries.filter (·.2.kind == .unused)).map Prod.fst

lemma mem_unusedNames : name ∈ s.unusedNames ↔ ∃ u, s.get? name = some u ∧ u.kind = .unused := by
  rw [UniformSet.unusedNames, List.mem_map]
  constructor
  · rintro ⟨⟨n, u⟩, he, rfl⟩
    obtain ⟨he, hk⟩ := List.mem_filter.mp he
    exact ⟨u, UniformSet.mem_entries_iff.mp he, beq_iff_eq.mp hk⟩
  · rintro ⟨u, hu, hk⟩
    exact ⟨(name, u), List.mem_filter.mpr ⟨UniformSet.mem_entries_iff.mpr hu, beq_iff_eq.mpr hk⟩, rfl⟩

lemma missingUniforms_eq (s : UniformSet) (source : String) : missingUniforms s source =
    ((declaredUniforms source).filter (!s.contains ·)).map .missingUniform ++ s.unusedNames.map .unusedUniform := by
  rw [missingUniforms, UniformSet.unusedNames, List.map_map]
  rfl

lemma count_missing (s : UniformSet) (source name : String) : (missingUniforms s source).count (.missingUniform name) =
    if s.contains name then 0 else declarations name source := by
  have hunused : .missingUniform name ∉ s.unusedNames.map Diagnostic.unusedUniform := by simp
  rw [missingUniforms_eq, List.count_append, List.count_eq_zero_of_not_mem hunused, Nat.add_zero,
    List.count_map_of_injective _ _ fun _ _ => Diagnostic.missingUniform.inj]
  cases hc : s.contains name with
  | true => exact List.count_eq_zero_of_not_mem fun hm => by simp [hc] at hm
  | false =>
    rw [List.count_filter (by simp [hc]), count_declaredUniforms]
    rfl

lemma count_unused (s : UniformSet) (source name : String) :
    (missingUniforms s source).count (.unusedUniform name) = if name ∈ s.unusedNames then 1 else 0 := by
  have hmissing : .unusedUniform name ∉ ((declaredUniforms source).filter (!s.contains ·)).map
      Diagnostic.missingUniform := by simp
  have hnodup : s.unusedNames.Nodup := s.nodup.sublist (List.filter_sublist.map Prod.fst)
  rw [missingUniforms_eq, List.count_append, List.count_eq_zero_of_not_mem hmissing, Nat.zero_add,
    List.count_map_of_injective _ _ fun _ _ => Diagnostic.unusedUniform.inj, hnodup.count]

lemma warnings_nodup {ws : List Diagnostic} (hs : ws.Sublist (s.names.map .staticNotReferenced)) :
    (ws ++ missingUniforms s source).Nodup ↔ ∀ name, s.contains name = false → declarations name source ≤ 1 := by
  have hinj : Function.Injective Diagnostic.staticNotReferenced := fun _ _ => Diagnostic.staticNotReferenced.inj
  have hws : ws.Nodup := (s.nodup.map hinj).sublist hs
  have hother : ∀ x, (∀ n, x ≠ .staticNotReferenced n) → ws.count x = 0 := fun x hx =>
    List.count_eq_zero_of_not_mem fun hm => by
      obtain ⟨n, -, rfl⟩ := List.mem_map.mp (hs.subset hm)
      exact hx n rfl
  rw [List.nodup_iff_count_le_one]
  simp only [List.count_append]
  constructor
  · intro h name hc
    have hn := h (.missingUniform name)
    rwa [hother _ (by simp), count_missing, hc, if_neg Bool.false_ne_true, Nat.zero_add] at hn
  · rintro h (name | name | name)
    · rw [hother _ (by simp), count_missing, Nat.zero_add]
      cases hc : s.contains name with
      | true => exact Nat.zero_le 1
      | false => exact h name hc
    · rw [hother _ (by simp), count_unused, Nat.zero_add]
      split <;> decide
    · have hmissing : .staticNotReferenced name ∉ missingUniforms s source := by simp [missingUniforms]
      rw [List.count_eq_zero_of_not_mem hmissing]
      exact List.nodup_iff_count_le_one.mp hws _

/-- A missing name is reported once for each line that declares it and an unused entry once, so the check repeats
itself, and with it the compile that runs it, exactly when two lines declare a name that the set lacks. -/
theorem missingUniforms_repeats (s : UniformSet) (source : String) :
    (∀ name, (missingUniforms s source).count (.missingUniform name) =
      if s.contains name then 0 else declarations name source) ∧
    (∀ name, (missingUniforms s source).count (.unusedUniform name) =
      if (s.get? name).any (·.kind == .unused) then 1 else 0) ∧
    ((missingUniforms s source).Nodup ↔ ∀ name, s.contains name = false → declarations name source ≤ 1) ∧
    ∀ (r r' : Renderer) (text : String) (s₀ : UniformSet) (ds : List Diagnostic),
      r.compile text s₀ = (.ok ds, r', s) → r'.processed = source →
        (ds.Nodup ↔ ∀ name, s.contains name = false → declarations name source ≤ 1) := by
  refine ⟨count_missing s source, fun name => ?_, ?_, ?_⟩
  · have hu : name ∈ s.unusedNames ↔ (s.get? name).any (·.kind == .unused) = true := by
      simp [mem_unusedNames, Option.any_eq_true]
    rw [count_unused]
    exact if_congr hu rfl rfl
  · exact warnings_nodup (List.nil_sublist _)
  · rintro r r' text s₀ ds h rfl
    obtain ⟨t, d, p, ht, -, hs, rfl, rfl⟩ := Renderer.compile_built h
    obtain ⟨b, hb⟩ := (r.adopted text t p d).ensureBuffer_eq
    have hsource : (r.adopted text t p d).ensureBuffer.2.processed = t.source := by
      rw [hb]
      rfl
    have hnames : s.names = s₀.names := by rw [hs, UniformSet.relocate, UniformSet.names_map]
    dsimp only
    rw [hsource]
    exact warnings_nodup (hnames ▸ prepare_sublist ht)

theorem missingUniforms_repeats_branches :
    let r : Renderer := { label := "scene", device := { size := ⟨8, 8⟩ }, mode := .default }
    let c := r.compile "#if A\nuniform vec2 a;\n#else\nuniform vec3 a;\n#endif" {}
    c.1 = .ok [.missingUniform "u_resolution", .missingUniform "u_time", .missingUniform "a", .missingUniform "a"] ∧
      ∃ name, c.2.2.contains name = false ∧ 1 < declarations name c.2.1.processed := by
  -- about any compile with these warnings, so that the kernel runs this one once
  have hrepeats : ∀ (r : Renderer) (text : String) (x : Attempt (List Diagnostic) (Renderer × UniformSet)),
      r.compile text {} = x →
      x.1 = .ok [.missingUniform "u_resolution", .missingUniform "u_time", .missingUniform "a", .missingUniform "a"] →
        ∃ name, x.2.2.contains name = false ∧ 1 < declarations name x.2.1.processed := by
    rintro r text ⟨_, r', s⟩ h rfl
    have hiff := (missingUniforms_repeats s r'.processed).2.2.2 r r' text {} _ h rfl
    refine by_contra fun hnone => ?_
    push Not at hnone
    exact absurd (hiff.mpr hnone) (by decide)
  refine (fun hc => ⟨hc, hrepeats _ _ _ rfl hc⟩) ?_
  decide +kernel

/-- The check alone names the missing name twice. -/
theorem missingUniforms_duplicate :
    let ds := missingUniforms {} "#if A\nuniform vec2 a;\n#else\nuniform vec3 a;\n#endif"
    ds = [.missingUniform "a", .missingUniform "a"] ∧ ¬ ds.Nodup := by
  intro ds
  have hds : ds = [.missingUniform "a", .missingUniform "a"] := by decide +kernel
  rw [hds]
  exact ⟨rfl, by decide⟩

end ShaderRunner

import ShaderRunner.Proofs.LinkedNames
import ShaderRunner.Proofs.StaticTexts
import ShaderRunner.Session

/-!
The set of a loaded session holds every entry of the manifest under its name, of the kind that the shader in its mode
gives to the name; under any other name it holds what the mode has there.
-/

namespace ShaderRunner

lemma ok_of_mapError {ε ε' α : Type} {x : Except ε α} {f : ε → ε'} {a : α} (h : x.mapError f = .ok a) : x = .ok a := by
  cases x with
  | error e => contradiction
  | ok b => exact congrArg Except.ok (Except.ok.inj h)

lemma exists_of_toOption {ε α β : Type} {x : Except ε α} {g : α → β} {b : β} (h : x.toOption.map g = some b) :
    ∃ a, x = .ok a ∧ g a = b := by
  cases x with
  | error e => contradiction
  | ok a => exact ⟨a, rfl, Option.some.inj h⟩

lemma Uniform.create_kind {k : Kind} {l : Option Location} {n : Length} {v : Value} {u : Uniform}
    (h : create k l n v = .ok u) : u.kind = k := by
  unfold create at h
  split at h
  · split at h <;> simp only [Except.ok.injEq, reduceCtorEq] at h
    all_goals
      subst h
      rfl
  · cases ht : v.static <;> simp only [ht, Except.map, Except.ok.injEq, reduceCtorEq] at h
    subst h
    rfl
  · obtain rfl := Except.ok.inj h
    rfl
  · cases hp : Payload.ofValue k v <;> simp only [hp, Except.map, Except.ok.injEq, reduceCtorEq] at h
    subst h
    exact (Payload.ofValue_ok hp).1

lemma Uniform.createInferred_kind {l : Option Location} {name source : String} {v : Value} {u : Uniform}
    (h : createInferred l name v source = .ok u) : (infer name source).kind = .known u.kind := by
  simp only [createInferred] at h
  split at h
  · contradiction
  · next k hk => rw [hk, create_kind h]

namespace UniformSet

def kinds (s : UniformSet) : List (String × Kind) := s.entries.map fun e => (e.1, e.2.kind)

lemma lookup_kinds (s : UniformSet) (name : String) : s.kinds.lookup name = (s.get? name).map Uniform.kind := by
  rw [kinds, get?]
  induction s.entries with
  | nil => rfl
  | cons e es ih =>
    rw [List.map_cons, List.lookup_cons, List.lookup_cons, ih]
    cases name == e.1 <;> rfl

lemma kinds_relocate (s : UniformSet) (d : Device) (p : ProgramHandle) : (s.relocate d p).kinds = s.kinds := by
  simp only [kinds, relocate, map, withEntries, List.map_map]
  rfl

end UniformSet

namespace Session

variable {m : Manifest} {f : Files} {path : String} {s : Session}

def wrapped (s : Session) : String := s.renderer.mode.wrap s.renderer.source

lemma declareEntries_get? {wrapped : String} {place : Nat} {s s' : UniformSet} {es : List UniformEntry}
    (h : declareEntries m f wrapped place s es = .ok s') (name : String) :
    (name ∈ es.map UniformEntry.name →
        ∃ u, s'.get? name = some u ∧ (infer name wrapped).kind = .known u.kind) ∧
      (name ∉ es.map UniformEntry.name → s'.get? name = s.get? name) := by
  induction es generalizing place s with
  | nil =>
    obtain rfl := Except.ok.inj h
    simp
  | cons e es ih =>
    obtain ⟨v, -, h⟩ := bind_eq_ok h
    obtain ⟨s₁, hs, h⟩ := bind_eq_ok h
    obtain ⟨u, hu, rfl⟩ : ∃ u, Uniform.createInferred none e.name v wrapped = .ok u ∧ s.insert e.name u = s₁ := by
      have hd := ok_of_mapError hs
      rw [UniformSet.declare] at hd
      cases hu : Uniform.createInferred none e.name v wrapped with
      | error e =>
        rw [hu] at hd
        contradiction
      | ok u =>
        rw [hu] at hd
        exact ⟨u, rfl, Except.ok.inj hd⟩
    obtain ⟨hmem, hother⟩ := ih h
    rw [List.map_cons, List.mem_cons, not_or]
    refine ⟨fun hn => ?_, fun hn => ?_⟩
    · -- a later entry of the name takes the place of this one
      by_cases hl : name ∈ es.map UniformEntry.name
      · exact hmem hl
      · obtain rfl := hn.resolve_right hl
        refine ⟨u, ?_, Uniform.createInferred_kind hu⟩
        rw [hother hl, UniformSet.get?_insert, if_pos rfl]
    · rw [hother hn.2, UniformSet.get?_insert, if_neg hn.1]

lemma load_ok (hm : Manifest.load f path = .ok m) (h : load f path = .ok s) :
    m.shaderSource f = .ok s.renderer.source ∧ s.renderer.mode = m.mode.resolve s.renderer.source ∧
      ∃ s₀ ds, declareEntries m f s.wrapped 0 (BuiltIn.initial s.renderer.mode) m.uniforms = .ok s₀ ∧
        Renderer.compile
            { label := m.shader.label, device := { size := m.surface.size }, mode := s.renderer.mode }
            s.renderer.source s₀ = (.ok ds, s.renderer, s.uniforms) := by
  obtain ⟨m', hm', h⟩ := bind_eq_ok h
  obtain rfl : m = m' := Except.ok.inj (hm.symm.trans (ok_of_mapError hm'))
  obtain ⟨source, hsource, h⟩ := bind_eq_ok h
  obtain ⟨s₀, hs₀, h⟩ := bind_eq_ok h
  have hmode : (m.mode.resolve source).resolve source = m.mode.resolve source := by
    simp only [Mode.resolve]
    split <;> rfl
  rw [Renderer.init, hmode] at h
  split at h
  · contradiction
  · next ds renderer uniforms hc =>
    obtain rfl := Except.ok.inj h
    obtain ⟨-, -, -, -, -, hmr, hsr, -⟩ := Renderer.compile_ok hc
    rw [wrapped, hsr, hmr]
    exact ⟨ok_of_mapError hsource, rfl, s₀, ds, hs₀, hc⟩

lemma load_kinds (hm : Manifest.load f path = .ok m) (h : load f path = .ok s) (name : String) :
    (name ∈ m.uniforms.map UniformEntry.name →
        ∃ k, s.uniforms.kinds.lookup name = some k ∧ (infer name s.wrapped).kind = .known k) ∧
      (name ∉ m.uniforms.map UniformEntry.name →
        s.uniforms.kinds.lookup name = (BuiltIn.initial s.renderer.mode).kinds.lookup name) := by
  obtain ⟨-, -, s₀, ds, hs₀, hc⟩ := load_ok hm h
  obtain ⟨-, d, p, -, hu, -⟩ := Renderer.compile_ok hc
  obtain ⟨hmem, hother⟩ := declareEntries_get? hs₀ name
  rw [hu, UniformSet.kinds_relocate, UniformSet.lookup_kinds, UniformSet.lookup_kinds]
  refine ⟨fun hn => ?_, fun hn => congrArg _ (hother hn)⟩
  obtain ⟨u, hu, hk⟩ := hmem hn
  exact ⟨u.kind, by rw [hu, Option.map_some], hk⟩

end Session

end ShaderRunner

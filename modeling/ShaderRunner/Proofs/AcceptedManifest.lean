import ShaderRunner.Proofs.LoadedSession
import ShaderRunner.Proofs.ManifestRules

namespace ShaderRunner

inductive UniformEntry.Names : UniformEntry → UniformSource → Prop
  | value (name : String) (spec : ValueSpec) : Names { name := name, value := some spec } (.value spec)
  | texture (name path : String) : Names { name := name, texture := some path } (.texture path)
  | static (name : String) (spec : StaticSpec) : Names { name := name, static := some spec } (.static spec.toText)

inductive ValueSpec.Writes : ValueSpec → Value → Prop
  | int (n : Int32) : Writes (.int n) (.int n)
  | float (x : Float32) : Writes (.float x) (.float x)
  | vec2 (x y : Float32) : Writes (.vector [x, y]) (.vec2 ⟨x, y⟩)
  | vec3 (x y z : Float32) : Writes (.vector [x, y, z]) (.vec3 ⟨x, y, z⟩)
  | vec4 (x y z w : Float32) : Writes (.vector [x, y, z, w]) (.vec4 ⟨x, y, z, w⟩)
  | points (vs : List Vec3) : Writes (.points vs) (.points vs)

namespace Session

variable (m : Manifest) (f : Files)

inductive Yields (place : Nat) : UniformSource → Except SessionFailure Value → Prop
  | value {spec : ValueSpec} {v : Value} (hv : spec.Writes v) : Yields place (.value spec) (.ok v)
  | image {path : String} {size : Size} (hf : f.imageSize (m.resolve path) = .ok size) :
      Yields place (.texture path) (.ok (.image ⟨.entry place, size⟩))
  | noImage {path : String} {e : ImageError} (hf : f.imageSize (m.resolve path) = .error e) :
      Yields place (.texture path) (.error (.image (m.resolve path) e))
  | static (t : String) : Yields place (.static t) (.ok (.text t))

inductive Cause : SessionFailure → Prop
  | shader {path : String} {e : FileError} (hp : m.shader.path = some path)
      (hf : f.readText (m.resolve path) = .error e) : Cause (.manifest (.read (m.resolve path) e))
  | image {u : UniformEntry} {path : String} {e : ImageError} (hu : u ∈ m.uniforms) (hp : u.texture = some path)
      (hf : f.imageSize (m.resolve path) = .error e) : Cause (.image (m.resolve path) e)
  | declaration {source : String} {u : UniformEntry} {place : Nat} {v : Value} {e : Failure}
      (hs : m.shaderSource f = .ok source) (hu : u ∈ m.uniforms) (hv : entryValue m f place u = .ok v)
      (hc : Uniform.createInferred none u.name v ((m.mode.resolve source).wrap source) = .error e) :
      Cause (.uniform u.name e)
  | compile {source : String} {s : UniformSet} {e : Failure} (hs : m.shaderSource f = .ok source)
      (hd : declareEntries m f ((m.mode.resolve source).wrap source) 0 (BuiltIn.initial (m.mode.resolve source))
        m.uniforms = .ok s)
      (hc : (Renderer.init m.shader.label { size := m.surface.size } source s (m.mode.resolve source)).1 = .error e) :
      Cause (.compile m.shader.label e)

end Session

lemma error_of_mapError {ε ε' α : Type} {x : Except ε α} {f : ε → ε'} {e : ε'} (h : x.mapError f = .error e) :
    ∃ e', x = .error e' ∧ f e' = e := by
  cases x with
  | error e' => exact ⟨e', rfl, Except.error.inj h⟩
  | ok _ => contradiction

variable {m : Manifest} {f : Files} {u : UniformEntry} {place : Nat}

lemma ValueSpec.exists_writes (spec : ValueSpec) (h : ∀ xs, spec = .vector xs → 2 ≤ xs.length ∧ xs.length ≤ 4) :
    ∃ v, spec.Writes v := by
  cases spec with
  | int n => exact ⟨_, .int n⟩
  | float x => exact ⟨_, .float x⟩
  | points vs => exact ⟨_, .points vs⟩
  | vector xs =>
    match xs, h xs rfl with
    | [x, y], _ => exact ⟨_, .vec2 x y⟩
    | [x, y, z], _ => exact ⟨_, .vec3 x y z⟩
    | [x, y, z, w], _ => exact ⟨_, .vec4 x y z w⟩
    | [], hx | [_], hx | _ :: _ :: _ :: _ :: _ :: _, hx =>
      simp only [List.length_cons, List.length_nil] at hx
      omega

lemma UniformEntry.exists_names (hn : u.sources = 1) : ∃ src, u.Names src := by
  obtain ⟨name, value, texture, static⟩ := u
  rcases value with _ | spec <;> rcases texture with _ | path <;> rcases static with _ | st
  case none.none.some => exact ⟨_, .static name st⟩
  case none.some.none => exact ⟨_, .texture name path⟩
  case some.none.none => exact ⟨_, .value name spec⟩
  all_goals simp [sources] at hn

namespace Session

lemma entryValue_of_writes {spec : ValueSpec} {v : Value} (hs : u.source = .ok (.value spec)) (hv : spec.Writes v) :
    entryValue m f place u = .ok v := by
  rw [entryValue, hs]
  cases hv <;> rfl

lemma entryValue_texture {path : String} (hs : u.source = .ok (.texture path)) :
    Yields m f place (.texture path) (entryValue m f place u) := by
  have hv : entryValue m f place u = (do
      return .image ⟨.entry place, ← (f.imageSize (m.resolve path)).mapError (.image (m.resolve path))⟩) := by
    rw [entryValue, hs]
    rfl
  rw [hv]
  cases hf : f.imageSize (m.resolve path) with
  | ok size => exact .image hf
  | error e => exact .noImage hf

lemma entry_yields {src : UniformSource} (hn : u.Names src)
    (hv : ∀ xs, u.value = some (.vector xs) → 2 ≤ xs.length ∧ xs.length ≤ 4) (m : Manifest) (f : Files) (place : Nat) :
    u.source = .ok src ∧ Yields m f place src (entryValue m f place u) := by
  cases hn with
  | value name spec =>
    obtain ⟨v, hw⟩ := spec.exists_writes fun xs hxs => hv xs (congrArg some hxs)
    have hs : UniformEntry.source { name := name, value := some spec } = .ok (.value spec) := by cases hw <;> rfl
    rw [entryValue_of_writes hs hw]
    exact ⟨hs, .value hw⟩
  | texture name path => exact ⟨rfl, entryValue_texture rfl⟩
  | static name spec => exact ⟨rfl, .static spec.toText⟩

lemma Yields.ne_notVector {src : UniformSource} {a : Except SessionFailure Value} (h : Yields m f place src a)
    (name : String) (n : Nat) : a ≠ .error (.notVector name n) := by
  cases h <;> simp

lemma declareEntries_error {wrapped : String} {s : UniformSet} {es : List UniformEntry} {e : SessionFailure}
    (h : declareEntries m f wrapped place s es = .error e) :
    ∃ u ∈ es, ∃ p, entryValue m f p u = .error e ∨ ∃ v e', entryValue m f p u = .ok v ∧
      Uniform.createInferred none u.name v wrapped = .error e' ∧ e = .uniform u.name e' := by
  induction es generalizing place s with
  | nil => contradiction
  | cons u es ih =>
    rw [declareEntries] at h
    rcases bind_eq_error h with hv | ⟨v, hv, h⟩
    · exact ⟨u, List.mem_cons_self, place, .inl hv⟩
    · rcases bind_eq_error h with hd | ⟨s', -, h⟩
      · obtain ⟨e', hdeclare, rfl⟩ := error_of_mapError hd
        rw [UniformSet.declare] at hdeclare
        cases hc : Uniform.createInferred none u.name v wrapped with
        | error e'' =>
          rw [hc] at hdeclare
          obtain rfl := Except.error.inj hdeclare
          exact ⟨u, List.mem_cons_self, place, .inr ⟨v, _, hv, hc, rfl⟩⟩
        | ok u' =>
          rw [hc] at hdeclare
          contradiction
      · obtain ⟨w, hw, hcause⟩ := ih h
        exact ⟨w, List.mem_cons_of_mem u hw, hcause⟩

end Session

namespace Manifest

variable {fits : Float32 → Prop}

lemma wellFormed_of_accepted (h : m.validate = .ok ()) : m.WellFormed fun x => 0 < x ∨ x.isNaN = true :=
  (judged_of_answered (validate_answered fun _ => not_le_zero_iff.symm)).1.mp h

lemma WellFormed.bundledSource (h : m.WellFormed fits) {name : String} (hb : m.shader.bundled = some name) (f : Files) :
    ∃ b, BundledShader.find? name = some b ∧ m.shaderSource f = .ok b.source := by
  have hsome : BundledShader.find? name ≠ none := fun hn =>
    (find?_bundled name).mp (Option.isNone_iff_eq_none.mpr hn) (h.bundled name hb)
  obtain ⟨b, hfound⟩ := Option.ne_none_iff_exists'.mp hsome
  have hp : m.shader.path = none := by simpa [hb] using h.shader
  refine ⟨b, hfound, ?_⟩
  simp only [shaderSource, hp, hb, hfound]

lemma WellFormed.shaderSource_error (h : m.WellFormed fits) {e : ManifestFailure} (he : m.shaderSource f = .error e) :
    ∃ path e', m.shader.path = some path ∧ f.readText (m.resolve path) = .error e' ∧
      .read (m.resolve path) e' = e := by
  cases hp : m.shader.path with
  | some path =>
    rw [shaderSource, hp] at he
    obtain ⟨e', hf, hread⟩ := error_of_mapError he
    exact ⟨path, e', rfl, hf, hread⟩
  | none =>
    obtain ⟨name, hb⟩ : ∃ name, m.shader.bundled = some name := by
      rw [← Option.ne_none_iff_exists']
      simpa [hp] using h.shader
    obtain ⟨b, -, hsource⟩ := h.bundledSource hb f
    rw [hsource] at he
    contradiction

end Manifest

namespace Session

lemma ofManifest_error {fits : Float32 → Prop} (h : m.WellFormed fits) {e : SessionFailure}
    (he : ofManifest m f = .error e) : Cause m f e := by
  rw [ofManifest] at he
  rcases bind_eq_error he with hs | ⟨source, hs, he⟩
  · obtain ⟨e', hshader, rfl⟩ := error_of_mapError hs
    obtain ⟨path, e'', hp, hf, rfl⟩ := h.shaderSource_error hshader
    exact .shader hp hf
  have hsource := ok_of_mapError hs
  rcases bind_eq_error he with hd | ⟨s, hd, he⟩
  · obtain ⟨u, hu, place, hv | ⟨v, e', hv, hc, rfl⟩⟩ := declareEntries_error hd
    · obtain ⟨src, hn⟩ := UniformEntry.exists_names (h.sources u hu)
      obtain ⟨-, hy⟩ := entry_yields hn (h.vectors u hu) m f place
      rw [hv] at hy
      cases hy with
      | noImage hf =>
        cases hn
        exact .image hu rfl hf
    · exact .declaration hsource hu hv hc
  · split at he
    · next e' _ hc =>
      obtain rfl := Except.error.inj he
      exact .compile hsource hd (congrArg Prod.fst hc)
    · contradiction

/-- Every entry of an accepted manifest names a source and yields the value that it writes down, never a vector of some
other length; a bundled shader is there; and a session of the manifest fails for one of four causes only. -/
theorem ofManifest_accepted (h : m.validate = .ok ()) :
    (∀ u ∈ m.uniforms, ∃ src, u.Names src ∧ u.source = .ok src ∧ ∀ f place,
      Yields m f place src (entryValue m f place u) ∧
        ∀ name n, entryValue m f place u ≠ .error (.notVector name n)) ∧
    (∀ name, m.shader.bundled = some name → ∀ f, ∃ b, BundledShader.find? name = some b ∧
      m.shaderSource f = .ok b.source) ∧
    ∀ f e, ofManifest m f = .error e → Cause m f e := by
  have hm := Manifest.wellFormed_of_accepted h
  refine ⟨fun u hu => ?_, fun name hb f => hm.bundledSource hb f, fun f e he => ofManifest_error hm he⟩
  obtain ⟨src, hn⟩ := UniformEntry.exists_names (hm.sources u hu)
  have hy := entry_yields hn (hm.vectors u hu) m
  exact ⟨src, hn, (hy ⟨fun _ => .error .notFound⟩ 0).1, fun f place =>
    ⟨(hy f place).2, (hy f place).2.ne_notVector⟩⟩

theorem ofManifest_accepted_missing :
    let top : UniformEntry := { name := "u_top", value := some (.vector [1, 0.5, 0]) }
    let overlay : UniformEntry := { name := "u_overlay", texture := some "o.png" }
    let m : Manifest := { shader := { bundled := some "gradient" }, uniforms := [overlay, top] }
    let f : Files := ⟨fun _ => .error .notFound⟩
    m.validate = .ok () ∧ Yields m f 1 (.value (.vector [1, 0.5, 0])) (entryValue m f 1 top) ∧
      m.shaderSource f = .ok BundledShader.gradientSource ∧ ∃ e, ofManifest m f = .error e ∧ Cause m f e := by
  intro top overlay m f
  have hm : m.validate = .ok () := by decide +kernel
  have hfails : (ofManifest m f).toOption.isNone = true := by decide +kernel
  obtain ⟨hentries, hbundled, hcause⟩ := ofManifest_accepted hm
  obtain ⟨src, -, hs, hy⟩ := hentries top (List.mem_cons_of_mem overlay List.mem_cons_self)
  obtain ⟨b, hb, hsource⟩ := hbundled "gradient" rfl f
  refine ⟨hm, ?_, ?_, ?_⟩
  · obtain rfl : .value (.vector [1, 0.5, 0]) = src := Except.ok.inj hs
    exact (hy f 1).1
  · obtain rfl := Option.some.inj hb
    exact hsource
  · cases he : ofManifest m f with
    | error e => exact ⟨e, rfl, hcause f e he⟩
    | ok s =>
      rw [he] at hfails
      contradiction

end Session

end ShaderRunner

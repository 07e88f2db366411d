import Mathlib.Tactic.Common
import ShaderRunner.Uniform.Commit

namespace ShaderRunner

def Kind.carries : Kind → Bool
  | sampler | static | unused => false
  | _ => true

lemma Payload.ofValue_ok {k : Kind} {v : Value} {p : Payload} (h : Payload.ofValue k v = .ok p) :
    p.kind = k ∧ k.carries = true := by
  unfold ofValue at h
  split at h <;> simp only [Except.ok.injEq, reduceCtorEq] at h
  all_goals
    subst h
    exact ⟨rfl, rfl⟩

namespace Uniform

structure SameShape (u u' : Uniform) : Prop where
  kind : u'.kind = u.kind
  location : u'.location = u.location

variable {u u' : Uniform} {s : Sampler}

lemma SameShape.refl (u : Uniform) : u.SameShape u := ⟨rfl, rfl⟩

lemma SameShape.payload {p : Payload} (h : p.kind = u.kind) : u.SameShape { u with payload := p } := ⟨h, rfl⟩

lemma create_ok {k : Kind} {l : Option Location} {n : Length} {v : Value} (h : create k l n v = .ok u) :
    (∃ i, u = ⟨l, n, .sampler { pending := i }⟩) ∨ (∃ t, u = ⟨none, .single, .static t⟩) ∨ u = ⟨none, n, .unused⟩ ∨
      ∃ p, Payload.ofValue k v = .ok p ∧ u = ⟨l, n, p⟩ := by
  unfold create at h
  split at h
  · split at h <;> simp only [Except.ok.injEq, reduceCtorEq] at h
    all_goals exact .inl ⟨_, h.symm⟩
  · cases ht : v.static <;> simp only [ht, Except.map, Except.ok.injEq, reduceCtorEq] at h
    exact .inr (.inl ⟨_, h.symm⟩)
  · simp only [Except.ok.injEq] at h
    exact .inr (.inr (.inl h.symm))
  · cases hp : Payload.ofValue k v <;> simp only [hp, Except.map, Except.ok.injEq, reduceCtorEq] at h
    exact .inr (.inr (.inr ⟨_, rfl, h.symm⟩))

lemma payload_of_sampler? (h : u.sampler? = some s) : u.payload = .sampler s := by
  unfold sampler? at h
  split at h
  · next hp => rw [hp, Option.some.inj h]
  · simp at h

lemma kind_of_sampler? (h : u.sampler? = some s) : u.kind = .sampler := by
  simp [kind, payload_of_sampler? h, Payload.kind]

lemma sampler?_of_kind (hk : u.kind ≠ .sampler) : u.sampler? = none := by
  cases hs : u.sampler? with
  | none => rfl
  | some s => exact absurd (kind_of_sampler? hs) hk

lemma exists_sampler (hk : u.kind = .sampler) : ∃ s, u.sampler? = some s := by
  rw [kind] at hk
  cases hp : u.payload <;> simp_all [sampler?, Payload.kind]

lemma imageUpdate_ok {v : Value} {i : Image} (h : u.imageUpdate v = .ok (s, i)) :
    v = .image i ∧ u.sampler? = some s := by
  unfold imageUpdate at h
  split at h
  · split at h
    · next hs =>
      obtain ⟨rfl, rfl⟩ := Prod.mk.inj (Except.ok.inj h)
      exact ⟨rfl, hs⟩
    · simp at h
  · simp at h

lemma storeValue_shape (u : Uniform) (v : Value) : u.SameShape (u.storeValue v).2 := by
  unfold storeValue
  split
  · next h => exact .payload (Payload.ofValue_ok h).1
  · exact .refl u

lemma stageImage_shape (u : Uniform) (v : Value) : u.SameShape (u.stageImage v).2 := by
  unfold stageImage
  split
  · exact .refl u
  · next h =>
    have hk := kind_of_sampler? (imageUpdate_ok h).2
    split <;> exact .payload hk.symm

lemma stage_shape (u : Uniform) (v : Value) : u.SameShape (u.stage v).2 := by
  unfold stage
  cases hk : u.kind with
  | sampler => exact u.stageImage_shape v
  | static =>
    simp only [stageAs, storeText]
    split
    · exact .payload hk.symm
    · exact .refl u
  | unused => exact .refl u
  | int | float | vec2 | vec3 | vec4 | vec3Array => exact u.storeValue_shape v

lemma storeImage_shape (u : Uniform) (v : Value) (d : Device) : u.SameShape (u.storeImage v d).2.2 := by
  unfold storeImage
  split
  · exact .refl u
  · next h =>
    have hk := kind_of_sampler? (imageUpdate_ok h).2
    split
    · exact .payload hk.symm
    · split
      · exact .refl u
      · exact .payload hk.symm

lemma update_of_kind (hk : u.kind ≠ .sampler) (v : Value) (d : Device) :
    u.update v d = ((u.stage v).1, d, (u.stage v).2) := by
  unfold update stage
  cases hk' : u.kind with
  | sampler => exact absurd hk' hk
  | int | float | vec2 | vec3 | vec4 | vec3Array | static | unused => rfl

lemma update_sampler (hk : u.kind = .sampler) (v : Value) (d : Device) : u.update v d = u.storeImage v d := by
  rw [update, hk, updateAs]

lemma update_shape (u : Uniform) (v : Value) (d : Device) : u.SameShape (u.update v d).2.2 := by
  by_cases hk : u.kind = .sampler
  · rw [update_sampler hk]
    exact u.storeImage_shape v d
  · rw [update_of_kind hk]
    exact u.stage_shape v

lemma commitValue_same (u : Uniform) (d : Device) : (u.commitValue d).2.2 = u := by
  unfold commitValue
  split
  · rfl
  · split <;> rfl

lemma commitSampler_shape (u : Uniform) (unit : UInt32) (d : Device) : u.SameShape (u.commitSampler unit d).2.2 := by
  unfold commitSampler
  cases hs : u.sampler? with
  | none => exact .refl u
  | some s =>
    dsimp only
    rcases s.settle d with ⟨e | s', d'⟩
    · exact .refl u
    · exact .payload (kind_of_sampler? hs).symm

lemma commit_of_kind (hk : u.kind ≠ .sampler) (unit : UInt32) (d : Device) : (u.commit unit d).2.2 = u := by
  unfold commit
  cases hk' : u.kind with
  | sampler => exact absurd hk' hk
  | static | unused => rfl
  | int | float | vec2 | vec3 | vec4 | vec3Array => exact u.commitValue_same d

lemma commit_sampler (hk : u.kind = .sampler) (unit : UInt32) (d : Device) :
    u.commit unit d = u.commitSampler unit d := by
  rw [commit, hk, commitAs]

lemma commit_shape (u : Uniform) (unit : UInt32) (d : Device) : u.SameShape (u.commit unit d).2.2 := by
  by_cases hk : u.kind = .sampler
  · rw [commit_sampler hk]
    exact u.commitSampler_shape unit d
  · rw [commit_of_kind hk]
    exact .refl u

@[simp] lemma located_kind (u : Uniform) (d : Device) (p : ProgramHandle) (name : String) :
    (u.located d p name).kind = u.kind := by
  unfold located
  split <;> rfl

@[simp] lemma located_payload (u : Uniform) (d : Device) (p : ProgramHandle) (name : String) :
    (u.located d p name).payload = u.payload := by
  unfold located
  split <;> rfl

end Uniform

/-- What a walk over the entries comes to, from what one commit does: where it fails the other entries stay as they
are, and where it succeeds the walk goes on over them. -/
lemma commitEntries_walk {R : Device → List (String × Uniform) → Device → List (String × Uniform) → Prop}
    {p : ProgramHandle} (nil : ∀ d, R d [] d [])
    (halt : ∀ name u unit d es, R d ((name, u) :: es) ((u.located d p name).commit unit d).2.1
      ((name, ((u.located d p name).commit unit d).2.2) :: es))
    (next : ∀ name u unit d es d' es', R ((u.located d p name).commit unit d).2.1 es d' es' →
      R d ((name, u) :: es) d' ((name, ((u.located d p name).commit unit d).2.2) :: es'))
    (unit : UInt32) (d : Device) (es : List (String × Uniform)) :
    R d es (commitEntries p unit d es).2.1 (commitEntries p unit d es).2.2 := by
  induction es generalizing unit d with
  | nil => exact nil d
  | cons e es ih =>
    obtain ⟨name, u⟩ := e
    simp only [commitEntries]
    generalize (if (u.located d p name).kind.takesUnit then unit + 1 else unit) = k
    have hhalt := halt name u k d es
    have hnext := next name u k d es
    rcases hc : (u.located d p name).commit k d with ⟨e | _, d₁, u₁⟩ <;> rw [hc] at hhalt hnext
    · exact hhalt
    · exact hnext _ _ (ih k d₁)

end ShaderRunner

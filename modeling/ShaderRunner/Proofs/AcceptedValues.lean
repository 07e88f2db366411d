import ShaderRunner.Proofs.SamplerSteps

namespace ShaderRunner

def Kind.takes (k : Kind) (v : Value) : Bool :=
  match k with
  | .sampler => v.image?.isSome
  | .static => v.static.isOk
  | .unused => true
  | k => (Payload.ofValue k v).isOk

variable {k : Kind} {u : Uniform} {v : Value}

lemma Value.static_error {e : Failure} (h : v.static = .error e) : e = .valueMismatch .static v := by
  unfold Value.static at h
  split at h
  · exact (Except.error.inj h).symm
  · exact (Except.error.inj h).symm
  · contradiction

lemma Payload.ofValue_error {e : Failure} (h : ofValue k v = .error e) : e = .valueMismatch k v := by
  unfold ofValue at h
  split at h <;> first | contradiction | exact (Except.error.inj h).symm

lemma Kind.takes_carried (hk : k.carries = true) : k.takes v = (Payload.ofValue k v).isOk := by
  cases k <;> first | rfl | contradiction

lemma Kind.takes_float {x : Float32} : k.takes (.float x) = true ↔ k ∈ [.float, .static, .unused] := by
  cases k <;> simp [takes, Value.image?, Value.static, Payload.ofValue, Except.isOk, Except.toBool]

lemma Kind.takes_vec4 {w : Vec4} : k.takes (.vec4 w) = true ↔ k ∈ [.vec4, .static, .unused] := by
  cases k <;> simp [takes, Value.image?, Value.static, Payload.ofValue, Except.isOk, Except.toBool]

namespace Uniform

lemma stage_carried (hk : u.kind.carries = true) : u.stage v = u.storeValue v := by
  rw [stage]
  cases h : u.kind <;> rw [h] at hk <;> first | rfl | contradiction

end Uniform

/-- The same value; images are the same if they are the same object. -/
def Value.Same : Value → Value → Prop
  | .image i, .image j => i.identity = j.identity
  | v, w => v = w

lemma Value.Same.refl (v : Value) : v.Same v := by
  cases v <;> rfl

namespace Uniform

lemma create_carried (hk : k.carries = true) (l : Option Location) (n : Length) :
    create k l n v = (Payload.ofValue k v).map fun p => ⟨l, n, p⟩ := by
  cases k <;> first | rfl | contradiction

def Recalls (u : Uniform) (v : Value) : Prop :=
  ∀ s i j, u.sampler? = some s → s.built = some i → v = .image j → i.identity = j.identity → i = j

inductive Agrees (u : Uniform) (v : Value) : Except Failure Uniform → Attempt Outcome Uniform → Prop
  | accepted {c u' : Uniform} (o : Outcome) (ht : u.kind.takes v = true) (hc : c.kind = u.kind) (hu : u'.kind = u.kind)
      (hs : u'.value.Same c.value) (he : u.Recalls v → u'.value = c.value) : Agrees u v (.ok c) (.ok o, u')
  | rejected (ht : u.kind.takes v = false) :
      Agrees u v (.error (.valueMismatch u.kind v)) (.error (.valueMismatch u.kind v), u)

lemma Agrees.of_value {c u' : Uniform} (o : Outcome) (ht : u.kind.takes v = true) (hc : c.kind = u.kind)
    (hu : u'.kind = u.kind) (hv : u'.value = c.value) : Agrees u v (.ok c) (.ok o, u') :=
  .accepted o ht hc hu (hv ▸ .refl _) fun _ => hv

lemma agrees_carried (hk : u.kind.carries = true) (l : Option Location) (n : Length) (v : Value) :
    u.Agrees v (create u.kind l n v) (u.stage v) := by
  have ht := Kind.takes_carried (v := v) hk
  rw [create_carried hk, stage_carried hk, storeValue]
  cases hp : Payload.ofValue u.kind v with
  | ok p =>
    have hpk := (Payload.ofValue_ok hp).1
    exact .of_value .applied (by rw [ht, hp]; rfl) hpk hpk rfl
  | error e =>
    obtain rfl := Payload.ofValue_error hp
    exact .rejected (by rw [ht, hp]; rfl)

lemma agrees_static (hk : u.kind = .static) (l : Option Location) (n : Length) (v : Value) :
    u.Agrees v (create .static l n v) (u.stage v) := by
  rw [create, stage, hk, stageAs, storeText]
  cases ht : v.static with
  | ok t => exact .of_value .recompileRequired (by rw [hk, Kind.takes, ht]; rfl) hk.symm hk.symm rfl
  | error e =>
    obtain rfl := Value.static_error ht
    exact hk ▸ .rejected (by rw [hk, Kind.takes, ht]; rfl)

lemma agrees_unused (hk : u.kind = .unused) (l : Option Location) (n : Length) (v : Value) :
    u.Agrees v (create .unused l n v) (u.stage v) := by
  have hv : u.value = .none := by
    rw [kind] at hk
    cases hp : u.payload <;> simp_all [value, Payload.kind, Payload.value]
  rw [create, stage, hk, stageAs]
  exact .of_value .unchanged (by rw [hk]; rfl) hk.symm rfl hv

lemma agrees_image {s : Sampler} (hs : u.sampler? = some s) (l : Option Location) (n : Length) (i : Image) :
    u.Agrees (.image i) (create .sampler l n (.image i)) (u.stage (.image i)) := by
  have hk := kind_of_sampler? hs
  have ht : u.kind.takes (.image i) = true := by rw [hk]; rfl
  rw [create, stage, hk, stageAs, stageImage, imageUpdate_image hs]
  dsimp only
  by_cases hb : s.isBuiltFrom i = true
  · obtain ⟨j, hj, hi⟩ := Sampler.built_of_isBuiltFrom hb
    rw [if_pos hb]
    have hv : value { u with payload := .sampler { s with pending := none } } = .image j := by
      simp [value, Payload.value, Sampler.image?, hj]
    refine .accepted .unchanged ht hk.symm hk.symm (hv ▸ hi) fun hr => ?_
    rw [hv, hr s j i hs hj rfl hi]
    rfl
  · rw [if_neg hb]
    exact .of_value .deferred ht hk.symm hk.symm rfl

lemma agrees_sampler (hk : u.kind = .sampler) (l : Option Location) (n : Length) (hv : v ≠ .none) :
    u.Agrees v (create .sampler l n v) (u.stage v) := by
  obtain ⟨s, hs⟩ := exists_sampler hk
  cases hi : v.image? with
  | some i =>
    obtain rfl := Value.eq_image hi
    exact agrees_image hs l n i
  | none =>
    have hc : create .sampler l n v = .error (.valueMismatch .sampler v) := by
      cases v <;> first | rfl | contradiction
    rw [hc, stage_other hs hi]
    exact hk ▸ .rejected (by rw [hk, Kind.takes, hi]; rfl)

lemma agrees (u : Uniform) (l : Option Location) (n : Length) (h : ¬ (u.kind = .sampler ∧ v = .none)) :
    u.Agrees v (create u.kind l n v) (u.stage v) := by
  by_cases hc : u.kind.carries = true
  · exact agrees_carried hc l n v
  · cases hk : u.kind with
    | sampler => exact agrees_sampler hk l n fun hv => h ⟨hk, hv⟩
    | static => exact agrees_static hk l n v
    | unused => exact agrees_unused hk l n v
    | _ =>
      rw [hk] at hc
      exact absurd rfl hc

lemma stage_none (hk : u.kind = .sampler) : u.stage .none = (.error (.valueMismatch .sampler .none), u) := by
  obtain ⟨s, hs⟩ := exists_sampler hk
  exact stage_other hs rfl

lemma stage_spec (u : Uniform) (v : Value) : (u.stage v).1.isOk = u.kind.takes v ∧
    ∀ e, (u.stage v).1 = .error e → e = .valueMismatch u.kind v := by
  by_cases h : u.kind = .sampler ∧ v = .none
  · obtain ⟨hk, rfl⟩ := h
    rw [stage_none hk, hk]
    exact ⟨rfl, fun e he => (Except.error.inj he).symm⟩
  · have ha := u.agrees none .single h
    generalize create u.kind none .single v = c at ha
    generalize u.stage v = a at ha ⊢
    cases ha with
    | accepted o ht _ _ _ _ => exact ⟨ht.symm, fun e he => by contradiction⟩
    | rejected ht => exact ⟨ht.symm, fun e he => (Except.error.inj he).symm⟩

/-- Creations of a kind and updates of its uniforms without a device accept the same values, and what they leave then
has the same kind and value; the same mismatch answers everything else. Nothing is a value only for a new sampler. -/
theorem create_stage_agree (u : Uniform) (l : Option Location) (n : Length) (v : Value) :
    if u.kind = .sampler ∧ v = .none then
      (create u.kind l n v).isOk = true ∧ u.stage v = (.error (.valueMismatch .sampler .none), u)
    else u.Agrees v (create u.kind l n v) (u.stage v) := by
  split
  · next h =>
    obtain ⟨hk, rfl⟩ := h
    rw [hk]
    exact ⟨rfl, stage_none hk⟩
  · next h => exact u.agrees l n h

end Uniform

end ShaderRunner

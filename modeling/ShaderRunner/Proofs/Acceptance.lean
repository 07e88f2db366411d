import ShaderRunner.Proofs.EachUniform

/-! A uniform that carries a value carries the last one that was accepted for its name. -/

namespace ShaderRunner

namespace Ledger

variable {vs : Ledger} {name other : String} {v : Value}

lemma last?_snoc (vs : Ledger) (name : String) (v : Value) : last? (vs ++ [(name, v)]) name = some v := by
  simp [last?]

lemma last?_snoc_of_ne (h : other ≠ name) (vs : Ledger) (v : Value) :
    last? (vs ++ [(name, v)]) other = last? vs other := by
  simp [last?, List.lookup_cons, beq_false_of_ne h]

end Ledger

def Uniform.Carries (vs : Ledger) (name : String) (u : Uniform) : Prop :=
  u.kind.carries = true → ∃ v, vs.last? name = some v ∧ Payload.ofValue u.kind v = .ok u.payload

namespace Uniform

variable {vs : Ledger} {name other : String} {u : Uniform} {v : Value}

lemma stage_carries (h : u.Carries vs name) (v : Value) :
    (u.stage v).2.Carries (vs ++ .entry (u.stage v).1 name v) name := by
  intro hk
  rw [(u.stage_shape v).kind] at hk ⊢
  obtain ⟨w, hw, hp⟩ := h hk
  have hs : u.stage v = u.storeValue v := by
    unfold stage stageAs
    cases hu : u.kind <;> rw [hu] at hk <;> first | rfl | contradiction
  rw [hs, storeValue]
  cases hv : Payload.ofValue u.kind v with
  | error e => exact ⟨w, by simpa [Ledger.entry] using hw, hp⟩
  | ok p => exact ⟨v, Ledger.last?_snoc vs name v, hv⟩

lemma carries_of_sampler (hk : u.kind = .sampler) : u.Carries vs name := by
  intro h
  rw [hk] at h
  contradiction

lemma update_carries (h : u.Carries vs name) (v : Value) (d : Device) :
    (u.update v d).2.2.Carries (vs ++ .entry (u.update v d).1 name v) name := by
  by_cases hk : u.kind = .sampler
  · exact carries_of_sampler ((u.update_shape v d).kind.trans hk)
  · rw [update_of_kind hk]
    exact stage_carries h v

lemma create_carries {k : Kind} {l : Option Location} {n : Length} (h : create k l n v = .ok u)
    (hv : vs.last? name = some v) : u.Carries vs name := by
  intro hk
  rcases create_ok h with ⟨i, rfl⟩ | ⟨t, rfl⟩ | rfl | ⟨p, hp, rfl⟩
  · contradiction
  · contradiction
  · contradiction
  · refine ⟨v, hv, ?_⟩
    simp only [kind, (Payload.ofValue_ok hp).1, hp]

lemma commit_carries (h : u.Carries vs name) (unit : UInt32) (d : Device) :
    (u.commit unit d).2.2.Carries vs name := by
  by_cases hk : u.kind = .sampler
  · exact carries_of_sampler ((u.commit_shape unit d).kind.trans hk)
  · rwa [commit_of_kind hk]

lemma carries_kept : Kept Carries where
  other vs name u other v h hn hk := by
    rw [Ledger.last?_snoc_of_ne hn]
    exact h hk
  moved _ _ _ _ h := h
  created vs name _ _ _ _ v h := create_carries h (Ledger.last?_snoc vs name v)
  staged _ _ _ v h := stage_carries h v
  updated _ _ _ v d h := update_carries h v d
  committed _ _ _ unit d h := commit_carries h unit d

end Uniform

end ShaderRunner

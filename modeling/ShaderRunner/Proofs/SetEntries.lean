import Mathlib.Tactic.Common
import Mathlib.Data.List.Nodup
import ShaderRunner.Uniform.Commit

namespace ShaderRunner.UniformSet

variable {s : UniformSet} {name : String} {u : Uniform}

lemma lookup_of_mem {es : List (String × Uniform)} (hn : (es.map Prod.fst).Nodup) (h : (name, u) ∈ es) :
    es.lookup name = some u := by
  induction es with
  | nil => simp at h
  | cons e es ih =>
    obtain ⟨k, v⟩ := e
    rw [List.map_cons, List.nodup_cons] at hn
    rcases List.mem_cons.mp h with he | hm
    · obtain ⟨rfl, rfl⟩ := Prod.mk.inj he
      simp
    · have hk : name ≠ k := by
        rintro rfl
        exact hn.1 (List.mem_map.mpr ⟨_, hm, rfl⟩)
      rw [List.lookup_cons, beq_false_of_ne hk]
      exact ih hn.2 hm

lemma mem_of_lookup {es : List (String × Uniform)} (h : es.lookup name = some u) : (name, u) ∈ es := by
  induction es with
  | nil => simp at h
  | cons e es ih =>
    obtain ⟨k, v⟩ := e
    by_cases hk : name = k
    · subst hk
      simp only [List.lookup_cons, beq_self_eq_true, Option.some.injEq] at h
      simp [h]
    · rw [List.lookup_cons, beq_false_of_ne hk] at h
      exact List.mem_cons_of_mem _ (ih h)

lemma mem_entries_iff : (name, u) ∈ s.entries ↔ s.get? name = some u :=
  ⟨lookup_of_mem s.nodup, mem_of_lookup⟩

lemma entries_modify (h : s.get? name = some u) :
    ∃ a b, s.entries = a ++ (name, u) :: b ∧ ∀ f, (s.modify name f).entries = a ++ (name, f u) :: b := by
  obtain ⟨a, b, hs⟩ := List.append_of_mem (mem_entries_iff.mpr h)
  have hn := s.nodup
  rw [hs, List.map_append, List.map_cons, List.nodup_middle, List.nodup_cons, List.mem_append, not_or] at hn
  have hside : ∀ l : List (String × Uniform), name ∉ l.map Prod.fst → ∀ f : Uniform → Uniform,
      l.map (fun e => (e.1, if e.1 = name then f e.2 else e.2)) = l := by
    intro l hl f
    conv_rhs => rw [← List.map_id l]
    apply List.map_congr_left
    rintro ⟨k, v⟩ he
    have hk : k ≠ name := fun hk => hl (List.mem_map.mpr ⟨_, he, hk⟩)
    simp [hk]
  refine ⟨a, b, hs, fun f => ?_⟩
  change s.entries.map (fun e => (e.1, if e.1 = name then f e.2 else e.2)) = _
  rw [hs, List.map_append, List.map_cons, hside a hn.1.1, hside b hn.1.2]
  simp

lemma eq_of_entries {s s' : UniformSet} (h : s.entries = s'.entries) : s = s' := by
  obtain ⟨es, hn⟩ := s
  obtain ⟨es', hn'⟩ := s'
  obtain rfl : es = es' := h
  rfl

lemma modify_self (h : s.get? name = some u) : (s.modify name fun _ => u) = s := by
  obtain ⟨a, b, hs, hm⟩ := entries_modify h
  exact eq_of_entries ((hm _).trans hs.symm)

lemma entries_insert (name : String) (u : Uniform) :
    (∃ a v b, s.entries = a ++ (name, v) :: b ∧ (s.insert name u).entries = a ++ (name, u) :: b) ∨
      (s.insert name u).entries = s.entries ++ [(name, u)] := by
  unfold insert
  split
  · next hc =>
    rw [contains_eq_isSome, Option.isSome_iff_exists] at hc
    obtain ⟨v, hv⟩ := hc
    obtain ⟨a, b, hs, hm⟩ := entries_modify hv
    exact .inl ⟨a, v, b, hs, hm _⟩
  · exact .inr rfl

lemma get?_of_entries_insert (h : (s.insert name u).entries = s.entries ++ [(name, u)]) : s.get? name = none := by
  have hn := (s.insert name u).nodup
  rw [h, List.map_append, List.nodup_append] at hn
  by_contra hc
  obtain ⟨v, hv⟩ := Option.ne_none_iff_exists'.mp hc
  have hm := List.mem_map_of_mem (f := Prod.fst) (mem_entries_iff.mpr hv)
  exact hn.2.2 name hm name (by simp) rfl

end ShaderRunner.UniformSet

import ShaderRunner.Uniform.Basic

/-! Sets of uniforms under distinct names, in the order in which the names were first inserted. -/

namespace ShaderRunner

structure UniformSet where
  entries : List (String × Uniform) := []
  nodup : (entries.map Prod.fst).Nodup := by simp

namespace UniformSet

variable (s : UniformSet)

def empty : UniformSet := {}

def names : List String := s.entries.map Prod.fst
def size : Nat := s.entries.length
def isEmpty : Bool := s.entries.isEmpty
def get? (name : String) : Option Uniform := s.entries.lookup name
def contains (name : String) : Bool := s.names.contains name

def withEntries (es : List (String × Uniform)) (h : es.map Prod.fst = s.names) : UniformSet :=
  ⟨es, h ▸ s.nodup⟩

def map (f : String → Uniform → Uniform) : UniformSet :=
  s.withEntries (s.entries.map fun e => (e.1, f e.1 e.2)) (by simp [names])

def modify (name : String) (f : Uniform → Uniform) : UniformSet :=
  s.map fun n u => if n = name then f u else u

def insert (name : String) (u : Uniform) : UniformSet :=
  if h : s.contains name then s.modify name fun _ => u
  else
    ⟨s.entries ++ [(name, u)], by
      have : name ∉ s.entries.map Prod.fst := by simpa [contains, names] using h
      simp only [List.map_append, List.map_cons, List.map_nil, List.nodup_append, s.nodup, true_and]
      refine ⟨by simp, ?_⟩
      rintro a ha b hb rfl
      simp at hb
      exact this (hb ▸ ha)⟩

def exchange (name : String) (u : Uniform) : Option Uniform × UniformSet := (s.get? name, s.insert name u)

def ofList (es : List (String × Uniform)) : UniformSet := es.foldl (fun s e => s.insert e.1 e.2) empty

def listing : String :=
  "Vader::dumpUniforms\n" ++
    String.join (s.entries.map fun e => s!"  {e.2.kind.typeName} {e.1} = [{e.2.value.toText}]\n")

@[simp] theorem names_map (f : String → Uniform → Uniform) : (s.map f).names = s.names := by
  simp [map, withEntries, names]

@[simp] theorem names_modify (name : String) (f : Uniform → Uniform) : (s.modify name f).names = s.names :=
  s.names_map _

theorem names_insert (name : String) (u : Uniform) :
    (s.insert name u).names = if s.contains name then s.names else s.names ++ [name] := by
  unfold insert
  split
  · exact s.names_modify name _
  · simp [names]

theorem lookup_map (f : String → Uniform → Uniform) (es : List (String × Uniform)) (name : String) :
    (es.map fun e => (e.1, f e.1 e.2)).lookup name = (es.lookup name).map (f name) := by
  induction es with
  | nil => rfl
  | cons e es ih =>
    obtain ⟨k, u⟩ := e
    by_cases h : name = k
    · subst h
      simp
    · simp [List.lookup_cons, beq_false_of_ne h, ih]

@[simp] theorem get?_map (f : String → Uniform → Uniform) (name : String) :
    (s.map f).get? name = (s.get? name).map (f name) := lookup_map f s.entries name

theorem get?_modify (name other : String) (f : Uniform → Uniform) :
    (s.modify name f).get? other = if other = name then (s.get? other).map f else s.get? other := by
  unfold modify
  rw [get?_map]
  split <;> simp

theorem contains_eq_isSome (name : String) : s.contains name = (s.get? name).isSome := by
  unfold contains names get?
  induction s.entries with
  | nil => rfl
  | cons e es ih =>
    obtain ⟨k, u⟩ := e
    by_cases h : name = k
    · simp [h]
    · rw [List.map_cons, List.contains_cons, ih, List.lookup_cons, beq_false_of_ne h, Bool.false_or]

theorem get?_insert (name other : String) (u : Uniform) :
    (s.insert name u).get? other = if other = name then some u else s.get? other := by
  have hc := s.contains_eq_isSome name
  unfold insert
  split
  · next h =>
    rw [get?_modify]
    split
    · next e =>
      rw [h] at hc
      obtain ⟨v, hv⟩ := Option.isSome_iff_exists.1 hc.symm
      rw [e, hv, Option.map_some]
    · rfl
  · next h =>
    have hn : s.entries.lookup name = none := by simpa [h, get?] using hc
    split
    · next e => simp [get?, List.lookup_append, e, hn]
    · next e => simp [get?, List.lookup_append, List.lookup_cons, beq_false_of_ne e]

end UniformSet

end ShaderRunner

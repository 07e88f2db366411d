import ShaderRunner.Proofs.Uploads

namespace ShaderRunner

def DeclaredAs (name source : String) (d : Declaration) : Prop :=
  ∃ before l after, sourceLines source = before ++ l :: after ∧ (∀ k ∈ before, Inferred.ofLine? name k = none) ∧
    Declaration.ofLine? l = some d ∧ d.name = name

def Declaration.Unsized (d : Declaration) : Prop :=
  ∃ t, d.extent = some t ∧ ∀ n, Number.whole (UInt64.size - 1) t = .ok n → n = 0

def Declares (s : UniformSet) (name : String) (v : Value) (source : String) (s' : UniformSet) : Prop :=
  s.declare name v source = .ok s' ∨ ∃ r : Renderer, r.mode.wrap r.source = source ∧ r.declare s name v = .ok s'

variable {name source : String} {v : Value} {d : Declaration}

lemma infer_declaredAs (h : DeclaredAs name source d) : infer name source = d.inferred := by
  obtain ⟨before, l, after, hs, hb, hl, hn⟩ := h
  have hd : Inferred.ofLine? name l = some d.inferred := by
    rw [Inferred.ofLine?, hl]
    simp [Option.filter, hn]
  rw [infer, hs, List.findSome?_append, List.findSome?_eq_none_iff.mpr hb, List.findSome?_cons, hd]
  rfl

lemma Declaration.inferred_unsized (ht : d.typeName = "vec3") (hu : d.Unsized) :
    d.inferred = ⟨.known .vec3Array, .dynamic⟩ := by
  obtain ⟨t, he, hn⟩ := hu
  have hl : d.length = .dynamic := by
    rw [length, he]
    dsimp only
    split
    · next n h => rw [if_pos (hn n h)]
    · rfl
  rw [inferred, hl, ht, he]
  rfl

namespace Uniform

variable {u : Uniform} {location : Option Location}

lemma create_length {k : Kind} {n : Length} (h : create k location n v = .ok u) : u.length = n ∨ u.length = .single := by
  rcases create_ok h with ⟨i, rfl⟩ | ⟨t, rfl⟩ | rfl | ⟨p, -, rfl⟩
  · exact .inl rfl
  · exact .inr rfl
  · exact .inl rfl
  · exact .inl rfl

lemma createInferred_length (h : createInferred location name v source = .ok u) : u.length ≠ .dynamic := by
  rw [createInferred] at h
  dsimp only at h
  split at h
  · contradiction
  · rcases create_length h with hl | hl
    · rw [hl]
      split
      · simp
      · next hd => exact hd
    · simp [hl]

lemma createInferred_vectors (hi : infer name source = ⟨.known .vec3Array, .dynamic⟩)
    (h : createInferred location name v source = .ok u) :
    (∃ ws, v = .points ws ∧ u = ⟨location, .array ws.length, .vec3Array ws⟩) ∨
      ∃ w, v = .vec3 w ∧ u = ⟨location, .array 0, .vec3Array [w]⟩ := by
  rw [createInferred, hi] at h
  cases v <;> simp only [create, Payload.ofValue, Except.map, Except.ok.injEq, reduceCtorEq] at h
  · exact .inr ⟨_, rfl, h.symm⟩
  · exact .inl ⟨_, rfl, h.symm⟩

end Uniform

lemma Declares.createInferred {s s' : UniformSet} (h : Declares s name v source s') :
    ∃ location u, Uniform.createInferred location name v source = .ok u ∧ s'.get? name = some u := by
  have hinsert : ∀ location, (Uniform.createInferred location name v source).map (s.insert name) = .ok s' →
      ∃ u, Uniform.createInferred location name v source = .ok u ∧ s'.get? name = some u := by
    intro location h
    cases hu : Uniform.createInferred location name v source with
    | error e =>
      rw [hu] at h
      contradiction
    | ok u =>
      rw [hu] at h
      obtain rfl := Except.ok.inj h
      exact ⟨u, rfl, by rw [UniformSet.get?_insert, if_pos rfl]⟩
  rcases h with h | ⟨r, rfl, h⟩
  · exact ⟨none, hinsert none h⟩
  · exact ⟨_, hinsert _ h⟩

section Commit

variable {u : Uniform} {es : List (String × Uniform)} {l : Location} {c : Call}

lemma commitEntries_payload (hk : u.kind ≠ .sampler) (h : (name, u) ∈ es) (p : ProgramHandle) (unit : UInt32)
    (d : Device) : ∃ w, (name, w) ∈ (commitEntries p unit d es).2.2 ∧ w.payload = u.payload := by
  have hcommit : ∀ name k d, ((u.located d p name).commit k d).2.2.payload = u.payload := fun name k d => by
    rw [Uniform.commit_of_kind (by simpa using hk), Uniform.located_payload]
  refine commitEntries_walk (R := fun _ es _ es' => (name, u) ∈ es → ∃ w, (name, w) ∈ es' ∧ w.payload = u.payload)
    (fun _ h => by contradiction) ?_ ?_ unit d es h
  · intro other w k d es h
    rcases List.mem_cons.mp h with he | hm
    · obtain ⟨rfl, rfl⟩ := Prod.mk.inj he
      exact ⟨_, List.mem_cons_self, hcommit name k d⟩
    · exact ⟨u, List.mem_cons_of_mem _ hm, rfl⟩
  · intro other w k d es d' es' ih h
    rcases List.mem_cons.mp h with he | hm
    · obtain ⟨rfl, rfl⟩ := Prod.mk.inj he
      exact ⟨_, List.mem_cons_self, hcommit name k d⟩
    · obtain ⟨w', hw', hp⟩ := ih hm
      exact ⟨w', List.mem_cons_of_mem _ hw', hp⟩

lemma mem_uploadsFrom (hm : (name, u) ∈ es) (hl : u.location = some l) (hc : u.payload.upload? l = some c)
    (unit : UInt32) : c ∈ uploadsFrom unit es := by
  induction es generalizing unit with
  | nil => contradiction
  | cons e es ih =>
    rw [uploadsFrom, List.mem_append]
    rcases List.mem_cons.mp hm with rfl | hm
    · have hk : u.kind ≠ .sampler := by
        intro hk
        obtain ⟨s, hs⟩ := Uniform.exists_sampler hk
        rw [Uniform.payload_of_sampler? hs] at hc
        contradiction
      exact .inl (by simp [hl, Uniform.upload?, hk, hc])
    · exact .inr (ih hm _)

lemma commit_vectors {s s' : UniformSet} {ws : List Vec3} {p : ProgramHandle} {d d' : Device}
    (hu : s.get? name = some u) (hw : u.payload = .vec3Array ws) (h : s.commit p d = (.ok (), d', s'))
    (hl : (s'.get? name).bind (·.location) = some l) :
    ∃ frame, d'.uploads = d.uploads ++ frame ∧ .uniform3fv l (ws.flatMap Vec3.toList) ∈ frame := by
  have hc := UniformSet.commit_entries h
  obtain ⟨w, hm, hp⟩ := commitEntries_payload (by rw [Uniform.kind, hw]; exact Kind.noConfusion)
    (UniformSet.mem_entries_iff.mpr hu) p 0 d
  rw [hc] at hm
  obtain ⟨w', hw', hl'⟩ := Option.bind_eq_some_iff.mp hl
  obtain rfl : w' = w := Option.some.inj (hw'.symm.trans (UniformSet.mem_entries_iff.mp hm))
  exact ⟨_, commitEntries_uploads hc, mem_uploadsFrom hm hl' (by rw [hp, hw]; rfl) 0⟩

lemma length_toList (ws : List Vec3) : (ws.flatMap Vec3.toList).length = 3 * ws.length := by
  simp [List.length_flatMap, Vec3.toList, Nat.mul_comm]

end Commit

/-- A declared uniform never has a dynamic length. Where the source declares vectors without a readable extent, its
length is the number of vectors that it holds and that a commit uploads, exactly if the value is not a single vector. -/
theorem declare_length {s s' : UniformSet} (h : Declares s name v source s') : ∃ u, s'.get? name = some u ∧
    u.length ≠ .dynamic ∧ ∀ d, DeclaredAs name source d → d.typeName = "vec3" → d.Unsized →
      ∃ ws, u.payload = .vec3Array ws ∧ (u.length = .array ws.length ↔ ∀ w, v ≠ .vec3 w) ∧
        ∀ p e e' s'', s'.commit p e = (.ok (), e', s'') → ∀ l, (s''.get? name).bind (·.location) = some l →
          ∃ frame xs, e'.uploads = e.uploads ++ frame ∧ .uniform3fv l xs ∈ frame ∧ xs.length = 3 * ws.length := by
  obtain ⟨location, u, hc, hu⟩ := h.createInferred
  refine ⟨u, hu, Uniform.createInferred_length hc, fun d hd ht hn => ?_⟩
  have hi : infer name source = ⟨.known .vec3Array, .dynamic⟩ := by
    rw [infer_declaredAs hd, Declaration.inferred_unsized ht hn]
  have hcommit : ∀ ws, u.payload = .vec3Array ws → ∀ p e e' s'', s'.commit p e = (.ok (), e', s'') →
      ∀ l, (s''.get? name).bind (·.location) = some l →
        ∃ frame xs, e'.uploads = e.uploads ++ frame ∧ .uniform3fv l xs ∈ frame ∧ xs.length = 3 * ws.length := by
    intro ws hw p e e' s'' hcm l hl
    obtain ⟨frame, hf, hm⟩ := commit_vectors hu hw hcm hl
    exact ⟨frame, _, hf, hm, length_toList ws⟩
  rcases Uniform.createInferred_vectors hi hc with ⟨ws, rfl, rfl⟩ | ⟨w, rfl, rfl⟩
  · exact ⟨ws, rfl, by simp, hcommit ws rfl⟩
  · exact ⟨[w], rfl, by simp, hcommit [w] rfl⟩

theorem declare_length_points :
    let source := "uniform vec3 lights[N];"
    let d : Declaration := ⟨"vec3", "lights", some ['N']⟩
    let ws : List Vec3 := [⟨1, 0, 0⟩, ⟨0, 1, 0⟩]
    ∃ s', Declares .empty "lights" (.points ws) source s' ∧ DeclaredAs "lights" source d ∧ d.Unsized ∧
      (s'.get? "lights").map (·.length) = some (.array 2) := by
  intro source d ws
  have hd : DeclaredAs "lights" source d :=
    ⟨[], source.toList, [], by decide +kernel, by simp, by decide +kernel, rfl⟩
  have hn : d.Unsized := ⟨_, rfl, fun n hn => by contradiction⟩
  have hs : UniformSet.empty.declare "lights" (.points ws) source =
      .ok (UniformSet.empty.insert "lights" ⟨none, .array 2, .vec3Array ws⟩) := by
    rw [UniformSet.declare, Uniform.createInferred, infer_declaredAs hd, Declaration.inferred_unsized rfl hn]
    rfl
  obtain ⟨u, hu, -, hl⟩ := declare_length (.inl hs)
  obtain ⟨us, hp, hlength, -⟩ := hl d hd rfl hn
  obtain rfl := Option.some.inj ((UniformSet.get?_insert _ _ _ _).symm.trans hu)
  obtain rfl := Payload.vec3Array.inj hp
  refine ⟨_, .inl hs, hd, hn, ?_⟩
  rw [hu, Option.map_some, hlength.mpr (by simp)]
  rfl

/-- One vector for such an array: it is stored, under a length of zero. -/
theorem declare_length_vector :
    let source := "uniform vec3 p[N];"
    let d : Declaration := ⟨"vec3", "p", some ['N']⟩
    ∃ s' u, Declares .empty "p" (.vec3 ⟨1, 2, 3⟩) source s' ∧ DeclaredAs "p" source d ∧ d.Unsized ∧
      s'.get? "p" = some u ∧ u.payload = .vec3Array [⟨1, 2, 3⟩] ∧ u.length = .array 0 := by
  intro source d
  have hd : DeclaredAs "p" source d := ⟨[], source.toList, [], by decide +kernel, by simp, by decide +kernel, rfl⟩
  have hn : d.Unsized := ⟨_, rfl, fun n hn => by contradiction⟩
  have hs : UniformSet.empty.declare "p" (.vec3 ⟨1, 2, 3⟩) source =
      .ok (UniformSet.empty.insert "p" ⟨none, .array 0, .vec3Array [⟨1, 2, 3⟩]⟩) := by
    rw [UniformSet.declare, Uniform.createInferred, infer_declaredAs hd, Declaration.inferred_unsized rfl hn]
    rfl
  exact ⟨_, _, .inl hs, hd, hn, rfl, rfl, rfl⟩

end ShaderRunner

import ShaderRunner.Proofs.Ownership

/-!
Every place that a set remembers is the one that the program in use gives to the name, whatever was compiled, declared
or released before.
-/

namespace ShaderRunner

def Device.Places (d : Device) (p : ProgramHandle) (es : List (String × Uniform)) : Prop :=
  ∀ e ∈ es, ∀ l, e.2.location = some l → d.uniformLocation p e.1 = some l

namespace Device

variable {d d' : Device} {p : ProgramHandle} {es : List (String × Uniform)} {name : String} {u u' : Uniform}

lemma uniformLocation_congr (hp : d'.programs = d.programs) (he : d'.extra = d.extra) (p : ProgramHandle)
    (name : String) : d'.uniformLocation p name = d.uniformLocation p name := by
  simp only [uniformLocation, resolvedNames, program?, hp, he]

lemma Framed.uniformLocation (h : d.Framed d') (p : ProgramHandle) (name : String) :
    d'.uniformLocation p name = d.uniformLocation p name :=
  uniformLocation_congr h.programs h.extra p name

lemma resolvedNames_resolveAlways (d : Device) (other : String) (p : ProgramHandle) :
    d.resolvedNames p <+: (d.resolveAlways other).resolvedNames p := by
  unfold resolveAlways
  split
  · exact List.prefix_rfl
  · exact ⟨_, by simp only [resolvedNames, List.filter_append, ← List.append_assoc]; rfl⟩

lemma uniformLocation_of_prefix {l : Location} (h : d.resolvedNames p <+: d'.resolvedNames p)
    (hl : d.uniformLocation p name = some l) : d'.uniformLocation p name = some l := by
  obtain ⟨names, hn⟩ := h
  obtain ⟨i, hi, rfl⟩ := Option.map_eq_some_iff.mp hl
  refine Option.map_eq_some_iff.mpr ⟨i, ?_, rfl⟩
  rw [List.idxOf?] at hi
  rw [← hn, List.idxOf?, List.findIdx?_append, hi, Option.some_or]

lemma uniformLocation_resolveAlways {l : Location} (h : d.uniformLocation p name = some l) (other : String) :
    (d.resolveAlways other).uniformLocation p name = some l :=
  uniformLocation_of_prefix (d.resolvedNames_resolveAlways other p) h

lemma Places.congr (h : d.Places p es) (hd : ∀ name, d'.uniformLocation p name = d.uniformLocation p name) :
    d'.Places p es := fun e he l hl => (hd e.1).trans (h e he l hl)

lemma places_cons {e : String × Uniform} : d.Places p (e :: es) ↔ d.Places p [e] ∧ d.Places p es := by
  simp only [Places, List.mem_cons, List.not_mem_nil, or_false, forall_eq_or_imp, forall_eq]

lemma places_split {a b : List (String × Uniform)} :
    d.Places p (a ++ (name, u) :: b) ↔ d.Places p a ∧ d.Places p [(name, u)] ∧ d.Places p b := by
  simp only [Places, List.mem_append, List.mem_cons, List.not_mem_nil, or_false, or_imp, forall_and, forall_eq]

lemma Places.shape (hu : u.SameShape u') (h : d.Places p [(name, u)]) : d.Places p [(name, u')] := by
  simp only [Places, List.mem_singleton, forall_eq, hu.location] at h ⊢
  exact h

lemma Places.located (h : d.Places p [(name, u)]) : d.Places p [(name, u.located d p name)] := by
  unfold Uniform.located
  split
  · simp [Places]
  · exact h

lemma Places.commitEntries (h : d.Places p es) (unit : UInt32) :
    d.Places p (commitEntries p unit d es).2.2 := by
  have hcommit {name : String} {u : Uniform} {d : Device} (hu : d.Places p [(name, u)]) (k : UInt32) :
      d.Places p [(name, ((u.located d p name).commit k d).2.2)] :=
    hu.located.shape ((u.located d p name).commit_shape k d)
  refine commitEntries_walk (R := fun d es _ es' => d.Places p es → d.Places p es') (fun _ => id) ?_ ?_ unit d es h
  · intro name u k d es h
    obtain ⟨hu, hes⟩ := places_cons.mp h
    exact places_cons.mpr ⟨hcommit hu k, hes⟩
  · intro name u k d es d' es' ih h
    obtain ⟨hu, hes⟩ := places_cons.mp h
    -- the commit before it changes no location
    have hf := ((u.located d p name).commit_framed k d).uniformLocation p
    exact places_cons.mpr ⟨hcommit hu k, (ih (hes.congr hf)).congr fun n => (hf n).symm⟩

end Device

lemma Uniform.create_location {k : Kind} {l : Option Location} {n : Length} {v : Value} {u : Uniform}
    (h : create k l n v = .ok u) : u.location = none ∨ u.location = l := by
  rcases create_ok h with ⟨i, rfl⟩ | ⟨t, rfl⟩ | rfl | ⟨p, -, rfl⟩
  · exact .inr rfl
  · exact .inl rfl
  · exact .inl rfl
  · exact .inr rfl

namespace Scene

def Placed (x : Scene) : Prop := ∀ p, x.renderer.program = some p → x.device.Places p x.uniforms.entries

variable {x y : Scene}

lemma Placed.new (label : String) (m : Mode) (size : Size) (s : UniformSet) :
    (Scene.new label m size s).Placed := by
  intro p hp
  cases hp

lemma Placed.device (h : Placed x) {d : Device}
    (hd : ∀ p name, d.uniformLocation p name = x.device.uniformLocation p name) : Placed (x.withDevice d) :=
  fun p hp => (h p hp).congr (hd p)

lemma Placed.modify (h : Placed x) {name : String} {u u' : Uniform} (hu : x.uniforms.get? name = some u)
    (hs : u.SameShape u') : Placed (x.withUniform name u') := by
  intro p hp
  obtain ⟨a, b, he, hm⟩ := UniformSet.entries_modify hu
  have hx := h p hp
  rw [he, Device.places_split] at hx
  simp only [withUniform, hm, Device.places_split]
  exact ⟨hx.1, hx.2.1.shape hs, hx.2.2⟩

lemma Placed.insert (h : Placed x) {u : Uniform} {name : String}
    (hu : u.location = none ∨ u.location = x.renderer.program.bind (x.device.uniformLocation · name)) :
    Placed { x with uniforms := x.uniforms.insert name u } := by
  intro p hp
  have hp' : x.renderer.program = some p := hp
  have hx := h p hp'
  have hn : x.device.Places p [(name, u)] := by
    intro e he l hl
    obtain rfl := List.mem_singleton.mp he
    rcases hu with hu | hu
    · rw [hu] at hl
      contradiction
    · rwa [hu, hp'] at hl
  rcases x.uniforms.entries_insert name u with ⟨a, v, b, hs, hi⟩ | hi
  · rw [hs, Device.places_split] at hx
    simp only [hi, Device.places_split]
    exact ⟨hx.1, hn, hx.2.2⟩
  · simp only [hi]
    exact Device.places_split.mpr ⟨hx, hn, by simp [Device.Places]⟩

lemma places_relocate (s : UniformSet) (d : Device) (p : ProgramHandle) : d.Places p (s.relocate d p).entries := by
  rintro e he l hl
  obtain ⟨⟨name, u⟩, -, rfl⟩ := List.mem_map.mp he
  dsimp only at hl ⊢
  split at hl
  · exact hl
  · contradiction

lemma Placed.draw (h : Placed x) {p : ProgramHandle} (hp : x.renderer.program = some p) (ended : Float32) :
    Placed ⟨(x.renderer.draw p x.uniforms ended).2.1, (x.renderer.draw p x.uniforms ended).2.2⟩ := by
  obtain ⟨hf, -⟩ := x.renderer.openFrame_framed p
  have hf' := commitEntries_framed p 0 (x.renderer.openFrame p) x.uniforms.entries
  have hx : (x.renderer.openFrame p).Places p (x.uniforms.commit p (x.renderer.openFrame p)).2.2.entries :=
    ((h p hp).congr (hf.uniformLocation p)).commitEntries 0
  have hd : ∀ name, (x.uniforms.commit p (x.renderer.openFrame p)).2.1.uniformLocation p name =
      (x.renderer.openFrame p).uniformLocation p name := hf'.uniformLocation p
  unfold Renderer.draw
  rcases hc : x.uniforms.commit p (x.renderer.openFrame p) with ⟨e | _, d, s⟩ <;> rw [hc] at hx hd <;>
    intro q hq <;> obtain rfl : p = q := Option.some.inj (hp.symm.trans hq)
  · exact hx.congr hd
  · exact hx.congr hd

lemma Placed.change {l : Ledger} (hc : Change x l y) (ho : Owned x) (h : Placed x) : Placed y := by
  cases hc with
  | noted r hd hp _ =>
    intro p hq
    change r.device.Places p x.uniforms.entries
    rw [hd]
    exact h p (hp.symm.trans hq)
  | @unbuilt t e d hb =>
    obtain ⟨hbu, -, hp⟩ := Device.buildProgram_spec ho.tracked.numbered t
    rw [hb] at hbu hp
    exact h.device (Device.uniformLocation_congr hp hbu.extra)
  | adopted hb =>
    intro q hq
    obtain rfl := Option.some.inj hq
    exact places_relocate _ _ _
  | buffered =>
    obtain ⟨hps, -, -, he⟩ := x.renderer.ensureBuffer_device
    intro q hq
    exact (h q (x.renderer.ensureBuffer_program.symm.trans hq)).congr (Device.uniformLocation_congr hps he q)
  | drawn ended hp => exact h.draw hp ended
  | staged v hu => exact h.modify hu (Uniform.stage_shape _ v)
  | stored v hu =>
    exact (h.device (Uniform.update_framed _ v x.device).uniformLocation).modify hu (Uniform.update_shape _ v _)
  | inserted name hu hl =>
    refine h.insert ?_
    rcases Uniform.create_location hu with hu | hu
    · exact .inl hu
    · rwa [hu]
  | released =>
    intro q hq
    cases hq
  | arranged f => exact h.device fun _ _ => rfl
  | resolved name => exact fun p hp e he l hl => Device.uniformLocation_resolveAlways (h p hp e he l hl) name

lemma Placed.changes {l : Ledger} (hc : Changes x l y) (ho : Owned x) (h : Placed x) : Placed y := by
  have hy := @Changes.preserve x y l (fun _ x => Owned x ∧ Placed x)
    (fun _ _ _ _ hc h => ⟨h.1.change hc, h.2.change hc h.1⟩) hc [] ⟨ho, h⟩
  exact hy.2

lemma Placed.run (h : Placed x) (ho : Owned x) (os : List Operation) : Placed (x.run os) := by
  have hx := run_keeps (P := fun x => Owned x ∧ Placed x)
    (fun _ _ _ hc h => ⟨h.1.change hc, h.2.change hc h.1⟩) os ⟨ho, h⟩
  exact hx.2

end Scene

end ShaderRunner

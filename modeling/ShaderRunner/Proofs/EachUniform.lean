import ShaderRunner.Proofs.Change
import ShaderRunner.Proofs.SetEntries
import ShaderRunner.Proofs.UniformShape

/-! What creating, updating, moving and committing one uniform keeps, a run keeps for all of them. -/

namespace ShaderRunner

structure Kept (Q : Ledger → String → Uniform → Prop) : Prop where
  other : ∀ vs name u other v, Q vs name u → name ≠ other → Q (vs ++ [(other, v)]) name u
  moved : ∀ vs name u l, Q vs name u → Q vs name { u with location := l }
  created : ∀ vs name u k l n v, Uniform.create k l n v = .ok u → Q (vs ++ [(name, v)]) name u
  staged : ∀ vs name u v, Q vs name u → Q (vs ++ .entry (u.stage v).1 name v) name (u.stage v).2
  updated : ∀ vs name u v d, Q vs name u → Q (vs ++ .entry (u.update v d).1 name v) name (u.update v d).2.2
  committed : ∀ vs name u unit d, Q vs name u → Q vs name (u.commit unit d).2.2

namespace UniformSet

def Each (Q : Ledger → String → Uniform → Prop) (vs : Ledger) (s : UniformSet) : Prop :=
  ∀ name u, s.get? name = some u → Q vs name u

variable {Q : Ledger → String → Uniform → Prop} {vs : Ledger} {s : UniformSet}

lemma each_entries (h : s.Each Q vs) : ∀ e ∈ s.entries, Q vs e.1 e.2 := fun e he => h e.1 e.2 (mem_entries_iff.mp he)

lemma each_empty (Q : Ledger → String → Uniform → Prop) (vs : Ledger) : empty.Each Q vs := fun _ _ h => by cases h

lemma each_modify {α : Type} {name : String} {u : Uniform} {r : Except Failure α} {v : Value} (hQ : Kept Q)
    (h : s.Each Q vs) (hu : Q (vs ++ .entry r name v) name u) :
    (s.modify name fun _ => u).Each Q (vs ++ .entry r name v) := by
  intro other w hw
  rw [get?_modify] at hw
  split at hw
  · next he =>
    subst he
    obtain ⟨_, -, rfl⟩ := Option.map_eq_some_iff.mp hw
    exact hu
  · next hn =>
    have hx := h other w hw
    cases r with
    | error e => simpa [Ledger.entry] using hx
    | ok a => exact hQ.other vs other w name v hx hn

lemma each_insert {name : String} {u : Uniform} {v : Value} (hQ : Kept Q) (h : s.Each Q vs)
    (hu : Q (vs ++ [(name, v)]) name u) : (s.insert name u).Each Q (vs ++ [(name, v)]) := by
  intro other w hw
  rw [get?_insert] at hw
  split at hw
  · next he =>
    obtain rfl := Option.some.inj hw
    rwa [he]
  · next hn => exact hQ.other vs other w name v (h other w hw) hn

lemma each_relocate (hQ : Kept Q) (h : s.Each Q vs) (d : Device) (p : ProgramHandle) : (s.relocate d p).Each Q vs := by
  intro name u hu
  obtain ⟨w, hw, rfl⟩ := Option.map_eq_some_iff.mp ((get?_map _ _ name).symm.trans hu)
  exact hQ.moved vs name w _ (h name w hw)

end UniformSet

lemma Kept.located {Q : Ledger → String → Uniform → Prop} (hQ : Kept Q) {vs : Ledger} {name : String} {u : Uniform}
    (h : Q vs name u) (d : Device) (p : ProgramHandle) : Q vs name (u.located d p name) := by
  unfold Uniform.located
  split
  · exact hQ.moved vs name u _ h
  · exact h

lemma commitEntries_each {Q : Ledger → String → Uniform → Prop} (hQ : Kept Q) {vs : Ledger}
    {es : List (String × Uniform)} (h : ∀ e ∈ es, Q vs e.1 e.2) (p : ProgramHandle) (unit : UInt32) (d : Device) :
    ∀ e ∈ (commitEntries p unit d es).2.2, Q vs e.1 e.2 := by
  refine commitEntries_walk (R := fun _ es _ es' => (∀ e ∈ es, Q vs e.1 e.2) → ∀ e ∈ es', Q vs e.1 e.2)
    (fun _ => id) ?_ ?_ unit d es h
  · intro name u k d es h
    obtain ⟨hu, hes⟩ := List.forall_mem_cons.mp h
    exact List.forall_mem_cons.mpr ⟨hQ.committed vs name _ k d (hQ.located hu d p), hes⟩
  · intro name u k d es d' es' ih h
    obtain ⟨hu, hes⟩ := List.forall_mem_cons.mp h
    exact List.forall_mem_cons.mpr ⟨hQ.committed vs name _ k d (hQ.located hu d p), ih hes⟩

namespace Scene

variable {x y : Scene} {vs l : Ledger} {Q : Ledger → String → Uniform → Prop}

open UniformSet

lemma each_commit (hQ : Kept Q) (h : x.uniforms.Each Q vs) (p : ProgramHandle) (d : Device) :
    (x.uniforms.commit p d).2.2.Each Q vs := fun name u hu =>
  commitEntries_each hQ (each_entries h) p 0 d (name, u) (mem_entries_iff.mpr hu)

lemma each_change (hQ : Kept Q) (hc : Change x l y) (h : x.uniforms.Each Q vs) : y.uniforms.Each Q (vs ++ l) := by
  cases hc with
  | noted | unbuilt | buffered | released | arranged | resolved =>
    rw [List.append_nil]
    exact h
  | adopted _ =>
    rw [List.append_nil]
    exact each_relocate hQ h _ _
  | @drawn p ended hp =>
    have hx := each_commit hQ h p (x.renderer.openFrame p)
    rw [List.append_nil]
    unfold Renderer.draw
    rcases hr : x.uniforms.commit p (x.renderer.openFrame p) with ⟨e | _, d, s⟩ <;> rw [hr] at hx <;> exact hx
  | @staged name u v hu => exact each_modify hQ h (hQ.staged vs name u v (h name u hu))
  | @stored name u v hu => exact each_modify hQ h (hQ.updated vs name u v x.device (h name u hu))
  | @inserted k location n v u name hu _ => exact each_insert hQ h (hQ.created vs name u k location n v hu)

lemma each_changes (hQ : Kept Q) (hc : Changes x l y) (h : x.uniforms.Each Q vs) : y.uniforms.Each Q (vs ++ l) :=
  hc.preserve (P := fun vs x => x.uniforms.Each Q vs) (fun _ _ _ _ => each_change hQ) h

lemma each_run (hQ : Kept Q) (h : x.uniforms.Each Q vs) (os : List Operation) :
    (x.run os).uniforms.Each Q (vs ++ x.accepted os) :=
  run_invariant (P := fun vs x => x.uniforms.Each Q vs) (fun _ _ _ _ => each_change hQ) os h

end Scene

end ShaderRunner

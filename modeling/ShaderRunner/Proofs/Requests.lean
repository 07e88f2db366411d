import ShaderRunner.Proofs.FailedCompile

/-!
Requests that a host makes to the device itself, between the operations of the renderer. They may name any handle; the
handles that the device gives out next are new all the same.
-/

namespace ShaderRunner

inductive Request
  | createShader (stage : Stage)
  | shaderSource (s : ShaderHandle) (source : String)
  | compileShader (s : ShaderHandle)
  | deleteShader (s : ShaderHandle)
  | createProgram
  | attachShader (p : ProgramHandle) (s : ShaderHandle)
  | linkProgram (p : ProgramHandle)
  | deleteProgram (p : ProgramHandle)
  | createBuffer
  | deleteBuffer (b : BufferHandle)
  | createTexture
  | deleteTexture (t : TextureHandle)
  /-- Any call that makes, changes and deletes no object. -/
  | note (c : Call)
  | clear
  | arrange (f : Faults)
  | resolve (name : String)

def Request.apply (q : Request) (d : Device) : Device :=
  match q with
  | createShader stage => (d.createShader stage).2
  | shaderSource s source => d.shaderSource s source
  | compileShader s => d.compileShader s
  | deleteShader s => d.deleteShader s
  | createProgram => d.createProgram.2
  | attachShader p s => d.attachShader p s
  | linkProgram p => d.linkProgram p
  | deleteProgram p => d.deleteProgram p
  | createBuffer => d.createBuffer.2
  | deleteBuffer b => d.deleteBuffer b
  | createTexture => d.createTexture.2
  | deleteTexture t => d.deleteTexture t
  | note c => d.record c
  | clear => d.clearCalls
  | arrange f => d.withFaults f
  | resolve name => d.resolveAlways name

def Request.created? (q : Request) (d : Device) : Option Handle :=
  match q with
  | createShader stage => (d.createShader stage).1.map .shader
  | createProgram => d.createProgram.1.map .program
  | createBuffer => d.createBuffer.1.map .buffer
  | createTexture => d.createTexture.1.map .texture
  | _ => none

namespace Device

variable {d d' : Device}

lemma Numbered.subset (h : d.Numbered) (hn : d.next ≤ d'.next)
    (hs : d'.shaders.map Prod.fst ⊆ d.shaders.map Prod.fst) (hp : d'.programs.map Prod.fst ⊆ d.programs.map Prod.fst) :
    d'.Numbered := h.mono hn (fun _ h => .inl (hs h)) fun _ h => .inl (hp h)

lemma Numbered.addProgram (h : d.Numbered) {p : ProgramHandle} {z : Program} (hn : d.next ≤ d'.next)
    (hp : d'.programs = d.programs ++ [(p, z)]) (hlt : p.id < d'.next) (hs : d'.shaders = d.shaders) :
    d'.Numbered := by
  refine h.mono hn (fun s hm => .inl (hs ▸ hm)) fun q hq => ?_
  rw [hp, List.map_append, List.mem_append] at hq
  refine hq.imp_right fun hq => ?_
  obtain rfl : q = p := by simpa using hq
  exact hlt

lemma Numbered.request (h : d.Numbered) (q : Request) : (q.apply d).Numbered := by
  cases q with
  | createShader stage =>
    rw [Request.apply, createShader]
    split
    · exact h
    · exact h.addShader (Nat.le_succ d.next) rfl (Nat.lt_succ_self d.next) rfl
  | createProgram =>
    rw [Request.apply, createProgram]
    split
    · exact h
    · exact h.addProgram (Nat.le_succ d.next) rfl (Nat.lt_succ_self d.next) rfl
  | createBuffer =>
    rw [Request.apply, createBuffer]
    split
    · exact h
    · exact h.subset (Nat.le_succ d.next) (List.Subset.refl _) (List.Subset.refl _)
  | createTexture =>
    rw [Request.apply, createTexture]
    split
    · exact h
    · exact h.subset (Nat.le_succ d.next) (List.Subset.refl _) (List.Subset.refl _)
  | shaderSource s source =>
    rw [Request.apply, shaderSource]
    cases d.shader? s with
    | none => exact h.subset (Nat.le_refl _) (List.Subset.refl _) (List.Subset.refl _)
    | some x =>
      have hk := map_fst_modify d.shaders s ({ · with source := source })
      exact h.subset (Nat.le_refl _) (List.Perm.of_eq hk).subset (List.Subset.refl _)
  | compileShader s =>
    have hk := map_fst_modify d.shaders s fun x => { x with compiled := (d.stageError x.stage).isNone }
    exact h.subset (Nat.le_refl _) (List.Perm.of_eq hk).subset (List.Subset.refl _)
  | attachShader p s =>
    have hk := map_fst_modify d.programs p fun x => { x with shaders := x.shaders ++ [s] }
    exact h.subset (Nat.le_refl _) (List.Subset.refl _) (List.Perm.of_eq hk).subset
  | linkProgram p =>
    exact h.subset (Nat.le_refl _) (List.Subset.refl _) (List.Perm.of_eq (map_fst_modify d.programs p d.linked)).subset
  | deleteShader s =>
    exact h.subset (Nat.le_refl _) (List.filter_sublist.map Prod.fst).subset (List.Subset.refl _)
  | deleteProgram p => exact h.deleteProgram p
  | deleteBuffer b => exact h.deleteBuffer b
  | deleteTexture t | note c | clear | arrange f =>
    exact h.subset (Nat.le_refl _) (List.Subset.refl _) (List.Subset.refl _)
  | resolve name =>
    obtain ⟨ns, he⟩ := d.resolveAlways_eq name
    rw [Request.apply, he]
    exact h.subset (Nat.le_refl _) (List.Subset.refl _) (List.Subset.refl _)

lemma created?_spec (q : Request) (d : Device) :
    q.created? d = none ∧ (q.apply d).next = d.next ∨
      ∃ h, q.created? d = some h ∧ h.id = d.next ∧ (q.apply d).next = d.next + 1 := by
  cases q with
  | createShader stage => rw [Request.created?, Request.apply, createShader]; split <;> simp [Handle.id]
  | createProgram => rw [Request.created?, Request.apply, createProgram]; split <;> simp [Handle.id]
  | createBuffer => rw [Request.created?, Request.apply, createBuffer]; split <;> simp [Handle.id]
  | createTexture => rw [Request.created?, Request.apply, createTexture]; split <;> simp [Handle.id]
  | shaderSource s source =>
    refine .inl ⟨rfl, ?_⟩
    rw [Request.apply, shaderSource]
    cases d.shader? s <;> rfl
  | resolve name =>
    obtain ⟨ns, he⟩ := d.resolveAlways_eq name
    exact .inl ⟨rfl, by rw [Request.apply, he]⟩
  | _ => exact .inl ⟨rfl, rfl⟩

lemma request_next (q : Request) (d : Device) : d.next ≤ (q.apply d).next := by
  rcases created?_spec q d with ⟨-, hn⟩ | ⟨h, -, -, hn⟩ <;> omega

end Device

namespace Renderer

/-- The renderers of all histories in which the operations, each with any set, alternate with requests to the
device. -/
inductive Driven : Renderer → Prop
  | new (label : String) (m : Mode) (size : Size) : Driven { label := label, device := { size := size }, mode := m }
  | operation {r : Renderer} (o : Operation) (s : UniformSet) : Driven r → Driven (o.apply ⟨r, s⟩).2.renderer
  | request {r : Renderer} (q : Request) : Driven r → Driven { r with device := q.apply r.device }

lemma Driven.numbered {r : Renderer} (h : r.Driven) : r.Numbered := by
  induction h with
  | new label m size => exact ⟨⟨by simp, by simp⟩, by simp⟩
  | @operation r o s _ ih =>
    have hc := Scene.apply_changes o ⟨r, s⟩
    exact @Scene.Changes.preserve _ _ _ (fun _ x => x.renderer.Numbered) (fun _ _ _ _ hc => Numbered.change hc) hc [] ih
  | @request r q _ ih =>
    exact ⟨ih.device.request q, fun p hp => Nat.lt_of_lt_of_le (ih.program p hp) (r.device.request_next q)⟩

end Renderer

end ShaderRunner

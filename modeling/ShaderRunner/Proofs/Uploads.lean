import ShaderRunner.Proofs.Acceptance
import ShaderRunner.Proofs.FrameCalls
import ShaderRunner.Proofs.Placement

namespace ShaderRunner

def Kind.upload? (k : Kind) (l : Location) (v : Value) : Option Call :=
  match k, v with
  | .int, .int n => some (.uniform1i l n)
  | .float, .float x => some (.uniform1f l x)
  | .float, .int n => some (.uniform1f l (Number.singleOfInt n.toInt))
  | .vec2, .vec2 w => some (.uniform2f l w.x w.y)
  | .vec3, .vec3 w => some (.uniform3f l w.x w.y w.z)
  | .vec4, .vec4 w => some (.uniform4f l w.x w.y w.z w.w)
  | .vec3Array, .points ws => some (.uniform3fv l (ws.flatMap Vec3.toList))
  | .vec3Array, .vec3 w => some (.uniform3fv l w.toList)
  | _, _ => none

structure Slot where
  name : String
  kind : Kind
  location : Location
  number : Nat

def samplersIn (es : List (String × Uniform)) : Nat := es.countP (·.2.kind.takesUnit)

def slotAt? (d : Device) (p : ProgramHandle) (all : List (String × Uniform)) (e : (String × Uniform) × Nat) :
    Option Slot :=
  if e.1.2.kind.bindable then
    (d.uniformLocation p e.1.1).map fun l => ⟨e.1.1, e.1.2.kind, l, samplersIn (all.take (e.2 + 1))⟩
  else none

def UniformSet.slots (s : UniformSet) (d : Device) (p : ProgramHandle) : List Slot :=
  s.entries.zipIdx.filterMap (slotAt? d p s.entries)

def Slot.call? (vs : Ledger) (c : Slot) : Option Call :=
  if c.kind = .sampler then some (.uniform1i c.location (Int32.ofNat c.number))
  else (vs.last? c.name).bind (c.kind.upload? c.location)

lemma Payload.upload?_ofValue {k : Kind} {v : Value} {q : Payload} (h : Payload.ofValue k v = .ok q) (l : Location) :
    ∃ c, q.upload? l = some c ∧ k.upload? l v = some c := by
  unfold ofValue at h
  split at h <;> simp only [Except.ok.injEq, reduceCtorEq] at h <;> subst h
  case h_8 w => exact ⟨_, rfl, by simp [Kind.upload?]⟩
  all_goals exact ⟨_, rfl, rfl⟩

namespace Device

variable {d d' : Device}

lemma uploads_record (d : Device) (c : Call) :
    (d.record c).uploads = d.uploads ++ [c].filter (·.uploadLocation?.isSome) :=
  uploads_of_log (log_record d c)

end Device

namespace Sampler

variable {d d' : Device} {s s' : Sampler}

lemma settle_uploads (h : s.settle d = (.ok s', d')) : d'.uploads = d.uploads := by
  rcases s.settle_cases d with hs | hs | ⟨i, s₁, d₁, -, -, hb, hs⟩ <;> rw [hs] at h
  · obtain rfl := (Prod.mk.inj h).2
    rfl
  · cases (Prod.mk.inj h).1
  · obtain rfl := (Prod.mk.inj h).2
    obtain ⟨t, d₂, -, h₁, h₂⟩ := build_log hb
    rw [h₂.uploads, Device.uploads_record, h₁.uploads]
    simp [Call.uploadLocation?]

lemma bind_uploads (s : Sampler) (unit : UInt32) (d : Device) : (s.bind unit d).uploads = d.uploads := by
  unfold bind
  split
  · rfl
  · split
    · rfl
    · simp [Device.uploads_record, Call.uploadLocation?]

end Sampler

namespace Uniform

variable {d d' : Device} {u u' : Uniform} {unit : UInt32}

def upload? (u : Uniform) (unit : UInt32) (l : Location) : Option Call :=
  if u.kind = .sampler then some (.uniform1i l unit.toInt32) else u.payload.upload? l

lemma uploadLocation?_upload? {l : Location} {c : Call} (h : u.upload? unit l = some c) :
    c.uploadLocation?.isSome = true := by
  unfold upload? at h
  split at h
  · obtain rfl := Option.some.inj h
    rfl
  · cases hp : u.payload <;> simp only [hp, Payload.upload?, Option.some.injEq, reduceCtorEq] at h <;> subst h <;> rfl

lemma upload?_congr (hk : u'.kind = u.kind) (hp : u.kind ≠ .sampler → u'.payload = u.payload) (unit : UInt32)
    (l : Location) : u'.upload? unit l = u.upload? unit l := by
  unfold upload?
  rw [hk]
  split
  · rfl
  · next h => rw [hp h]

lemma commit_uploads (h : u.commit unit d = (.ok (), d', u')) :
    d'.uploads = d.uploads ++ (u.location.bind (u.upload? unit)).toList := by
  by_cases hk : u.kind = .sampler
  · rw [commit_sampler hk] at h
    obtain ⟨s, s', d₁, -, hs, -, rfl⟩ := commitSampler_ok h
    rw [Sampler.bind_uploads, ← Sampler.settle_uploads hs]
    cases u.location with
    | none => simp
    | some l => simp [upload?, hk, Device.uploads_record, Call.uploadLocation?]
  · have hd := commit_value_device hk unit d
    rw [h] at hd
    have hup : u.upload? unit = fun l => u.payload.upload? l := by
      funext l
      simp [upload?, hk]
    rw [show d' = _ from hd, hup]
    cases hc : u.location.bind u.payload.upload? with
    | none => simp
    | some c =>
      obtain ⟨l, hl, hl'⟩ := Option.bind_eq_some_iff.mp hc
      have hu : u.upload? unit l = some c := (congrFun hup l).trans hl'
      simp [Device.uploads_record, uploadLocation?_upload? hu]

lemma commit_upload? (h : u.commit unit d = (.ok (), d', u')) : u'.upload? unit = u.upload? unit := by
  have hs := u.commit_shape unit d
  rw [h] at hs
  refine funext fun l => upload?_congr hs.kind (fun hk => ?_) unit l
  have hu := commit_of_kind hk unit d
  rw [h] at hu
  exact congrArg payload hu

lemma located_location {p : ProgramHandle} {name : String} (hb : u.kind.bindable = true)
    (hl : ∀ l, u.location = some l → d.uniformLocation p name = some l) :
    (u.located d p name).location = d.uniformLocation p name := by
  unfold located
  cases hu : u.location with
  | none => simp [hb]
  | some l => simp [hu, hl l hu]

end Uniform

section Entries

variable {d d' : Device} {p : ProgramHandle} {vs : Ledger} {es es' : List (String × Uniform)} {unit : UInt32}

def uploadsFrom (unit : UInt32) : List (String × Uniform) → List Call
  | [] => []
  | (_, u) :: es => (u.location.bind (u.upload? (u.unitAfter unit))).toList ++ uploadsFrom (u.unitAfter unit) es

lemma commitEntries_uploads (h : commitEntries p unit d es = (.ok (), d', es')) :
    d'.uploads = d.uploads ++ uploadsFrom unit es' := by
  induction es generalizing unit d es' with
  | nil =>
    obtain ⟨rfl, rfl⟩ := Prod.mk.inj (Prod.mk.inj h).2
    simp [uploadsFrom]
  | cons e es ih =>
    obtain ⟨d₁, u₁, es₁, hc, hs, hk, hr, rfl⟩ := commitEntries_cons_ok h
    rw [ih hr, Uniform.commit_uploads hc, List.append_assoc, uploadsFrom, hk, Uniform.commit_upload? hc,
      hs.location]

lemma commitEntries_located (hd : d.Places p es) (h : commitEntries p unit d es = (.ok (), d', es')) :
    ∀ e ∈ es', e.2.kind.bindable = true → e.2.location = d.uniformLocation p e.1 := by
  induction es generalizing unit d es' with
  | nil =>
    obtain ⟨-, rfl⟩ := Prod.mk.inj (Prod.mk.inj h).2
    simp
  | cons e es ih =>
    obtain ⟨hu, hes⟩ := Device.places_cons.mp hd
    obtain ⟨d₁, u₁, es₁, hc, hs, -, hr, rfl⟩ := commitEntries_cons_ok h
    have hf := (e.2.located d p e.1).commit_framed (e.2.unitAfter unit) d
    rw [hc] at hf
    refine List.forall_mem_cons.mpr ⟨fun hb => ?_, fun e' he' hb => ?_⟩
    · rw [hs.kind, Uniform.located_kind] at hb
      rw [hs.location]
      exact Uniform.located_location hb fun l hl => hu e (by simp) l hl
    · rw [ih (hes.congr (hf.uniformLocation p)) hr e' he' hb, hf.uniformLocation]

lemma unitAfter_samplersIn (a : List (String × Uniform)) (e : String × Uniform) :
    e.2.unitAfter (UInt32.ofNat (samplersIn a)) = UInt32.ofNat (samplersIn (a ++ [e])) := by
  by_cases hs : e.2.kind.takesUnit = true <;> simp [Uniform.unitAfter, samplersIn, List.countP_append, hs]

lemma uploads_slot {name : String} {u : Uniform} (hl : u.kind.bindable = true → u.location = d.uniformLocation p name)
    (hv : u.Carries vs name) (k : Nat) :
    (u.location.bind (u.upload? (UInt32.ofNat k))).toList.map some =
      (if u.kind.bindable then (d.uniformLocation p name).map (Slot.mk name u.kind · k) else none).toList.map
        (Slot.call? vs) := by
  by_cases hb : u.kind.bindable = true
  · rw [hl hb, if_pos hb]
    cases d.uniformLocation p name with
    | none => rfl
    | some l =>
      by_cases hk : u.kind = .sampler
      · simp [Uniform.upload?, Slot.call?, hk]
      · have hc : u.kind.carries = true := by
          cases hu : u.kind <;> rw [hu] at hk hb <;> first | rfl | contradiction
        obtain ⟨v, hw, hp⟩ := hv hc
        obtain ⟨c, hc₁, hc₂⟩ := Payload.upload?_ofValue hp l
        simp [Uniform.upload?, Slot.call?, hk, hw, hc₁, hc₂]
  · have hn : ∀ l, u.upload? (UInt32.ofNat k) l = none := by
      intro l
      unfold Uniform.upload? Uniform.kind at *
      cases hu : u.payload <;> simp_all [Payload.kind, Kind.bindable, Payload.upload?]
    rw [if_neg hb]
    cases u.location <;> simp [hn]

lemma uploadsFrom_slots (a : List (String × Uniform))
    (hl : ∀ e ∈ es, e.2.kind.bindable = true → e.2.location = d.uniformLocation p e.1)
    (hv : ∀ e ∈ es, e.2.Carries vs e.1) :
    (uploadsFrom (UInt32.ofNat (samplersIn a)) es).map some =
      ((es.zipIdx a.length).filterMap (slotAt? d p (a ++ es))).map (Slot.call? vs) := by
  induction es generalizing a with
  | nil => rfl
  | cons e es ih =>
    obtain ⟨hl₁, hl₂⟩ := List.forall_mem_cons.mp hl
    obtain ⟨hv₁, hv₂⟩ := List.forall_mem_cons.mp hv
    have ht : (a ++ e :: es).take (a.length + 1) = a ++ [e] := by simp [List.take_append, List.take_of_length_le]
    have hes := ih (a ++ [e]) hl₂ hv₂
    rw [List.length_append, List.length_singleton, List.append_assoc, List.singleton_append] at hes
    rw [uploadsFrom, unitAfter_samplersIn, List.map_append, uploads_slot hl₁ hv₁, hes, List.zipIdx_cons,
      List.filterMap_eq_flatMap_toList _ (_ :: _), List.flatMap_cons, List.map_append,
      ← List.filterMap_eq_flatMap_toList, slotAt?, ht]

end Entries

namespace Scene

/-- Every successful render of a run uploads what its set owes to the program in use, and no more. -/
theorem render_uploads (label : String) (m : Mode) (size : Size) (os : List Operation) (ended : Float32) :
    let x := (Scene.new label m size .empty).run os
    let y := ((Operation.render ended).apply x).2
    ((Operation.render ended).apply x).1 = .ok () →
      ∃ p frame, y.renderer.program = some p ∧ y.device.uploads = x.device.uploads ++ frame ∧
        frame.map some = (y.uniforms.slots y.device p).map
          (Slot.call? ((Scene.new label m size .empty).accepted os)) := by
  intro x y h
  have hn : (Scene.new label m size .empty).Owned := Owned.new label m size (by simp [UniformSet.empty])
  have ho : x.Owned := hn.run os
  have hp : x.Placed := (Placed.new label m size .empty).run hn os
  have hv₀ : (Scene.new label m size .empty).uniforms.Each Uniform.Carries [] := UniformSet.each_empty _ []
  have hv : x.uniforms.Each Uniform.Carries ((Scene.new label m size .empty).accepted os) :=
    each_run Uniform.carries_kept hv₀ os
  obtain ⟨z, p, d, s, hz, hpl, -, hprog, hc, hy⟩ := render_frame ho.tracked h
  have hzp := (hp.changes hz ho) p hprog
  have hzv : z.uniforms.Each Uniform.Carries ((Scene.new label m size .empty).accepted os) := by
    simpa using each_changes Uniform.carries_kept hz hv
  obtain ⟨hf, -⟩ := z.renderer.openFrame_framed p
  have hce := UniformSet.commit_entries hc
  have hf' := commitEntries_framed p 0 (z.renderer.openFrame p) z.uniforms.entries
  have hvs := commitEntries_each Uniform.carries_kept (UniformSet.each_entries hzv) p 0 (z.renderer.openFrame p)
  rw [hce] at hf' hvs
  have hl : ∀ e ∈ s.entries, e.2.kind.bindable = true → e.2.location = y.device.uniformLocation p e.1 := by
    intro e he hb
    rw [commitEntries_located (hzp.congr (hf.uniformLocation p)) hce e he hb, show y = _ from hy]
    exact ((hf'.record (.drawTriangles 0 6)).uniformLocation p e.1).symm
  have hu : y.uniforms = s := by rw [show y = _ from hy]
  refine ⟨p, uploadsFrom 0 s.entries, by rw [show y = _ from hy]; exact hprog, ?_, ?_⟩
  · have hd : d.uploads = x.device.uploads ++ uploadsFrom 0 s.entries := by
      rw [commitEntries_uploads hce, (hpl.trans (z.renderer.openFrame_plain p)).uploads]
    rw [show y = _ from hy, ← hd]
    simp [device, Device.uploads_record, Call.uploadLocation?]
  · rw [hu]
    exact uploadsFrom_slots [] hl hvs

/-- A number and two samplers, the first without a place. The frame before has made the first texture and was refused
the second. -/
theorem render_uploads_updated :
    let os : List Operation := [.insert "tex" .sampler .single (.image ⟨.host "a", ⟨2, 2⟩⟩),
      .insert "n" .int .single (.int 3), .insert "cut" .sampler .single (.image ⟨.host "b", ⟨2, 2⟩⟩),
      .compile "uniform int n; uniform sampler2D cut;", .update "n" (.int 4), .arrange { withheld := [6] }, .render 0,
      .arrange {}]
    let x := (Scene.new "scene" .default ⟨8, 8⟩ .empty).run os
    let y := ((Operation.render 0).apply x).2
    x.device.textures = [⟨5⟩] ∧ y.device.textures = [⟨5⟩, ⟨6⟩] ∧
      ∃ p frame, y.renderer.program = some p ∧ y.device.uploads = x.device.uploads ++ frame ∧
        frame.map some = (y.uniforms.slots y.device p).map
          (Slot.call? ((Scene.new "scene" .default ⟨8, 8⟩ .empty).accepted os)) := by
  intro os x y
  have ht : ((Operation.render 0).apply x).1.isOk = true ∧ x.device.textures = [⟨5⟩] ∧
      y.device.textures = [⟨5⟩, ⟨6⟩] := by decide +kernel
  exact ⟨ht.2.1, ht.2.2, render_uploads "scene" .default ⟨8, 8⟩ os 0 (ok_of_isOk ht.1)⟩

end Scene

end ShaderRunner

import ShaderRunner.Proofs.Lifetime
import ShaderRunner.Proofs.SetEntries
import ShaderRunner.Proofs.UniformShape

/-!
The textures that a set holds are alive and distinct, and an update or a commit keeps them so: the texture that it
replaces is deleted when no uniform names it any more.
-/

namespace ShaderRunner

def Uniform.texture? (u : Uniform) : Option TextureHandle := u.sampler?.bind (·.texture)

def heldBy (es : List (String × Uniform)) : List TextureHandle := es.filterMap (·.2.texture?)

namespace Device

structure Backs (d : Device) (ts : List TextureHandle) : Prop where
  nodup : ts.Nodup
  alive : ∀ t ∈ ts, t ∈ d.textures

structure Framed (d d' : Device) : Prop where
  next : d.next ≤ d'.next
  shaders : d'.shaders = d.shaders
  programs : d'.programs = d.programs
  buffers : d'.buffers = d.buffers
  extra : d'.extra = d.extra

variable {d d' d'' : Device} {ts A : List TextureHandle} {t : TextureHandle}

lemma Framed.refl (d : Device) : d.Framed d := ⟨Nat.le_refl _, rfl, rfl, rfl, rfl⟩

lemma Framed.record (h : d.Framed d') (c : Call) : d.Framed (d'.record c) :=
  ⟨h.next, h.shaders, h.programs, h.buffers, h.extra⟩

lemma Framed.trans (h : d.Framed d') (h' : d'.Framed d'') : d.Framed d'' :=
  ⟨Nat.le_trans h.next h'.next, h'.shaders.trans h.shaders, h'.programs.trans h.programs,
    h'.buffers.trans h.buffers, h'.extra.trans h.extra⟩

lemma Backs.perm (h : d.Backs ts) {us : List TextureHandle} (hp : ts.Perm us) : d.Backs us :=
  ⟨hp.nodup_iff.mp h.nodup, fun t ht => h.alive t (hp.mem_iff.mpr ht)⟩

lemma Backs.sublist (h : d.Backs ts) {us : List TextureHandle} (hs : us.Sublist ts) : d.Backs us :=
  ⟨hs.nodup h.nodup, fun t ht => h.alive t (hs.subset ht)⟩

lemma Backs.of_textures (h : d.Backs ts) (ht : d'.textures = d.textures) : d'.Backs ts :=
  ⟨h.nodup, by simpa only [ht] using h.alive⟩

lemma backs_snoc : d.Backs (A ++ [t]) ↔ d.Backs A ∧ t ∉ A ∧ t ∈ d.textures := by
  constructor
  · rintro ⟨hn, ha⟩
    have hd := (List.nodup_append.mp hn).2.2
    refine ⟨⟨(List.nodup_append.mp hn).1, fun x hx => ha x (by simp [hx])⟩, fun ht => ?_, ha t (by simp)⟩
    exact hd t ht t (by simp) rfl
  · rintro ⟨h, hA, ht⟩
    refine ⟨List.nodup_append.mpr ⟨h.nodup, by simp, ?_⟩, fun x hx => ?_⟩
    · rintro x hx y hy rfl
      exact hA (List.mem_singleton.mp hy ▸ hx)
    · rcases List.mem_append.mp hx with hx | hx
      · exact h.alive x hx
      · exact List.mem_singleton.mp hx ▸ ht

def Renews (ts ts' : List TextureHandle) (d d' : Device) : Prop :=
  d.Tracked → ∀ A, d.Backs (A ++ ts) → d'.Tracked ∧ d'.Backs (A ++ ts')

namespace Renews

variable {ts' ts'' : List TextureHandle}

lemma refl (ts : List TextureHandle) (d : Device) : Renews ts ts d d := fun hd _ h => ⟨hd, h⟩

lemma trans (h : Renews ts ts' d d') (h' : Renews ts' ts'' d' d'') : Renews ts ts'' d d'' := by
  intro hd A hA
  obtain ⟨hd', hA'⟩ := h hd A hA
  exact h' hd' A hA'

lemma append_left (h : Renews ts ts' d d') (us : List TextureHandle) : Renews (us ++ ts) (us ++ ts') d d' := by
  intro hd A hA
  rw [← List.append_assoc] at hA ⊢
  exact h hd _ hA

lemma append_right (h : Renews ts ts' d d') (us : List TextureHandle) : Renews (ts ++ us) (ts' ++ us) d d' := by
  intro hd A hA
  obtain ⟨hd', hA'⟩ := h.append_left us hd A (hA.perm (List.perm_append_comm.append_left A))
  exact ⟨hd', hA'.perm (List.perm_append_comm.append_left A)⟩

lemma record {c : Call} (hc : c.created? = none) (hdel : c.deleted? = none)
    (hu : ∀ h ∈ c.used, ∃ t ∈ ts, h = .texture t) : Renews ts ts d (d.record c) := by
  intro hd A hA
  refine ⟨hd.record hc hdel fun h hh => ?_, hA.of_textures rfl⟩
  obtain ⟨t, ht, rfl⟩ := hu h hh
  exact hA.alive t (List.mem_append_right A ht)

end Renews

lemma makeTexture_framed (d : Device) (size : Size) : d.Framed (d.makeTexture size).2 := by
  unfold makeTexture createTexture
  by_cases hr : d.refuses .texture = true
  · simp only [hr, if_true]
    exact .refl d
  · simp only [hr, Bool.false_eq_true, if_false]
    constructor <;> simp

lemma makeTexture_spec (hd : d.Tracked) {size : Size} (h : d.makeTexture size = (some t, d')) :
    d'.Tracked ∧ d.next ≤ t.id ∧ d'.textures = d.textures ++ [t] := by
  have ht := hd.createTexture
  unfold makeTexture createTexture at h
  unfold createTexture at ht
  by_cases hr : d.refuses .texture = true
  · simp [hr] at h
  · simp only [hr, Bool.false_eq_true, if_false, Prod.mk.injEq, Option.some.injEq] at h ht
    obtain ⟨rfl, rfl⟩ := h
    refine ⟨?_, Nat.le_refl _, by simp⟩
    refine (((ht.record rfl rfl ?_).record rfl rfl ?_).record rfl rfl ?_).record rfl rfl ?_ <;>
      simp [Call.used, Holds]

lemma makeTexture_none {size : Size} (h : d.makeTexture size = (none, d')) : d' = d := by
  unfold makeTexture createTexture at h
  by_cases hr : d.refuses .texture = true
  · simpa [hr, eq_comm] using h
  · simp [hr] at h

end Device

open Device (Framed Renews)

variable {d d' : Device}

namespace Sampler

variable {s s' : Sampler} {i : Image}

lemma build_none (h : s.build i d = (none, d')) : d' = d := by
  unfold build at h
  rcases hm : d.makeTexture (i.size.normalized 0) with ⟨_ | t, d₁⟩
  · obtain rfl := Device.makeTexture_none hm
    simpa [hm, eq_comm] using h
  · simp [hm] at h

lemma build_some (h : s.build i d = (some s', d')) :
    ∃ t d₁, d.makeTexture (i.size.normalized 0) = (some t, d₁) ∧
      s' = { s with texture := some t, built := some i } ∧
      (s.texture = none ∧ d' = d₁ ∨ ∃ old, s.texture = some old ∧ d' = d₁.deleteTexture old) := by
  unfold build at h
  rcases hm : d.makeTexture (i.size.normalized 0) with ⟨_ | t, d₁⟩
  · simp [hm] at h
  · simp only [hm, Prod.mk.injEq, Option.some.injEq] at h
    obtain ⟨rfl, rfl⟩ := h
    refine ⟨t, d₁, rfl, rfl, ?_⟩
    cases hs : s.texture with
    | none => exact .inl ⟨rfl, rfl⟩
    | some old => exact .inr ⟨old, rfl, rfl⟩

lemma build_framed (s : Sampler) (i : Image) (d : Device) : d.Framed (s.build i d).2 := by
  rcases hb : s.build i d with ⟨_ | s', d'⟩
  · rw [build_none hb]
    exact .refl d
  · obtain ⟨t, d₁, hm, -, hd⟩ := build_some hb
    have hf := d.makeTexture_framed (i.size.normalized 0)
    rw [hm] at hf
    rcases hd with ⟨-, rfl⟩ | ⟨old, -, rfl⟩
    · exact hf
    · exact hf.trans ⟨Nat.le_refl _, rfl, rfl, rfl, rfl⟩

lemma build_renews (h : s.build i d = (some s', d')) : Renews s.texture.toList s'.texture.toList d d' := by
  intro hd A hh
  obtain ⟨t, d₁, hm, rfl, hs⟩ := build_some h
  obtain ⟨ht, hn, htx⟩ := Device.makeTexture_spec hd hm
  have hnew : t ∉ d.textures := hd.fresh (h := .texture t) hn
  have hA : t ∉ A := fun ha => hnew (hh.alive t (by simp [ha]))
  rcases hs with ⟨hs, rfl⟩ | ⟨old, hs, rfl⟩
  · rw [hs, Option.toList_none, List.append_nil] at hh
    refine ⟨ht, Device.backs_snoc.mpr ⟨⟨hh.nodup, fun x hx => ?_⟩, hA, by simp [htx]⟩⟩
    simp [htx, hh.alive x hx]
  · rw [hs] at hh
    obtain ⟨hb, hoA, hold⟩ := Device.backs_snoc.mp hh
    have hne : t ≠ old := fun e => hnew (e ▸ hold)
    refine ⟨ht.deleteTexture (by simp [Device.Holds, htx, hold]),
      Device.backs_snoc.mpr ⟨⟨hb.nodup, fun x hx => ?_⟩, hA, ?_⟩⟩
    · have hx' : x ≠ old := fun e => hoA (e ▸ hx)
      simp [Device.deleteTexture, htx, hb.alive x hx, hx']
    · simp [Device.deleteTexture, htx, hne]

lemma settle_cases (s : Sampler) (d : Device) :
    (s.settle d = (.ok { s with pending := none }, d)) ∨ (s.settle d = (.error (.refused .texture), d)) ∨
      ∃ i s' d', s.pending = some i ∧ s.isBuiltFrom i = false ∧ s.build i d = (some s', d') ∧
        s.settle d = (.ok { s' with pending := none }, d') := by
  cases hp : s.pending with
  | none =>
    have hs : { s with pending := none } = s := by rw [← hp]
    exact .inl (by simp only [settle, hp, hs])
  | some i =>
    by_cases hi : s.isBuiltFrom i = true
    · exact .inl (by simp [settle, hp, hi])
    · rcases hb : s.build i d with ⟨_ | s', d'⟩
      · obtain rfl := build_none hb
        exact .inr (.inl (by simp [settle, hp, hi, hb]))
      · exact .inr (.inr ⟨i, s', d', rfl, by simpa using hi, hb, by simp [settle, hp, hi, hb]⟩)

lemma settle_framed (s : Sampler) (d : Device) : d.Framed (s.settle d).2 := by
  rcases s.settle_cases d with h | h | ⟨i, s', d', -, -, hb, h⟩ <;> rw [h]
  · exact .refl d
  · exact .refl d
  · have hf := s.build_framed i d
    rwa [hb] at hf

lemma settle_renews {a : Except Failure Sampler} (h : s.settle d = (a, d')) :
    match a with
    | .ok s' => Renews s.texture.toList s'.texture.toList d d'
    | .error _ => d' = d := by
  rcases s.settle_cases d with hs | hs | ⟨i, s₁, d₁, -, -, hb, hs⟩ <;>
    obtain ⟨rfl, rfl⟩ := Prod.mk.inj (h.symm.trans hs)
  · exact .refl _ _
  · rfl
  · have h : Renews s.texture.toList s₁.texture.toList d d' := build_renews hb
    exact h

lemma bind_framed (s : Sampler) (unit : UInt32) (d : Device) : d.Framed (s.bind unit d) := by
  unfold bind
  split
  · exact .refl d
  · split
    · exact .refl d
    · exact ((Framed.refl d).record _).record _

lemma bind_renews (s : Sampler) (unit : UInt32) (d : Device) :
    Renews s.texture.toList s.texture.toList d (s.bind unit d) := by
  unfold bind
  split
  · exact .refl _ _
  · cases hs : s.texture with
    | none => exact .refl _ _
    | some t =>
      exact (Renews.record rfl rfl (by simp [Call.used])).trans (.record rfl rfl (by simp [Call.used]))

end Sampler

namespace Uniform

variable {u : Uniform}

lemma texture?_sampler (s : Sampler) (l : Option Location) (n : Length) :
    texture? ⟨l, n, .sampler s⟩ = s.texture := rfl

lemma texture?_of_sampler {s : Sampler} (h : u.sampler? = some s) : u.texture? = s.texture := by
  simp [texture?, h]

lemma texture?_of_kind (hk : u.kind ≠ .sampler) : u.texture? = none := by
  rw [texture?, sampler?_of_kind hk, Option.bind_none]

@[simp] lemma located_texture? (u : Uniform) (d : Device) (p : ProgramHandle) (name : String) :
    (u.located d p name).texture? = u.texture? := by
  simp [texture?, sampler?]

lemma commitSampler_renews (u : Uniform) (unit : UInt32) (d : Device) :
    Renews u.texture?.toList (u.commitSampler unit d).2.2.texture?.toList d (u.commitSampler unit d).2.1 := by
  unfold commitSampler
  cases hs : u.sampler? with
  | none => exact .refl _ _
  | some s =>
    rw [texture?_of_sampler hs]
    rcases hc : s.settle d with ⟨e | s', d₁⟩
    · have hd : d₁ = d := Sampler.settle_renews hc
      simpa only [hc, hd, texture?_of_sampler hs] using Renews.refl _ d
    · have h := Sampler.settle_renews hc
      simp only [hc, texture?_sampler]
      refine h.trans (.trans ?_ (s'.bind_renews unit _))
      split
      · exact .record rfl rfl (by simp [Call.used])
      · exact .refl _ _

lemma commit_value (hk : u.kind ≠ .sampler) (unit : UInt32) (d : Device) :
    u.commit unit d = (.ok (), (u.location.bind u.payload.upload?).elim d d.record, u) := by
  unfold kind at hk
  cases hl : u.location <;> cases hp : u.payload <;>
    simp_all [commit, commitAs, commitValue, kind, Payload.kind, Payload.upload?]

lemma commit_value_device (hk : u.kind ≠ .sampler) (unit : UInt32) (d : Device) :
    (u.commit unit d).2.1 = (u.location.bind u.payload.upload?).elim d d.record := by
  rw [commit_value hk]

lemma upload?_object {c : Call} (h : u.location.bind u.payload.upload? = some c) :
    c.created? = none ∧ c.deleted? = none ∧ c.used = [] := by
  obtain ⟨l, -, hc⟩ := Option.bind_eq_some_iff.mp h
  cases hp : u.payload <;> simp only [hp, Payload.upload?, Option.some.injEq, reduceCtorEq] at hc <;>
    subst hc <;> exact ⟨rfl, rfl, rfl⟩

lemma commit_framed (u : Uniform) (unit : UInt32) (d : Device) : d.Framed (u.commit unit d).2.1 := by
  by_cases hk : u.kind = .sampler
  · rw [commit_sampler hk, commitSampler]
    cases hs : u.sampler? with
    | none => exact .refl d
    | some s =>
      have hf := s.settle_framed d
      rcases hc : s.settle d with ⟨e | s', d₁⟩ <;> rw [hc] at hf <;> simp only [hc]
      · exact hf
      · refine Framed.trans ?_ (s'.bind_framed unit _)
        split
        · exact hf.record _
        · exact hf
  · rw [commit_value_device hk]
    cases u.location.bind u.payload.upload? with
    | none => exact .refl d
    | some c => exact (Framed.refl d).record c

lemma commit_renews (u : Uniform) (unit : UInt32) (d : Device) :
    Renews u.texture?.toList (u.commit unit d).2.2.texture?.toList d (u.commit unit d).2.1 := by
  by_cases hk : u.kind = .sampler
  · rw [commit_sampler hk]
    exact u.commitSampler_renews unit d
  · rw [commit_of_kind hk, texture?_of_kind hk, commit_value_device hk]
    cases hc : u.location.bind u.payload.upload? with
    | none => exact .refl _ _
    | some c =>
      obtain ⟨hn, hdel, hu⟩ := upload?_object hc
      exact .record hn hdel (by simp [hu])

lemma stage_texture? (u : Uniform) (v : Value) : (u.stage v).2.texture? = u.texture? := by
  by_cases hk : u.kind = .sampler
  · rw [stage, hk, stageAs, stageImage]
    split
    · rfl
    · next h =>
      rw [texture?_of_sampler (imageUpdate_ok h).2]
      split <;> rfl
  · rw [texture?_of_kind hk, texture?_of_kind]
    rwa [(u.stage_shape v).kind]

lemma storeImage_renews (u : Uniform) (v : Value) (d : Device) :
    Renews u.texture?.toList (u.storeImage v d).2.2.texture?.toList d (u.storeImage v d).2.1 := by
  unfold storeImage
  rcases hu : u.imageUpdate v with e | ⟨s, i⟩
  · exact .refl _ _
  · have hs := texture?_of_sampler (imageUpdate_ok hu).2
    dsimp only
    split
    · rw [hs]
      exact .refl _ _
    · rcases hb : s.build i d with ⟨_ | s', d'⟩
      · rw [Sampler.build_none hb]
        exact .refl _ _
      · have h : Renews s.texture.toList s'.texture.toList d d' := Sampler.build_renews hb
        rwa [hs]

lemma update_framed (u : Uniform) (v : Value) (d : Device) : d.Framed (u.update v d).2.1 := by
  by_cases hk : u.kind = .sampler
  · rw [update_sampler hk, storeImage]
    split
    · exact .refl d
    · next s i _ =>
      split
      · exact .refl d
      · have hf := s.build_framed i d
        rcases hb : s.build i d with ⟨_ | s', d'⟩ <;> rw [hb] at hf <;> exact hf
  · rw [update_of_kind hk]
    exact .refl d

lemma update_renews (u : Uniform) (v : Value) (d : Device) :
    Renews u.texture?.toList (u.update v d).2.2.texture?.toList d (u.update v d).2.1 := by
  by_cases hk : u.kind = .sampler
  · rw [update_sampler hk]
    exact u.storeImage_renews v d
  · rw [update_of_kind hk, stage_texture?]
    exact .refl _ _

lemma create_texture? {k : Kind} {l : Option Location} {n : Length} {v : Value} (h : create k l n v = .ok u) :
    u.texture? = none := by
  rcases create_ok h with ⟨i, rfl⟩ | ⟨t, rfl⟩ | rfl | ⟨p, hp, rfl⟩
  · rfl
  · rfl
  · rfl
  · obtain ⟨hk, hc⟩ := Payload.ofValue_ok hp
    refine texture?_of_kind fun hs => ?_
    have hp' : p.kind = .sampler := hs
    rw [← hk, hp'] at hc
    contradiction

end Uniform

section Entries

variable {u u' : Uniform} {es : List (String × Uniform)}

lemma heldBy_cons (e : String × Uniform) (es : List (String × Uniform)) :
    heldBy (e :: es) = e.2.texture?.toList ++ heldBy es := by
  cases h : e.2.texture? <;> simp [heldBy, h]

lemma heldBy_append (a b : List (String × Uniform)) : heldBy (a ++ b) = heldBy a ++ heldBy b :=
  List.filterMap_append ..

lemma renews_entry (h : Renews u.texture?.toList u'.texture?.toList d d') (a b : List (String × Uniform))
    (name : String) : Renews (heldBy (a ++ (name, u) :: b)) (heldBy (a ++ (name, u') :: b)) d d' := by
  simp only [heldBy_append, heldBy_cons]
  exact (h.append_right _).append_left _

lemma commitEntries_framed (p : ProgramHandle) (unit : UInt32) (d : Device) (es : List (String × Uniform)) :
    d.Framed (commitEntries p unit d es).2.1 := by
  refine commitEntries_walk (R := fun d _ d' _ => d.Framed d') .refl ?_ ?_ unit d es
  · exact fun name u k d _ => (u.located d p name).commit_framed k d
  · exact fun name u k d _ _ _ ih => ((u.located d p name).commit_framed k d).trans ih

lemma commitEntries_renews (p : ProgramHandle) (unit : UInt32) (d : Device) (es : List (String × Uniform)) :
    Renews (heldBy es) (heldBy (commitEntries p unit d es).2.2) d (commitEntries p unit d es).2.1 := by
  have hcommit (name : String) (u : Uniform) (k : UInt32) (d : Device) :=
    u.located_texture? d p name ▸ (u.located d p name).commit_renews k d
  refine commitEntries_walk (R := fun d es d' es' => Renews (heldBy es) (heldBy es') d d') (.refl _) ?_ ?_ unit d es
  · intro name u k d es
    simp only [heldBy_cons]
    exact (hcommit name u k d).append_right _
  · intro name u k d es d' es' ih
    simp only [heldBy_cons]
    exact ((hcommit name u k d).append_right _).trans (ih.append_left _)

end Entries

end ShaderRunner

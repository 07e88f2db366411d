import Mathlib.Data.List.Induction
import ShaderRunner.Proofs.Run
import ShaderRunner.Proofs.TextureUnits

/-!
A step that is about an image settles the sampler: the image waits no longer if the texture held was built from it,
and is built otherwise, unless the device refuses.
-/

namespace ShaderRunner

def Value.image? : Value → Option Image
  | .image i => some i
  | _ => Option.none

lemma Value.eq_image {v : Value} {i : Image} (h : v.image? = some i) : v = .image i := by
  cases v <;> first | contradiction | exact congrArg _ (Option.some.inj h)

/-- A uniform on a device; `given` is the image of the last update that was accepted, or else of its creation. -/
structure Sampling where
  device : Device
  uniform : Uniform
  given : Option Image

inductive SamplerStep
  | stage (v : Value)
  | update (v : Value)
  | commit (unit : UInt32)
  | arrange (f : Faults)

namespace SamplerStep

def apply (o : SamplerStep) (x : Sampling) : Attempt Unit Sampling :=
  match o with
  | .stage v =>
    let a := x.uniform.stage v
    (a.1.map fun _ => (), ⟨x.device, a.2, if a.1.isOk then v.image? else x.given⟩)
  | .update v =>
    let a := x.uniform.update v x.device
    (a.1.map fun _ => (), ⟨a.2.1, a.2.2, if a.1.isOk then v.image? else x.given⟩)
  | .commit unit =>
    let a := x.uniform.commit unit x.device
    (a.1, ⟨a.2.1, a.2.2, x.given⟩)
  | .arrange f => (.ok (), { x with device := x.device.withFaults f })

def image? (o : SamplerStep) (s : Sampler) : Option Image :=
  match o with
  | .update v => v.image?
  | .commit _ => s.pending
  | _ => none

def wanted? (o : SamplerStep) (s : Sampler) : Option Image :=
  (o.image? s).filter fun i => s.built.all fun j => j.identity ≠ i.identity

end SamplerStep

def Sampling.run (x : Sampling) (os : List SamplerStep) : Sampling := os.foldl (fun x o => (o.apply x).2) x

def Device.makingOf (t : TextureHandle) (size : Size) : List Call :=
  [.createTexture t, .bindTexture2d (some t), .textureWrap .clampToEdge, .textureFilter .linear, .texImage2d size]

namespace Sampler

variable {s s' : Sampler} {d d' : Device} {i : Image}

lemma build_refused (s : Sampler) (i : Image) (h : d.refuses .texture = true) : s.build i d = (none, d) := by
  rw [build, Device.makeTexture, Device.createTexture, if_pos h]

lemma build_made (s : Sampler) (i : Image) (h : d.refuses .texture = false) :
    ∃ t d', s.build i d = (some { s with texture := some t, built := some i }, d') ∧
      d'.log = d.log ++ (Device.makingOf t (i.size.normalized 0) ++ s.texture.toList.map .deleteTexture) := by
  obtain ⟨t, d₁, hm⟩ : ∃ t d₁, d.makeTexture (i.size.normalized 0) = (some t, d₁) := by
    rw [Device.makeTexture, Device.createTexture, if_neg (by simp [h])]
    exact ⟨_, _, rfl⟩
  have hl := Device.makeTexture_log hm
  refine ⟨t, _, by rw [build, hm], ?_⟩
  cases s.texture with
  | none => exact hl
  | some old =>
    have hd : (d₁.deleteTexture old).log = d₁.log ++ [.deleteTexture old] := Device.log_record _ _
    rw [hd, hl, List.append_assoc]
    rfl

def unbuilt? (s : Sampler) : Option Image := s.pending.filter fun i => !s.isBuiltFrom i

inductive Settles (s : Sampler) (d : Device) : Except Failure Sampler × Device → Prop
  | idle (h : s.unbuilt? = none) : Settles s d (.ok { s with pending := none }, d)
  | refused {i : Image} (h : s.unbuilt? = some i) (hr : d.refuses .texture = true) :
      Settles s d (.error (.refused .texture), d)
  | built {i : Image} {t : TextureHandle} {d' : Device} (h : s.unbuilt? = some i) (hr : d.refuses .texture = false)
      (hl : d'.log = d.log ++ (Device.makingOf t (i.size.normalized 0) ++ s.texture.toList.map .deleteTexture)) :
      Settles s d (.ok ⟨some i, some t, none⟩, d')

lemma settles (s : Sampler) (d : Device) : s.Settles d (s.settle d) := by
  rw [settle]
  cases hp : s.pending with
  | none =>
    have hs : s = { s with pending := none } := by rw [← hp]
    have h := Settles.idle (s := s) (d := d) (by rw [unbuilt?, hp]; rfl)
    rwa [← hs] at h
  | some i =>
    dsimp only
    by_cases hb : s.isBuiltFrom i = true
    · rw [if_pos hb]
      exact .idle (by simp [unbuilt?, hp, Option.filter, hb])
    · have hw : s.unbuilt? = some i := by simp [unbuilt?, hp, Option.filter, hb]
      rw [if_neg hb]
      cases hr : d.refuses .texture with
      | true =>
        rw [build_refused s i hr]
        exact .refused hw hr
      | false =>
        obtain ⟨t, d', h, hl⟩ := build_made s i hr
        rw [h]
        exact .built hw hr hl

lemma built_of_isBuiltFrom (h : s.isBuiltFrom i = true) : ∃ j, s.built = some j ∧ j.identity = i.identity := by
  rw [isBuiltFrom, Bool.and_eq_true, Option.any_eq_true] at h
  obtain ⟨-, j, hj, hi⟩ := h
  exact ⟨j, hj, by simpa using hi⟩

lemma Sound.isBuiltFrom (h : s.Sound) (i : Image) :
    (!s.isBuiltFrom i) = s.built.all fun j => decide (j.identity ≠ i.identity) := by
  rw [Sampler.isBuiltFrom, h]
  cases s.built with
  | none => rfl
  | some j => by_cases hj : j.identity = i.identity <;> simp [hj]

lemma settle_image? (h : s.settle d = (.ok s', d')) : s'.image?.map (·.identity) = s.image?.map (·.identity) := by
  have hs := s.settles d
  rw [h] at hs
  cases hs with
  | idle hn =>
    cases hp : s.pending with
    | none => simp [image?, hp]
    | some i =>
      obtain ⟨j, hj, hi⟩ := built_of_isBuiltFrom (i := i) (by simpa [unbuilt?, hp, Option.filter] using hn)
      simp [image?, hp, hj, hi]
  | built hw _ _ =>
    have hp := (Option.filter_eq_some_iff.mp hw).1
    simp [image?, hp]

lemma settle_log (hb : s.Sound) (h : s.settle d = (.ok s', d')) :
    s'.pending = none ∧ s'.Sound ∧ ∃ cs, d'.log = d.log ++ cs := by
  have hs := s.settles d
  rw [h] at hs
  cases hs with
  | idle _ => exact ⟨rfl, hb, [], (List.append_nil _).symm⟩
  | built _ _ hl => exact ⟨rfl, rfl, _, hl⟩

lemma bind_log (hs : s.Sound) (unit : UInt32) (d : Device) : (s.bind unit d).log =
    d.log ++ s.texture.toList.flatMap fun t => [.activeTexture unit, .bindTexture2d (some t)] := by
  rw [bind_eq hs]
  cases s.texture <;> simp

end Sampler

namespace Uniform

variable {u : Uniform} {s : Sampler}

lemma value_image? (hs : u.sampler? = some s) : u.value.image? = s.image? := by
  rw [value, payload_of_sampler? hs, Payload.value]
  cases s.image? <;> rfl

lemma imageUpdate_image (hs : u.sampler? = some s) (i : Image) : u.imageUpdate (.image i) = .ok (s, i) := by
  rw [imageUpdate, hs]

lemma imageUpdate_other {v : Value} (hv : v.image? = none) (u : Uniform) :
    u.imageUpdate v = .error (.valueMismatch .sampler v) := by
  cases v <;> first | rfl | contradiction

lemma update_image (hs : u.sampler? = some s) (i : Image) (d : Device) : ∃ o, u.update (.image i) d =
    match Sampler.settle { s with pending := some i } d with
    | (.error e, d) => (.error e, d, u)
    | (.ok s', d) => (.ok o, d, { u with payload := .sampler s' }) := by
  rw [update_sampler (kind_of_sampler? hs), storeImage, imageUpdate_image hs, Sampler.settle]
  dsimp only
  by_cases hb : s.isBuiltFrom i = true
  · have hb' : Sampler.isBuiltFrom { s with pending := some i } i = true := hb
    rw [if_pos hb, if_pos hb']
    exact ⟨_, rfl⟩
  · have hb' : ¬ Sampler.isBuiltFrom { s with pending := some i } i = true := hb
    rw [if_neg hb, if_neg hb', Sampler.build, Sampler.build]
    rcases d.makeTexture (i.size.normalized 0) with ⟨_ | t, d'⟩ <;> exact ⟨.applied, rfl⟩

lemma stage_image (hs : u.sampler? = some s) (i : Image) : ∃ o s',
    u.stage (.image i) = (.ok o, { u with payload := .sampler s' }) ∧ s'.texture = s.texture ∧ s'.built = s.built ∧
      s'.image?.map (·.identity) = some i.identity := by
  rw [stage, kind_of_sampler? hs, stageAs, stageImage, imageUpdate_image hs]
  dsimp only
  by_cases hb : s.isBuiltFrom i = true
  · obtain ⟨j, hj, hi⟩ := Sampler.built_of_isBuiltFrom hb
    rw [if_pos hb]
    exact ⟨_, _, rfl, rfl, rfl, by simp [Sampler.image?, hj, hi]⟩
  · rw [if_neg hb]
    exact ⟨_, _, rfl, rfl, rfl, by simp [Sampler.image?]⟩

lemma stage_other {v : Value} (hs : u.sampler? = some s) (hv : v.image? = none) :
    u.stage v = (.error (.valueMismatch .sampler v), u) := by
  rw [stage, kind_of_sampler? hs, stageAs, stageImage, imageUpdate_other hv]

lemma update_other {v : Value} (hs : u.sampler? = some s) (hv : v.image? = none) (d : Device) :
    u.update v d = (.error (.valueMismatch .sampler v), d, u) := by
  rw [update_sampler (kind_of_sampler? hs), storeImage, imageUpdate_other hv]

end Uniform

namespace Device

def Exchanges (new old : List TextureHandle) (d d' : Device) : Prop :=
  ∃ cs, d'.log = d.log ++ cs ∧ cs.filterMap Call.created? = new.map .texture ∧
    cs.filterMap Call.deleted? = old.map .texture

variable {d d' d'' : Device} {new old : List TextureHandle}

lemma Exchanges.of_log (h : d'.log = d.log) : Exchanges [] [] d d' := ⟨[], by rw [h, List.append_nil], rfl, rfl⟩

lemma Exchanges.append (h : Exchanges new old d d') {cs : List Call} (hl : d''.log = d'.log ++ cs)
    (hc : cs.filterMap Call.created? = []) (hd : cs.filterMap Call.deleted? = []) : Exchanges new old d d'' := by
  obtain ⟨bs, hb, hcb, hdb⟩ := h
  refine ⟨bs ++ cs, by rw [hl, hb, List.append_assoc], ?_, ?_⟩
  · rw [List.filterMap_append, hcb, hc, List.append_nil]
  · rw [List.filterMap_append, hdb, hd, List.append_nil]

lemma Exchanges.of_making {t : TextureHandle} {size : Size}
    (h : d'.log = d.log ++ (makingOf t size ++ old.map .deleteTexture)) : Exchanges [t] old d d' := by
  have hc : (old.map Call.deleteTexture).filterMap Call.created? = [] := by simp [List.filterMap_map, Call.created?]
  have hd : (old.map Call.deleteTexture).filterMap Call.deleted? = old.map .texture := by
    have he : Call.deleted? ∘ Call.deleteTexture = some ∘ Handle.texture := rfl
    rw [List.filterMap_map, he, List.filterMap_eq_map]
  refine ⟨_, h, ?_, ?_⟩
  · rw [List.filterMap_append, hc]
    rfl
  · rw [List.filterMap_append, hd]
    rfl

end Device

namespace SamplerStep

def posed? (o : SamplerStep) (s : Sampler) : Option Sampler :=
  match o with
  | .update v => v.image?.map fun i => { s with pending := some i }
  | .commit _ => some s
  | _ => none

def finish (o : SamplerStep) (u : Uniform) (s : Sampler) (d : Device) : Device :=
  match o with
  | .commit unit => s.bind unit ((u.location.map (Call.uniform1i · unit.toInt32)).elim d d.record)
  | _ => d

def givenBy (o : SamplerStep) (x : Sampling) : Option Image :=
  match o with
  | .update v => v.image?
  | _ => x.given

variable {o : SamplerStep} {x : Sampling} {s s' s₀ : Sampler}

lemma apply_posed (hs : x.uniform.sampler? = some s) (hp : o.posed? s = some s₀) : o.apply x =
    match s₀.settle x.device with
    | (.error e, d) => (.error e, { x with device := d })
    | (.ok s', d) =>
      (.ok (), ⟨o.finish x.uniform s' d, { x.uniform with payload := .sampler s' }, o.givenBy x⟩) := by
  cases o with
  | stage v => contradiction
  | arrange f => contradiction
  | update v =>
    obtain ⟨i, hv, rfl⟩ := Option.map_eq_some_iff.mp hp
    obtain rfl := Value.eq_image hv
    obtain ⟨a, hu⟩ := Uniform.update_image hs i x.device
    rw [apply, hu]
    rcases Sampler.settle { s with pending := some i } x.device with ⟨e | s', d⟩ <;> rfl
  | commit unit =>
    obtain rfl := Option.some.inj hp
    rw [apply, Uniform.commit_sampler (Uniform.kind_of_sampler? hs), Uniform.commitSampler, hs]
    dsimp only
    rcases s.settle x.device with ⟨e | s', d⟩
    · rfl
    · dsimp only [finish]
      cases x.uniform.location <;> rfl

lemma apply_unposed (hs : x.uniform.sampler? = some s) (hp : o.posed? s = none) :
    (o.apply x).1 ≠ .error (.refused .texture) ∧ (o.apply x).2.device.log = x.device.log ∧
      ∃ s', (o.apply x).2.uniform.sampler? = some s' ∧ s'.texture = s.texture ∧ s'.built = s.built ∧
        (s.image?.map (·.identity) = x.given.map (·.identity) →
          s'.image?.map (·.identity) = (o.apply x).2.given.map (·.identity)) := by
  cases o with
  | commit unit => contradiction
  | arrange f => exact ⟨by simp [apply], rfl, s, hs, rfl, rfl, id⟩
  | update v =>
    have hv : v.image? = none := Option.map_eq_none_iff.mp hp
    rw [apply, Uniform.update_other hs hv]
    exact ⟨by simp [Except.map], rfl, s, hs, rfl, rfl, id⟩
  | stage v =>
    cases hv : v.image? with
    | none =>
      rw [apply, Uniform.stage_other hs hv]
      exact ⟨by simp [Except.map], rfl, s, hs, rfl, rfl, id⟩
    | some i =>
      obtain rfl := Value.eq_image hv
      obtain ⟨a, s', hu, ht, hb, hi⟩ := Uniform.stage_image hs i
      rw [apply, hu]
      exact ⟨by simp [Except.map], rfl, s', rfl, ht, hb, fun _ => hi⟩

lemma finish_log (hs : s.Sound) (o : SamplerStep) (u : Uniform) (d : Device) :
    ∃ cs, (o.finish u s d).log = d.log ++ cs ∧ cs.filterMap Call.created? = [] ∧ cs.filterMap Call.deleted? = [] := by
  cases o with
  | commit unit =>
    rw [finish, Sampler.bind_log hs]
    cases u.location <;> cases s.texture <;> simp [Call.created?, Call.deleted?]
  | _ => exact ⟨[], (List.append_nil _).symm, rfl, rfl⟩

lemma wanted?_of_unposed (hp : o.posed? s = none) : o.wanted? s = none := by
  cases o with
  | update v =>
    have hv : v.image? = none := Option.map_eq_none_iff.mp hp
    rw [wanted?, image?, hv]
    rfl
  | commit unit => contradiction
  | _ => rfl

lemma wanted?_of_posed (hs : s.Sound) (hp : o.posed? s = some s₀) :
    s₀.texture = s.texture ∧ s₀.built = s.built ∧ o.wanted? s = s₀.unbuilt? := by
  have hb : (fun i => !s.isBuiltFrom i) = fun i => s.built.all fun j => decide (j.identity ≠ i.identity) :=
    funext fun i => hs.isBuiltFrom i
  cases o with
  | update v =>
    obtain ⟨i, hv, rfl⟩ := Option.map_eq_some_iff.mp hp
    refine ⟨rfl, rfl, ?_⟩
    rw [wanted?, image?, hv, ← hb]
    rfl
  | commit unit =>
    obtain rfl := Option.some.inj hp
    refine ⟨rfl, rfl, ?_⟩
    rw [wanted?, ← hb]
    rfl
  | _ => contradiction

def Makes (o : SamplerStep) (x : Sampling) (t : TextureHandle) (i : Image) : Prop :=
  ∃ s cs, x.uniform.sampler? = some s ∧ o.wanted? s = some i ∧
    (o.apply x).2.device.log = x.device.log ++ (Device.makingOf t (i.size.normalized 0) ++ cs)

inductive Steps (o : SamplerStep) (x : Sampling) (s : Sampler) : Prop
  | kept (s' : Sampler) (hw : o.wanted? s = none) (ha : (o.apply x).1 ≠ .error (.refused .texture))
      (hs : (o.apply x).2.uniform.sampler? = some s') (ht : s'.texture = s.texture) (hb : s'.built = s.built)
      (hd : Device.Exchanges [] [] x.device (o.apply x).2.device)
  | refused (i : Image) (hw : o.wanted? s = some i) (hr : x.device.refuses .texture = true)
      (ha : o.apply x = (.error (.refused .texture), x))
  | built (i : Image) (t : TextureHandle) (s' : Sampler) (hw : o.wanted? s = some i)
      (hr : x.device.refuses .texture = false) (ha : (o.apply x).1 = .ok ())
      (hs : (o.apply x).2.uniform.sampler? = some s') (ht : s'.texture = some t) (hb : s'.built = some i)
      (hd : Device.Exchanges [t] s.texture.toList x.device (o.apply x).2.device) (hm : o.Makes x t i)

lemma steps (hs : x.uniform.sampler? = some s) (hb : s.Sound) (o : SamplerStep) : o.Steps x s := by
  cases hp : o.posed? s with
  | none =>
    obtain ⟨ha, hl, s', hs', ht, hb', -⟩ := apply_unposed hs hp
    exact .kept s' (wanted?_of_unposed hp) ha hs' ht hb' (.of_log hl)
  | some s₀ =>
    obtain ⟨ht₀, hb₀, hw₀⟩ := wanted?_of_posed hb hp
    have ha := apply_posed hs hp
    have hset := s₀.settles x.device
    rcases he : s₀.settle x.device with ⟨a, d⟩
    rw [he] at ha hset
    cases hset with
    | idle hw =>
      have hsound : Sampler.Sound { s₀ with pending := none } := by rw [Sampler.Sound, ht₀, hb₀]; exact hb
      obtain ⟨cs, hl, hc, hd⟩ := finish_log hsound o x.uniform x.device
      refine .kept { s₀ with pending := none } (hw₀.trans hw) ?_ ?_ ht₀ hb₀ ?_
      · rw [ha]
        simp
      · rw [ha]
        rfl
      · rw [ha]
        exact (Device.Exchanges.of_log rfl).append hl hc hd
    | refused hw hr => exact .refused _ (hw₀.trans hw) hr ha
    | @built i t _ hw hr hl =>
      obtain ⟨cs, hl', hc, hd⟩ := finish_log (s := ⟨some i, some t, none⟩) rfl o x.uniform d
      rw [ht₀] at hl
      refine .built i t ⟨some i, some t, none⟩ (hw₀.trans hw) hr ?_ ?_ rfl rfl ?_ ?_
      · rw [ha]
      · rw [ha]
        rfl
      · rw [ha]
        exact (Device.Exchanges.of_making hl).append hl' hc hd
      · refine ⟨s, s.texture.toList.map .deleteTexture ++ cs, hs, hw₀.trans hw, ?_⟩
        rw [ha, hl', hl]
        simp only [List.append_assoc]

lemma Steps.next (h : o.Steps x s) (hx : x.uniform.sampler? = some s) (hb : s.Sound) : ∃ s',
    (o.apply x).2.uniform.sampler? = some s' ∧ s'.Sound ∧ (s'.texture = s.texture ∧ s'.built = s.built ∨
      ∃ i t, s'.texture = some t ∧ s'.built = some i ∧ o.Makes x t i) := by
  cases h with
  | kept s' _ _ hs ht hb' _ =>
    refine ⟨s', hs, ?_, .inl ⟨ht, hb'⟩⟩
    rw [Sampler.Sound, ht, hb', hb]
  | refused i _ _ ha => exact ⟨s, by rw [ha, hx], hb, .inl ⟨rfl, rfl⟩⟩
  | built i t s' _ _ _ hs ht hb' _ hm =>
    refine ⟨s', hs, ?_, .inr ⟨i, t, ht, hb', hm⟩⟩
    rw [Sampler.Sound, ht, hb']
    rfl

lemma Steps.asks (h : o.Steps x s) :
    (o.wanted? s = none → (o.apply x).1 ≠ .error (.refused .texture) ∧
      Device.Exchanges [] [] x.device (o.apply x).2.device) ∧
    ∀ i, o.wanted? s = some i →
      (x.device.refuses .texture = true → o.apply x = (.error (.refused .texture), x)) ∧
      (x.device.refuses .texture = false → (o.apply x).1 = .ok () ∧
        ∃ t, (o.apply x).2.uniform.texture? = some t ∧
          Device.Exchanges [t] s.texture.toList x.device (o.apply x).2.device) := by
  cases h with
  | kept s' hw ha _ _ _ hd => exact ⟨fun _ => ⟨ha, hd⟩, by simp [hw]⟩
  | refused i hw hr ha => exact ⟨by simp [hw], fun _ _ => ⟨fun _ => ha, by simp [hr]⟩⟩
  | built i t s' hw hr ha hs ht _ hd _ =>
    exact ⟨by simp [hw], fun _ _ => ⟨by simp [hr], fun _ => ⟨ha, t, by rw [Uniform.texture?_of_sampler hs, ht], hd⟩⟩⟩

lemma apply_given (hs : x.uniform.sampler? = some s) (hi : s.image?.map (·.identity) = x.given.map (·.identity))
    (hs' : (o.apply x).2.uniform.sampler? = some s') :
    s'.image?.map (·.identity) = (o.apply x).2.given.map (·.identity) := by
  cases hp : o.posed? s with
  | none =>
    obtain ⟨-, -, s₁, hs₁, -, -, h⟩ := apply_unposed hs hp
    obtain rfl := Option.some.inj (hs₁.symm.trans hs')
    exact h hi
  | some s₀ =>
    have hi₀ : s₀.image?.map (·.identity) = (o.givenBy x).map (·.identity) := by
      cases o with
      | update v =>
        obtain ⟨i, hv, rfl⟩ := Option.map_eq_some_iff.mp hp
        rw [givenBy, hv]
        rfl
      | commit unit =>
        obtain rfl := Option.some.inj hp
        exact hi
      | _ => contradiction
    have ha := apply_posed hs hp
    rcases he : s₀.settle x.device with ⟨e | s₁, d⟩ <;> rw [he] at ha <;> rw [ha] at hs' ⊢
    · obtain rfl := Option.some.inj (hs.symm.trans hs')
      exact hi
    · obtain rfl : s₁ = s' := Option.some.inj hs'
      exact (Sampler.settle_image? he).trans hi₀

end SamplerStep

namespace Sampling

variable {x : Sampling} {os : List SamplerStep} {s : Sampler}

def Made (x : Sampling) (os : List SamplerStep) (t : TextureHandle) (i : Image) : Prop :=
  ∃ os₁ o os₂, os = os₁ ++ o :: os₂ ∧ o.Makes (x.run os₁) t i

lemma run_snoc (x : Sampling) (os : List SamplerStep) (o : SamplerStep) :
    x.run (os ++ [o]) = (o.apply (x.run os)).2 := by
  rw [run, List.foldl_append]
  rfl

lemma Made.snoc {t : TextureHandle} {i : Image} (h : x.Made os t i) (o : SamplerStep) : x.Made (os ++ [o]) t i := by
  obtain ⟨os₁, o₁, os₂, rfl, hm⟩ := h
  exact ⟨os₁, o₁, os₂ ++ [o], by simp, hm⟩

structure Kept (x : Sampling) (os : List SamplerStep) (s : Sampler) : Prop where
  sampler : (x.run os).uniform.sampler? = some s
  given : s.image?.map (·.identity) = (x.run os).given.map (·.identity)
  sound : s.Sound
  made : ∀ t, s.texture = some t → ∃ i, s.built = some i ∧ x.Made os t i

lemma Kept.step (h : x.Kept os s) (o : SamplerStep) : ∃ s', x.Kept (os ++ [o]) s' := by
  have hr := x.run_snoc os o
  obtain ⟨s', hs', hb, hm⟩ := (SamplerStep.steps h.sampler h.sound o).next h.sampler h.sound
  have hg := SamplerStep.apply_given h.sampler h.given hs'
  refine ⟨s', by rw [hr]; exact hs', by rw [hr]; exact hg, hb, fun t ht => ?_⟩
  rcases hm with ⟨htex, hbuilt⟩ | ⟨i, t', htex, hbuilt, hm⟩
  · obtain ⟨i, hi, hmade⟩ := h.made t (htex ▸ ht)
    exact ⟨i, hbuilt.trans hi, hmade.snoc o⟩
  · obtain rfl := Option.some.inj (htex.symm.trans ht)
    exact ⟨i, hbuilt, os, o, [], rfl, hm⟩

lemma Kept.run (h : x.Kept [] s) (os : List SamplerStep) : ∃ s', x.Kept os s' := by
  -- from the last step, since `Made` counts the steps from `x` on
  induction os using List.reverseRecOn with
  | nil => exact ⟨s, h⟩
  | append_singleton os o ih =>
    obtain ⟨s', h'⟩ := ih
    exact h'.step o

lemma kept_create {location : Option Location} {length : Length} {v : Value} {u : Uniform}
    (h : Uniform.create .sampler location length v = .ok u) (d : Device) : ∃ s, Kept ⟨d, u, v.image?⟩ [] s := by
  cases v <;> simp only [Uniform.create, Except.ok.injEq, reduceCtorEq] at h <;> subst h <;>
    exact ⟨_, rfl, rfl, rfl, by simp⟩

lemma commit_binds {y z : Sampling} {unit : UInt32} (hs : y.uniform.sampler? = some s) (hb : s.Sound)
    (h : (SamplerStep.commit unit).apply y = (.ok (), z)) : ∃ s' cs, z.uniform.sampler? = some s' ∧
      s'.pending = none ∧ z.device.log =
        y.device.log ++ (cs ++ s'.texture.toList.flatMap fun t => [.activeTexture unit, .bindTexture2d (some t)]) := by
  have ha := SamplerStep.apply_posed (o := .commit unit) hs rfl
  rw [h] at ha
  rcases he : s.settle y.device with ⟨e | s', d⟩ <;> rw [he] at ha
  · cases (Prod.mk.inj ha).1
  · obtain ⟨hp, hb', cs, hl⟩ := Sampler.settle_log hb he
    obtain rfl := (Prod.mk.inj ha).2
    refine ⟨s', cs ++ (y.uniform.location.map (Call.uniform1i · unit.toInt32)).toList, rfl, hp, ?_⟩
    rw [SamplerStep.finish, Sampler.bind_log hb']
    cases y.uniform.location <;> simp [hl]

/-- After every step of a sampler its value is the very image that was last accepted, and a texture that it holds
was made from the image recorded with it. A commit leaves nothing waiting and binds that texture. A step asks for a
texture exactly if it is about another image than the recorded one: refused, it changes nothing, and otherwise the
new texture takes the place of the old one, which is deleted. -/
theorem sampler_steps {location : Option Location} {length : Length} {v : Value} {u : Uniform}
    (h : Uniform.create .sampler location length v = .ok u) (d : Device) (os : List SamplerStep) :
    let x : Sampling := ⟨d, u, v.image?⟩
    let y := x.run os
    ∃ s, y.uniform.sampler? = some s ∧
      y.uniform.value.image?.map (·.identity) = y.given.map (·.identity) ∧
      s.texture.isSome = s.built.isSome ∧
      (∀ t, s.texture = some t → ∃ i, s.built = some i ∧ x.Made os t i) ∧
      (∀ unit z, (SamplerStep.commit unit).apply y = (.ok (), z) →
        ∃ s', z.uniform.sampler? = some s' ∧ s'.pending = none ∧ ∀ i, z.uniform.value = .image i →
          ∃ t cs, s'.texture = some t ∧ x.Made (os ++ [.commit unit]) t i ∧
            z.device.log = y.device.log ++ (cs ++ [.activeTexture unit, .bindTexture2d (some t)])) ∧
      ∀ o : SamplerStep,
        (o.wanted? s = none → (o.apply y).1 ≠ .error (.refused .texture) ∧
          Device.Exchanges [] [] y.device (o.apply y).2.device) ∧
        ∀ i, o.wanted? s = some i →
          (y.device.refuses .texture = true → o.apply y = (.error (.refused .texture), y)) ∧
          (y.device.refuses .texture = false → (o.apply y).1 = .ok () ∧
            ∃ t, (o.apply y).2.uniform.texture? = some t ∧
              Device.Exchanges [t] s.texture.toList y.device (o.apply y).2.device) := by
  intro x y
  obtain ⟨s₀, h₀⟩ := kept_create h d
  obtain ⟨s, hk⟩ := h₀.run os
  refine ⟨s, hk.sampler, ?_, hk.sound, hk.made, fun unit z hz => ?_, fun o => ?_⟩
  · rw [Uniform.value_image? hk.sampler]
    exact hk.given
  · obtain ⟨s', cs, hs', hp, hl⟩ := commit_binds hk.sampler hk.sound hz
    obtain ⟨s₁, h₁⟩ := hk.step (.commit unit)
    have hr : x.run (os ++ [.commit unit]) = z := by rw [run_snoc]; exact congrArg Prod.snd hz
    obtain rfl : s₁ = s' := by
      have hs₁ := h₁.sampler
      rw [hr] at hs₁
      exact Option.some.inj (hs₁.symm.trans hs')
    refine ⟨s₁, hs', hp, fun i hi => ?_⟩
    have hb : s₁.built = some i := by
      have hv := Uniform.value_image? hs'
      rw [hi, Sampler.image?, hp] at hv
      exact hv.symm
    obtain ⟨t, ht⟩ : ∃ t, s₁.texture = some t := Option.isSome_iff_exists.mp (by rw [h₁.sound, hb]; rfl)
    obtain ⟨j, hj, hm⟩ := h₁.made t ht
    obtain rfl := Option.some.inj (hb.symm.trans hj)
    refine ⟨t, cs, ht, hm, ?_⟩
    rw [hl, ht]
    rfl
  · exact (SamplerStep.steps hk.sampler hk.sound o).asks

theorem sampler_steps_back :
    let a : Image := ⟨.host "a", ⟨2, 2⟩⟩
    let b : Image := ⟨.host "b", ⟨3, 1⟩⟩
    let x : Sampling := ⟨{}, ⟨some ⟨7⟩, .single, .sampler { pending := some a }⟩, some a⟩
    let os := [.commit 1, .arrange { refused := [.texture] }, .update (.image b), .stage (.image b), .update (.image a)]
    Uniform.create .sampler (some ⟨7⟩) .single (.image a) = .ok x.uniform ∧ (x.run os).uniform.texture? = some ⟨1⟩ ∧
      x.Made os ⟨1⟩ a ∧
      Device.Exchanges [] [] (x.run os).device ((SamplerStep.commit 1).apply (x.run os)).2.device := by
  intro a b x os
  have hc : Uniform.create .sampler (some ⟨7⟩) .single (.image a) = .ok x.uniform := rfl
  obtain ⟨s, hs, -, -, hm, -, hd⟩ := sampler_steps hc {} os
  have hrun : (x.run os).uniform.sampler? = some ⟨some a, some ⟨1⟩, none⟩ := by decide +kernel
  obtain rfl := Option.some.inj (hrun.symm.trans hs)
  obtain ⟨i, hi, hmade⟩ := hm ⟨1⟩ rfl
  obtain rfl := Option.some.inj hi
  exact ⟨hc, Uniform.texture?_of_sampler hrun, hmade, ((hd (.commit 1)).1 rfl).2⟩

end Sampling

end ShaderRunner

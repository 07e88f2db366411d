import Mathlib.Data.List.Nodup
import Mathlib.Tactic.Common
import ShaderRunner.Manifest.Decode

namespace ShaderRunner

structure Rule where
  kept : Prop
  failure : ManifestFailure

def FirstBroken (rs : List Rule) (e : ManifestFailure) : Prop :=
  ∃ before r after, rs = before ++ r :: after ∧ (∀ q ∈ before, q.kept) ∧ ¬ r.kept ∧ r.failure = e

def Answered (rs : List Rule) : Except ManifestFailure Unit → Prop
  | .ok () => ∀ r ∈ rs, r.kept
  | .error e => FirstBroken rs e

namespace UniformEntry

def sources (u : UniformEntry) : Nat := [u.value.isSome, u.texture.isSome, u.static.isSome].count true

def sourceRules (u : UniformEntry) : List Rule :=
  ⟨u.sources = 1, .invalidUniform u.name .sources⟩ ::
  match u.value with
  | some (.vector xs) => [⟨2 ≤ xs.length ∧ xs.length ≤ 4, .invalidUniform u.name (.components xs.length)⟩]
  | _ => []

end UniformEntry

def entryRules (earlier : List UniformEntry) : List UniformEntry → List Rule
  | [] => []
  | u :: us =>
    ⟨u.name ∉ earlier.map UniformEntry.name, .invalidUniform u.name .duplicate⟩ ::
      (u.sourceRules ++ entryRules (earlier ++ [u]) us)

namespace Manifest

variable (m : Manifest) (fits : Float32 → Prop)

def frontRules : List Rule :=
  ⟨m.shader.path.isSome ≠ m.shader.bundled.isSome, .shaderSource⟩ ::
    (m.shader.bundled.toList.map fun name => ⟨name ∈ BundledShader.names, .unknownBundled name⟩) ++
    [⟨m.surface.size.width ≠ 0 ∧ m.surface.size.height ≠ 0, .invalidSurface .size⟩]

def rules : List Rule :=
  m.frontRules ++ ⟨fits m.surface.scale, .invalidSurface .scale⟩ :: entryRules [] m.uniforms

structure WellFormed : Prop where
  shader : m.shader.path.isSome ≠ m.shader.bundled.isSome
  bundled : ∀ name, m.shader.bundled = some name → name ∈ BundledShader.names
  size : m.surface.size.width ≠ 0 ∧ m.surface.size.height ≠ 0
  scale : fits m.surface.scale
  names : (m.uniforms.map UniformEntry.name).Nodup
  sources : ∀ u ∈ m.uniforms, u.sources = 1
  vectors : ∀ u ∈ m.uniforms, ∀ xs, u.value = some (.vector xs) → 2 ≤ xs.length ∧ xs.length ≤ 4

def Judged (a : Except ManifestFailure Unit) : Prop :=
  (a = .ok () ↔ m.WellFormed fits) ∧ ∀ e, a = .error e → FirstBroken (m.rules fits) e

end Manifest

section Scale

open Float.Model (UnpackedFloat)

lemma unpack_zero : (0 : Float32).toModel.unpack = .zero .positive := rfl

lemma compare_zero (x : UnpackedFloat) : (x.compare (.zero .positive)).any Ordering.isLE = false ↔
    (UnpackedFloat.compare (.zero .positive) x == some .lt) = true ∨ x.isNaN = true := by
  cases x with
  | notANumber => exact ⟨fun _ => .inr rfl, fun _ => rfl⟩
  | zero s => exact ⟨nofun, by rintro (h | h) <;> contradiction⟩
  | infinity s | finite s _ _ _ =>
    cases s
    · exact ⟨nofun, by rintro (h | h) <;> contradiction⟩
    · exact ⟨fun _ => .inl rfl, fun _ => rfl⟩

variable {x : Float32}

lemma pos_iff : 0 < x ↔ (UnpackedFloat.compare (.zero .positive) x.toModel.unpack == some .lt) = true := by
  rw [← unpack_zero]
  exact decide_eq_true_iff

lemma not_le_zero_iff : ¬ x ≤ 0 ↔ 0 < x ∨ x.isNaN = true := by
  have hle : x ≤ 0 ↔ (x.toModel.unpack.compare (.zero .positive)).any Ordering.isLE = true := by
    rw [← unpack_zero]
    exact decide_eq_true_iff
  rw [hle, pos_iff, Bool.not_eq_true, compare_zero]
  rfl

lemma not_pos_of_isNaN (h : x.isNaN = true) : ¬ 0 < x := by
  have hn : x.toModel.unpack.isNaN = true := h
  rw [pos_iff]
  generalize x.toModel.unpack = y at hn
  cases y with
  | notANumber => exact nofun
  | _ => contradiction

end Scale

section Rules

variable {rs qs : List Rule} {r : Rule} {e : ManifestFailure} {a : Except ManifestFailure Unit}

lemma firstBroken_cons : FirstBroken (r :: rs) e ↔ ¬ r.kept ∧ r.failure = e ∨ r.kept ∧ FirstBroken rs e := by
  constructor
  · rintro ⟨before, q, after, hrs, hb, hq, he⟩
    cases before with
    | nil =>
      obtain ⟨rfl, rfl⟩ := List.cons.inj hrs
      exact .inl ⟨hq, he⟩
    | cons p before =>
      obtain ⟨rfl, rfl⟩ := List.cons.inj hrs
      rw [List.forall_mem_cons] at hb
      exact .inr ⟨hb.1, before, q, after, rfl, hb.2, hq, he⟩
  · rintro (⟨hr, he⟩ | ⟨hr, before, q, after, rfl, hb, hq, he⟩)
    · exact ⟨[], r, rs, rfl, by simp, hr, he⟩
    · exact ⟨r :: before, q, after, rfl, List.forall_mem_cons.mpr ⟨hr, hb⟩, hq, he⟩

lemma firstBroken_append : FirstBroken (rs ++ qs) e ↔
    FirstBroken rs e ∨ (∀ r ∈ rs, r.kept) ∧ FirstBroken qs e := by
  induction rs with
  | nil => simp [FirstBroken]
  | cons r rs ih =>
    rw [List.cons_append, firstBroken_cons, firstBroken_cons, ih, List.forall_mem_cons]
    tauto

lemma FirstBroken.exists_mem (h : FirstBroken rs e) : ∃ r ∈ rs, ¬ r.kept ∧ r.failure = e := by
  obtain ⟨before, r, after, rfl, -, hr, he⟩ := h
  exact ⟨r, by simp, hr, he⟩

lemma answered_nil : Answered [] (.ok ()) := List.forall_mem_nil _

lemma Answered.broken (rs : List Rule) (h : ¬ r.kept) : Answered (r :: rs) (.error r.failure) :=
  firstBroken_cons.mpr (.inl ⟨h, rfl⟩)

lemma Answered.kept (h : r.kept) (ha : Answered rs a) : Answered (r :: rs) a := by
  cases a with
  | ok _ => exact List.forall_mem_cons.mpr ⟨h, ha⟩
  | error e => exact firstBroken_cons.mpr (.inr ⟨h, ha⟩)

end Rules

lemma Answered.append {rs qs : List Rule} {a b : Except ManifestFailure Unit} (ha : Answered rs a)
    (hb : Answered qs b) : Answered (rs ++ qs) (a >>= fun _ => b) := by
  cases a with
  | ok _ =>
    cases b with
    | ok _ => exact List.forall_mem_append.mpr ⟨ha, hb⟩
    | error e => exact firstBroken_append.mpr (.inr ⟨ha, hb⟩)
  | error e => exact firstBroken_append.mpr (.inl ha)

section Entries

variable {u : UniformEntry} {us earlier : List UniformEntry} {seen : List String}

namespace UniformEntry

lemma source_answered (u : UniformEntry) : Answered u.sourceRules (u.source.map fun _ => ()) := by
  obtain ⟨name, value, texture, static⟩ := u
  rcases value with _ | (n | x | xs | vs) <;> cases texture <;> cases static
  case some.vector.none.none =>
    rw [source]
    dsimp only
    by_cases hx : 2 ≤ xs.length ∧ xs.length ≤ 4
    · rw [if_pos (by simpa using hx)]
      exact .kept rfl (.kept hx answered_nil)
    · rw [if_neg (by simpa using hx)]
      exact .kept rfl (.broken _ hx)
  -- no source or several break the first rule, and one that is no vector keeps the only one
  all_goals first
    | exact .broken _ (by simp [sources])
    | exact .kept rfl answered_nil

lemma sourceRules_kept : (∀ r ∈ u.sourceRules, r.kept) ↔
    u.sources = 1 ∧ ∀ xs, u.value = some (.vector xs) → 2 ≤ xs.length ∧ xs.length ≤ 4 := by
  rw [sourceRules, List.forall_mem_cons]
  split
  · next xs h => simp [h]
  · next h => simpa using fun _ xs hx => absurd hx (h xs)

end UniformEntry

lemma entryRules_kept : (∀ r ∈ entryRules earlier us, r.kept) ↔ (us.map UniformEntry.name).Nodup ∧
    (∀ u ∈ us, u.name ∉ earlier.map UniformEntry.name) ∧ ∀ u ∈ us, ∀ r ∈ u.sourceRules, r.kept := by
  induction us generalizing earlier with
  | nil => simp [entryRules]
  | cons u us ih =>
    rw [entryRules, List.forall_mem_cons, List.forall_mem_append, ih, List.map_cons, List.nodup_cons]
    simp only [List.forall_mem_cons, List.map_append, List.mem_append, not_or, List.map_singleton, List.mem_singleton]
    have hnew : u.name ∉ us.map UniformEntry.name ↔ ∀ w ∈ us, w.name ≠ u.name := by simp [eq_comm]
    rw [hnew, forall₂_and]
    tauto

lemma validateEntries_answered (h : ∀ n, n ∈ seen ↔ n ∈ earlier.map UniformEntry.name) :
    Answered (entryRules earlier us) (Manifest.validateEntries seen us) := by
  induction us generalizing seen earlier with
  | nil => simp [entryRules, Manifest.validateEntries, Answered]
  | cons u us ih =>
    rw [entryRules, Manifest.validateEntries]
    by_cases hu : u.name ∈ seen
    · rw [if_pos (by simpa using hu)]
      exact .broken _ fun hn => hn ((h _).mp hu)
    · rw [if_neg (by simpa using hu)]
      refine .kept (fun hn => hu ((h _).mpr hn)) ?_
      have hus : Answered (entryRules (earlier ++ [u]) us) (Manifest.validateEntries (u.name :: seen) us) :=
        ih fun n => by simp [h, or_comm]
      have hs := u.source_answered.append hus
      cases hsource : u.source <;> rw [hsource] at hs <;> exact hs

end Entries

namespace Manifest

variable {m : Manifest} {fits fits' : Float32 → Prop}

lemma frontRules_kept : (∀ r ∈ m.frontRules, r.kept) ↔
    m.shader.path.isSome ≠ m.shader.bundled.isSome ∧
      (∀ name, m.shader.bundled = some name → name ∈ BundledShader.names) ∧
      m.surface.size.width ≠ 0 ∧ m.surface.size.height ≠ 0 := by
  rw [frontRules, List.cons_append, List.forall_mem_cons, List.forall_mem_append, List.forall_mem_singleton]
  cases m.shader.bundled <;> simp

lemma rules_kept : (∀ r ∈ m.rules fits, r.kept) ↔ m.WellFormed fits := by
  rw [rules, List.forall_mem_append, List.forall_mem_cons, frontRules_kept, entryRules_kept]
  constructor
  · rintro ⟨⟨hshader, hbundled, hsize⟩, hscale, hnames, -, hsources⟩
    exact ⟨hshader, hbundled, hsize, hscale, hnames, fun u hu => (UniformEntry.sourceRules_kept.mp (hsources u hu)).1,
      fun u hu => (UniformEntry.sourceRules_kept.mp (hsources u hu)).2⟩
  · rintro ⟨hshader, hbundled, hsize, hscale, hnames, hsources, hvectors⟩
    exact ⟨⟨hshader, hbundled, hsize⟩, hscale, hnames, by simp,
      fun u hu => UniformEntry.sourceRules_kept.mpr ⟨hsources u hu, hvectors u hu⟩⟩

lemma judged_of_answered {a : Except ManifestFailure Unit} (h : Answered (m.rules fits) a) : m.Judged fits a := by
  rw [Judged, ← rules_kept]
  cases a with
  | ok _ => exact ⟨⟨fun _ => h, fun _ => rfl⟩, by simp⟩
  | error e =>
    obtain ⟨r, hr, hbroken, -⟩ := FirstBroken.exists_mem h
    refine ⟨⟨by simp, fun hk => absurd (hk r hr) hbroken⟩, fun e' he => ?_⟩
    obtain rfl := Except.error.inj he
    exact h

lemma find?_bundled (name : String) : (BundledShader.find? name).isNone = true ↔ name ∉ BundledShader.names := by
  rw [BundledShader.find?, BundledShader.names, Option.isNone_iff_eq_none, List.find?_eq_none, List.mem_map]
  simp only [beq_iff_eq, not_exists, not_and]

lemma validate_answered (h : ∀ x : Float32, fits x ↔ ¬ x ≤ 0) : Answered (m.rules fits) m.validate := by
  have hsurface : Answered (⟨m.surface.size.width ≠ 0 ∧ m.surface.size.height ≠ 0, .invalidSurface .size⟩ ::
      ⟨fits m.surface.scale, .invalidSurface .scale⟩ :: entryRules [] m.uniforms)
      (if m.surface.size.width == 0 || m.surface.size.height == 0 then .error (.invalidSurface .size)
        else if m.surface.scale ≤ 0 then .error (.invalidSurface .scale) else validateEntries [] m.uniforms) := by
    simp only [Bool.or_eq_true, beq_iff_eq]
    split
    · next hsize => exact .broken _ fun hk => hsize.elim hk.1 hk.2
    · next hsize =>
      refine .kept (not_or.mp hsize) ?_
      split
      · next hscale => exact .broken _ fun hk => (h _).mp hk hscale
      · next hscale => exact .kept ((h _).mpr hscale) (validateEntries_answered (by simp))
  rw [rules, frontRules, validate]
  by_cases hshader : m.shader.path.isSome = m.shader.bundled.isSome
  · rw [if_pos (by simpa using hshader)]
    exact .broken _ (not_not.mpr hshader)
  · rw [if_neg (by simpa using hshader)]
    refine .kept hshader ?_
    cases m.shader.bundled with
    | none => exact hsurface
    | some name =>
      by_cases hname : name ∈ BundledShader.names
      · refine .kept hname ?_
        have hsome : ¬ (BundledShader.find? name).isNone = true := fun hn => (find?_bundled name).mp hn hname
        simpa only [if_neg hsome] using! hsurface
      · have hnone := (find?_bundled name).mpr hname
        simpa only [if_pos hnone] using! Answered.broken _ hname

lemma entryRules_failure {earlier us : List UniformEntry} {r : Rule} (h : r ∈ entryRules earlier us) :
    ∃ name fault, r.failure = .invalidUniform name fault := by
  induction us generalizing earlier with
  | nil => contradiction
  | cons u us ih =>
    rw [entryRules, List.mem_cons, List.mem_append, UniformEntry.sourceRules, List.mem_cons] at h
    rcases h with rfl | (rfl | h) | h
    · exact ⟨_, _, rfl⟩
    · exact ⟨_, _, rfl⟩
    · split at h
      · obtain rfl := List.mem_singleton.mp h
        exact ⟨_, _, rfl⟩
      · contradiction
    · exact ih h

lemma firstBroken_rules {e : ManifestFailure} : FirstBroken (m.rules fits) e ↔ FirstBroken m.frontRules e ∨
    (∀ r ∈ m.frontRules, r.kept) ∧ (¬ fits m.surface.scale ∧ .invalidSurface .scale = e ∨
      fits m.surface.scale ∧ FirstBroken (entryRules [] m.uniforms) e) := by
  rw [rules, firstBroken_append, firstBroken_cons]

lemma judged_congr {a : Except ManifestFailure Unit}
    (h : (∀ r ∈ m.frontRules, r.kept) → (fits m.surface.scale ↔ fits' m.surface.scale)) :
    m.Judged fits a ↔ m.Judged fits' a := by
  have hrules : ∀ e, FirstBroken (m.rules fits) e ↔ FirstBroken (m.rules fits') e := fun e => by
    rw [firstBroken_rules, firstBroken_rules, and_congr_right fun hk => by rw [h hk]]
  have hkept : m.WellFormed fits ↔ m.WellFormed fits' := by
    rw [← rules_kept, ← rules_kept, rules, rules, List.forall_mem_append, List.forall_mem_append, List.forall_mem_cons,
      List.forall_mem_cons]
    exact and_congr_right fun hk => and_congr_left fun _ => h hk
  simp only [Judged, hrules, hkept]

/-- A manifest is accepted exactly if it is well-formed, where a scale that is no number counts as a positive one, and
otherwise the failure is that of the first broken rule. With positive scales only, this holds exactly of the manifests
whose scale is a number, or which break a rule in front of that for the scale. -/
theorem validate_judged (m : Manifest) : m.Judged (fun x => 0 < x ∨ x.isNaN = true) m.validate ∧
    (m.Judged (0 < ·) m.validate ↔ (m.surface.scale.isNaN = true → ∃ r ∈ m.frontRules, ¬ r.kept)) := by
  have hjudged : m.Judged (fun x => 0 < x ∨ x.isNaN = true) m.validate :=
    judged_of_answered (validate_answered fun x => not_le_zero_iff.symm)
  refine ⟨hjudged, fun hpos hnan => ?_, fun hfront => (judged_congr fun hk => ?_).mp hjudged⟩
  · by_contra! hk
    have hscale := not_pos_of_isNaN hnan
    obtain ⟨e, he⟩ : ∃ e, m.validate = .error e := by
      cases hv : m.validate with
      | ok _ => exact absurd (hpos.1.mp hv).scale hscale
      | error e => exact ⟨e, rfl⟩
    -- positive scales only would have blamed the scale, and the entries never do
    obtain hb | ⟨-, ⟨-, rfl⟩ | ⟨hs, -⟩⟩ := firstBroken_rules.mp (hpos.2 e he)
    · obtain ⟨r, hr, hbroken, -⟩ := hb.exists_mem
      exact hbroken (hk r hr)
    · obtain hb | ⟨-, ⟨hs, -⟩ | ⟨-, hb⟩⟩ := firstBroken_rules.mp (hjudged.2 _ he)
      · obtain ⟨r, hr, hbroken, -⟩ := hb.exists_mem
        exact hbroken (hk r hr)
      · exact hs (.inr hnan)
      · obtain ⟨r, hr, -, hf⟩ := hb.exists_mem
        obtain ⟨name, fault, hf'⟩ := entryRules_failure hr
        rw [hf] at hf'
        contradiction
    · exact hscale hs
  · refine or_iff_left fun hnan => ?_
    obtain ⟨r, hr, hbroken⟩ := hfront hnan
    exact hbroken (hk r hr)

/-- A scale that is no number is accepted, though it is not positive. -/
theorem validate_scale_nan :
    let text := "[shader]\nbundled = \"plasma\"\n[render]\nscale = nan"
    ∃ m, parse text "base" = .ok m ∧ m.validate = .ok () ∧ ¬ 0 < m.surface.scale ∧ ¬ m.Judged (0 < ·) m.validate := by
  intro text
  let m : Manifest := { shader := { bundled := some "plasma" }, surface := { scale := 0 / 0 }, base := "base" }
  have hm : parse text "base" = .ok m := by decide +kernel
  have hv : m.validate = .ok () := by decide +kernel
  have hs : ¬ 0 < m.surface.scale := by decide +kernel
  exact ⟨m, hm, hv, hs, fun h => hs (h.1.mp hv).scale⟩

end Manifest

end ShaderRunner

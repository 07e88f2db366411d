import ShaderRunner.Proofs.CommitSteps
import ShaderRunner.Proofs.Uploads

/-!
A commit that is refused a texture leaves done what it has done: uniforms have found their places, and samplers have
their new textures. What a commit that is not refused will come to stays the same.
-/

namespace ShaderRunner

def Device.refusing (d : Device) (f : Refusals) : Device := { d with toRefusals := f }

def attempts (p : ProgramHandle) (fs : List Refusals) (x : Device × UniformSet) : Device × UniformSet :=
  fs.foldl (fun x f => (x.2.commit p (x.1.refusing f)).2) x

def replacements (es : List (String × Uniform)) : List Replacement := es.filterMap (·.2.replacement?)

def settledEntries (p : ProgramHandle) (d : Device) (n : Nat) : List (String × Uniform) → List (String × Uniform)
  | [] => []
  | (name, u) :: es =>
    (name, (u.located d p name).settled n) :: settledEntries p d (n + u.replacement?.toList.length) es

variable {p : ProgramHandle} {d d' d'' : Device} {name : String} {es es' es'' : List (String × Uniform)}

namespace Uniform

variable {u : Uniform}

@[simp] lemma located_replacement? (u : Uniform) (d : Device) (p : ProgramHandle) (name : String) :
    (u.located d p name).replacement? = u.replacement? := by
  simp [replacement?, sampler?]

lemma located_congr (h : d'.uniformLocation p name = d.uniformLocation p name) (u : Uniform) :
    u.located d' p name = u.located d p name := by
  rw [located, located, h]

lemma located_shape {u' : Uniform} (h : (u.located d p name).SameShape u') : u'.located d p name = u' := by
  have hk : u'.kind = u.kind := h.kind.trans (u.located_kind d p name)
  by_cases hc : (u.kind.bindable && u.location.isNone) = true
  · have hl : u'.location = d.uniformLocation p name := by rw [h.location, located, if_pos hc]
    rw [located, ← hl]
    split <;> rfl
  · have hl : u'.location = u.location := by rw [h.location, located, if_neg hc]
    rw [located, hk, hl, if_neg hc]

end Uniform

section Entries

lemma replacements_cons (e : String × Uniform) (es : List (String × Uniform)) :
    replacements (e :: es) = e.2.replacement?.toList ++ replacements es := by
  cases h : e.2.replacement? <;> simp [replacements, h]

lemma settledEntries_congr (h : ∀ name, d'.uniformLocation p name = d.uniformLocation p name) (n : Nat)
    (es : List (String × Uniform)) : settledEntries p d' n es = settledEntries p d n es := by
  induction es generalizing n with
  | nil => rfl
  | cons e es ih => rw [settledEntries, settledEntries, Uniform.located_congr (h e.1), ih]

lemma settledEntries_settled (hl : d'.uniformLocation p name = d.uniformLocation p name) (u : Uniform) (n m : Nat) :
    settledEntries p d' m ((name, (u.located d p name).settled n) :: es) =
      (name, (u.located d p name).settled n) :: settledEntries p d' m es := by
  have hs := (u.located d p name).settled_shape n
  rw [settledEntries, Uniform.located_congr hl, Uniform.located_shape hs, Uniform.settled_settled,
    Uniform.replacement?_settled]
  rfl

/-- In the second state the commit has come some way: what it will come to is the same, and it has made the first of the
textures that it had to make. -/
structure Resumes (p : ProgramHandle) (d : Device) (es : List (String × Uniform)) (d' : Device)
    (es' : List (String × Uniform)) : Prop where
  settled : settledEntries p d' d'.next es' = settledEntries p d d.next es
  made : ∃ rs, replacements es = rs ++ replacements es' ∧ d.Replaces rs d'

lemma Resumes.trans (h : Resumes p d es d' es') (h' : Resumes p d' es' d'' es'') : Resumes p d es d'' es'' := by
  obtain ⟨rs, hrs, hd⟩ := h.made
  obtain ⟨rs', hrs', hd'⟩ := h'.made
  exact ⟨h'.settled.trans h.settled, rs ++ rs', by rw [hrs, hrs', List.append_assoc], hd.trans hd'⟩

lemma Resumes.halt (u : Uniform) (es : List (String × Uniform)) :
    Resumes p d ((name, u) :: es) d ((name, u.located d p name) :: es) := by
  refine ⟨?_, [], by simp [replacements_cons], .refl d⟩
  rw [settledEntries, settledEntries, Uniform.located_shape (.refl _), Uniform.located_replacement?]

lemma Resumes.next {u : Uniform} (hd : d.Replaces u.replacement?.toList d') (h : Resumes p d' es d'' es'') :
    Resumes p d ((name, u) :: es) d'' ((name, (u.located d p name).settled d.next) :: es'') := by
  obtain ⟨rs, hrs, hr⟩ := h.made
  have hd'' := hd.trans hr
  refine ⟨?_, u.replacement?.toList ++ rs, ?_, hd''⟩
  -- the settled entry takes no number any more, so the entries after it go on from where they were
  · rw [settledEntries_settled (hd''.framed.uniformLocation p name), h.settled, settledEntries, hd.next,
      settledEntries_congr (hd.framed.uniformLocation p)]
  · rw [replacements_cons, replacements_cons, Uniform.replacement?_settled, hrs, List.append_assoc]
    rfl

/-- Any texture that a commit has to make can be the one that it is refused. -/
lemma commitEntries_withheld (p : ProgramHandle) (unit : UInt32) {k : Nat} (hd : d.toRefusals = { withheld := [d.next + k] })
    (hk : k < (replacements es).length) : (commitEntries p unit d es).1 = .error (.refused .texture) ∧
      (commitEntries p unit d es).2.1.next = d.next + k := by
  induction es generalizing unit d k with
  | nil => contradiction
  | cons e es ih =>
    obtain ⟨name, u⟩ := e
    have hrefuses : d.refuses .texture = true ↔ k = 0 := by simp [Device.refuses, Refusals.refuses, hd]
    have hc := (u.located d p name).commit_commits (u.unitAfter unit) d
    rw [commitEntries_cons]
    generalize (u.located d p name).commit (u.unitAfter unit) d = a at hc ⊢
    cases hc with
    | refused _ hr => exact ⟨rfl, by rw [hrefuses.mp hr]; rfl⟩
    | @committed d' hd' hr hg =>
      rw [Uniform.located_replacement?] at hd' hg
      have hk : k < u.replacement?.toList.length + (replacements es).length := by
        rwa [replacements_cons, List.length_append] at hk
      -- an entry that is granted a texture takes the first of the `k` numbers before the withheld one
      have hlen : u.replacement?.toList.length ≤ k := by
        cases hw : u.replacement? with
        | none => exact Nat.zero_le k
        | some w =>
          have hne : k ≠ 0 := fun h => by simp [hrefuses.mpr h, hw] at hg
          exact Nat.one_le_iff_ne_zero.mpr hne
      have hsum : d'.next + (k - u.replacement?.toList.length) = d.next + k := by rw [hd'.next]; omega
      obtain ⟨hok, hnext⟩ := ih (u.unitAfter unit) (d := d') (k := k - u.replacement?.toList.length)
        (by rw [hr, hd, hsum]) (by omega)
      exact ⟨hok, hnext.trans hsum⟩

end Entries

namespace UniformSet

end UniformSet

end ShaderRunner

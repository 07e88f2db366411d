import ShaderRunner.Proofs.StaticTexts
import ShaderRunner.Proofs.AtOnce

/-!
The statics fill a source one after another, so what one of them puts in is scanned with the rest before the next.
-/

namespace ShaderRunner

open Text Piece StaticCall

def Agree : Except Failure Prepared → Except Failure Prepared → Prop
  | .ok t, .ok t' => t.source = t'.source ∧ t.diagnostics.Perm t'.diagnostics
  | .error e, .error e' => e = e'
  | _, _ => False

instance decidableAgree : (a b : Except Failure Prepared) → Decidable (Agree a b)
  | .ok t, .ok t' => inferInstanceAs (Decidable (t.source = t'.source ∧ t.diagnostics.Perm t'.diagnostics))
  | .error e, .error e' => inferInstanceAs (Decidable (e = e'))
  | .ok _, .error _ => isFalse id
  | .error _, .ok _ => isFalse id

section Statics

variable {s s' : UniformSet} {es : List (String × Uniform)} {ms : List StaticCall} {name t : String}

lemma mem_statics_iff : (name, t) ∈ s.statics ↔ (s.get? name).bind Uniform.static? = some t := by
  simp only [UniformSet.statics, staticsOf, List.mem_filterMap, Option.map_eq_some_iff, Prod.mk.injEq,
    Option.bind_eq_some_iff]
  constructor
  · rintro ⟨⟨n, u⟩, hu, _, ht, rfl, rfl⟩
    exact ⟨u, UniformSet.mem_entries_iff.mp hu, ht⟩
  · rintro ⟨u, hu, ht⟩
    exact ⟨(name, u), UniformSet.mem_entries_iff.mpr hu, t, ht, rfl, rfl⟩

lemma staticFor_perm (hp : s'.statics.Perm s.statics) (m : StaticCall) :
    staticFor s'.entries m = staticFor s.entries m := by
  have hget : ∀ name, (s'.get? name).bind Uniform.static? = (s.get? name).bind Uniform.static? := fun name =>
    Option.ext fun t => by rw [← mem_statics_iff, ← mem_statics_iff, hp.mem_iff]
  exact congrArg (Option.map String.toList) (hget _)

lemma staticFree_iff : StaticFree es ↔ ∀ x ∈ staticsOf es, ¬ "STATIC".toList <:+: x.2.toList := by
  simp only [staticsOf, List.mem_filterMap, Option.map_eq_some_iff]
  constructor
  · rintro h x ⟨e, he, t, ht, rfl⟩
    exact h e he t ht
  · intro h e he t ht
    exact h (e.1, t) ⟨e, he, t, ht, rfl⟩

lemma StaticFree.perm (hp : s'.statics.Perm s.statics) (h : StaticFree s.entries) : StaticFree s'.entries :=
  staticFree_iff.mpr fun x hx => staticFree_iff.mp h x (hp.mem_iff.mp hx)

lemma unreferenced_eq (es : List (String × Uniform)) (ms : List StaticCall) : unreferenced es ms =
    ((staticsOf es).filter fun x => ∀ m ∈ ms, m.name ≠ x.1.toList).map fun x => .staticNotReferenced x.1 := by
  induction es with
  | nil => rfl
  | cons e es ih =>
    obtain ⟨name, u⟩ := e
    rw [unreferenced_cons, staticsOf_cons, List.filter_append, List.map_append, ← ih]
    cases hu : u.static? with
    | none => simp
    | some t =>
      rw [Option.map_some, Option.toList_some, List.filter_cons]
      by_cases hm : ∀ m ∈ ms, m.name ≠ name.toList
      · rw [if_pos ⟨rfl, hm⟩, if_pos (decide_eq_true hm)]
        rfl
      · rw [if_neg fun h => hm h.2, if_neg (by simpa using hm)]
        rfl

lemma unreferenced_perm (hp : s'.statics.Perm s.statics) (ms : List StaticCall) :
    (unreferenced s'.entries ms).Perm (unreferenced s.entries ms) := by
  rw [unreferenced_eq, unreferenced_eq]
  exact (hp.filter _).map _

end Statics

lemma prepare_steady {source : String} {s : UniformSet} {ps : List Piece} (hp : scanSource source.toList = .ok ps)
    (hs : Steady s.entries ps) : prepare source s =
      (resolveDefaults (substitute (staticFor s.entries) ps)).map fun t =>
        ⟨String.ofList t, unreferenced s.entries (calls ps)⟩ := by
  obtain ⟨htext, -⟩ := scanSource_ok_iff.mp hp
  rw [prepare, ← htext, fillStatics_steady s.nodup hs, textOf_replace]
  simp only [bind, Except.bind]
  cases resolveDefaults (substitute (staticFor s.entries) ps) <;> rfl

/-- Two sets with the same statics give the same result, up to the order of the warnings, wherever both orders keep
the text cut at the calls that are left. They do if no static holds `STATIC` and no call of the source is followed by
the end of a head. -/
theorem prepare_permuted (source : String) {s s' : UniformSet} (hp : s'.statics.Perm s.statics) :
    ((∀ ps, scanSource source.toList = .ok ps → Steady s.entries ps ∧ Steady s'.entries ps) →
      Agree (prepare source s) (prepare source s')) ∧
    (StaticFree s.entries → (∀ ps, scanSource source.toList = .ok ps → Unjoined ps) →
      Agree (prepare source s) (prepare source s')) := by
  have hsteady : (∀ ps, scanSource source.toList = .ok ps → Steady s.entries ps ∧ Steady s'.entries ps) →
      Agree (prepare source s) (prepare source s') := by
    intro h
    cases hscan : scanSource source.toList with
    | error e =>
      rw [prepare_malformed hscan, prepare_malformed hscan]
      exact rfl
    | ok ps =>
      obtain ⟨hs, hs'⟩ := h ps hscan
      have hf : staticFor s'.entries = staticFor s.entries := funext (staticFor_perm hp)
      rw [prepare_steady hscan hs, prepare_steady hscan hs', hf]
      cases resolveDefaults (substitute (staticFor s.entries) ps) with
      | error e => exact rfl
      | ok t => exact ⟨rfl, (unreferenced_perm hp _).symm⟩
  refine ⟨hsteady, fun hfree hj => hsteady fun ps hscan => ?_⟩
  have hc := (scanSource_ok_iff.mp hscan).2
  exact ⟨steady_of_static_free hfree hc (hj ps hscan), steady_of_static_free (hfree.perm hp) hc (hj ps hscan)⟩

theorem prepare_permuted_words :
    let s := UniformSet.ofList [("a", { payload := .static "STA" }), ("y", { payload := .static "" }),
      ("b", { payload := .static "(" }), ("z", { payload := .static "" })]
    let s' := UniformSet.ofList s.entries.reverse
    let source := "STATIC(a)TICK(1) VADER_STATIC(b)(STATIC(a)"
    s'.statics.Perm s.statics ∧ prepare source s ≠ prepare source s' ∧
      Agree (prepare source s) (prepare source s') ∧ (prepare source s).map (·.source) = .ok "STATICK(1) ((STA" := by
  intro s s' source
  have hp : s'.statics.Perm s.statics := by decide +kernel
  have hscan : scanSource source.toList = .ok ((scan source.toList).toOption.getD []) := by decide +kernel
  refine ⟨hp, by decide +kernel, (prepare_permuted source hp).2 (by decide +kernel) fun ps hps => ?_, by decide +kernel⟩
  obtain rfl := Except.ok.inj (hscan.symm.trans hps)
  decide +kernel

/-- The text of the first static goes on into the head of the other call, and hides it. -/
theorem prepare_order_adjacent :
    let s := UniformSet.ofList [("a", { payload := .static "x" }), ("b", { payload := .static "y" })]
    let s' := UniformSet.ofList [("b", { payload := .static "y" }), ("a", { payload := .static "x" })]
    let source := "STATIC(a)STATIC(b)"
    s'.statics.Perm s.statics ∧ StaticFree s.entries ∧
      prepare source s = .ok ⟨"xSTATIC(b)", [.staticNotReferenced "b"]⟩ ∧ prepare source s' = .ok ⟨"xy", []⟩ ∧
      ¬ Agree (prepare source s) (prepare source s') := by
  decide +kernel

end ShaderRunner

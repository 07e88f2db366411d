import ShaderRunner.Proofs.CallReplacement
import ShaderRunner.Proofs.SetEntries

namespace ShaderRunner

open Text Piece StaticCall

def staticFor (es : List (String × Uniform)) (m : StaticCall) : Option (List Char) :=
  ((es.lookup (String.ofList m.name)).bind Uniform.static?).map String.toList

def StaticFree (es : List (String × Uniform)) : Prop := ∀ e ∈ es, ∀ t ∈ e.2.static?, ¬ "STATIC".toList <:+: t.toList

instance (es : List (String × Uniform)) : Decidable (StaticFree es) :=
  inferInstanceAs (Decidable (∀ e ∈ es, ∀ t ∈ e.2.static?, ¬ "STATIC".toList <:+: t.toList))

/-- Before each of the statics the text is cut at the calls that are left of the first cut. -/
def Steady (es : List (String × Uniform)) (ps : List Piece) : Prop :=
  ∀ a b, es = a ++ b → (∃ e ∈ b, e.2.static?.isSome) → Cut none [] (replace (staticFor a) ps)

def unreferenced (es : List (String × Uniform)) (ms : List StaticCall) : List Diagnostic :=
  (es.filter fun e => e.2.static?.isSome ∧ ∀ m ∈ ms, m.name ≠ e.1.toList).map fun e => .staticNotReferenced e.1

def UniformSet.textFor (s : UniformSet) (m : StaticCall) : Option (List Char) :=
  (staticFor s.entries m).or m.literal

def prepareAtOnce (source : String) (s : UniformSet) : Except Failure Prepared := do
  let ps ← scanSource source.toList
  match (calls ps).find? fun m => (s.textFor m).isNone with
  | some m => throw (.missingStatic (String.ofList m.name))
  | none => return ⟨String.ofList (substitute s.textFor ps), unreferenced s.entries (calls ps)⟩

variable {es : List (String × Uniform)} {ms : List StaticCall} {ps : List Piece} {m : StaticCall} {name : String}
  {u : Uniform} {source : List Char} {e : Failure}

section Binds

variable {ε α β : Type} {x : Except ε α} {f : α → Except ε β} {b : β}

lemma bind_eq_ok (h : x >>= f = .ok b) : ∃ a, x = .ok a ∧ f a = .ok b := by
  cases x with
  | error e => contradiction
  | ok a => exact ⟨a, rfl, h⟩

lemma bind_eq_error {e : ε} (h : x >>= f = .error e) : x = .error e ∨ ∃ a, x = .ok a ∧ f a = .error e := by
  cases x with
  | error e' =>
    obtain rfl := Except.error.inj h
    exact .inl rfl
  | ok a => exact .inr ⟨a, rfl, h⟩

end Binds

section Statics

lemma staticFor_cons : staticFor ((name, u) :: es) m =
    if m.name = name.toList then u.static?.map String.toList else staticFor es m := by
  by_cases h : m.name = name.toList
  · simp [staticFor, h]
  · have hn : String.ofList m.name ≠ name := by
      rintro rfl
      exact h (by simp)
    rw [staticFor, List.lookup_cons, beq_false_of_ne hn, if_neg h]
    rfl

lemma staticFor_eq_none (hn : name ∉ es.map Prod.fst) (hm : m.name = name.toList) : staticFor es m = none := by
  have hl : es.lookup name = none := by
    by_contra h
    obtain ⟨u, hu⟩ := Option.ne_none_iff_exists'.mp h
    exact hn (List.mem_map.mpr ⟨_, UniformSet.mem_of_lookup hu, rfl⟩)
  rw [staticFor, hm, String.ofList_toList, hl]
  rfl

lemma StaticFree.staticFor (hs : StaticFree es) (m : StaticCall) :
    ∀ v ∈ ShaderRunner.staticFor es m, ¬ "STATIC".toList <:+: v := by
  intro v hv
  obtain ⟨t, ht, rfl⟩ := Option.map_eq_some_iff.mp hv
  obtain ⟨u, hu, ht⟩ := Option.bind_eq_some_iff.mp ht
  exact hs _ (UniformSet.mem_of_lookup hu) t ht

lemma replace_staticFor_other (hn : name ∉ es.map Prod.fst) (hu : u.static? = none) :
    replace (staticFor ((name, u) :: es)) ps = replace (staticFor es) ps := by
  refine replace_congr fun m _ => ?_
  rw [staticFor_cons, hu]
  split
  · next h => exact (staticFor_eq_none hn h).symm
  · rfl

lemma replace_staticFor_unnamed (h : ∀ m ∈ calls ps, m.name ≠ name.toList) :
    replace (staticFor ((name, u) :: es)) ps = replace (staticFor es) ps :=
  replace_congr fun m hm => by rw [staticFor_cons, if_neg (h m hm)]

lemma replace_staticFor_nil : replace (staticFor []) ps = ps := replace_none fun _ _ => rfl

lemma Steady.cut (h : Steady ((name, u) :: es) ps) (hu : u.static?.isSome) : Cut none [] ps := by
  have hc := h [] _ rfl ⟨_, List.mem_cons_self, hu⟩
  rwa [replace_staticFor_nil] at hc

lemma Steady.tail {qs : List Piece} (h : Steady ((name, u) :: es) ps)
    (hr : ∀ a, a <+: es → replace (staticFor ((name, u) :: a)) ps = replace (staticFor a) qs) : Steady es qs := by
  intro a b hab hb
  rw [← hr a ⟨b, hab.symm⟩]
  exact h ((name, u) :: a) b (congrArg _ hab) hb

lemma steady_of_static_free (hs : StaticFree es) (hc : Cut none [] ps) (hj : Unjoined ps) : Steady es ps := by
  intro a b hab _
  have ha : StaticFree a := fun e he => hs e (hab ▸ List.mem_append_left b he)
  exact (cut_replace_iff hc id).mpr (fits_of_static_free hc hj fun m _ => ha.staticFor m)

lemma unreferenced_cons : unreferenced ((name, u) :: es) ms =
    if u.static?.isSome ∧ ∀ m ∈ ms, m.name ≠ name.toList then .staticNotReferenced name :: unreferenced es ms
    else unreferenced es ms := by
  rw [unreferenced, List.filter_cons]
  by_cases h : u.static?.isSome ∧ ∀ m ∈ ms, m.name ≠ name.toList
  · rw [if_pos (by simpa using h), if_pos h]
    rfl
  · rw [if_neg (by simpa using h), if_neg h]
    rfl

lemma unreferenced_filter (hn : name ∉ es.map Prod.fst) :
    unreferenced es (ms.filter fun m => m.name ≠ name.toList) = unreferenced es ms := by
  rw [unreferenced, unreferenced]
  congr 1
  refine List.filter_congr fun e he => ?_
  have hne : ∀ m ∈ ms, m.name = e.1.toList → m.name ≠ name.toList := by
    intro m _ hm hc
    refine hn (List.mem_map.mpr ⟨e, he, ?_⟩)
    exact String.toList_injective (hm.symm.trans hc)
  refine decide_eq_decide.mpr (and_congr_right fun _ => ?_)
  simp only [List.mem_filter, decide_eq_true_eq]
  exact ⟨fun h m hm hc => h m ⟨hm, hne m hm hc⟩ hc, fun h m hm => h m hm.1⟩

end Statics

section Fill

lemma fillStatics_other (hu : u.static? = none) : fillStatics source ((name, u) :: es) = fillStatics source es := by
  simp only [fillStatics, hu]

lemma fillStatics_named {t : String} {filled : List Char} (hu : u.static? = some t)
    (hr : replaceCalls source name.toList t.toList = .ok (some filled)) :
    fillStatics source ((name, u) :: es) = fillStatics filled es := by
  simp only [fillStatics, hu, hr, bind, Except.bind]

lemma fillStatics_unnamed {t : String} (hu : u.static? = some t)
    (hr : replaceCalls source name.toList t.toList = .ok none) : fillStatics source ((name, u) :: es) =
      fillStatics source es >>= fun x => .ok (x.1, .staticNotReferenced name :: x.2) := by
  simp only [fillStatics, hu, hr]
  rfl

lemma fillStatics_error {t : String} (hu : u.static? = some t)
    (hr : replaceCalls source name.toList t.toList = .error e) : fillStatics source ((name, u) :: es) = .error e := by
  simp only [fillStatics, hu, hr, bind, Except.bind]

lemma scanSource_of_cut (hc : Cut none [] ps) : scanSource (textOf ps) = .ok ps :=
  scanSource_ok_iff.mpr ⟨rfl, hc⟩

def filledWith (name value : List Char) (ps : List Piece) : List Piece :=
  replace (fun m => if m.name = name then some value else none) ps

lemma replaceCalls_named {name value : List Char} (hc : Cut none [] ps) (h : ∃ m ∈ calls ps, m.name = name) :
    replaceCalls (textOf ps) name value = .ok (some (textOf (filledWith name value ps))) := by
  have ha : (calls ps).any (·.name == name) = true := by simpa using h
  simp [replaceCalls, scanSource_of_cut hc, ha, bind, Except.bind, pure, Except.pure, filledWith, textOf_replace]

lemma replaceCalls_unnamed {name value : List Char} (hc : Cut none [] ps) (h : ∀ m ∈ calls ps, m.name ≠ name) :
    replaceCalls (textOf ps) name value = .ok none := by
  have ha : (calls ps).any (·.name == name) = false := by simpa using h
  simp [replaceCalls, scanSource_of_cut hc, ha, bind, Except.bind, pure, Except.pure]

lemma calls_filledWith (name value : List Char) (ps : List Piece) :
    calls (filledWith name value ps) = (calls ps).filter fun m => m.name ≠ name := by
  rw [filledWith, calls_replace]
  refine List.filter_congr fun m _ => ?_
  by_cases h : m.name = name <;> simp [h]

lemma replace_filledWith {t : String} (hu : u.static? = some t) :
    replace (staticFor es) (filledWith name.toList t.toList ps) = replace (staticFor ((name, u) :: es)) ps := by
  rw [filledWith, replace_replace]
  refine replace_congr fun m _ => ?_
  rw [staticFor_cons, hu]
  by_cases h : m.name = name.toList <;> simp [h]

lemma fillStatics_steady (hn : (es.map Prod.fst).Nodup) (hs : Steady es ps) :
    fillStatics (textOf ps) es = .ok (textOf (replace (staticFor es) ps), unreferenced es (calls ps)) := by
  induction es generalizing ps with
  | nil =>
    rw [replace_staticFor_nil]
    rfl
  | cons e es ih =>
    obtain ⟨name, u⟩ := e
    obtain ⟨hname, hn⟩ := List.nodup_cons.mp hn
    cases hu : u.static? with
    | none =>
      have hs' : Steady es ps := hs.tail fun a ha => replace_staticFor_other (fun h => hname ((ha.map _).subset h)) hu
      rw [fillStatics_other hu, ih hn hs', replace_staticFor_other hname hu, unreferenced_cons, if_neg (by simp [hu])]
    | some t =>
      have hc := hs.cut (by rw [hu]; rfl)
      -- the calls that are left have other names, and so do the entries
      by_cases hm : ∃ m ∈ calls ps, m.name = name.toList
      · have hf := ih hn (hs.tail fun a _ => (replace_filledWith hu).symm)
        rw [replace_filledWith hu, calls_filledWith, unreferenced_filter hname] at hf
        obtain ⟨m, hmem, hmn⟩ := hm
        rw [fillStatics_named hu (replaceCalls_named hc ⟨m, hmem, hmn⟩), hf, unreferenced_cons,
          if_neg fun h => h.2 m hmem hmn]
      · replace hm : ∀ m ∈ calls ps, m.name ≠ name.toList := fun m hmem h => hm ⟨m, hmem, h⟩
        rw [fillStatics_unnamed hu (replaceCalls_unnamed hc hm), ih hn (hs.tail fun _ _ => replace_staticFor_unnamed hm),
          replace_staticFor_unnamed hm, unreferenced_cons, if_pos ⟨by simp [hu], hm⟩]
        rfl

lemma fillStatics_cut (hn : (es.map Prod.fst).Nodup) (hs : StaticFree es) (hc : Cut none [] ps) (ha : Apart ps) :
    fillStatics (textOf ps) es = .ok (textOf (replace (staticFor es) ps), unreferenced es (calls ps)) :=
  fillStatics_steady hn (steady_of_static_free hs hc ha.unjoined)

lemma fillStatics_malformed (h : scanSource source = .error e) (es : List (String × Uniform)) :
    fillStatics source es = .error e ∨ fillStatics source es = .ok (source, []) := by
  induction es with
  | nil => exact .inr rfl
  | cons x es ih =>
    obtain ⟨name, u⟩ := x
    cases hu : u.static? with
    | none => rwa [fillStatics_other hu]
    | some t =>
      have hr : replaceCalls source name.toList t.toList = .error e := by rw [replaceCalls, h]; rfl
      exact .inl (fillStatics_error hu hr)

end Fill

section Prepare

lemma resolveDefaults_cut (hc : Cut none [] ps) : resolveDefaults (textOf ps) =
    match (calls ps).find? (·.literal.isNone) with
    | some m => .error (.missingStatic (String.ofList m.name))
    | none => .ok (substitute literal ps) := by
  rw [resolveDefaults, scanSource_of_cut hc]
  cases h : (calls ps).find? (·.literal.isNone) <;> simp [h, bind, Except.bind, pure, Except.pure, throw, throwThe,
    MonadExceptOf.throw]

lemma resolveDefaults_replace {f : StaticCall → Option (List Char)} (hc : Cut none [] (replace f ps)) :
    resolveDefaults (textOf (replace f ps)) =
      match (calls ps).find? fun m => ((f m).or m.literal).isNone with
      | some m => .error (.missingStatic (String.ofList m.name))
      | none => .ok (substitute (fun m => (f m).or m.literal) ps) := by
  have hp : (fun m => decide ((f m).isNone = true ∧ m.literal.isNone = true)) =
      fun m => ((f m).or m.literal).isNone := by
    funext m
    cases f m <;> cases m.literal <;> rfl
  rw [resolveDefaults_cut hc, calls_replace, List.find?_filter, ← textOf_replace literal, replace_replace,
    textOf_replace, hp]

lemma prepare_malformed {source : String} (h : scanSource source.toList = .error e) (s : UniformSet) :
    prepare source s = .error e := by
  rw [prepare]
  rcases fillStatics_malformed h s.entries with hf | hf
  · rw [hf]
    rfl
  · have hr : resolveDefaults source.toList = .error e := by rw [resolveDefaults, h]; rfl
    rw [hf]
    simp [hr, bind, Except.bind]

/-- Where no static of the set holds `STATIC` and no word goes on from a call of the source, the substitution of
one static after the other is the substitution of all of them together. -/
theorem prepare_eq_atOnce (source : String) (s : UniformSet)
    (hs : StaticFree s.entries) (ha : ∀ ps, scanSource source.toList = .ok ps → Apart ps) :
    prepare source s = prepareAtOnce source s := by
  rw [prepareAtOnce]
  cases hscan : scanSource source.toList with
  | error e => exact prepare_malformed hscan s
  | ok ps =>
    obtain ⟨htext, hc⟩ := scanSource_ok_iff.mp hscan
    have hc' : Cut none [] (replace (staticFor s.entries) ps) :=
      (cut_replace_iff hc id).mpr (fits_of_static_free hc (ha ps hscan).unjoined fun m _ => hs.staticFor m)
    have hf := fillStatics_cut s.nodup hs hc (ha ps hscan)
    have hr := resolveDefaults_replace hc'
    have ht : s.textFor = fun m => (staticFor s.entries m).or m.literal := rfl
    rw [prepare, ← htext, hf, ht]
    simp only [bind, Except.bind, hr]
    cases (calls ps).find? fun m => ((staticFor s.entries m).or m.literal).isNone <;> rfl

theorem prepare_eq_atOnce_parentheses :
    let s := UniformSet.ofList [("k", { payload := .static "(0.5," }), ("z", { payload := .static "1" }),
      ("n", { payload := .static ")\n" })]
    let source := "é STATIC(n, f(1, 2)) VADER_STATIC( k ),STATIC(d, (4) )"
    prepare source s = prepareAtOnce source s ∧
      prepareAtOnce source s = .ok ⟨"é )\n (0.5,,(4)", [.staticNotReferenced "z"]⟩ := by
  intro s source
  have hp : scanSource source.toList = .ok ((scan source.toList).toOption.getD []) := by decide +kernel
  refine ⟨prepare_eq_atOnce source s (by decide +kernel) fun ps hps => ?_, by decide +kernel⟩
  obtain rfl := Except.ok.inj (hp.symm.trans hps)
  decide +kernel

end Prepare

end ShaderRunner

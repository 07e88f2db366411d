import ShaderRunner.Program.Mode
import ShaderRunner.Proofs.AtOnce
import ShaderRunner.Proofs.TrimmedLines
import ShaderRunner.Uniform.Inference

/-!
What a mode puts around a source holds no `STATIC`, a line ends where the source begins and where it stops, and what
follows closes no parenthesis that it does not open; so the scan of the whole is the scan of the source between plain
characters.
-/

namespace ShaderRunner

open Text Piece StaticCall

structure Surrounds (o u : List Char) : Prop where
  opening_free : ¬ "STATIC".toList <:+: o
  opening_line : o.getLast? = some '\n'
  closing_free : ¬ "STATIC".toList <:+: u
  closing_line : ∀ c ∈ u.head?, c = '\n'
  closes : Closes 0 u

variable {o u s t v w : List Char} {m : StaticCall}

section Calls

lemma ne_parenthesis_of_isWord {c : Char} (hc : isWord c = true) : c ≠ '(' ∧ c ≠ ')' := by
  constructor <;> rintro rfl <;> exact absurd hc (by decide +kernel)

lemma ne_parenthesis_of_isBlank {c : Char} (hc : isBlank c = true) : c ≠ '(' ∧ c ≠ ')' := by
  constructor <;> rintro rfl <;> exact absurd hc (by decide +kernel)

lemma closes_append (hl : ∀ c ∈ v, c ≠ '(' ∧ c ≠ ')') (w : List Char) : Closes 0 (v ++ w) ↔ Closes 0 w := by
  induction v with
  | nil => rfl
  | cons c v ih =>
    obtain ⟨ho, hc⟩ := hl c List.mem_cons_self
    rw [List.cons_append, closes_other ho hc, ih fun d hd => hl d (List.mem_cons_of_mem c hd)]

lemma StaticCall.Formed.closes (hm : m.Formed) : ∃ w, m.text = m.head ++ (w ++ [')']) ∧ Closes 0 w := by
  obtain ⟨d, w, hn, hd, hw⟩ := hm.name
  have hname : ∀ c ∈ m.name, c ≠ '(' ∧ c ≠ ')' := by
    rw [hn, List.forall_mem_cons]
    exact ⟨ne_parenthesis_of_isWord (isWord_of_isNameStart hd), fun c hc => ne_parenthesis_of_isWord (hw c hc)⟩
  have hlead : ∀ c ∈ m.lead, c ≠ '(' ∧ c ≠ ')' := fun c hc => ne_parenthesis_of_isBlank (hm.lead c hc)
  have htrail : ∀ c ∈ m.trail, c ≠ '(' ∧ c ≠ ')' := fun c hc => ne_parenthesis_of_isBlank (hm.trail c hc)
  obtain ⟨b, hb, hclose⟩ : ∃ b, m.tail = b ++ [')'] ∧ Closes 0 b := by
    rw [tail]
    cases h : m.body with
    | none => exact ⟨[], rfl, closes_nil.mpr rfl⟩
    | some b => exact ⟨',' :: b, rfl, (closes_other (by decide) (by decide)).mpr (hm.body b h)⟩
  refine ⟨m.lead ++ (m.name ++ (m.trail ++ b)), by simp [StaticCall.text, hb], ?_⟩
  rwa [closes_append hlead, closes_append hname, closes_append htrail]

lemma eq_nil_of_closes (hw : Closes 0 w) (hu : Closes 0 u) (h : w ++ [')'] = t ++ v) (hv : v <+: u) : v = [] := by
  rcases List.eq_nil_or_concat v with rfl | ⟨v, c, rfl⟩
  · rfl
  · -- otherwise the parenthesis at the end of the call also ends `v`, where `u` has none to close
    rw [List.concat_eq_append] at h hv
    rw [← List.append_assoc] at h
    obtain ⟨rfl, hc⟩ := List.append_inj' h rfl
    obtain rfl := List.singleton_inj.mp hc
    have hopen : [')'].count '(' = 0 := rfl
    have hclose : [')'].count ')' = 1 := rfl
    have hbefore := hw.2 t (List.prefix_append t v)
    have hwhole := hw.1
    have hafter := hu.2 _ hv
    rw [List.count_append, List.count_append] at hwhole
    rw [List.count_append, List.count_append, hopen, hclose] at hafter
    omega

lemma afterHead?_append {h : List Char} (hh : h ∈ heads) (hu : Closes 0 u) (t : List Char) :
    afterHead? h (t ++ u) = (afterHead? h t).map fun x => (x.1, x.2 ++ u) := by
  cases ht : afterHead? h t with
  | some x =>
    obtain ⟨hm, hd, he⟩ := (afterHead?_eq_some_iff hh).mp ht
    refine (afterHead?_eq_some_iff hh).mpr ⟨hm, hd, ?_⟩
    rw [← List.append_assoc, he, List.append_assoc]
  | none =>
    rw [Option.map_none, Option.eq_none_iff_forall_ne_some]
    rintro ⟨m, r⟩ he
    obtain ⟨hm, rfl, he⟩ := (afterHead?_eq_some_iff hh).mp he
    obtain ⟨w, hw, hclose⟩ := hm.closes
    have hnone : ∀ r', t ≠ w ++ [')'] ++ r' := by
      rintro r' rfl
      have := (afterHead?_eq_some_iff hh).mpr ⟨hm, rfl, show _ = m.text ++ r' by rw [hw, List.append_assoc]⟩
      rw [ht] at this
      contradiction
    rw [hw, List.append_assoc, List.append_cancel_left_eq] at he
    rcases List.append_eq_append_iff.mp he with ⟨v, hv, rfl⟩ | ⟨r', hr, -⟩
    · obtain rfl := eq_nil_of_closes hclose hu hv (List.prefix_append v r)
      exact hnone [] (by rw [hv]; simp)
    · exact hnone r' hr

lemma headed_append (hu : ∀ c ∈ u.head?, c = '\n') : Headed (s ++ u) ↔ Headed s := by
  constructor
  · rintro ⟨h, hh, r, he⟩
    refine ⟨h, hh, ?_⟩
    rcases List.append_eq_append_iff.mp he with ⟨v, hv, -⟩ | ⟨v, rfl, rfl⟩
    · exact ⟨v, hv.symm⟩
    · cases v with
      | nil => simp
      | cons c v =>
        obtain rfl := hu c rfl
        have hline : ∀ h ∈ heads, '\n' ∉ h := by decide
        exact absurd (by simp) (hline _ hh)
  · rintro ⟨h, hh, hs⟩
    exact ⟨h, hh, hs.trans (List.prefix_append s u)⟩

lemma malformedText_append (hu : ∀ c ∈ u.head?, c = '\n') (s : List Char) :
    malformedText (s ++ u) = malformedText s := by
  have ht : (s ++ u).takeWhile (· ≠ '\n') = s.takeWhile (· ≠ '\n') := by
    induction s with
    | nil =>
      cases u with
      | nil => rfl
      | cons c u => simp [hu c rfl]
    | cons c s ih => simp only [List.cons_append, List.takeWhile_cons, ih]
  rw [malformedText, malformedText, ht]

end Calls

section Scan

lemma scan_opening (h : Surrounds o u) (s : List Char) : scan (o ++ s) = (scan s).map (o.map .plain ++ ·) := by
  obtain ⟨v, rfl⟩ := List.getLast?_eq_some_iff.mp h.opening_line
  have hn : isWord '\n' = false := by decide +kernel
  have hv : ¬ "STATIC".toList <:+: v := fun hi => h.opening_free (hi.trans (List.prefix_append v _).isInfix)
  have hline : ∀ before, ¬ HeadAt before ('\n' :: s) := by
    intro before hh
    have := head?_isWord_of_headed hh.2
    simp [hn] at this
  have hcut : Cut none s ((v ++ ['\n']).map .plain) := by
    rw [List.map_append, cut_append]
    exact ⟨cut_static_free hv (not_joins_of_nonword hn), hline _, trivial⟩
  have hs := scanFrom_cut hcut
  rw [textOf_map_plain, endOf_none, List.getLast?_concat, Option.any_some, hn] at hs
  exact hs

lemma scanFrom_closing (h : Surrounds o u) (before : Option Char) :
    scanFrom (before.any isWord) u = .ok (u.map .plain) := by
  have hcut : Cut before [] (u.map .plain) := cut_static_free h.closing_free (not_joins_of_nonword rfl)
  have hs := scanFrom_cut hcut
  rw [textOf_map_plain, List.append_nil] at hs
  rw [hs, scanFrom, Except.map, List.append_nil]

lemma scanFrom_append (h : Surrounds o u) (before : Option Char) (s : List Char) :
    scanFrom (before.any isWord) (s ++ u) = (scanFrom (before.any isWord) s).map (· ++ u.map .plain) := by
  -- on the length, since a call takes up many characters at once
  induction hn : s.length using Nat.strong_induction_on generalizing before s with
  | _ n ih =>
    subst hn
    by_cases hh : HeadAt before s
    · obtain ⟨hb, a, ha, t, rfl⟩ := headAt_iff.mp hh
      rw [List.append_assoc, scanFrom_head ha hb, scanFrom_head ha hb, afterHead?_append ha h.closes]
      cases hm : afterHead? a t with
      | none =>
        rw [← List.append_assoc, malformedText_append h.closing_line]
        rfl
      | some x =>
        have hlen : x.2.length < (a ++ t).length := by
          rw [afterHead?_text hm]
          simp [x.1.length_text_pos]
        have hr := ih x.2.length hlen none x.2 rfl
        rw [Option.any_none] at hr
        rw [Option.map_some]
        dsimp only
        rw [hr]
        cases scanFrom false x.2 <;> rfl
    · cases s with
      | nil =>
        rw [List.nil_append, scanFrom_closing h, scanFrom]
        rfl
      | cons c s =>
        have hc : ¬ HeadAt before (c :: (s ++ u)) := by
          rw [not_headAt_iff, ← List.cons_append, headed_append h.closing_line, ← not_headAt_iff]
          exact hh
        have hr := ih s.length (by simp) (some c) s rfl
        rw [Option.any_some] at hr
        rw [List.cons_append, scanFrom_plain hc, scanFrom_plain hh, hr]
        cases scanFrom (isWord c) s <;> rfl

def between (o u : List Char) (ps : List Piece) : List Piece := o.map .plain ++ (ps ++ u.map .plain)

lemma scan_surrounded (h : Surrounds o u) (s : List Char) : scan (o ++ (s ++ u)) = (scan s).map (between o u) := by
  have hs := scanFrom_append h none s
  rw [Option.any_none] at hs
  rw [scan_opening h, scan, hs, scan]
  cases scanFrom false s <;> rfl

lemma calls_between (o u : List Char) (ps : List Piece) : calls (between o u ps) = calls ps := by
  rw [between, calls_append, calls_append, calls_map_plain, calls_map_plain, List.nil_append, List.append_nil]

lemma substitute_between (f : StaticCall → Option (List Char)) (o u : List Char) (ps : List Piece) :
    substitute f (between o u ps) = o ++ (substitute f ps ++ u) := by
  have hp : ∀ v : List Char, substitute f (v.map .plain) = v := fun v => by
    rw [← textOf_replace, replace_map_plain, textOf_map_plain]
  rw [between, substitute_append, substitute_append, hp, hp]

end Scan

section Prepare

lemma scanSource_surrounded (h : Surrounds o u) (s : List Char) :
    scanSource (o ++ (s ++ u)) = (scanSource s).map (between o u) := by
  rw [scanSource, scanSource, scan_surrounded h]
  cases scan s <;> rfl

lemma replaceCalls_surrounded (h : Surrounds o u) (s name value : List Char) :
    replaceCalls (o ++ (s ++ u)) name value = (replaceCalls s name value).map (·.map fun t => o ++ (t ++ u)) := by
  rw [replaceCalls, replaceCalls, scanSource_surrounded h]
  cases scanSource s with
  | error e => rfl
  | ok ps =>
    simp only [Except.map, bind, Except.bind, calls_between, substitute_between]
    split <;> rfl

lemma resolveDefaults_surrounded (h : Surrounds o u) (s : List Char) :
    resolveDefaults (o ++ (s ++ u)) = (resolveDefaults s).map fun t => o ++ (t ++ u) := by
  rw [resolveDefaults, resolveDefaults, scanSource_surrounded h]
  cases scanSource s with
  | error e => rfl
  | ok ps =>
    simp only [Except.map, bind, Except.bind, calls_between, substitute_between]
    split <;> rfl

lemma fillStatics_surrounded (h : Surrounds o u) (s : List Char) (es : List (String × Uniform)) :
    fillStatics (o ++ (s ++ u)) es = (fillStatics s es).map fun x => (o ++ (x.1 ++ u), x.2) := by
  induction es generalizing s with
  | nil => rfl
  | cons e es ih =>
    obtain ⟨name, w⟩ := e
    cases hw : w.static? with
    | none => rw [fillStatics_other hw, fillStatics_other hw, ih]
    | some value =>
      have hr := replaceCalls_surrounded h s name.toList value.toList
      cases hs : replaceCalls s name.toList value.toList with
      | error e =>
        rw [hs] at hr
        rw [fillStatics_error hw hs, fillStatics_error hw hr]
        rfl
      | ok filled =>
        rw [hs] at hr
        cases filled with
        | some filled => rw [fillStatics_named hw hs, fillStatics_named hw hr, ih]
        | none =>
          rw [fillStatics_unnamed hw hs, fillStatics_unnamed hw hr, ih]
          cases fillStatics s es <;> rfl

lemma prepare_surrounded {opening closing : String} (h : Surrounds opening.toList closing.toList) (source : String)
    (s : UniformSet) : prepare (opening ++ source ++ closing) s =
      (prepare source s).map fun t => ⟨opening ++ t.source ++ closing, t.diagnostics⟩ := by
  rw [prepare, prepare, String.toList_append, String.toList_append, List.append_assoc, fillStatics_surrounded h]
  cases fillStatics source.toList s.entries with
  | error e => rfl
  | ok x =>
    simp only [Except.map, bind, Except.bind, resolveDefaults_surrounded h]
    cases resolveDefaults x.1 with
    | error e => rfl
    | ok t => simp [pure, Except.pure, String.ext_iff]

end Prepare

section Infer

variable {l : List Char} {ls : List (List Char)}

def declaredBy (ls : List (List Char)) : List (String × Inferred) :=
  (ls.filterMap Declaration.ofLine?).map fun d => (d.name, d.inferred)

lemma calledFrom_static_free (name : List Char) (inWord : Bool) (hl : ¬ "STATIC".toList <:+: l) :
    calledFrom name inWord l = false := by
  induction l generalizing inWord with
  | nil => rfl
  | cons c l ih =>
    have hh : ¬ Headed (c :: l) := by
      rw [← List.append_nil (c :: l)]
      exact not_headed_of_static_free hl (not_joins_of_nonword rfl)
    have hr : ¬ "STATIC".toList <:+: l := fun hi => hl (hi.trans (List.suffix_cons c l).isInfix)
    rw [calledFrom, head?_eq_none_iff.mpr hh, ih (isWord c) hr]
    simp

lemma ofLine?_static_free (name : String) (hl : ¬ "STATIC".toList <:+: l) : Inferred.ofLine? name l =
    ((Declaration.ofLine? l).filter (·.name == name)).map Declaration.inferred := by
  rw [Inferred.ofLine?, called, calledFrom_static_free name.toList false hl]
  cases (Declaration.ofLine? l).filter (·.name == name) <;> rfl

lemma lookup_declaredBy_cons (name : String) (l : List Char) (ls : List (List Char)) :
    (declaredBy (l :: ls)).lookup name =
      (((Declaration.ofLine? l).filter (·.name == name)).map Declaration.inferred).or
        ((declaredBy ls).lookup name) := by
  rw [declaredBy, declaredBy, List.filterMap_cons]
  cases Declaration.ofLine? l with
  | none => rfl
  | some d =>
    by_cases hd : d.name = name
    · simp [Option.filter, hd]
    · have hn : (name == d.name) = false := beq_false_of_ne (Ne.symm hd)
      simp [Option.filter, hd, List.lookup_cons, hn]

lemma findSome?_static_free (name : String) (hls : ∀ l ∈ ls, ¬ "STATIC".toList <:+: l) :
    ls.findSome? (Inferred.ofLine? name) = (declaredBy ls).lookup name := by
  induction ls with
  | nil => rfl
  | cons l ls ih =>
    obtain ⟨hl, hr⟩ := List.forall_mem_cons.mp hls
    rw [List.findSome?_cons, ofLine?_static_free name hl, ih hr, lookup_declaredBy_cons]
    cases ((Declaration.ofLine? l).filter (·.name == name)).map Declaration.inferred <;> rfl

lemma findSome?_surrounded (h : Surrounds o u) {f : List Char → Option Inferred} (hf : f [] = none)
    (s : List Char) : (trimmedLines (o ++ (s ++ u))).findSome? f =
      ((trimmedLines o).findSome? f).or (((trimmedLines s).findSome? f).or ((trimmedLines u).findSome? f)) := by
  have hclosing : (trimmedLines (s ++ u)).findSome? f =
      ((trimmedLines s).findSome? f).or ((trimmedLines u).findSome? f) := by
    cases u with
    | nil => simp [trimmedLines, lines]
    | cons c u =>
      obtain rfl := h.closing_line c rfl
      have hu : trimmedLines ('\n' :: u) = [] :: trimmedLines u := rfl
      rw [trimmedLines_append_line, hu, List.findSome?_append, List.findSome?_cons, hf]
      rcases trimmedLines_lineFeed s with hs | hs <;> simp [hs, hf]
  obtain ⟨v, rfl⟩ := List.getLast?_eq_some_iff.mp h.opening_line
  rw [List.append_assoc, List.singleton_append, trimmedLines_append_line, List.findSome?_append, hclosing]

lemma infer_surrounded {opening closing : String} (h : Surrounds opening.toList closing.toList)
    (hc : declaredBy (sourceLines closing) = []) (name source : String) : infer name (opening ++ source ++ closing) =
      ((declaredBy (sourceLines opening)).lookup name).getD (infer name source) := by
  rw [sourceLines_eq] at hc ⊢
  have hlines : ∀ {s : List Char}, ¬ "STATIC".toList <:+: s → ∀ l ∈ trimmedLines s, ¬ "STATIC".toList <:+: l :=
    fun hs l hl hi => hs (hi.trans (isInfix_of_mem_trimmedLines hl))
  have hblank : Inferred.ofLine? name [] = none := by
    rw [ofLine?_static_free name (by decide), Declaration.ofLine?, words]
    rfl
  rw [infer, infer, sourceLines_eq, sourceLines_eq, String.toList_append, String.toList_append, List.append_assoc,
    findSome?_surrounded h hblank, findSome?_static_free name (hlines h.opening_free),
    findSome?_static_free name (hlines h.closing_free), hc, List.lookup_nil, Option.or_none]
  cases (declaredBy (trimmedLines opening.toList)).lookup name <;> rfl

end Infer

namespace Mode

def opening : Mode → String
  | default => Boilerplate.defaultOpening
  | shadertoy => Boilerplate.shadertoyOpening

def closing : Mode → String
  | default => ""
  | shadertoy => Boilerplate.shadertoyClosing

lemma wrap_eq (m : Mode) (source : String) : m.wrap source = m.opening ++ source ++ m.closing := by
  cases m with
  | default => rw [wrap, opening, closing, String.append_empty]
  | shadertoy => rfl

lemma surrounds (m : Mode) : Surrounds m.opening.toList m.closing.toList := by
  obtain ⟨ho, hn, hf, hl, hc⟩ : ¬ "STATIC".toList <:+: m.opening.toList ∧ m.opening.toList.getLast? = some '\n' ∧
      ¬ "STATIC".toList <:+: m.closing.toList ∧ m.closing.toList.head?.all (· = '\n') = true ∧
      StaticCall.closing 0 (m.closing.toList ++ [')']) = some (m.closing.toList, []) := by
    cases m <;> decide +kernel
  exact ⟨ho, hn, hf, by simpa [Option.all_eq_true] using hl, (closing_eq_some_iff.mp hc).2⟩

lemma infer_wrap (m : Mode) (name source : String) : infer name (m.wrap source) =
    ((declaredBy (sourceLines m.opening)).lookup name).getD (infer name source) := by
  have hc : declaredBy (sourceLines m.closing) = [] := by cases m <;> decide +kernel
  rw [wrap_eq]
  exact infer_surrounded m.surrounds hc name source

/-- A source is prepared in its mode as it is alone, and what its lines say of a name holds unless the mode
declares the name before it. -/
theorem wrap_transparent (m : Mode) (source : String) :
    (∀ s, prepare (m.wrap source) s = (prepare source s).map fun t => ⟨m.wrap t.source, t.diagnostics⟩) ∧
      ∀ name, infer name (m.wrap source) =
        ((declaredBy (sourceLines m.opening)).lookup name).getD (infer name source) := by
  refine ⟨fun s => ?_, fun name => m.infer_wrap name source⟩
  simp only [wrap_eq]
  exact prepare_surrounded m.surrounds source s

example : declaredBy (sourceLines Mode.shadertoy.opening) =
    [("iResolution", ⟨.known .vec3, .single⟩), ("iMouse", ⟨.known .vec4, .single⟩),
      ("iTime", ⟨.known .float, .single⟩), ("iTimeDelta", ⟨.known .float, .single⟩),
      ("iFrame", ⟨.known .int, .single⟩)] := by
  decide +kernel

end Mode

end ShaderRunner

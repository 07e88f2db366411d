import ShaderRunner.Proofs.Wrapping

/-!
A line calls a name if a head, the name between blanks, and a comma or a closing parenthesis stand on it. So the lines
of a source show the calls that reach that far on one line, and those in the body of another call.
-/

namespace ShaderRunner

open Text Piece StaticCall

namespace StaticCall

inductive Spells (name : List Char) : List Char → Prop
  | mk {h a b : List Char} {c : Char} : h ∈ heads → (∀ d ∈ a, isBlank d = true) → (∀ d ∈ b, isBlank d = true) →
      c = ',' ∨ c = ')' → Spells name (h ++ (a ++ (name ++ (b ++ [c]))))

def CallsAt (name s : List Char) : Prop := ∃ x, Spells name x ∧ '\n' ∉ x ∧ x <+: s

def Sighted (name : List Char) : Option Char → List Char → Prop
  | _, [] => False
  | before, c :: r => before.any isWord = false ∧ CallsAt name (c :: r) ∨ Sighted name (some c) r

variable {name s t q x l : List Char} {before before' : Option Char} {c : Char}

section Spelling

lemma not_blank_of_end (hc : c = ',' ∨ c = ')') : isBlank c = false := by
  rcases hc with rfl | rfl <;> decide +kernel

lemma goesOn_cons_iff : goesOn name s = true ↔
    (∃ b c r, s = name ++ (b ++ c :: r) ∧ (∀ d ∈ b, isBlank d = true) ∧ (c = ',' ∨ c = ')')) ∨
      ∃ c r, s = c :: r ∧ isBlank c = true ∧ goesOn name r = true := by
  rw [goesOn.eq_def, Bool.or_eq_true]
  refine or_congr ?_ ?_
  · constructor
    · intro h
      cases ha : after? name s with
      | none => simp [ha] at h
      | some r =>
        obtain rfl := after?_eq_some_iff.mp ha
        obtain ⟨c, hc, he⟩ : ∃ c, (r.dropWhile isBlank).head? = some c ∧ (c = ',' ∨ c = ')') := by
          simpa [ha, Option.any_eq_true] using h
        obtain ⟨u, hu⟩ := List.head?_eq_some_iff.mp hc
        refine ⟨r.takeWhile isBlank, c, u, ?_, fun d hd => List.mem_takeWhile_imp hd, he⟩
        rw [← hu, List.takeWhile_append_dropWhile]
    · rintro ⟨b, c, r, rfl, hb, hc⟩
      have hstop : ∀ d ∈ (c :: r).head?, isBlank d = false := by
        rintro d ⟨⟩
        exact not_blank_of_end hc
      simpa [after?_append, dropWhile_append_stop hb hstop] using hc
  · cases s <;> simp

lemma goesOn_iff : goesOn name s = true ↔ ∃ a b c r, s = a ++ (name ++ (b ++ c :: r)) ∧
    (∀ d ∈ a, isBlank d = true) ∧ (∀ d ∈ b, isBlank d = true) ∧ (c = ',' ∨ c = ')') := by
  induction s with
  | nil =>
    rw [goesOn_cons_iff]
    simp
  | cons e s ih =>
    rw [goesOn_cons_iff]
    constructor
    · rintro (⟨b, c, r, hs, hb, hc⟩ | ⟨c, r, hs, hblank, hr⟩)
      · exact ⟨[], b, c, r, hs, by simp, hb, hc⟩
      · obtain ⟨rfl, rfl⟩ := List.cons.inj hs
        obtain ⟨a, b, d, r, rfl, ha, hb, hd⟩ := ih.mp hr
        exact ⟨e :: a, b, d, r, rfl, List.forall_mem_cons.mpr ⟨hblank, ha⟩, hb, hd⟩
    · rintro ⟨a, b, c, r, hs, ha, hb, hc⟩
      cases a with
      | nil => exact .inl ⟨b, c, r, hs, hb, hc⟩
      | cons d a =>
        obtain ⟨rfl, rfl⟩ := List.cons.inj hs
        obtain ⟨hd, ha⟩ := List.forall_mem_cons.mp ha
        exact .inr ⟨e, _, rfl, hd, ih.mpr ⟨a, b, c, r, rfl, ha, hb, hc⟩⟩

lemma spells_prefix_iff : (∃ x, Spells name x ∧ x <+: s) ↔ ∃ h t, h ∈ heads ∧ s = h ++ t ∧ goesOn name t = true := by
  constructor
  · rintro ⟨_, @⟨h, a, b, c, hh, ha, hb, hc⟩, r, rfl⟩
    refine ⟨h, a ++ (name ++ (b ++ c :: r)), hh, by simp, ?_⟩
    exact goesOn_iff.mpr ⟨a, b, c, r, rfl, ha, hb, hc⟩
  · rintro ⟨h, t, hh, rfl, hg⟩
    obtain ⟨a, b, c, r, rfl, ha, hb, hc⟩ := goesOn_iff.mp hg
    exact ⟨_, .mk hh ha hb hc, r, by simp⟩

lemma CallsAt.headed (h : CallsAt name s) : Headed s := by
  obtain ⟨_, ⟨hh, -, -, -⟩, -, hp⟩ := h
  exact ⟨_, hh, (List.prefix_append _ _).trans hp⟩

lemma callsAt_of_line (hs : '\n' ∉ s) :
    CallsAt name s ↔ ((head? s).any fun x => goesOn name x.2) = true := by
  have hline : CallsAt name s ↔ ∃ x, Spells name x ∧ x <+: s :=
    exists_congr fun x => and_congr_right fun _ => and_iff_right_of_imp fun hp hx => hs (hp.subset hx)
  rw [hline, spells_prefix_iff]
  constructor
  · rintro ⟨h, t, hh, rfl, hg⟩
    rw [head?_eq_some_iff.mpr ⟨hh, rfl⟩]
    exact hg
  · intro ha
    cases he : head? s with
    | none => simp [he] at ha
    | some x =>
      obtain ⟨hh, hx⟩ := head?_eq_some_iff.mp he
      exact ⟨x.1, x.2, hh, hx, by simpa [he] using ha⟩

end Spelling

section Sighting

lemma not_callsAt (hc : isWord c = false) : ¬ CallsAt name (c :: s) := fun h => by
  have := head?_isWord_of_headed h.headed
  simp [hc] at this

lemma sighted_congr (h : before.any isWord = before'.any isWord) : Sighted name before s ↔ Sighted name before' s := by
  cases s with
  | nil => rfl
  | cons c r => rw [Sighted, Sighted, h]

lemma sighted_nonword (hq : ∀ c ∈ q, isWord c = false) :
    Sighted name before (q ++ s) ↔ Sighted name (endOf before q) s := by
  induction q generalizing before with
  | nil => rfl
  | cons c q ih =>
    obtain ⟨hc, hq⟩ := List.forall_mem_cons.mp hq
    rw [List.cons_append, Sighted, or_iff_right fun h => not_callsAt hc h.2, ih hq, endOf_cons]

lemma sighted_word (hb : before.any isWord = true) (hq : ∀ c ∈ q, isWord c = true) :
    Sighted name before (q ++ s) ↔ Sighted name (endOf before q) s := by
  induction q generalizing before with
  | nil => rfl
  | cons c q ih =>
    obtain ⟨hc, hq⟩ := List.forall_mem_cons.mp hq
    rw [List.cons_append, Sighted, or_iff_right fun h => absurd (h.1.symm.trans hb) (by decide), ih (by simpa using hc) hq, endOf_cons]

lemma sighted_append (h : ∀ u c t, l = u ++ c :: t → CallsAt name (c :: (t ++ q)) → CallsAt name (c :: t)) :
    Sighted name before (l ++ q) ↔ Sighted name before l ∨ Sighted name (endOf before l) q := by
  induction l generalizing before with
  | nil => simp [Sighted]
  | cons c l ih =>
    obtain ⟨hc, hl⟩ := forall_split_cons.mp fun u c t => h u c t
    have hat : CallsAt name (c :: (l ++ q)) ↔ CallsAt name (c :: l) := by
      refine ⟨hc, ?_⟩
      rintro ⟨x, hx, hn, hp⟩
      exact ⟨x, hx, hn, hp.trans (List.prefix_append (c :: l) q)⟩
    rw [List.cons_append, Sighted, Sighted, hat, ih hl, endOf_cons, or_assoc]

end Sighting

section Lines

lemma prefix_append_cases (h : x <+: t ++ q) : x <+: t ∨ ∃ c v, x = t ++ c :: v ∧ c :: v <+: q := by
  obtain ⟨r, hr⟩ := h
  rcases List.append_eq_append_iff.mp hr with ⟨u, rfl, -⟩ | ⟨v, rfl, rfl⟩
  · exact .inl (List.prefix_append x u)
  · cases v with
    | nil => exact .inl (by simp)
    | cons c v => exact .inr ⟨c, v, rfl, List.prefix_append (c :: v) r⟩

lemma calledFrom_iff (hl : '\n' ∉ l) : calledFrom name (before.any isWord) l = true ↔ Sighted name before l := by
  induction l generalizing before with
  | nil => simp [calledFrom, Sighted]
  | cons c l ih =>
    have hr : calledFrom name ((some c).any isWord) l = true ↔ Sighted name (some c) l :=
      ih fun h => hl (List.mem_cons_of_mem c h)
    rw [Option.any_some] at hr
    rw [calledFrom, Bool.or_eq_true, hr, Bool.and_eq_true, Bool.not_eq_true', ← callsAt_of_line hl, Sighted]

lemma sighted_line (l s : List Char) :
    Sighted name none (l ++ '\n' :: s) ↔ Sighted name none l ∨ Sighted name none s := by
  have hn : ∀ c ∈ ['\n'], isWord c = false := List.forall_mem_singleton.mpr (by decide +kernel)
  rw [sighted_append, ← List.singleton_append (l := s), sighted_nonword hn]
  · exact or_congr_right (sighted_congr rfl)
  · rintro u c t - ⟨x, hx, hline, hp⟩
    refine ⟨x, hx, hline, ?_⟩
    rcases prefix_append_cases (t := c :: t) hp with h | ⟨d, v, rfl, hv⟩
    · exact h
    · obtain rfl := (List.cons_prefix_cons.mp hv).1
      exact absurd (by simp) hline

lemma sighted_blank (hq : ∀ c ∈ q, isBlank c = true) : ¬ Sighted name before q := by
  rw [← List.append_nil q, sighted_nonword fun c hc => isWord_of_isBlank (hq c hc)]
  exact id

lemma Spells.getLast? (h : Spells name x) : ∃ c, x.getLast? = some c ∧ isBlank c = false := by
  obtain ⟨-, -, -, hc⟩ := h
  exact ⟨_, by simp [List.getLast?_append], not_blank_of_end hc⟩

lemma sighted_trim (l : List Char) : Sighted name none (trim l) ↔ Sighted name none l := by
  obtain ⟨p, q, hl, hp, hq⟩ := exists_trim l
  have hword : ∀ c ∈ p, isWord c = false := fun c hc => isWord_of_isBlank (hp c hc)
  have hbefore : (endOf none p).any isWord = (none : Option Char).any isWord := by
    rw [endOf_none]
    cases h : p.getLast? with
    | none => rfl
    | some c => simp [hword c (List.mem_of_getLast? h)]
  conv_rhs => rw [hl, sighted_nonword hword, sighted_congr hbefore]
  rw [sighted_append, or_iff_left (sighted_blank hq)]
  rintro u c t - ⟨x, hx, hline, hpre⟩
  refine ⟨x, hx, hline, ?_⟩
  rcases prefix_append_cases (t := c :: t) hpre with h | ⟨d, v, rfl, hv⟩
  · exact h
  -- the text ends where the blanks are, and no call ends with a blank
  · obtain ⟨e, he, hblank⟩ := hx.getLast?
    rw [List.getLast?_append_of_ne_nil _ (List.cons_ne_nil d v)] at he
    have := hq e (hv.subset (List.mem_of_getLast? he))
    rw [hblank] at this
    contradiction

lemma called_trim (hl : '\n' ∉ l) : called name (trim l) = true ↔ Sighted name none l := by
  have ht : '\n' ∉ trim l := fun h => hl ((trim_isInfix l).subset h)
  have hc : calledFrom name ((none : Option Char).any isWord) (trim l) = true ↔ Sighted name none (trim l) :=
    calledFrom_iff ht
  rw [Option.any_none] at hc
  rw [called, hc, sighted_trim]

lemma exists_called_iff (s : List Char) : (∃ l ∈ trimmedLines s, called name l = true) ↔ Sighted name none s := by
  induction s using induction_on_lines with
  | hlast l hl =>
    rw [trimmedLines, lines_of_line hl]
    by_cases h : l = []
    · simp [h, Sighted]
    · simp [h, called_trim hl]
  | hline l s hl ih => simp [trimmedLines_append_of_line hl, called_trim hl, ih, sighted_line]

end Lines

section Bodies

variable {m : StaticCall} {b : List Char}

def IsName (name : List Char) : Prop := ∃ c w, name = c :: w ∧ isNameStart c = true ∧ ∀ d ∈ w, isWord d = true

lemma IsName.isWord (hn : IsName name) : ∀ c ∈ name, isWord c = true := by
  obtain ⟨c, w, rfl, hc, hw⟩ := hn
  exact List.forall_mem_cons.mpr ⟨isWord_of_isNameStart hc, hw⟩

lemma not_lineFeed_of_isWord (hs : ∀ c ∈ s, Text.isWord c = true) : '\n' ∉ s := fun h => by
  have := hs _ h
  revert this
  decide +kernel

lemma Spells.parentheses (hn : IsName name) (h : Spells name x) :
    ∃ y e, x = y ++ [e] ∧ y.count '(' = 1 ∧ ')' ∉ y := by
  obtain @⟨h, a, b, c, hh, ha, hb, -⟩ := h
  obtain ⟨w, rfl, hw, -⟩ := word_of_heads hh
  have hword : ∀ v : List Char, (∀ c ∈ v, Text.isWord c = true) → '(' ∉ v ∧ ')' ∉ v := fun v hv =>
    ⟨fun h => (ne_parenthesis_of_isWord (hv _ h)).1 rfl, fun h => (ne_parenthesis_of_isWord (hv _ h)).2 rfl⟩
  have hblank : ∀ v : List Char, (∀ c ∈ v, isBlank c = true) → '(' ∉ v ∧ ')' ∉ v := fun v hv =>
    ⟨fun h => (ne_parenthesis_of_isBlank (hv _ h)).1 rfl, fun h => (ne_parenthesis_of_isBlank (hv _ h)).2 rfl⟩
  obtain ⟨hw, hw'⟩ := hword w hw
  obtain ⟨hn, hn'⟩ := hword name hn.isWord
  obtain ⟨ha, ha'⟩ := hblank a ha
  obtain ⟨hb, hb'⟩ := hblank b hb
  refine ⟨w ++ ['('] ++ (a ++ (name ++ b)), c, by simp only [List.append_assoc], ?_, by simp [*]⟩
  simp [List.count_append, List.count_eq_zero_of_not_mem, *]

lemma sighted_body (hn : IsName name) (hb : Closes 0 b) (s : List Char) :
    Sighted name before (b ++ ')' :: s) ↔ Sighted name before b ∨ Sighted name none s := by
  have hw : isWord ')' = false := by decide +kernel
  have hp : ∀ c ∈ [')'], isWord c = false := List.forall_mem_singleton.mpr hw
  rw [sighted_append, ← List.singleton_append (l := s), sighted_nonword hp]
  · exact or_congr_right (sighted_congr hw)
  · rintro u c t rfl ⟨x, hx, hline, hpre⟩
    refine ⟨x, hx, hline, ?_⟩
    rcases prefix_append_cases (t := c :: t) hpre with h | ⟨d, v, rfl, hv⟩
    · exact h
    · -- the parenthesis that the head opens is still open where the body ends
      obtain rfl := (List.cons_prefix_cons.mp hv).1
      obtain ⟨y, e, hy, hopen, hclose⟩ := hx.parentheses hn
      rcases List.eq_nil_or_concat v with rfl | ⟨v, f, rfl⟩
      · obtain ⟨rfl, -⟩ := List.append_inj' hy rfl
        have hwhole := hb.1
        have hbefore := hb.2 u (List.prefix_append u _)
        rw [List.count_append, List.count_append, hopen, List.count_eq_zero_of_not_mem hclose] at hwhole
        omega
      · rw [List.concat_eq_append, ← List.cons_append, ← List.append_assoc] at hy
        obtain ⟨rfl, -⟩ := List.append_inj' hy rfl
        exact absurd (by simp) hclose

end Bodies

section Calls

variable {m : StaticCall} {ps : List Piece}

lemma not_word_of_end (hc : c = ',' ∨ c = ')') : isWord c = false := by
  rcases hc with rfl | rfl <;> decide +kernel

lemma tail_ends (m : StaticCall) : ∃ c t, m.tail = c :: t ∧ (c = ',' ∨ c = ')') := by
  cases h : m.body with
  | none => exact ⟨')', [], by simp [tail, h], .inr rfl⟩
  | some b => exact ⟨',', b ++ [')'], by simp [tail, h], .inl rfl⟩

lemma text_append (m : StaticCall) (s : List Char) :
    m.text ++ s = m.head ++ (m.lead ++ (m.name ++ (m.trail ++ (m.tail ++ s)))) := by
  simp [StaticCall.text]

lemma callsAt_text (hm : m.Formed) (hn : IsName name) (s : List Char) :
    CallsAt name (m.text ++ s) ↔ m.name = name ∧ '\n' ∉ m.lead ∧ '\n' ∉ m.trail := by
  rw [text_append]
  constructor
  · rintro ⟨_, @⟨h, a, b, e, hh, ha, hb, he⟩, hline, r, hr⟩
    simp only [List.append_assoc, List.singleton_append] at hr
    -- there is one way to read the text from its head on
    have hread := (head?_eq_some_iff.mpr ⟨hh, hr.symm⟩).symm.trans (head?_eq_some_iff.mpr ⟨hm.head, rfl⟩)
    obtain ⟨rfl, hrest⟩ := Prod.mk.inj (Option.some.inj hread)
    obtain ⟨c, w, rfl, hc, hw⟩ := hn
    have hstop : ∀ d ∈ (e :: r).head?, isBlank d = false := by
      rintro d ⟨⟩
      exact not_blank_of_end he
    have hnext : ∀ d ∈ (b ++ e :: r).head?, isWord d = false := by
      cases b with
      | nil =>
        rintro d ⟨⟩
        exact not_word_of_end he
      | cons f b =>
        rintro d ⟨⟩
        exact isWord_of_isBlank (hb f List.mem_cons_self)
    have hcall := hm.afterHead?_text s
    rw [← hrest, List.cons_append, afterHead?_of_name ha hc hw hnext, takeWhile_append_stop hb hstop,
      dropWhile_append_stop hb hstop] at hcall
    obtain ⟨rfl, hname, rfl⟩ : a = m.lead ∧ c :: w = m.name ∧ b = m.trail := by
      rcases he with rfl | rfl
      · obtain ⟨x, -, hx⟩ := Option.map_eq_some_iff.mp hcall
        replace hx := (Prod.mk.inj hx).1
        exact ⟨congrArg StaticCall.lead hx, congrArg StaticCall.name hx, congrArg StaticCall.trail hx⟩
      · have hx := (Prod.mk.inj (Option.some.inj hcall)).1
        exact ⟨congrArg StaticCall.lead hx, congrArg StaticCall.name hx, congrArg StaticCall.trail hx⟩
    simp only [List.mem_append, not_or] at hline
    exact ⟨hname.symm, hline.2.1, hline.2.2.2.1⟩
  · rintro ⟨rfl, hl, ht⟩
    obtain ⟨c, t, htail, hc⟩ := tail_ends m
    refine ⟨_, .mk hm.head hm.lead hm.trail hc, ?_, t ++ s, by simp [htail]⟩
    have hheads : ∀ h ∈ heads, '\n' ∉ h := by decide
    have hname : '\n' ∉ m.name := not_lineFeed_of_isWord (IsName.isWord hm.name)
    have hend : '\n' ≠ c := by rcases hc with rfl | rfl <;> decide
    simp [hheads m.head hm.head, hl, hname, ht, hend]

lemma not_headed_name (hm : m.Formed) (s : List Char) : ¬ Headed (m.name ++ (m.trail ++ (m.tail ++ s))) := by
  obtain ⟨e, t, htail, he⟩ := tail_ends m
  obtain ⟨f, u, hrest, hword, hparenthesis⟩ :
      ∃ f u, m.trail ++ (m.tail ++ s) = f :: u ∧ isWord f = false ∧ f ≠ '(' := by
    cases ht : m.trail with
    | nil =>
      refine ⟨e, t ++ s, by simp [htail], not_word_of_end he, ?_⟩
      rcases he with rfl | rfl <;> decide
    | cons f u =>
      have hf := hm.trail f (by simp [ht])
      exact ⟨f, u ++ (m.tail ++ s), rfl, isWord_of_isBlank hf, (ne_parenthesis_of_isBlank hf).1⟩
  have hstop : ∀ d ∈ (f :: u).head?, isWord d = false := by
    rintro d ⟨⟩
    exact hword
  rw [hrest, headed_iff, dropWhile_append_stop (IsName.isWord hm.name) hstop]
  rintro ⟨-, hf⟩
  exact hparenthesis (Option.some.inj hf)

lemma sighted_from_nonword (hc : isWord c = false) :
    Sighted name before (c :: s) ↔ Sighted name before' (c :: s) := by
  rw [Sighted, Sighted, or_iff_right fun h => not_callsAt hc h.2, or_iff_right fun h => not_callsAt hc h.2]

lemma sighted_text (hm : m.Formed) (hb : before.any isWord = false) (s : List Char) :
    Sighted name before (m.text ++ s) ↔ CallsAt name (m.text ++ s) ∨ Sighted name none (m.tail ++ s) := by
  obtain ⟨w, hhead, hw, hstatic⟩ := word_of_heads hm.head
  obtain ⟨e, t, htail, he⟩ := tail_ends m
  obtain ⟨n, v, hname, hn, hv⟩ := hm.name
  have hopen : ∀ c ∈ '(' :: m.lead, isWord c = false :=
    List.forall_mem_cons.mpr ⟨by decide +kernel, fun c hc => isWord_of_isBlank (hm.lead c hc)⟩
  have hrest : ∀ before, Sighted name before (m.name ++ (m.trail ++ (m.tail ++ s))) ↔ Sighted name none (m.tail ++ s) := by
    intro before
    have hnot := not_headed_name hm s
    rw [hname, List.cons_append] at hnot ⊢
    rw [Sighted, or_iff_right fun h => hnot h.2.headed, sighted_word (by simpa using isWord_of_isNameStart hn) hv,
      sighted_nonword fun c hc => isWord_of_isBlank (hm.trail c hc), htail, List.cons_append,
      sighted_from_nonword (not_word_of_end he)]
  cases w with
  | nil => exact absurd hstatic (by decide)
  | cons c w =>
    obtain ⟨hc, hw⟩ := List.forall_mem_cons.mp hw
    have htext : m.text ++ s = c :: (w ++ (('(' :: m.lead) ++ (m.name ++ (m.trail ++ (m.tail ++ s))))) := by
      simp [text_append, hhead]
    rw [htext, Sighted, and_iff_right hb, sighted_word (by simpa using hc) hw, sighted_nonword hopen, hrest]

lemma sighted_tail (hn : IsName name) (hm : m.Formed) (s : List Char) : Sighted name none (m.tail ++ s) ↔
    (∃ b, m.body = some b ∧ Sighted name none b) ∨ Sighted name none s := by
  have hcomma : isWord ',' = false := not_word_of_end (.inl rfl)
  have hclose : isWord ')' = false := not_word_of_end (.inr rfl)
  cases h : m.body with
  | none =>
    have hb : (endOf none [')']).any isWord = (none : Option Char).any isWord := hclose
    rw [tail, h, sighted_nonword (List.forall_mem_singleton.mpr hclose), sighted_congr hb]
    simp
  | some b =>
    have htail : m.tail ++ s = [','] ++ (b ++ ')' :: s) := by simp [tail, h]
    have hb : (endOf none [',']).any isWord = (none : Option Char).any isWord := hcomma
    rw [htail, sighted_nonword (List.forall_mem_singleton.mpr hcomma), sighted_congr hb, sighted_body hn (hm.body b h)]
    simp

lemma sighted_of_right (h : Sighted name (endOf before l) q) : Sighted name before (l ++ q) := by
  induction l generalizing before with
  | nil => exact h
  | cons c l ih =>
    rw [endOf_cons] at h
    exact .inr (ih h)

lemma sighted_of_left (h : Sighted name before l) (q : List Char) : Sighted name before (l ++ q) := by
  induction l generalizing before with
  | nil => exact h.elim
  | cons c l ih =>
    rcases h with ⟨hb, x, hx, hline, hp⟩ | h
    · exact .inl ⟨hb, x, hx, hline, hp.trans (List.prefix_append (c :: l) q)⟩
    · exact .inr (ih h)

lemma sighted_of_body {b : List Char} (hb : m.body = some b) (h : Sighted name none b) (s : List Char) :
    Sighted name none (m.tail ++ s) := by
  have hcomma : isWord ',' = false := not_word_of_end (.inl rfl)
  have htail : m.tail ++ s = [','] ++ (b ++ (')' :: s)) := by simp [tail, hb]
  rw [htail, sighted_nonword (List.forall_mem_singleton.mpr hcomma)]
  have hb : (endOf none [',']).any isWord = (none : Option Char).any isWord := hcomma
  exact sighted_of_left ((sighted_congr hb).mpr h) _

lemma formed_of_mem_calls (hc : Cut before s ps) (hm : m ∈ calls ps) : m.Formed := by
  induction ps generalizing before with
  | nil => contradiction
  | cons p ps ih =>
    cases p with
    | plain c => exact ih hc.2 hm
    | call n =>
      rcases List.mem_cons.mp hm with rfl | hm
      · exact hc.1
      · exact ih hc.2.2 hm

lemma sighted_cut (hn : IsName name) (hc : Cut before [] ps) : Sighted name before (textOf ps) ↔
    ∃ m ∈ calls ps, (m.name = name ∧ '\n' ∉ m.lead ∧ '\n' ∉ m.trail) ∨
      ∃ b, m.body = some b ∧ Sighted name none b := by
  induction ps generalizing before with
  | nil => simp [Sighted, calls]
  | cons p ps ih =>
    cases p with
    | plain c =>
      obtain ⟨hhead, hps⟩ := hc
      have hnot : ¬ (before.any isWord = false ∧ CallsAt name (c :: textOf ps)) := fun h =>
        hhead (headAt_iff.mpr ⟨h.1, by simpa using h.2.headed⟩)
      rw [textOf_plain, Sighted, or_iff_right hnot, ih hps]
      rfl
    | call m =>
      obtain ⟨hm, hb, hps⟩ := hc
      rw [wordBoundary_text_iff hm] at hb
      have hafter : m.text.getLast?.any isWord = (none : Option Char).any isWord := by
        rw [getLast?_text]
        exact not_word_of_end (.inr rfl)
      rw [textOf_call, sighted_text hm hb, callsAt_text hm hn, sighted_tail hn hm, ← sighted_congr hafter, ih hps,
        ← or_assoc]
      simp [calls, call?]

lemma sighted_cut_of_body {b : List Char} (hc : Cut before [] ps) (hm : m ∈ calls ps) (hb : m.body = some b)
    (h : Sighted name none b) : Sighted name before (textOf ps) := by
  induction ps generalizing before with
  | nil => contradiction
  | cons p ps ih =>
    cases p with
    | plain c => exact .inr (ih hc.2 hm)
    | call n =>
      rw [textOf_call]
      rcases List.mem_cons.mp hm with rfl | hm
      · exact (sighted_text hc.1 ((wordBoundary_text_iff hc.1).mp hc.2.1) _).mpr (.inr (sighted_of_body hb h _))
      · apply sighted_of_right
        rw [endOf_text, ← getLast?_text n]
        exact ih hc.2.2 hm

end Calls

end StaticCall

section Infer

variable {name source : String} {ps : List Piece}

lemma infer_static_iff (hn : name ∉ declaredUniforms source) :
    (infer name source).kind = .known .static ↔ ∃ l ∈ sourceLines source, called name.toList l = true := by
  rw [declaredUniforms] at hn
  rw [infer]
  generalize sourceLines source = ls at hn ⊢
  induction ls with
  | nil => simp
  | cons l ls ih =>
    have hl : (Declaration.ofLine? l).filter (·.name == name) = none := by
      rw [Option.filter_eq_none_iff]
      intro d hd hname
      exact hn (by simp [hd, beq_iff_eq.mp hname])
    have hls : name ∉ (ls.filterMap Declaration.ofLine?).map (·.name) := by
      intro h
      obtain ⟨d, hd, rfl⟩ := List.mem_map.mp h
      obtain ⟨k, hk, hkd⟩ := List.mem_filterMap.mp hd
      exact hn (List.mem_map.mpr ⟨d, List.mem_filterMap.mpr ⟨k, List.mem_cons_of_mem l hk, hkd⟩, rfl⟩)
    rw [List.findSome?_cons, Inferred.ofLine?, hl]
    by_cases hc : called name.toList l = true
    · simp [hc]
    · simpa [hc] using ih hls

/-- What the lines of an accepted source show of a name that none of them declares: a call of the name that reaches
from its head past the name on one line, or lines of the body of a call that call the name. Texts that are no names
are called where the lines say so. -/
theorem infer_static (hs : scanSource source.toList = .ok ps) (hn : name ∉ declaredUniforms source) :
    (infer name source).kind = .known .static ↔
      (∃ m ∈ calls ps, m.name = name.toList ∧ '\n' ∉ m.lead ∧ '\n' ∉ m.trail) ∨
        (∃ m ∈ calls ps, ∃ b, m.body = some b ∧ ∃ l ∈ trimmedLines b, called name.toList l = true) ∨
        ¬ IsName name.toList ∧ ∃ l ∈ sourceLines source, called name.toList l = true := by
  obtain ⟨htext, hc⟩ := scanSource_ok_iff.mp hs
  rw [infer_static_iff hn]
  simp only [sourceLines_eq, exists_called_iff, ← htext]
  by_cases h : IsName name.toList
  · rw [sighted_cut h hc]
    simp only [and_or_left, exists_or, h, not_true, false_and, or_false]
  · constructor
    · exact fun hsighted => .inr (.inr ⟨h, hsighted⟩)
    · rintro (⟨m, hm, hname, -⟩ | ⟨m, hm, b, hb, hbody⟩ | ⟨-, hsighted⟩)
      · exact absurd (hname ▸ (formed_of_mem_calls hc hm).name) h
      · exact sighted_cut_of_body hc hm hb hbody
      · exact hsighted

theorem infer_static_default :
    let source := "STATIC( a , 1)STATIC(b,\n STATIC(n))"
    (infer "a" source).kind = .known .static ∧ (infer "n" source).kind = .known .static := by
  intro source
  have hs : scanSource source.toList = .ok ((scan source.toList).toOption.getD []) := by decide +kernel
  exact ⟨(infer_static hs (by decide +kernel)).mpr (.inl (by decide +kernel)),
    (infer_static hs (by decide +kernel)).mpr (.inr (.inl ⟨⟨"STATIC(".toList, [], ['b'], [], some "\n STATIC(n)".toList⟩,
      by decide +kernel, _, rfl, by decide +kernel⟩))⟩

/-- A call whose name stands on the line after its head is found by the scan and not by the lines; a name in the
default of a call, and a text that is no name, are found by the lines and not by the scan. -/
theorem infer_static_split :
    let split := "STATIC(\nx, 1)"
    let nested := "STATIC(a, STATIC(b))"
    (∃ ps, scanSource split.toList = .ok ps ∧ "x" ∉ declaredUniforms split ∧
      (∃ m ∈ calls ps, m.name = "x".toList) ∧ (infer "x" split).kind ≠ .known .static) ∧
      ∃ ps, scanSource nested.toList = .ok ps ∧ "b" ∉ declaredUniforms nested ∧
        "a, STATIC(b" ∉ declaredUniforms nested ∧
        (∀ m ∈ calls ps, m.name ≠ "b".toList ∧ m.name ≠ "a, STATIC(b".toList) ∧
        (infer "b" nested).kind = .known .static ∧ (infer "a, STATIC(b" nested).kind = .known .static := by
  intro split nested
  have hs : scanSource split.toList = .ok ((scan split.toList).toOption.getD []) := by decide +kernel
  have hn : scanSource nested.toList = .ok ((scan nested.toList).toOption.getD []) := by decide +kernel
  exact ⟨⟨_, hs, by decide +kernel⟩, _, hn, by decide +kernel⟩

end Infer

end ShaderRunner

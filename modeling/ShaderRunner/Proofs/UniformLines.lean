import ShaderRunner.Proofs.CalledLines
import ShaderRunner.Proofs.DeclaredLength

/-!
The first line that mentions a name decides on it. Words end at blanks before brackets are looked for, so a blank in
front of the digits of an extent hides them.
-/

namespace ShaderRunner

open Text StaticCall

def Mentioned (name l : List Char) : Prop :=
  ∃ p q, l = p ++ (name ++ q) ∧ (∀ c ∈ p.getLast?, isWord c = false) ∧ ∀ c ∈ q.head?, isWord c = false

section Mentioned

variable {name k l p q : List Char}

lemma mentioned_iff : Mentioned name l ↔ ∃ i ∈ List.range (l.length + 1), name <+: l.drop i ∧
    (l.take i).getLast?.all (!isWord ·) = true ∧ (l.drop (i + name.length)).head?.all (!isWord ·) = true := by
  simp only [Option.all_eq_true, Bool.not_eq_true']
  constructor
  · rintro ⟨p, q, rfl, hp, hq⟩
    refine ⟨p.length, List.mem_range.mpr (by rw [List.length_append]; omega), ?_⟩
    rw [← List.drop_drop, List.take_left, List.drop_left, List.drop_left]
    exact ⟨List.prefix_append name q, hp, hq⟩
  · rintro ⟨i, -, ⟨q, hq⟩, hbefore, hafter⟩
    refine ⟨l.take i, q, by rw [hq, List.take_append_drop], hbefore, ?_⟩
    rwa [← List.drop_drop, ← hq, List.drop_left] at hafter

instance (name l : List Char) : Decidable (Mentioned name l) := decidable_of_iff _ mentioned_iff.symm

lemma Mentioned.append (h : Mentioned name l) (hp : ∀ c ∈ p.getLast?, isWord c = false)
    (hq : ∀ c ∈ q.head?, isWord c = false) : Mentioned name (p ++ (l ++ q)) := by
  obtain ⟨a, b, rfl, ha, hb⟩ := h
  refine ⟨p ++ a, b ++ q, by simp only [List.append_assoc], fun c hc => ?_, fun c hc => ?_⟩
  · rw [List.getLast?_append, Option.mem_def, Option.or_eq_some_iff] at hc
    exact hc.elim (ha c) fun h => hp c h.2
  · rw [List.head?_append, Option.mem_def, Option.or_eq_some_iff] at hc
    exact hc.elim (hb c) fun h => hq c h.2

lemma Mentioned.of_trim (h : Mentioned name (trim l)) : Mentioned name l := by
  obtain ⟨p, q, hl, hp, hq⟩ := exists_trim l
  rw [hl]
  exact h.append (fun c hc => isWord_of_isBlank (hp c (List.mem_of_getLast? hc)))
    fun c hc => isWord_of_isBlank (hq c (List.mem_of_head? hc))

lemma Mentioned.of_takeWhile {f : Char → Bool} (hf : ∀ c, f c = false → isWord c = false)
    (h : Mentioned name (l.takeWhile f)) : Mentioned name l := by
  have := h.append (p := []) (q := l.dropWhile f) (by simp) fun c hc => hf c (head?_dropWhile f l c hc)
  rwa [List.nil_append, List.takeWhile_append_dropWhile] at this

lemma declarator_mentioned (w : List Char) : Mentioned (Declaration.declarator w).1 w := by
  have hstop : ∀ d, isWord d = false → ∀ c, (decide (c ≠ d)) = false → isWord c = false := fun d hd c hc => by
    obtain rfl : c = d := by simpa using hc
    exact hd
  have hself : ∀ l, Mentioned l l := fun l => ⟨[], [], by simp, by simp, by simp⟩
  rw [Declaration.declarator]
  split
  · exact (hself _).of_takeWhile (hstop ';' (by decide +kernel))
  · exact ((hself _).of_takeWhile (hstop '[' (by decide +kernel))).of_takeWhile (hstop ';' (by decide +kernel))

lemma mem_of_mem_afterPrecision {w : List Char} {ws : List (List Char)} (h : w ∈ Declaration.afterPrecision ws) :
    w ∈ ws := by
  cases ws with
  | nil => exact h
  | cons v vs =>
    rw [Declaration.afterPrecision] at h
    split at h
    · exact List.mem_cons_of_mem v h
    · exact h

lemma exists_declarator {d : Declaration} (h : Declaration.ofLine? l = some d) :
    ∃ w ∈ words l, d.name.toList = (Declaration.declarator w).1 := by
  rw [Declaration.ofLine?] at h
  split at h
  · contradiction
  · next u ws hwords =>
    split_ifs at h
    split at h
    · next t w rest hafter =>
      dsimp only at h
      split_ifs at h
      obtain rfl := Option.some.inj h
      have hw : w ∈ ws := mem_of_mem_afterPrecision (by simp [hafter])
      exact ⟨w, by simp [hwords, hw], String.toList_ofList⟩
    · contradiction

lemma mentioned_of_ofLine? {d : Declaration} (h : Declaration.ofLine? l = some d) : Mentioned d.name.toList l := by
  obtain ⟨w, hw, hname⟩ := exists_declarator h
  obtain ⟨p, q, rfl, hp, hq, -⟩ := exists_mem_words hw
  rw [hname]
  exact (declarator_mentioned w).append (fun c hc => isWord_of_isBlank (hp c hc))
    fun c hc => isWord_of_isBlank (hq c hc)

lemma exists_goesOn_of_calledFrom {inWord : Bool} (h : calledFrom name inWord l = true) :
    ∃ p s, l = p ++ '(' :: s ∧ goesOn name s = true := by
  induction l generalizing inWord with
  | nil => contradiction
  | cons c l ih =>
    rw [calledFrom, Bool.or_eq_true, Bool.and_eq_true] at h
    rcases h with ⟨-, hhead⟩ | h
    · obtain ⟨x, hx, hgo⟩ : ∃ x, head? (c :: l) = some x ∧ goesOn name x.2 = true := by
        simpa [Option.any_eq_true] using hhead
      obtain ⟨hh, hs⟩ := head?_eq_some_iff.mp hx
      obtain ⟨w, hw, -⟩ := word_of_heads hh
      exact ⟨w, x.2, by rw [hs, hw, List.append_assoc, List.singleton_append], hgo⟩
    · obtain ⟨p, s, rfl, hgo⟩ := ih h
      exact ⟨c :: p, s, rfl, hgo⟩

lemma mentioned_of_called (h : called name l = true) : Mentioned name l := by
  obtain ⟨p, s, rfl, hgo⟩ := exists_goesOn_of_calledFrom h
  obtain ⟨a, b, d, r, rfl, ha, hb, hd⟩ := goesOn_iff.mp hgo
  refine ⟨p ++ '(' :: a, b ++ d :: r, by simp, ?_, ?_⟩
  · have hopen : ∀ c ∈ '(' :: a, isWord c = false :=
      List.forall_mem_cons.mpr ⟨by decide +kernel, fun c hc => isWord_of_isBlank (ha c hc)⟩
    rw [List.getLast?_append_of_ne_nil _ (List.cons_ne_nil _ a)]
    exact fun c hc => hopen c (List.mem_of_getLast? hc)
  · have hd : isWord d = false := by
      rcases hd with rfl | rfl <;> decide +kernel
    cases b with
    | nil => simpa using hd
    | cons c b => simpa using isWord_of_isBlank (hb c List.mem_cons_self)

lemma ofLine?_of_not_mentioned (h : ¬ Mentioned name k) : Inferred.ofLine? (String.ofList name) (trim k) = none := by
  have hdeclared : (Declaration.ofLine? (trim k)).filter (·.name == String.ofList name) = none := by
    rw [Option.filter_eq_none_iff]
    intro d hd hname
    have := mentioned_of_ofLine? hd
    rw [beq_iff_eq.mp hname, String.toList_ofList] at this
    exact h this.of_trim
  have hcalled : called (String.ofList name).toList (trim k) ≠ true := fun hc => by
    rw [String.toList_ofList] at hc
    exact h (mentioned_of_called hc).of_trim
  rw [Inferred.ofLine?, hdeclared]
  exact if_neg hcalled

end Mentioned

structure Brackets where
  lead : List Char
  digits : List Char
  trail : List Char

namespace Brackets

variable (b : Brackets)

def text : List Char := '[' :: (b.lead ++ (b.digits ++ (b.trail ++ [']'])))

def number : Nat := Nat.ofDigitChars 10 b.digits 0

@[mk_iff]
structure Formed : Prop where
  lead : ∀ c ∈ b.lead, isBlank c = true
  digits_ne_nil : b.digits ≠ []
  digits : ∀ c ∈ b.digits, c.isDigit = true
  trail : ∀ c ∈ b.trail, isBlank c = true
  number_pos : 1 ≤ b.number
  number_lt : b.number < UInt64.size

instance : Decidable b.Formed :=
  decidable_of_iff (b.lead.all isBlank = true ∧ b.digits ≠ [] ∧ b.digits.all Char.isDigit = true ∧
    b.trail.all isBlank = true ∧ 1 ≤ b.number ∧ b.number < UInt64.size) (by simp only [formed_iff, List.all_eq_true])

def extent : List Char := if b.lead = [] then b.digits else []

variable {b}

lemma Formed.takeWhile_text (h : b.Formed) (rest : List Char) : ∃ e y,
    (b.text ++ ';' :: rest).takeWhile (!isBlank ·) = '[' :: (e ++ y) ∧ (∀ c ∈ e, c ≠ ';' ∧ c ≠ ']') ∧
      (∀ c ∈ y.head?, c = ']') ∧ trim e = b.extent := by
  have hopen : (!isBlank '[') = true := by decide +kernel
  have hclose : (!isBlank ']') = true := by decide +kernel
  have htext : b.text ++ ';' :: rest = '[' :: (b.lead ++ (b.digits ++ (b.trail ++ ']' :: ';' :: rest))) := by
    simp [text]
  rw [htext, List.takeWhile_cons, if_pos hopen, extent]
  cases hlead : b.lead with
  | nil =>
    have hdigits : ∀ c ∈ b.digits, (!isBlank c) = true := fun c hc => by simp [isBlank_of_isDigit (h.digits c hc)]
    refine ⟨b.digits, (b.trail ++ ']' :: ';' :: rest).takeWhile (!isBlank ·), ?_, fun c hc => ?_, ?_, ?_⟩
    · rw [List.nil_append, List.takeWhile_append_of_pos hdigits]
    · have := h.digits c hc
      constructor <;> rintro rfl <;> contradiction
    · cases htrail : b.trail with
      | nil => simp [hclose]
      | cons c t => simp [h.trail c (by simp [htrail])]
    · rw [if_pos rfl]
      exact trim_of_not_blank fun c hc => isBlank_of_isDigit (h.digits c hc)
  | cons c lead =>
    have hc : isBlank c = true := h.lead c (by simp [hlead])
    exact ⟨[], [], by simp [hc], by simp, by simp, rfl⟩

end Brackets

/-- A line that declares a uniform. `precision` is a precision word with the blanks behind it, and `rest` is what
follows the semicolon. -/
structure UniformLine where
  indent : List Char
  gap : List Char
  precision : Option (List Char × List Char)
  typeName : List Char
  space : List Char
  name : List Char
  brackets : Option Brackets
  rest : List Char

namespace UniformLine

variable (l : UniformLine)

def declarator : List Char := l.name ++ ((l.brackets.map Brackets.text).getD [] ++ ';' :: l.rest)

def text : List Char :=
  l.indent ++ ("uniform".toList ++ (l.gap ++ ((l.precision.map fun p => p.1 ++ p.2).getD [] ++
    (l.typeName ++ (l.space ++ l.declarator)))))

def Parts (b : List Char) : Prop := b ≠ [] ∧ ∀ c ∈ b, isBlank c = true

instance (b : List Char) : Decidable (Parts b) :=
  decidable_of_iff (b ≠ [] ∧ b.all isBlank = true) (by rw [Parts, List.all_eq_true])

@[mk_iff]
structure Formed : Prop where
  indent : ∀ c ∈ l.indent, isBlank c = true
  gap : Parts l.gap
  precision : ∀ p ∈ l.precision, Declaration.isPrecision p.1 = true ∧ Parts p.2
  typeName_ne_nil : l.typeName ≠ []
  typeName : ∀ c ∈ l.typeName, isBlank c = false
  not_precision : Declaration.isPrecision l.typeName = false
  space : Parts l.space
  name_ne_nil : l.name ≠ []
  name : ∀ c ∈ l.name, isWord c = true
  brackets : ∀ b ∈ l.brackets, b.Formed

instance : Decidable l.Formed :=
  decidable_of_iff (l.indent.all isBlank = true ∧ Parts l.gap ∧
      (∀ p ∈ l.precision, Declaration.isPrecision p.1 = true ∧ Parts p.2) ∧ l.typeName ≠ [] ∧
      l.typeName.all (!isBlank ·) = true ∧ Declaration.isPrecision l.typeName = false ∧ Parts l.space ∧ l.name ≠ [] ∧
      l.name.all isWord = true ∧ ∀ b ∈ l.brackets, b.Formed)
    (by simp only [formed_iff, List.all_eq_true, Bool.not_eq_true'])

variable {l}

lemma Parts.head? {b : List Char} (hb : Parts b) (s : List Char) : ∀ c ∈ (b ++ s).head?, isBlank c = true := by
  obtain ⟨c, b', rfl⟩ := List.exists_cons_of_ne_nil hb.1
  rintro d ⟨⟩
  exact hb.2 c (List.mem_cons_self)

lemma isPrecision_word {w : List Char} (h : Declaration.isPrecision w = true) :
    w ≠ [] ∧ ∀ c ∈ w, isBlank c = false := by
  simp only [Declaration.isPrecision, Bool.or_eq_true, beq_iff_eq] at h
  have hall : ∀ v : List Char, (v ≠ [] ∧ v.all (!isBlank ·) = true) → v ≠ [] ∧ ∀ c ∈ v, isBlank c = false :=
    fun v hv => ⟨hv.1, fun c hc => by simpa using List.all_eq_true.mp hv.2 c hc⟩
  rcases h with (rfl | rfl) | rfl <;> exact hall _ (by decide +kernel)

lemma words_word {w b s : List Char} (hne : w ≠ []) (hw : ∀ c ∈ w, isBlank c = false) (hb : Parts b) :
    words (w ++ (b ++ s)) = w :: words s := by
  rw [words_append hne hw (hb.head? s), words_blanks_append hb.2]

lemma Formed.words_text (h : l.Formed) : ∃ ws, words l.text = "uniform".toList :: ws ∧
    Declaration.afterPrecision ws = l.typeName :: words l.declarator := by
  have huniform : ∀ c ∈ "uniform".toList, isBlank c = false := fun c hc => by
    simpa using List.all_eq_true.mp (by decide +kernel : "uniform".toList.all (!isBlank ·) = true) c hc
  have htype : words (l.typeName ++ (l.space ++ l.declarator)) = l.typeName :: words l.declarator :=
    words_word h.typeName_ne_nil h.typeName h.space
  rw [text, words_blanks_append h.indent, words_word (by decide) huniform h.gap]
  refine ⟨_, rfl, ?_⟩
  cases hp : l.precision with
  | none =>
    rw [Option.map_none, Option.getD_none, List.nil_append, htype, Declaration.afterPrecision,
      if_neg (by simp [h.not_precision])]
  | some p =>
    obtain ⟨hprecision, hparts⟩ := h.precision p hp
    obtain ⟨hne, hw⟩ := isPrecision_word hprecision
    rw [Option.map_some, Option.getD_some, List.append_assoc, words_word hne hw hparts, htype,
      Declaration.afterPrecision, if_pos hprecision]

lemma declarator_plain {name : List Char} (hn : ∀ c ∈ name, c ≠ ';' ∧ c ≠ '[') (z : List Char) :
    Declaration.declarator (name ++ ';' :: z) = (name, none) := by
  have htake : (name ++ ';' :: z).takeWhile (· ≠ ';') = name :=
    takeWhile_append_stop (fun c hc => by simp [(hn c hc).1]) (by simp)
  have hdrop : name.dropWhile (· ≠ '[') = [] := List.dropWhile_eq_nil_iff.mpr fun c hc => by simp [(hn c hc).2]
  rw [Declaration.declarator, htake, hdrop]

lemma declarator_brackets {name e y : List Char} (hn : ∀ c ∈ name, c ≠ ';' ∧ c ≠ '[') (he : ∀ c ∈ e, c ≠ ';' ∧ c ≠ ']')
    (hy : ∀ c ∈ y.head?, c = ']') : Declaration.declarator (name ++ '[' :: (e ++ y)) = (name, some (trim e)) := by
  have hends : ∀ c ∈ (y.takeWhile (· ≠ ';')).head?, (decide (c ≠ ']')) = false := by
    cases y with
    | nil => simp
    | cons c y =>
      obtain rfl := hy c rfl
      simp
  have htake : (name ++ '[' :: (e ++ y)).takeWhile (· ≠ ';') = name ++ '[' :: (e ++ y.takeWhile (· ≠ ';')) := by
    rw [List.takeWhile_append_of_pos fun c hc => by simp [(hn c hc).1], List.takeWhile_cons_of_pos (by decide),
      List.takeWhile_append_of_pos fun c hc => by simp [(he c hc).1]]
  have hname : ∀ c ∈ name, (decide (c ≠ '[')) = true := fun c hc => by simp [(hn c hc).2]
  have hopen : ∀ c ∈ ('[' :: (e ++ y.takeWhile (· ≠ ';'))).head?, (decide (c ≠ '[')) = false := by simp
  have hextent : (e ++ y.takeWhile (· ≠ ';')).takeWhile (· ≠ ']') = e :=
    takeWhile_append_stop (fun c hc => by simp [(he c hc).2]) hends
  rw [Declaration.declarator, htake, dropWhile_append_stop hname hopen, takeWhile_append_stop hname hopen]
  dsimp only
  rw [hextent]

lemma Formed.declarator_word (h : l.Formed) : ∃ w ws, words l.declarator = w :: ws ∧
    Declaration.declarator w = (l.name, l.brackets.map Brackets.extent) := by
  have hname : ∀ c ∈ l.name, isBlank c = false ∧ c ≠ ';' ∧ c ≠ '[' := fun c hc => by
    have hw := h.name c hc
    refine ⟨by_contra fun hb => ?_, ?_, ?_⟩
    · rw [isWord_of_isBlank (by simpa using hb)] at hw
      contradiction
    · rintro rfl
      revert hw
      decide +kernel
    · rintro rfl
      revert hw
      decide +kernel
  obtain ⟨ws, hws⟩ := exists_words_append h.name_ne_nil (fun c hc => (hname c hc).1)
    ((l.brackets.map Brackets.text).getD [] ++ ';' :: l.rest)
  refine ⟨_, ws, hws, ?_⟩
  cases hb : l.brackets with
  | none =>
    have hsemicolon : (!isBlank ';') = true := by decide +kernel
    rw [Option.map_none, Option.getD_none, List.nil_append, List.takeWhile_cons, if_pos hsemicolon]
    exact declarator_plain (fun c hc => (hname c hc).2) _
  | some b =>
    obtain ⟨e, y, htake, he, hy, hextent⟩ := (h.brackets b hb).takeWhile_text l.rest
    rw [Option.map_some, Option.getD_some, htake, declarator_brackets (fun c hc => (hname c hc).2) he hy, hextent]
    rfl

lemma Formed.ofLine?_text (h : l.Formed) : Declaration.ofLine? (trim l.text) =
    some ⟨String.ofList l.typeName, String.ofList l.name, l.brackets.map Brackets.extent⟩ := by
  obtain ⟨ws, hwords, hafter⟩ := h.words_text
  obtain ⟨w, rest, hword, hdeclarator⟩ := h.declarator_word
  rw [Declaration.ofLine?, words_trim, hwords]
  dsimp only
  rw [if_pos rfl, hafter, hword]
  dsimp only
  rw [hdeclarator, if_neg h.name_ne_nil]

lemma Formed.declaredAs {source : String} {before after : List (List Char)} (h : l.Formed)
    (hs : lines source.toList = before ++ l.text :: after) (hb : ∀ k ∈ before, ¬ Mentioned l.name k) :
    DeclaredAs (String.ofList l.name) source
      ⟨String.ofList l.typeName, String.ofList l.name, l.brackets.map Brackets.extent⟩ := by
  refine ⟨before.map trim, trim l.text, after.map trim, ?_, ?_, h.ofLine?_text, rfl⟩
  · rw [sourceLines, hs, List.map_append, List.map_cons]
  · rw [List.forall_mem_map]
    exact fun k hk => ofLine?_of_not_mentioned (hb k hk)

end UniformLine

namespace Brackets

variable {b : Brackets}

lemma Formed.whole_extent (h : b.Formed) (hlead : b.lead = []) :
    Number.whole (UInt64.size - 1) b.extent = .ok b.number := by
  rw [extent, if_pos hlead]
  exact Number.whole_digits h.digits_ne_nil h.digits (Nat.le_sub_one_of_lt h.number_lt)

lemma Formed.length (h : b.Formed) (t name : String) : Declaration.length ⟨t, name, some b.extent⟩ =
    if b.lead = [] then .array b.number else .dynamic := by
  rw [Declaration.length]
  dsimp only
  split_ifs with hlead
  · rw [h.whole_extent hlead]
    exact if_neg (Nat.ne_of_gt h.number_pos)
  · rw [extent, if_neg hlead]
    rfl

end Brackets

variable {l : UniformLine} {source : String} {before after : List (List Char)}

/-- A name whose first line declares it has the kind of the declared type. Without brackets it is single, and with
brackets it has the number in them, provided that no blank stands between the opening bracket and the number. -/
theorem infer_uniformLine (hl : l.Formed) (hs : lines source.toList = before ++ l.text :: after)
    (hb : ∀ k ∈ before, ¬ Mentioned l.name k) :
    let i := infer (String.ofList l.name) source
    let t := String.ofList l.typeName
    (∀ k, Kind.ofDeclared? t l.brackets.isSome = some k → i.kind = .known k) ∧
      (Kind.ofDeclared? t l.brackets.isSome = none →
        i.kind = .unsupported (if l.brackets.isSome then t ++ "v" else t)) ∧
      (l.brackets = none → i.length = .single) ∧
      ∀ b, l.brackets = some b →
        (i.length = .array b.number ↔ b.lead = []) ∧ (b.lead ≠ [] → i.length = .dynamic) := by
  intro i t
  have hi : i = Declaration.inferred ⟨t, String.ofList l.name, l.brackets.map Brackets.extent⟩ :=
    infer_declaredAs (hl.declaredAs hs hb)
  have hsome : (l.brackets.map Brackets.extent).isSome = l.brackets.isSome := Option.isSome_map
  refine ⟨fun k hk => ?_, fun hk => ?_, fun hnone => ?_, fun b hbrackets => ?_⟩
  · rw [hi, Declaration.inferred]
    dsimp only
    rw [hsome, hk]
  · rw [hi, Declaration.inferred]
    dsimp only
    rw [hsome, hk]
  · rw [hi, Declaration.inferred, hnone]
    rfl
  · have hlength : i.length = if b.lead = [] then .array b.number else .dynamic := by
      rw [hi, Declaration.inferred, hbrackets]
      exact (hl.brackets b hbrackets).length t (String.ofList l.name)
    rw [hlength]
    split_ifs with hlead <;> simp [hlead]

theorem infer_uniformLine_array :
    let source := "uniform vec3 points;\n\tuniform  highp vec3 p[08 ]; // p"
    (infer "p" source).kind = .known .vec3Array ∧ (infer "p" source).length = .array 8 := by
  intro source
  let l : UniformLine := ⟨['\t'], "  ".toList, some ("highp".toList, [' ']), "vec3".toList, [' '], ['p'],
    some ⟨[], "08".toList, [' ']⟩, " // p".toList⟩
  have hl : l.Formed := by decide +kernel
  have hs : lines source.toList = ["uniform vec3 points;".toList] ++ l.text :: [] := by decide +kernel
  have hb : ∀ k ∈ ["uniform vec3 points;".toList], ¬ Mentioned l.name k := by decide +kernel
  obtain ⟨hkind, -, -, hlength⟩ := infer_uniformLine hl hs hb
  exact ⟨hkind _ rfl, (hlength _ rfl).1.mpr rfl⟩

/-- A blank in front of the digits makes the length dynamic. -/
theorem infer_uniformLine_blank :
    let source := "uniform vec3 p[ 8 ];"
    let b : Brackets := ⟨[' '], ['8'], [' ']⟩
    let l : UniformLine := ⟨[], [' '], none, "vec3".toList, [' '], ['p'], some b, []⟩
    l.Formed ∧ lines source.toList = [l.text] ∧ b.number = 8 ∧
      infer (String.ofList l.name) source = ⟨.known .vec3Array, .dynamic⟩ := by
  decide +kernel

end ShaderRunner

import Mathlib.Data.List.DropRight
import Mathlib.Tactic.Common
import ShaderRunner.Proofs.CallGrammar
import ShaderRunner.StaticCall.Substitution

namespace ShaderRunner

open Text Piece StaticCall

def WordBoundary (before : Option Char) (s : List Char) : Prop := before.any isWord ≠ s.head?.any isWord

def HeadAt (before : Option Char) (s : List Char) : Prop := WordBoundary before s ∧ Headed s

def endOf (before : Option Char) (s : List Char) : Option Char := s.getLast?.or before

/-- Pieces between a character and a text: no head begins at a plain character, and the calls are formed
and begin at word boundaries. -/
def Cut (before : Option Char) (after : List Char) : List Piece → Prop
  | [] => True
  | .plain c :: ps => ¬ HeadAt before (c :: (textOf ps ++ after)) ∧ Cut (some c) after ps
  | .call m :: ps => m.Formed ∧ WordBoundary before m.text ∧ Cut m.text.getLast? after ps

def IsCut (s : List Char) (ps : List Piece) : Prop := textOf ps = s ∧ Cut none [] ps

section Boundaries

variable {before : Option Char} {s t : List Char}

lemma headAt_iff : HeadAt before s ↔ before.any isWord = false ∧ Headed s := by
  refine and_congr_left fun h => ?_
  rw [WordBoundary, head?_isWord_of_headed h]
  simp

lemma not_headAt_iff : ¬ HeadAt before s ↔ (before.any isWord = false → ¬ Headed s) := by
  rw [headAt_iff, not_and]

@[simp] lemma endOf_nil : endOf before [] = before := rfl

lemma endOf_append : endOf before (s ++ t) = endOf (endOf before s) t := by
  simp [endOf, List.getLast?_append, Option.or_assoc]

lemma endOf_cons (c : Char) : endOf before (c :: s) = endOf (some c) s := by
  rw [← List.singleton_append, endOf_append]
  rfl

lemma endOf_none : endOf none s = s.getLast? := Option.or_none

end Boundaries

namespace Piece

@[simp] lemma textOf_nil : textOf [] = [] := rfl

@[simp] lemma textOf_plain (c : Char) (ps : List Piece) : textOf (.plain c :: ps) = c :: textOf ps := rfl

@[simp] lemma textOf_call (m : StaticCall) (ps : List Piece) : textOf (.call m :: ps) = m.text ++ textOf ps := rfl

@[simp] lemma textOf_append (ps qs : List Piece) : textOf (ps ++ qs) = textOf ps ++ textOf qs := List.flatMap_append

end Piece

namespace StaticCall

variable {m : StaticCall} {s : List Char}

def Begins (s : List Char) : Prop := ∃ (m : StaticCall) (r : List Char), m.Formed ∧ s = m.text ++ r

lemma getLast?_text (m : StaticCall) : m.text.getLast? = some ')' := by
  have ht : m.tail.getLast? = some ')' := by
    cases h : m.body with
    | none => simp [tail, h]
    | some b =>
      simp only [tail, h]
      exact List.getLast?_concat
  simp [text, List.getLast?_append, ht]

lemma endOf_text (m : StaticCall) (before : Option Char) : endOf before m.text = some ')' := by
  rw [endOf, getLast?_text, Option.some_or]

lemma Formed.headed (hm : m.Formed) (r : List Char) : Headed (m.text ++ r) :=
  ⟨m.head, hm.head, _, by rw [text, List.append_assoc]⟩

lemma Formed.headAt_iff (hm : m.Formed) (before : Option Char) (r : List Char) :
    HeadAt before (m.text ++ r) ↔ WordBoundary before m.text := by
  rw [HeadAt, and_iff_left (hm.headed r), WordBoundary, WordBoundary, List.head?_append,
    List.head?_eq_some_head (List.length_pos_iff.mp m.length_text_pos), Option.some_or]

end StaticCall

section Scan

variable {before : Option Char} {after s : List Char} {c : Char} {m : StaticCall} {ps qs : List Piece}

lemma head?_eq_none_iff : head? s = none ↔ ¬ Headed s := by
  rw [Option.eq_none_iff_forall_ne_some]
  constructor
  · rintro hn ⟨h, hh, t, rfl⟩
    exact hn (h, t) (head?_eq_some_iff.mpr ⟨hh, rfl⟩)
  · rintro hn ⟨h, t⟩ e
    obtain ⟨hh, rfl⟩ := head?_eq_some_iff.mp e
    exact hn ⟨h, hh, t, rfl⟩

lemma scanFrom_plain (h : ¬ HeadAt before (c :: s)) :
    scanFrom (before.any isWord) (c :: s) = (scanFrom (isWord c) s).map (.plain c :: ·) := by
  rw [not_headAt_iff, ← head?_eq_none_iff] at h
  rw [scanFrom]
  split
  · rfl
  · next hh =>
    split at hh
    · contradiction
    · next hb =>
      rw [h (by simpa using hb)] at hh
      contradiction

lemma scanFrom_head {h : List Char} (hh : h ∈ heads) (hb : before.any isWord = false) (s : List Char) :
    scanFrom (before.any isWord) (h ++ s) =
      match afterHead? h s with
      | none => .error (malformedText (h ++ s))
      | some (m, r) => (scanFrom false r).map (.call m :: ·) := by
  have he : head? (h ++ s) = some (h, s) := head?_eq_some_iff.mpr ⟨hh, rfl⟩
  cases hs : h ++ s with
  | nil =>
    obtain ⟨rfl, -⟩ := List.append_eq_nil_iff.mp hs
    simp [heads] at hh
  | cons c r =>
    rw [hs] at he
    rw [hb, scanFrom]
    split
    · next hn => simp [he] at hn
    · next h' s' he' =>
      obtain ⟨rfl, rfl⟩ : h = h' ∧ s = s' := by simpa [he] using he'
      rw [← hs]
      cases hm : afterHead? h s with
      | none => simp
      | some x =>
        simp
        rfl

lemma scanFrom_call (hm : m.Formed) (hb : WordBoundary before m.text) (s : List Char) :
    scanFrom (before.any isWord) (m.text ++ s) = (scanFrom false s).map (.call m :: ·) := by
  have hb' : before.any isWord = false := (headAt_iff.mp ((hm.headAt_iff before []).mpr hb)).1
  have ht : m.text ++ s = m.head ++ (m.lead ++ (m.name ++ (m.trail ++ (m.tail ++ s)))) := by simp [StaticCall.text]
  rw [ht, scanFrom_head hm.head hb', hm.afterHead?_text]

lemma scanFrom_malformed (h : HeadAt before s) (hs : ¬ Begins s) :
    scanFrom (before.any isWord) s = .error (malformedText s) := by
  obtain ⟨hb, a, ha, t, rfl⟩ := headAt_iff.mp h
  rw [scanFrom_head ha hb]
  cases hm : afterHead? a t with
  | none => rfl
  | some x =>
    obtain ⟨hf, -, hx⟩ := (afterHead?_eq_some_iff ha).mp hm
    exact absurd ⟨x.1, x.2, hf, hx⟩ hs

lemma scanFrom_cut (h : Cut before after ps) : scanFrom (before.any isWord) (textOf ps ++ after) =
    (scanFrom ((endOf before (textOf ps)).any isWord) after).map (ps ++ ·) := by
  induction ps generalizing before with
  | nil => cases h : scanFrom (before.any isWord) after <;> simp [h, Except.map]
  | cons p ps ih =>
    cases p with
    | plain c =>
      obtain ⟨hc, hps⟩ := h
      have hi := ih hps
      rw [Option.any_some] at hi
      rw [textOf_plain, List.cons_append, scanFrom_plain hc, hi, endOf_cons]
      cases scanFrom ((endOf (some c) (textOf ps)).any isWord) after <;> rfl
    | call m =>
      obtain ⟨hm, hb, hps⟩ := h
      have hi := ih hps
      have hw : isWord ')' = false := by decide +kernel
      rw [getLast?_text, Option.any_some, hw] at hi
      rw [textOf_call, List.append_assoc, scanFrom_call hm hb, hi, endOf_append, endOf_text]
      cases scanFrom ((endOf (some ')') (textOf ps)).any isWord) after <;> rfl

lemma scan_of_isCut (h : IsCut s ps) : scan s = .ok ps := by
  obtain ⟨rfl, hc⟩ := h
  have hs := scanFrom_cut hc
  rw [List.append_nil] at hs
  have he : scan (textOf ps) = (scanFrom ((endOf none (textOf ps)).any isWord) []).map (ps ++ ·) := hs
  rw [he, scanFrom, Except.map, List.append_nil]

lemma scan_of_malformed (hc : Cut none after ps) (hh : HeadAt (textOf ps).getLast? after) (hb : ¬ Begins after) :
    scan (textOf ps ++ after) = .error (malformedText after) := by
  have hs : scan (textOf ps ++ after) = _ := scanFrom_cut hc
  rw [hs, endOf_none, scanFrom_malformed hh hb]
  rfl

lemma cut_or_malformed (before : Option Char) (s : List Char) :
    (∃ ps, textOf ps = s ∧ Cut before [] ps) ∨
      ∃ ps rest, textOf ps ++ rest = s ∧ Cut before rest ps ∧ HeadAt (endOf before (textOf ps)) rest ∧
        ¬ Begins rest := by
  -- on the length, since a call takes up many characters at once
  induction hn : s.length using Nat.strong_induction_on generalizing before s with
  | _ n ih =>
    subst hn
    by_cases hh : HeadAt before s
    · by_cases hb : Begins s
      · obtain ⟨m, r, hm, rfl⟩ := hb
        have hw := (hm.headAt_iff before r).mp hh
        have hlen : r.length < (m.text ++ r).length := by simp [m.length_text_pos]
        rcases ih r.length hlen m.text.getLast? r rfl with ⟨ps, rfl, hc⟩ | ⟨ps, rest, rfl, hc, hh, hb⟩
        · exact .inl ⟨.call m :: ps, rfl, hm, hw, hc⟩
        · refine .inr ⟨.call m :: ps, rest, by simp, ⟨hm, hw, hc⟩, ?_, hb⟩
          rwa [textOf_call, endOf_append, endOf_text, ← m.getLast?_text]
      · exact .inr ⟨[], s, rfl, trivial, hh, hb⟩
    · cases s with
      | nil => exact .inl ⟨[], rfl, trivial⟩
      | cons c r =>
        rcases ih r.length (by simp) (some c) r rfl with ⟨ps, rfl, hc⟩ | ⟨ps, rest, rfl, hc, hh', hb⟩
        · exact .inl ⟨.plain c :: ps, rfl, by simpa using hh, hc⟩
        · refine .inr ⟨.plain c :: ps, rest, rfl, ⟨hh, hc⟩, ?_, hb⟩
          rwa [textOf_plain, endOf_cons]

lemma scan_ok_iff : scan s = .ok ps ↔ IsCut s ps := by
  refine ⟨fun h => ?_, scan_of_isCut⟩
  rcases cut_or_malformed none s with ⟨qs, rfl, hc⟩ | ⟨qs, rest, rfl, hc, hh, hb⟩
  · obtain rfl := Except.ok.inj ((scan_of_isCut ⟨rfl, hc⟩).symm.trans h)
    exact ⟨rfl, hc⟩
  · rw [endOf_none] at hh
    have := (scan_of_malformed hc hh hb).symm.trans h
    contradiction

lemma scan_error_iff {t : List Char} : scan s = .error t ↔ ∃ ps rest, textOf ps ++ rest = s ∧ Cut none rest ps ∧
    HeadAt (textOf ps).getLast? rest ∧ ¬ Begins rest ∧ t = malformedText rest := by
  constructor
  · intro h
    rcases cut_or_malformed none s with ⟨qs, hq⟩ | ⟨qs, rest, rfl, hc, hh, hb⟩
    · have := (scan_of_isCut hq).symm.trans h
      contradiction
    · rw [endOf_none] at hh
      exact ⟨qs, rest, rfl, hc, hh, hb, Except.error.inj (h.symm.trans (scan_of_malformed hc hh hb))⟩
  · rintro ⟨ps, rest, rfl, hc, hh, hb, rfl⟩
    exact scan_of_malformed hc hh hb

end Scan

section Spans

variable {ps : List Piece}

lemma spansFrom_calls (n : Nat) (ps : List Piece) : (spansFrom n ps).map (·.2.2) = calls ps := by
  induction ps generalizing n with
  | nil => rfl
  | cons p ps ih =>
    cases p with
    | plain c => exact ih _
    | call m => exact congrArg (m :: ·) (ih _)

lemma spansFrom_split {n : Nat} {e : Nat × Nat × StaticCall} (he : e ∈ spansFrom n ps) :
    ∃ a b, ps = a ++ .call e.2.2 :: b ∧ e.1 = n + utf8Size (textOf a) ∧
      e.2.1 = n + utf8Size (textOf a ++ e.2.2.text) := by
  induction ps generalizing n with
  | nil => simp [spansFrom] at he
  | cons p ps ih =>
    cases p with
    | plain c =>
      obtain ⟨a, b, rfl, hs, hf⟩ := ih he
      refine ⟨.plain c :: a, b, rfl, ?_, ?_⟩
      · rw [hs, textOf_plain, utf8Size, Nat.add_assoc]
      · rw [hf, textOf_plain, List.cons_append, utf8Size, Nat.add_assoc]
    | call m =>
      rcases List.mem_cons.mp he with rfl | he
      · exact ⟨[], ps, rfl, rfl, rfl⟩
      · obtain ⟨a, b, rfl, hs, hf⟩ := ih he
        refine ⟨.call m :: a, b, rfl, ?_, ?_⟩
        · rw [hs, textOf_call, utf8Size_append, Nat.add_assoc]
        · rw [hf, textOf_call, List.append_assoc, utf8Size_append m.text, Nat.add_assoc]

lemma spansFrom_sorted (n : Nat) (ps : List Piece) : (spansFrom n ps).Pairwise fun e e' => e.2.1 ≤ e'.1 := by
  induction ps generalizing n with
  | nil => exact .nil
  | cons p ps ih =>
    cases p with
    | plain c => exact ih _
    | call m =>
      refine .cons (fun e he => ?_) (ih _)
      obtain ⟨a, b, -, hs, -⟩ := spansFrom_split he
      rw [hs]
      exact Nat.le_add_right _ _

lemma span_bounds {e : Nat × Nat × StaticCall} (he : e ∈ spans ps) :
    e.1 < e.2.1 ∧ e.2.1 ≤ utf8Size (textOf ps) := by
  obtain ⟨a, b, rfl, hs, hf⟩ := spansFrom_split he
  have hpos : 0 < utf8Size e.2.2.text := by
    obtain ⟨c, r, hc⟩ := List.exists_cons_of_length_pos e.2.2.length_text_pos
    rw [hc, utf8Size]
    exact Nat.add_pos_left c.utf8Size_pos _
  rw [hs, hf, textOf_append, textOf_call]
  simp only [utf8Size_append]
  omega

end Spans

lemma trim_eq_nil_iff {b : List Char} : trim b = [] ↔ ∀ c ∈ b, isBlank c = true := by
  have ht : trim b = (b.rdropWhile isBlank).dropWhile isBlank := rfl
  rw [ht, List.dropWhile_eq_nil_iff, ← List.rdropWhile_eq_nil_iff, List.rdropWhile_idempotent,
    List.rdropWhile_eq_nil_iff]

lemma StaticCall.literal_eq (m : StaticCall) :
    m.literal = m.body.bind fun b => if b.all isBlank then none else some (trim b) := by
  cases h : m.body with
  | none => rw [literal, h, Option.bind_none, Option.bind_none]
  | some b =>
    rw [literal, h, Option.bind_some, Option.bind_some]
    by_cases hb : ∀ c ∈ b, isBlank c = true
    · rw [if_pos (trim_eq_nil_iff.mpr hb), if_pos (List.all_eq_true.mpr hb)]
    · rw [if_neg fun ht => hb (trim_eq_nil_iff.mp ht), if_neg fun ha => hb (List.all_eq_true.mp ha)]

lemma scanSource_ok_iff {s : List Char} {ps : List Piece} : scanSource s = .ok ps ↔ IsCut s ps := by
  rw [← scan_ok_iff, scanSource]
  cases scan s <;> simp [Except.mapError]

lemma scanSource_error_iff {s : List Char} {f : Failure} :
    scanSource s = .error f ↔ ∃ t, scan s = .error t ∧ f = .malformedStatic (String.ofList t) := by
  rw [scanSource]
  cases scan s <;> simp [Except.mapError, eq_comm]

/-- A source with a cut has one cut, and the scan gives its calls, each with its bytes and its default. Any
other source is reported with the line that begins at the first head, in the order of the scan, of no call. -/
theorem scanSource_grammar (s : List Char) :
    (∀ ps, scanSource s = .ok ps ↔ IsCut s ps) ∧
      (∀ ps qs, IsCut s ps → IsCut s qs → ps = qs) ∧
      (∀ ps, IsCut s ps →
        (spans ps).map (·.2.2) = calls ps ∧
          (∀ e ∈ spans ps, e.1 < e.2.1 ∧ e.2.1 ≤ utf8Size s ∧ ∃ a b, ps = a ++ .call e.2.2 :: b ∧
            e.1 = utf8Size (textOf a) ∧ e.2.1 = utf8Size (textOf a ++ e.2.2.text)) ∧
          (spans ps).Pairwise (fun e e' => e.2.1 ≤ e'.1) ∧
          ∀ m ∈ calls ps, m.literal = m.body.bind fun b => if b.all isBlank then none else some (trim b)) ∧
      ∀ f, scanSource s = .error f ↔ ∃ ps rest, textOf ps ++ rest = s ∧ Cut none rest ps ∧
        HeadAt (textOf ps).getLast? rest ∧ ¬ Begins rest ∧
        f = .malformedStatic (String.ofList (malformedText rest)) := by
  refine ⟨fun ps => scanSource_ok_iff, fun ps qs hp hq => ?_, fun ps hp => ⟨?_, fun e he => ?_, ?_, ?_⟩, fun f => ?_⟩
  · exact Except.ok.inj ((scan_of_isCut hp).symm.trans (scan_of_isCut hq))
  · exact spansFrom_calls 0 ps
  · obtain ⟨hlt, hle⟩ := span_bounds he
    obtain ⟨a, b, hab, hs, hf⟩ := spansFrom_split he
    rw [Nat.zero_add] at hs hf
    exact ⟨hlt, hp.1 ▸ hle, a, b, hab, hs, hf⟩
  · exact spansFrom_sorted 0 ps
  · exact fun m _ => m.literal_eq
  · rw [scanSource_error_iff]
    constructor
    · rintro ⟨t, ht, rfl⟩
      obtain ⟨ps, rest, hs, hc, hh, hb, rfl⟩ := scan_error_iff.mp ht
      exact ⟨ps, rest, hs, hc, hh, hb, rfl⟩
    · rintro ⟨ps, rest, hs, hc, hh, hb, rfl⟩
      exact ⟨_, scan_error_iff.mpr ⟨ps, rest, hs, hc, hh, hb, rfl⟩, rfl⟩

theorem scanSource_grammar_lines :
    let m : StaticCall := ⟨"STATIC(".toList, [' '], ['a'], [], some " (1,\n2) ".toList⟩
    let ps : List Piece := [.plain 'é', .plain ' ', .call m]
    IsCut "é STATIC( a, (1,\n2) )".toList ps ∧ (∀ qs, IsCut "é STATIC( a, (1,\n2) )".toList qs → ps = qs) ∧
      (spans ps).map (·.2.2) = calls ps ∧ spans ps = [(3, 22, m)] ∧ m.literal = some "(1,\n2)".toList := by
  intro m ps
  have hs := scanSource_grammar "é STATIC( a, (1,\n2) )".toList
  have hc : IsCut "é STATIC( a, (1,\n2) )".toList ps := (hs.1 ps).mp (by decide +kernel)
  exact ⟨hc, fun qs => hs.2.1 ps qs hc, (hs.2.2.1 ps hc).1, by decide +kernel, by decide +kernel⟩

end ShaderRunner

import ShaderRunner.Proofs.SourceCut

/-!
Calls of a cut replaced by texts: what comes out is cut at the same places exactly if every replacement is cut where
it stands, so that no head begins at a character that was there before.
-/

namespace ShaderRunner

open Text Piece StaticCall

variable {before before' : Option Char} {after s t v : List Char} {m : StaticCall} {ps qs : List Piece}
  {f g : StaticCall → Option (List Char)}

lemma forall_split_cons {α : Type} {P : List α → α → List α → Prop} {x : α} {l : List α} :
    (∀ a y b, x :: l = a ++ y :: b → P a y b) ↔ P [] x l ∧ ∀ a y b, l = a ++ y :: b → P (x :: a) y b := by
  constructor
  · exact fun h => ⟨h [] x l rfl, fun a y b hl => h (x :: a) y b (congrArg (x :: ·) hl)⟩
  · rintro ⟨h, ht⟩ a y b hl
    cases a with
    | nil =>
      obtain ⟨rfl, rfl⟩ := List.cons.inj hl
      exact h
    | cons z a =>
      obtain ⟨rfl, rfl⟩ := List.cons.inj hl
      exact ht a y b rfl

namespace Piece

def replaced (f : StaticCall → Option (List Char)) (m : StaticCall) : List Piece :=
  match f m with
  | none => [call m]
  | some v => v.map plain

def replace (f : StaticCall → Option (List Char)) (ps : List Piece) : List Piece :=
  ps.flatMap fun
    | plain c => [plain c]
    | call m => replaced f m

@[simp] lemma replace_nil : replace f [] = [] := rfl

@[simp] lemma replace_plain (c : Char) : replace f (plain c :: ps) = plain c :: replace f ps := rfl

@[simp] lemma replace_call : replace f (call m :: ps) = replaced f m ++ replace f ps := rfl

@[simp] lemma substitute_nil : substitute f [] = [] := rfl

@[simp] lemma substitute_plain (c : Char) : substitute f (plain c :: ps) = c :: substitute f ps := rfl

@[simp] lemma substitute_call : substitute f (call m :: ps) = (f m).getD m.text ++ substitute f ps := rfl

@[simp] lemma substitute_append : substitute f (ps ++ qs) = substitute f ps ++ substitute f qs := List.flatMap_append

@[simp] lemma textOf_map_plain (v : List Char) : textOf (v.map plain) = v := by
  induction v with
  | nil => rfl
  | cons c v ih => rw [List.map_cons, textOf_plain, ih]

@[simp] lemma calls_map_plain (v : List Char) : calls (v.map plain) = [] := by
  simp [calls, List.filterMap_map, call?, Function.comp_def]

@[simp] lemma calls_append : calls (ps ++ qs) = calls ps ++ calls qs := List.filterMap_append

lemma textOf_replaced (f : StaticCall → Option (List Char)) (m : StaticCall) :
    textOf (replaced f m) = (f m).getD m.text := by
  cases h : f m <;> simp [replaced, h]

lemma textOf_replace (f : StaticCall → Option (List Char)) (ps : List Piece) :
    textOf (replace f ps) = substitute f ps := by
  induction ps with
  | nil => rfl
  | cons p ps ih =>
    cases p with
    | plain c => rw [replace_plain, textOf_plain, ih, substitute_plain]
    | call m => rw [replace_call, textOf_append, textOf_replaced, ih, substitute_call]

lemma calls_replace (f : StaticCall → Option (List Char)) (ps : List Piece) :
    calls (replace f ps) = (calls ps).filter fun m => (f m).isNone := by
  induction ps with
  | nil => rfl
  | cons p ps ih =>
    cases p with
    | plain c => exact ih
    | call m =>
      rw [replace_call, calls_append, ih]
      cases h : f m <;> simp [replaced, h, calls, call?]

lemma replace_append : replace f (ps ++ qs) = replace f ps ++ replace f qs := List.flatMap_append

lemma replace_map_plain (v : List Char) : replace f (v.map plain) = v.map plain := by
  induction v with
  | nil => rfl
  | cons c v ih => rw [List.map_cons, replace_plain, ih]

lemma replace_replace (f g : StaticCall → Option (List Char)) (ps : List Piece) :
    replace g (replace f ps) = replace (fun m => (f m).or (g m)) ps := by
  induction ps with
  | nil => rfl
  | cons p ps ih =>
    cases p with
    | plain c => rw [replace_plain, replace_plain, replace_plain, ih]
    | call m =>
      rw [replace_call, replace_append, ih, replace_call]
      congr 1
      cases h : f m with
      | none => simp [replaced, h]
      | some v => simp [replaced, h, replace_map_plain]

lemma replace_congr (h : ∀ m ∈ calls ps, f m = g m) : replace f ps = replace g ps := by
  induction ps with
  | nil => rfl
  | cons p ps ih =>
    cases p with
    | plain c => rw [replace_plain, replace_plain, ih h]
    | call m =>
      have hm : f m = g m := h m List.mem_cons_self
      rw [replace_call, replace_call, replaced, replaced, hm, ih fun n hn => h n (List.mem_cons_of_mem _ hn)]

lemma replace_none (h : ∀ m ∈ calls ps, f m = none) : replace f ps = ps := by
  rw [replace_congr (g := fun _ => none) h]
  induction ps with
  | nil => rfl
  | cons p ps ih =>
    cases p with
    | plain c => rw [replace_plain, ih h]
    | call m => rw [replace_call, ih fun n hn => h n (List.mem_cons_of_mem _ hn)]; rfl

end Piece

section Cuts

lemma cut_append :
    Cut before after (ps ++ qs) ↔ Cut before (textOf qs ++ after) ps ∧ Cut (endOf before (textOf ps)) after qs := by
  induction ps generalizing before with
  | nil => simp [Cut]
  | cons p ps ih =>
    cases p with
    | plain c =>
      simp only [List.cons_append, Cut, ih, textOf_append, textOf_plain, endOf_cons, List.append_assoc, and_assoc]
    | call m =>
      simp only [List.cons_append, Cut, ih, textOf_call, endOf_append, endOf_text, getLast?_text, and_assoc]

lemma cut_map_plain_iff : Cut before after (v.map .plain) ↔
    ∀ u c w, v = u ++ c :: w → ¬ HeadAt (endOf before u) (c :: (w ++ after)) := by
  induction v generalizing before with
  | nil => simp [Cut]
  | cons c v ih =>
    rw [List.map_cons, Cut, textOf_map_plain, ih, forall_split_cons]
    simp only [endOf_nil, endOf_cons]

lemma text_cons_of_formed (hm : m.Formed) : ∃ c t, m.text = c :: t ∧ isWord c = true := by
  have hw := head?_isWord_of_headed (hm.headed [])
  cases ht : m.text with
  | nil => simp [ht] at hw
  | cons c t => exact ⟨c, t, rfl, by simpa [ht] using hw⟩

lemma wordBoundary_text_iff (hm : m.Formed) : WordBoundary before m.text ↔ before.any isWord = false := by
  obtain ⟨c, t, ht, hc⟩ := text_cons_of_formed hm
  simp [WordBoundary, ht, hc]

lemma word_substitute (h : Cut before [] ps) (hb : before.any isWord = true) :
    (substitute f ps).takeWhile isWord = (textOf ps).takeWhile isWord ∧
      ((substitute f ps).dropWhile isWord).head? = ((textOf ps).dropWhile isWord).head? := by
  induction ps generalizing before with
  | nil => exact ⟨rfl, rfl⟩
  | cons p ps ih =>
    cases p with
    | plain c =>
      by_cases hc : isWord c = true
      · obtain ⟨ht, hd⟩ := ih h.2 (by simpa using hc)
        simp [hc, ht, hd]
      · simp [hc]
    | call m =>
      have := (wordBoundary_text_iff h.1).mp h.2.1
      rw [hb] at this
      contradiction

lemma headed_substitute {c : Char} (h : Cut (some c) [] ps) :
    Headed (c :: substitute f ps) ↔ Headed (c :: textOf ps) := by
  by_cases hc : isWord c = true
  · obtain ⟨ht, hd⟩ := word_substitute (f := f) h (by simpa using hc)
    rw [headed_iff, headed_iff]
    simp [hc, ht, hd]
  · have hn : ∀ s, ¬ Headed (c :: s) := fun s hs => hc (by simpa using head?_isWord_of_headed hs)
    simp only [hn]

def Fits (f : StaticCall → Option (List Char)) (before : Option Char) (ps : List Piece) : Prop :=
  ∀ a m b, ps = a ++ .call m :: b → Cut (endOf before (substitute f a)) (substitute f b) (replaced f m)

lemma fits_cons {p : Piece} : Fits f before (p :: ps) ↔
    (∀ m, p = .call m → Cut before (substitute f ps) (replaced f m)) ∧
      Fits f (endOf before (substitute f [p])) ps := by
  have hsplit : ∀ before qs, Fits f before qs ↔ ∀ a q b, qs = a ++ q :: b → ∀ m, q = .call m →
      Cut (endOf before (substitute f a)) (substitute f b) (replaced f m) := by
    refine fun before qs => ⟨fun h a q b hq m hm => h a m b (hm ▸ hq), fun h a m b hq => h a _ b hq m rfl⟩
  rw [hsplit, hsplit, forall_split_cons]
  refine and_congr Iff.rfl (forall_congr' fun a => ?_)
  rw [← endOf_append, ← substitute_append, List.singleton_append]

lemma cut_replace_iff (h : Cut before [] ps) (hb : before.any isWord = true → before'.any isWord = true) :
    Cut before' [] (replace f ps) ↔ Fits f before' ps := by
  induction ps generalizing before before' with
  | nil => simp [Cut, Fits]
  | cons p ps ih =>
    cases p with
    | plain c =>
      obtain ⟨hc, hps⟩ := h
      -- the word that begins here, and what ends it, are still the same
      have hn : ¬ HeadAt before' (c :: (substitute f ps ++ [])) := by
        rw [List.append_nil, not_headAt_iff, headed_substitute hps]
        rw [List.append_nil, not_headAt_iff] at hc
        refine fun hb' => hc ?_
        by_contra hw
        simp [hb (by simpa using hw)] at hb'
      rw [replace_plain, Cut, textOf_replace, and_iff_right hn, ih hps id, fits_cons, and_iff_right (by simp)]
      rfl
    | call m =>
      obtain ⟨-, -, hps⟩ := h
      have hw : ¬ (m.text.getLast?.any isWord = true) := by
        rw [getLast?_text]
        decide +kernel
      have hm : substitute f [.call m] = (f m).getD m.text := List.append_nil _
      rw [replace_call, cut_append, textOf_replace, textOf_replaced, List.append_nil, fits_cons, hm,
        ih hps fun hm => absurd hm hw]
      simp

end Cuts

section Apart

def Apart : List Piece → Prop
  | [] => True
  | .plain _ :: ps => Apart ps
  | .call _ :: ps => (textOf ps).head?.any isWord = false ∧ Apart ps

instance Apart.decidable : (ps : List Piece) → Decidable (Apart ps)
  | [] => isTrue trivial
  | .plain _ :: ps => Apart.decidable ps
  | .call _ :: ps =>
    have := Apart.decidable ps
    inferInstanceAs (Decidable ((textOf ps).head?.any isWord = false ∧ Apart ps))

lemma Apart.of_append (h : Apart (ps ++ qs)) : Apart qs := by
  induction ps with
  | nil => exact h
  | cons p ps ih =>
    cases p with
    | plain c => exact ih h
    | call m => exact ih h.2

lemma apart_plains (v : List Char) (h : Apart ps) : Apart (v.map .plain ++ ps) := by
  induction v with
  | nil => exact h
  | cons c v ih => exact ih

lemma Apart.next (h : Apart (.call m :: ps)) (hc : Cut before [] ps) :
    ps = [] ∨ ∃ c qs, ps = .plain c :: qs ∧ isWord c = false := by
  rcases ps with - | ⟨c | n, qs⟩
  · exact .inl rfl
  · exact .inr ⟨c, qs, rfl, h.1⟩
  · exfalso
    obtain ⟨c, t, ht, hw⟩ := text_cons_of_formed hc.1
    have hn := h.1
    simp [ht, hw] at hn

lemma head?_substitute_of_next (h : ps = [] ∨ ∃ c qs, ps = .plain c :: qs ∧ isWord c = false) :
    (substitute f ps).head?.any isWord = false := by
  rcases h with rfl | ⟨c, qs, rfl, hc⟩
  · rfl
  · exact hc

lemma apart_replace (h : Cut before [] ps) (ha : Apart ps) : Apart (replace f ps) := by
  induction ps generalizing before with
  | nil => trivial
  | cons p ps ih =>
    cases p with
    | plain c => exact ih h.2 ha
    | call m =>
      rw [replace_call, replaced]
      cases f m with
      | some v => exact apart_plains v (ih h.2.2 ha.2)
      | none =>
        have hn := head?_substitute_of_next (f := f) (ha.next h.2.2)
        rw [← textOf_replace] at hn
        exact ⟨hn, ih h.2.2 ha.2⟩

end Apart

section Joins

/-- A text that makes a head together with some word before it: its first word ends the word of a head, and a
parenthesis follows. -/
def Joins (s : List Char) : Prop :=
  s.takeWhile isWord ≠ [] ∧ (∃ h ∈ heads, s.takeWhile isWord ++ ['('] <:+ h) ∧ (s.dropWhile isWord).head? = some '('

instance (s : List Char) : Decidable (Joins s) := inferInstanceAs (Decidable (_ ∧ _ ∧ _))

def Unjoined : List Piece → Prop
  | [] => True
  | .plain _ :: ps => Unjoined ps
  | .call _ :: ps => ¬ Joins (textOf ps) ∧ Unjoined ps

instance Unjoined.decidable : (ps : List Piece) → Decidable (Unjoined ps)
  | [] => isTrue trivial
  | .plain _ :: ps => Unjoined.decidable ps
  | .call _ :: ps =>
    have := Unjoined.decidable ps
    inferInstanceAs (Decidable (¬ Joins (textOf ps) ∧ Unjoined ps))

lemma not_joins_of_nonword (h : s.head?.any isWord = false) : ¬ Joins s := by
  rintro ⟨hw, -⟩
  cases s with
  | nil => exact hw rfl
  | cons c s =>
    have hc : isWord c = false := h
    simp [hc] at hw

lemma joins_of_headed (h : Headed s) : Joins s := by
  obtain ⟨hh, hp⟩ := headed_iff.mp h
  refine ⟨fun hw => ?_, ⟨_, hh, List.suffix_rfl⟩, hp⟩
  have hs := static_suffix_of_headed h
  rw [hw] at hs
  simp at hs

lemma joins_of_headed_append (hv : ¬ "STATIC".toList <:+: v) (h : Headed (v ++ s)) : Joins s := by
  have hs := static_suffix_of_headed h
  obtain ⟨hh, hp⟩ := headed_iff.mp h
  by_cases hw : (v.takeWhile isWord).length = v.length
  · rw [List.takeWhile_append, if_pos hw] at hs hh
    rw [List.dropWhile_append, List.isEmpty_iff.mpr (List.dropWhile_eq_nil_iff.mpr ?_), if_pos rfl] at hp
    · refine ⟨fun hx => hv ?_, ⟨_, hh, by simp⟩, hp⟩
      rw [hx, List.append_nil] at hs
      exact hs.isInfix
    · have hv' := (List.takeWhile_prefix (p := isWord) (l := v)).eq_of_length hw
      rw [← hv']
      exact fun c hc => List.mem_takeWhile_imp hc
  · rw [List.takeWhile_append, if_neg hw] at hs
    exact absurd (hs.isInfix.trans (List.takeWhile_prefix _).isInfix) hv

lemma not_headed_of_static_free (hv : ¬ "STATIC".toList <:+: v) (hs : ¬ Joins s) : ¬ Headed (v ++ s) :=
  fun hh => hs (joins_of_headed_append hv hh)

lemma cut_static_free (hv : ¬ "STATIC".toList <:+: v) (hs : ¬ Joins s) : Cut before s (v.map .plain) := by
  apply cut_map_plain_iff.mpr
  rintro u c w rfl hh
  have hc : ¬ "STATIC".toList <:+: c :: w := fun hi => hv (hi.trans (List.suffix_append u _).isInfix)
  exact not_headed_of_static_free hc hs hh.2

lemma Apart.unjoined (h : Apart ps) : Unjoined ps := by
  induction ps with
  | nil => trivial
  | cons p ps ih =>
    cases p with
    | plain c => exact ih h
    | call m => exact ⟨not_joins_of_nonword h.1, ih h.2⟩

lemma Unjoined.of_append (h : Unjoined (ps ++ qs)) : Unjoined qs := by
  induction ps with
  | nil => exact h
  | cons p ps ih =>
    cases p with
    | plain c => exact ih h
    | call m => exact ih h.2

lemma joins_of_substitute (h : Cut before [] ps) (hj : Joins (substitute f ps)) : Joins (textOf ps) := by
  rcases ps with - | ⟨c | m, ps⟩
  · exact hj
  · by_cases hc : isWord c = true
    -- the word that begins here, and what ends it, are the same in both texts
    · obtain ⟨ht, hd⟩ := word_substitute (f := f) h.2 (by simpa using hc)
      simpa [Joins, hc, ht, hd] using hj
    · exact absurd hj (not_joins_of_nonword (by simpa using hc))
  · exact joins_of_headed (h.1.headed _)

lemma fits_of_static_free (h : Cut none [] ps) (hj : Unjoined ps)
    (hf : ∀ m ∈ calls ps, ∀ v ∈ f m, ¬ "STATIC".toList <:+: v) : Fits f none ps := by
  rintro a m b rfl
  obtain ⟨hm, hw, hcb⟩ := (cut_append.mp h).2
  rw [replaced]
  cases hv : f m with
  | some v =>
    exact cut_static_free (hf m (by simp [calls, call?]) v hv) fun hs => hj.of_append.1 (joins_of_substitute hcb hs)
  | none =>
    refine ⟨hm, (wordBoundary_text_iff hm).mpr ?_, trivial⟩
    rw [wordBoundary_text_iff hm] at hw
    rcases List.eq_nil_or_concat a with rfl | ⟨a, p, rfl⟩
    · exact hw
    · cases p with
      | plain c => simpa [endOf] using hw
      -- no call stands right before another, so the character before this one is still there
      | call n =>
        rw [List.concat_eq_append, List.append_assoc] at hj
        exact absurd (joins_of_headed (hm.headed _)) hj.of_append.1

end Joins

end ShaderRunner

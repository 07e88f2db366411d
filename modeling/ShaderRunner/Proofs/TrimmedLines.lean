import ShaderRunner.Proofs.Words
import ShaderRunner.Uniform.Declaration

/-!
Trimmed, the lines of a text that is cut at a line feed are those of what stands before the cut and those of what
follows it; a carriage return before the line feed, which `lines` drops, makes no difference.
-/

namespace ShaderRunner

open Text

namespace Text

variable {c : Char} {l s : List Char}

lemma lines_cons (hc : c ≠ '\n') (hs : c = '\r' → s.head? ≠ some '\n') :
    lines (c :: s) = match lines s with
      | [] => [[c]]
      | l :: ls => (c :: l) :: ls := by
  rw [lines.eq_def]
  split
  · contradiction
  · next h => exact absurd (List.cons.inj h).1 hc
  · next h =>
    obtain ⟨rfl, rfl⟩ := List.cons.inj h
    exact absurd rfl (hs rfl)
  · next h =>
    obtain ⟨rfl, rfl⟩ := List.cons.inj h
    rfl

lemma lines_of_line (h : '\n' ∉ l) : lines l = if l = [] then [] else [l] := by
  induction l with
  | nil => rfl
  | cons c l ih =>
    rw [List.mem_cons, not_or] at h
    have hl : l.head? ≠ some '\n' := fun e => h.2 (List.mem_of_mem_head? e)
    rw [lines_cons (Ne.symm h.1) fun _ => hl, ih h.2]
    cases l <;> simp

lemma lines_append_of_line (h : '\n' ∉ l) (s : List Char) :
    ∃ k, lines (l ++ '\n' :: s) = k :: lines s ∧ (l = k ∨ l = k ++ ['\r']) := by
  induction l with
  | nil => exact ⟨[], rfl, .inl rfl⟩
  | cons c l ih =>
    rw [List.mem_cons, not_or] at h
    obtain ⟨k, hk, hl⟩ := ih h.2
    by_cases hr : c = '\r' ∧ l = []
    · obtain ⟨rfl, rfl⟩ := hr
      exact ⟨[], rfl, .inr rfl⟩
    · have hs : c = '\r' → (l ++ '\n' :: s).head? ≠ some '\n' := by
        intro hc
        cases l with
        | nil => exact absurd ⟨hc, rfl⟩ hr
        | cons d l => simpa using fun e => h.2 (by simp [e])
      refine ⟨c :: k, ?_, ?_⟩
      · rw [List.cons_append, lines_cons (Ne.symm h.1) hs, hk]
      · apply hl.imp <;> rintro rfl <;> rfl

end Text

def trimmedLines (s : List Char) : List (List Char) := (lines s).map trim

section TrimmedLines

variable {l s t : List Char}

lemma sourceLines_eq (source : String) : sourceLines source = trimmedLines source.toList := rfl

lemma trimmedLines_append_of_line (h : '\n' ∉ l) (s : List Char) :
    trimmedLines (l ++ '\n' :: s) = trim l :: trimmedLines s := by
  obtain ⟨k, hk, hl⟩ := lines_append_of_line h s
  have ht : trim l = trim k := by
    rcases hl with rfl | rfl
    · rfl
    · exact trim_carriageReturn k
  rw [trimmedLines, hk, List.map_cons, ht, trimmedLines]

lemma induction_on_splits {α : Type} {x : α} {P : List α → Prop} (hlast : ∀ l, x ∉ l → P l)
    (hsplit : ∀ l s, x ∉ l → P s → P (l ++ x :: s)) (s : List α) : P s := by
  induction hn : s.length using Nat.strong_induction_on generalizing s with
  | _ n ih =>
    by_cases h : x ∈ s
    · obtain ⟨l, r, rfl, hl⟩ := List.eq_append_cons_of_mem h
      apply hsplit l r hl
      exact ih r.length (by simp [← hn]; omega) r rfl
    · exact hlast s h

lemma induction_on_lines {P : List Char → Prop} (hlast : ∀ l, '\n' ∉ l → P l)
    (hline : ∀ l s, '\n' ∉ l → P s → P (l ++ '\n' :: s)) (s : List Char) : P s :=
  induction_on_splits hlast hline s

lemma trimmedLines_append_line (s t : List Char) :
    trimmedLines (s ++ '\n' :: t) = trimmedLines (s ++ ['\n']) ++ trimmedLines t := by
  induction s using induction_on_lines with
  | hlast l hl =>
    rw [trimmedLines_append_of_line hl, trimmedLines_append_of_line hl]
    rfl
  | hline l s hl ih =>
    rw [List.append_assoc, List.append_assoc, List.cons_append, List.cons_append, trimmedLines_append_of_line hl,
      trimmedLines_append_of_line hl, ih, List.cons_append]

lemma trimmedLines_lineFeed (s : List Char) :
    trimmedLines (s ++ ['\n']) = trimmedLines s ∨ trimmedLines (s ++ ['\n']) = trimmedLines s ++ [[]] := by
  induction s using induction_on_lines with
  | hlast l hl =>
    rw [trimmedLines_append_of_line hl, trimmedLines, trimmedLines, lines_of_line hl]
    cases l with
    | nil => exact .inr rfl
    | cons c l => exact .inl rfl
  | hline l s hl ih =>
    rw [List.append_assoc, List.cons_append, trimmedLines_append_of_line hl, trimmedLines_append_of_line hl,
      List.cons_append, List.cons.injEq, List.cons.injEq, and_iff_right rfl, and_iff_right rfl]
    exact ih

lemma isInfix_of_mem_trimmedLines (h : l ∈ trimmedLines s) : l <:+: s := by
  induction s using induction_on_lines with
  | hlast k hk =>
    rw [trimmedLines, lines_of_line hk] at h
    by_cases hn : k = []
    · simp [hn] at h
    · obtain rfl : l = trim k := by simpa [hn] using h
      exact trim_isInfix k
  | hline k s hk ih =>
    rw [trimmedLines_append_of_line hk] at h
    rcases List.mem_cons.mp h with rfl | h
    · exact (trim_isInfix k).trans (List.prefix_append k _).isInfix
    · exact (ih h).trans ((List.suffix_cons '\n' s).trans (List.suffix_append k _)).isInfix

end TrimmedLines

end ShaderRunner

import Mathlib.Data.List.Forall2
import ShaderRunner.Proofs.TrimmedLines
import ShaderRunner.Program.ErrorWindow

namespace ShaderRunner.ErrorWindow

open Text

def window (source : String) (line : UInt64) : List (List Char × Nat) :=
  ((lines source.toList).zipIdx 1).filter fun x => ((x.2 : Int) - line.toNat).natAbs ≤ 2

def Shown (mark : List Char) (number : Nat) (text r : List Char) : Prop :=
  ∃ indent, r = List.replicate indent ' ' ++ (mark ++ Nat.toDigits 10 number) ++ ": ".toList ++ text ∧
    indent + (mark ++ Nat.toDigits 10 number).length = max 5 (mark ++ Nat.toDigits 10 number).length

def marked (r : List Char) : Bool := (r.dropWhile (· = ' ')).head? = some '>'

section Words

variable (line : UInt64)

lemma toNat_start : (start line).toNat = line.toNat - 3 := by
  by_cases h : line < 3
  · have hn : line.toNat < 3 := UInt64.lt_iff_toNat_lt.mp h
    rw [start, if_pos h]
    change 0 = _
    omega
  · rw [start, if_neg h, UInt64.toNat_sub_of_le _ _ (UInt64.not_lt.mp h)]
    rfl

lemma toNat_count : (count line).toNat = line.toNat + 2 - (line.toNat - 3) := by
  have hline := line.toNat_lt
  have htwo : (2 : UInt64).toNat = 2 := rfl
  rw [count, UInt64.toNat_sub, stop, UInt64.toNat_add, toNat_start, htwo]
  omega

end Words

section Rows

variable {line : UInt64} {number : Nat} {text : List Char}

lemma row_shown : Shown (if number = line.toNat then "> ".toList else "  ".toList) number text (row line number text) :=
  ⟨_, rfl, by omega⟩

lemma dropWhile_spaces (n : Nat) (s : List Char) :
    (List.replicate n ' ' ++ s).dropWhile (· = ' ') = s.dropWhile (· = ' ') :=
  List.dropWhile_append_of_pos fun c hc => by simp [List.eq_of_mem_replicate hc]

lemma row_marked_iff : marked (row line number text) = true ↔ number = line.toNat := by
  rw [row, alignRight, List.append_assoc, List.append_assoc, marked, dropWhile_spaces, decide_eq_true_eq]
  by_cases h : number = line.toNat
  · simp [h]
  · obtain ⟨c, ds, hd⟩ := List.exists_cons_of_ne_nil (Nat.toDigits_ne_nil (n := number) (b := 10))
    have hc : c.isDigit = true :=
      Nat.isDigit_of_mem_toDigits (b := 10) (n := number) (by decide) (by decide) (by simp [hd])
    have hspace : c ≠ ' ' := by
      rintro rfl
      contradiction
    have hmark : c ≠ '>' := by
      rintro rfl
      contradiction
    simp [h, hd, hspace, hmark]

lemma lineFeed_notMem_row (h : '\n' ∉ text) : '\n' ∉ row line number text := by
  have hdigits : '\n' ∉ Nat.toDigits 10 number := fun hn => by
    have := Nat.isDigit_of_mem_toDigits (by decide) (by decide) hn
    contradiction
  rw [row]
  split <;> simp [alignRight, h, hdigits]

end Rows

section Numbered

variable {α : Type} {l : List α} {k i : Nat}

lemma take_drop_zipIdx (l : List α) (k a n : Nat) : ((l.zipIdx k).drop a).take n =
    (l.zipIdx k).filter fun x => k + a ≤ x.2 ∧ x.2 < k + a + n := by
  induction l generalizing k a n with
  | nil => simp
  | cons x l ih =>
    -- the numbers of the tail begin one higher
    have htail : ∀ b m, (∀ j, k + 1 ≤ j → (k + 1 + b ≤ j ∧ j < k + 1 + b + m ↔ k + a ≤ j ∧ j < k + a + n)) →
        ((l.zipIdx (k + 1)).drop b).take m = (l.zipIdx (k + 1)).filter fun x => k + a ≤ x.2 ∧ x.2 < k + a + n := by
      intro b m h
      rw [ih]
      refine List.filter_congr fun y hy => ?_
      rw [decide_eq_decide]
      exact h y.2 (List.le_snd_of_mem_zipIdx hy)
    rw [List.zipIdx_cons, List.filter_cons]
    cases a with
    | succ a =>
      have hfirst : ¬ (k + (a + 1) ≤ k ∧ k < k + (a + 1) + n) := by omega
      rw [if_neg (by rwa [decide_eq_true_eq]), List.drop_succ_cons]
      exact htail a n fun j hj => by omega
    | zero =>
      cases n with
      | zero => simp
      | succ n =>
        rw [if_pos (by simp), List.drop_zero, List.take_succ_cons, ← htail 0 n fun j hj => by omega, List.drop_zero]

lemma countP_zipIdx : (l.zipIdx k).countP (fun x => x.2 = i) = if k ≤ i ∧ i < k + l.length then 1 else 0 := by
  induction l generalizing k with
  | nil =>
    rw [List.zipIdx_nil, List.countP_nil, if_neg (by simp)]
  | cons x l ih =>
    rw [List.zipIdx_cons, List.countP_cons, ih, List.length_cons]
    split_ifs <;> simp_all <;> omega

end Numbered

section Window

variable (source : String) (line : UInt64)

lemma lineFeed_notMem_lines (s : List Char) : ∀ l ∈ lines s, '\n' ∉ l := by
  induction s using induction_on_lines with
  | hlast l hl =>
    rw [lines_of_line hl]
    split <;> simp [hl]
  | hline l s hl ih =>
    obtain ⟨k, hk, hlk⟩ := lines_append_of_line hl s
    rw [hk, List.forall_mem_cons]
    refine ⟨fun hn => hl ?_, ih⟩
    rcases hlk with rfl | rfl
    · exact hn
    · exact List.mem_append_left _ hn

lemma context_eq : context source line =
    String.ofList (unlines ((window source line).map fun x => row line x.2 x.1)) := by
  have hwindow : window source line =
      (((lines source.toList).zipIdx 1).drop (line.toNat - 3)).take (line.toNat + 2 - (line.toNat - 3)) := by
    rw [take_drop_zipIdx, window]
    refine List.filter_congr fun x hx => ?_
    have hone : 1 ≤ x.2 := List.le_snd_of_mem_zipIdx hx
    rw [decide_eq_decide]
    omega
  rw [context, toNat_start, toNat_count, hwindow, List.map_take, List.map_drop]

/-- The rows shown are those of the lines at most two away, in order; a row is marked exactly if it is that of the
line, and one of them is if the source has the line. -/
theorem context_window : ∃ rows, context source line = String.ofList (unlines rows) ∧
    List.Forall₂ (fun x r => Shown (if x.2 = line.toNat then "> ".toList else "  ".toList) x.2 x.1 r ∧
      (marked r = true ↔ x.2 = line.toNat) ∧ '\n' ∉ r) (window source line) rows ∧
    rows.countP marked = if 1 ≤ line.toNat ∧ line.toNat ≤ (lines source.toList).length then 1 else 0 := by
  refine ⟨_, context_eq source line, ?_, ?_⟩
  · rw [List.forall₂_map_right_iff, List.forall₂_same]
    intro x hx
    have hl : x.1 ∈ lines source.toList := List.fst_mem_of_mem_zipIdx (List.mem_of_mem_filter hx)
    exact ⟨row_shown, row_marked_iff, lineFeed_notMem_row (lineFeed_notMem_lines _ _ hl)⟩
  · have hcount : ((window source line).map fun x => row line x.2 x.1).countP marked =
        ((lines source.toList).zipIdx 1).countP fun x => x.2 = line.toNat := by
      rw [List.countP_map, window, List.countP_filter]
      refine List.countP_congr fun x _ => ?_
      simp [row_marked_iff]
      omega
    rw [hcount, countP_zipIdx]
    congr 1
    rw [Nat.lt_one_add_iff]

end Window

end ShaderRunner.ErrorWindow

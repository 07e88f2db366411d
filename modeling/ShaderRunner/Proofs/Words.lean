import Mathlib.Data.List.DropRight
import Mathlib.Data.List.TakeWhile
import Mathlib.Tactic.Common
import ShaderRunner.Text.Blank
import ShaderRunner.Text.WordChar

/-! Blanks are no word characters. What is left of a text without the blanks around it, and its words between them. -/

namespace ShaderRunner.Text

section Characters

variable {c : Char}

lemma toNat_of_isAlphanum (h : c.isAlphanum = true) : 48 ≤ c.toNat ∧ c.toNat ≤ 57 ∨ 65 ≤ c.toNat ∧ c.toNat ≤ 90 ∨
    97 ≤ c.toNat ∧ c.toNat ≤ 122 := by
  have hu : c.isUpper = decide (65 ≤ c.toNat ∧ c.toNat ≤ 90) := rfl
  have hl : c.isLower = (decide (97 ≤ c.toNat) && decide (c.toNat ≤ 122)) := rfl
  have hd : c.isDigit = (decide (48 ≤ c.toNat) && decide (c.toNat ≤ 57)) := rfl
  have ha : c.isAlphanum = (c.isUpper || c.isLower || c.isDigit) := rfl
  rw [ha, hu, hl, hd] at h
  simp only [Bool.or_eq_true, Bool.and_eq_true, decide_eq_true_eq] at h
  omega

lemma blank_word_apart :
    ∀ r ∈ blankRanges, r.2 < 48 ∨ 128 ≤ r.1 ∧ ∀ q ∈ wordRanges, r.2 < q.1 ∨ q.2 < r.1 := by
  decide +kernel

lemma isWord_of_isBlank (h : isBlank c = true) : isWord c = false := by
  obtain ⟨r, hr, hc⟩ := List.any_eq_true.mp h
  simp only [Bool.and_eq_true, decide_eq_true_eq] at hc
  have hn : ¬ c.isAlphanum = true := fun ha => by
    have := toNat_of_isAlphanum ha
    rcases blank_word_apart r hr with hb | hb <;> omega
  have hu : c ≠ '_' := by
    rintro rfl
    have : '_'.toNat = 95 := rfl
    rcases blank_word_apart r hr with hb | hb <;> omega
  have hw : ¬ (128 ≤ c.toNat ∧ wordRanges.contains c = true) := by
    rintro ⟨hl, hw⟩
    obtain ⟨q, hq, hqc⟩ := List.any_eq_true.mp hw
    simp only [Bool.and_eq_true, decide_eq_true_eq] at hqc
    rcases blank_word_apart r hr with hb | ⟨-, hb⟩
    · omega
    · have := hb q hq
      omega
  simpa [isWord, hn, hu] using hw

lemma isBlank_of_isDigit (h : c.isDigit = true) : isBlank c = false := by
  by_contra hb
  have hw := isWord_of_isBlank (by simpa using hb)
  simp [isWord, Char.isAlphanum, h] at hw

end Characters

section Stops

variable {α : Type} {p : α → Bool} {l r : List α}

lemma takeWhile_append_stop (hl : ∀ c ∈ l, p c = true) (hr : ∀ c ∈ r.head?, p c = false) :
    (l ++ r).takeWhile p = l := by
  rw [List.takeWhile_append_of_pos hl]
  cases r with
  | nil => simp
  | cons c r => simp [hr c rfl]

lemma dropWhile_append_stop (hl : ∀ c ∈ l, p c = true) (hr : ∀ c ∈ r.head?, p c = false) :
    (l ++ r).dropWhile p = r := by
  rw [List.dropWhile_append_of_pos hl]
  cases r with
  | nil => simp
  | cons c r => simp [hr c rfl]

lemma head?_dropWhile (p : α → Bool) (s : List α) : ∀ c ∈ (s.dropWhile p).head?, p c = false := by
  intro c hc
  have := List.head?_dropWhile_not p s
  rw [Option.mem_def.mp hc] at this
  simpa using this

end Stops

variable {c : Char} {p q s w : List Char}

section Trimming

lemma trim_carriageReturn (k : List Char) : trim (k ++ ['\r']) = trim k := by
  have hr : isBlank '\r' = true := by decide +kernel
  simp [trim, trimEnd, hr]

lemma trim_isInfix (s : List Char) : trim s <:+: s := by
  have hs : trimStart (trimEnd s) <:+ trimEnd s := List.dropWhile_suffix isBlank
  have he : trimEnd s <+: s := List.rdropWhile_prefix isBlank s
  exact hs.isInfix.trans he.isInfix

lemma exists_trim (l : List Char) :
    ∃ p q, l = p ++ (trim l ++ q) ∧ (∀ c ∈ p, isBlank c = true) ∧ ∀ c ∈ q, isBlank c = true := by
  refine ⟨(trimEnd l).takeWhile isBlank, (l.reverse.takeWhile isBlank).reverse, ?_, fun c => List.mem_takeWhile_imp,
    fun c hc => List.mem_takeWhile_imp (List.mem_reverse.mp hc)⟩
  rw [← List.append_assoc, trim, trimStart, List.takeWhile_append_dropWhile, trimEnd, ← List.reverse_append,
    List.takeWhile_append_dropWhile, List.reverse_reverse]

lemma trim_of_not_blank {s : List Char} (h : ∀ c ∈ s, isBlank c = false) : trim s = s := by
  have hdrop : ∀ t : List Char, (∀ c ∈ t, isBlank c = false) → t.dropWhile isBlank = t := fun t ht => by
    have := dropWhile_append_stop (p := isBlank) (l := []) (r := t) (by simp) fun c hc => ht c (List.mem_of_head? hc)
    simpa using this
  rw [trim, trimStart, trimEnd, hdrop s.reverse (by simpa using h), List.reverse_reverse, hdrop s h]

end Trimming

section Words

lemma words_cons_blank (hc : isBlank c = true) : words (c :: s) = words s := by
  rw [words, if_pos hc]

lemma words_blanks_append (hp : ∀ c ∈ p, isBlank c = true) (s : List Char) : words (p ++ s) = words s := by
  induction p with
  | nil => rfl
  | cons c p ih =>
    obtain ⟨hc, hp⟩ := List.forall_mem_cons.mp hp
    rw [List.cons_append, words_cons_blank hc, ih hp]

lemma words_append (hne : w ≠ []) (hw : ∀ c ∈ w, isBlank c = false) (hs : ∀ c ∈ s.head?, isBlank c = true) :
    words (w ++ s) = w :: words s := by
  cases w with
  | nil => contradiction
  | cons c w =>
    obtain ⟨hc, hw⟩ := List.forall_mem_cons.mp hw
    have hin : ∀ d ∈ w, (!isBlank d) = true := fun d hd => by simp [hw d hd]
    have hstop : ∀ d ∈ s.head?, (!isBlank d) = false := fun d hd => by simp [hs d hd]
    rw [List.cons_append, words, if_neg (by simp [hc]), takeWhile_append_stop hin hstop,
      dropWhile_append_stop hin hstop]

lemma exists_words_append (hne : w ≠ []) (hw : ∀ c ∈ w, isBlank c = false) (s : List Char) : ∃ ws,
    words (w ++ s) = (w ++ s.takeWhile (!isBlank ·)) :: ws := by
  obtain ⟨c, w, rfl⟩ := List.exists_cons_of_ne_nil hne
  obtain ⟨hc, hw⟩ := List.forall_mem_cons.mp hw
  rw [List.cons_append, words, if_neg (by simp [hc]), List.takeWhile_append_of_pos fun d hd => by simp [hw d hd]]
  exact ⟨_, rfl⟩

lemma induction_on_words {P : List Char → Prop} (hnil : P []) (hblank : ∀ c s, isBlank c = true → P s → P (c :: s))
    (hword : ∀ w s, w ≠ [] → (∀ c ∈ w, isBlank c = false) → (∀ c ∈ s.head?, isBlank c = true) → P s → P (w ++ s))
    (s : List Char) : P s := by
  fun_induction words s with
  | case1 => exact hnil
  | case2 c r hc ih => exact hblank c r hc ih
  | case3 c r hc ih =>
    have hsplit : c :: r = c :: r.takeWhile (!isBlank ·) ++ r.dropWhile (!isBlank ·) := by simp
    rw [hsplit]
    refine hword _ _ (List.cons_ne_nil _ _) (List.forall_mem_cons.mpr ⟨by simpa using hc, fun d hd => ?_⟩)
      (fun d hd => ?_) ih
    · simpa using List.mem_takeWhile_imp hd
    · simpa using head?_dropWhile (!isBlank ·) r d hd

lemma words_append_blanks (hq : ∀ c ∈ q, isBlank c = true) (s : List Char) : words (s ++ q) = words s := by
  induction s using induction_on_words with
  | hnil => rw [List.nil_append, ← List.append_nil q, words_blanks_append hq]
  | hblank c s hc ih => rw [List.cons_append, words_cons_blank hc, words_cons_blank hc, ih]
  | hword w s hne hw hs ih =>
    have hend : ∀ c ∈ (s ++ q).head?, isBlank c = true := by
      cases s with
      | nil => exact fun c hc => hq c (List.mem_of_head? hc)
      | cons d s => exact hs
    rw [List.append_assoc, words_append hne hw hend, words_append hne hw hs, ih]

lemma words_trim (s : List Char) : words (trim s) = words s := by
  obtain ⟨p, q, hs, hp, hq⟩ := exists_trim s
  conv_rhs => rw [hs, words_blanks_append hp, words_append_blanks hq]

lemma exists_mem_words (h : w ∈ words s) : ∃ p q, s = p ++ (w ++ q) ∧ (∀ c ∈ p.getLast?, isBlank c = true) ∧
    (∀ c ∈ q.head?, isBlank c = true) ∧ w ≠ [] ∧ ∀ c ∈ w, isBlank c = false := by
  induction s using induction_on_words with
  | hnil =>
    rw [words] at h
    contradiction
  | hblank c s hc ih =>
    rw [words_cons_blank hc] at h
    obtain ⟨p, q, rfl, hp, hw⟩ := ih h
    refine ⟨c :: p, q, rfl, ?_, hw⟩
    cases p with
    | nil => exact fun d hd => by simpa [← Option.some.inj hd] using hc
    | cons e p => simpa [List.getLast?_cons_cons] using hp
  | hword v s hne hv hs ih =>
    rw [words_append hne hv hs, List.mem_cons] at h
    rcases h with rfl | h
    · exact ⟨[], s, rfl, by simp, hs, hne, hv⟩
    · obtain ⟨p, q, rfl, hp, hq, hne, hw⟩ := ih h
      refine ⟨v ++ p, q, by rw [List.append_assoc], ?_, hq, hne, hw⟩
      -- what follows the first word begins with a blank, so the next word does not touch it
      cases p with
      | nil =>
        obtain ⟨d, w, rfl⟩ := List.exists_cons_of_ne_nil hne
        have := hs d rfl
        simp [hw d List.mem_cons_self] at this
      | cons e p =>
        rw [List.getLast?_append_of_ne_nil _ (List.cons_ne_nil e p)]
        exact hp

end Words

end ShaderRunner.Text

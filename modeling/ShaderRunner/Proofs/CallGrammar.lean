import ShaderRunner.Proofs.Words
import ShaderRunner.StaticCall.Scan

/-!
A head and what follows it give a call exactly if the call is formed by the grammar: a name between blanks, and a body
whose parentheses are balanced.
-/

namespace ShaderRunner

open Text

section Characters

variable {c : Char}

lemma isWord_of_isNameStart (h : StaticCall.isNameStart c = true) : isWord c = true := by
  simp only [StaticCall.isNameStart, Bool.or_eq_true] at h
  rcases h with h | h <;> simp [isWord, Char.isAlphanum, h]

lemma isBlank_of_isNameStart (h : StaticCall.isNameStart c = true) : isBlank c = false := by
  by_contra hb
  have hw := isWord_of_isBlank (by simpa using hb)
  rw [isWord_of_isNameStart h] at hw
  contradiction

end Characters

namespace StaticCall

/-- With `depth` parentheses open in front of it, the text closes them all, and none before it opens. -/
def Closes (depth : Nat) (b : List Char) : Prop :=
  b.count ')' = depth + b.count '(' ∧ ∀ p, p <+: b → p.count ')' ≤ depth + p.count '('

section Closes

variable {depth : Nat} {b : List Char} {c : Char}

lemma forall_prefix_cons {α : Type} {P : List α → Prop} {a : α} {l : List α} :
    (∀ p, p <+: a :: l → P p) ↔ P [] ∧ ∀ p, p <+: l → P (a :: p) := by
  constructor
  · exact fun h => ⟨h [] (List.nil_prefix), fun p hp => h _ (List.cons_prefix_cons.mpr ⟨rfl, hp⟩)⟩
  · rintro ⟨hn, hc⟩ p hp
    rcases List.prefix_cons_iff.mp hp with rfl | ⟨t, rfl, ht⟩
    · exact hn
    · exact hc t ht

lemma closes_nil : Closes depth [] ↔ depth = 0 := by
  simp [Closes, eq_comm]

lemma closes_open : Closes depth ('(' :: b) ↔ Closes (depth + 1) b := by
  simp [Closes, forall_prefix_cons, Nat.add_right_comm, ← Nat.add_assoc]

lemma closes_close : Closes (depth + 1) (')' :: b) ↔ Closes depth b := by
  simp [Closes, forall_prefix_cons, Nat.add_right_comm]

lemma closes_other (ho : c ≠ '(') (hc : c ≠ ')') : Closes depth (c :: b) ↔ Closes depth b := by
  simp [Closes, forall_prefix_cons, ho, hc]

lemma not_closes_zero : ¬ Closes 0 (')' :: b) := fun h => by
  have := h.2 [')'] ⟨b, rfl⟩
  simp at this

lemma closing_map_iff {d : Nat} {s r : List Char} (hs : ∀ b, Closes depth (c :: b) ↔ Closes d b)
    (hc : c = ')' → depth ≠ 0) (ih : ∀ b r, closing d s = some (b, r) ↔ s = b ++ ')' :: r ∧ Closes d b) :
    (closing d s).map (fun x => (c :: x.1, x.2)) = some (b, r) ↔ c :: s = b ++ ')' :: r ∧ Closes depth b := by
  cases b with
  | nil =>
    simp only [closes_nil, List.nil_append, List.cons.injEq, Option.map_eq_some_iff, Prod.mk.injEq]
    constructor
    · rintro ⟨x, -, hx, -⟩
      contradiction
    · rintro ⟨⟨h, -⟩, hd⟩
      exact absurd hd (hc h)
  | cons e b =>
    simp only [Option.map_eq_some_iff, Prod.mk.injEq, List.cons.injEq, List.cons_append]
    constructor
    · rintro ⟨⟨x, y⟩, hx, ⟨rfl, rfl⟩, rfl⟩
      obtain ⟨rfl, hb⟩ := (ih _ _).mp hx
      exact ⟨⟨rfl, rfl⟩, (hs _).mpr hb⟩
    · rintro ⟨⟨rfl, h⟩, hb⟩
      exact ⟨(b, r), (ih _ _).mpr ⟨h, (hs _).mp hb⟩, ⟨rfl, rfl⟩, rfl⟩

lemma closing_eq_some_iff {s r : List Char} :
    closing depth s = some (b, r) ↔ s = b ++ ')' :: r ∧ Closes depth b := by
  fun_induction closing depth s generalizing b r with
  | case1 depth => simp
  | case2 r' =>
    cases b with
    | nil => simp [closes_nil]
    | cons c b =>
      simp only [Option.some.injEq, Prod.mk.injEq, List.cons_append, List.cons.injEq]
      constructor
      · rintro ⟨h, -⟩
        contradiction
      · rintro ⟨⟨rfl, -⟩, h⟩
        exact absurd h not_closes_zero
  | case3 depth s ih => exact closing_map_iff (fun _ => closes_close) (by simp) fun _ _ => ih
  | case4 depth s ih => exact closing_map_iff (fun _ => closes_open) (by simp) fun _ _ => ih
  | case5 depth c s hz hs ho ih =>
    have hc : c ≠ ')' := by
      rintro rfl
      cases depth with
      | zero => exact hz rfl rfl
      | succ d => exact hs d rfl rfl
    exact closing_map_iff (fun _ => closes_other ho hc) (fun h => absurd h hc) fun _ _ => ih

end Closes

structure Formed (m : StaticCall) : Prop where
  head : m.head ∈ heads
  lead : ∀ c ∈ m.lead, isBlank c = true
  name : ∃ c w, m.name = c :: w ∧ isNameStart c = true ∧ ∀ d ∈ w, isWord d = true
  trail : ∀ c ∈ m.trail, isBlank c = true
  body : ∀ b, m.body = some b → Closes 0 b

section Reading

variable {m : StaticCall} {h s : List Char}

lemma tail_cons (m : StaticCall) : ∃ c t, m.tail = c :: t ∧ isBlank c = false ∧ isWord c = false := by
  cases h : m.body with
  | none => exact ⟨')', [], by simp [tail, h], by decide +kernel⟩
  | some b => exact ⟨',', b ++ [')'], by simp [tail, h], by decide +kernel⟩

lemma afterHead?_of_name {lead w u : List Char} {c : Char} (hl : ∀ d ∈ lead, isBlank d = true)
    (hc : isNameStart c = true) (hw : ∀ d ∈ w, isWord d = true) (hu : ∀ d ∈ u.head?, isWord d = false) :
    afterHead? h (lead ++ c :: (w ++ u)) =
      match u.dropWhile isBlank with
      | ')' :: r => some (⟨h, lead, c :: w, u.takeWhile isBlank, none⟩, r)
      | ',' :: t => (closing 0 t).map fun x => (⟨h, lead, c :: w, u.takeWhile isBlank, some x.1⟩, x.2)
      | _ => none := by
  have hb : ∀ d ∈ (c :: (w ++ u)).head?, isBlank d = false := by simp [isBlank_of_isNameStart hc]
  have he := afterHead?.eq_def h (lead ++ c :: (w ++ u))
  simp only [takeWhile_append_stop hl hb, dropWhile_append_stop hl hb, hc, if_true,
    takeWhile_append_stop hw hu, dropWhile_append_stop hw hu] at he
  exact he

lemma Formed.afterHead?_text (hm : m.Formed) (r : List Char) :
    afterHead? m.head (m.lead ++ (m.name ++ (m.trail ++ (m.tail ++ r)))) = some (m, r) := by
  obtain ⟨head, lead, name, trail, body⟩ := m
  obtain ⟨-, hl, ⟨c, w, rfl, hc, hw⟩, ht, hb⟩ := hm
  dsimp only at hl ht hb ⊢
  obtain ⟨e, t, he, heb, hew⟩ := tail_cons ⟨head, lead, c :: w, trail, body⟩
  have hu : ∀ d ∈ (trail ++ (tail ⟨head, lead, c :: w, trail, body⟩ ++ r)).head?, isWord d = false := by
    cases trail with
    | nil => simp [he, hew]
    | cons d _ => simpa using isWord_of_isBlank (ht d (by simp))
  have hs : ∀ d ∈ (tail ⟨head, lead, c :: w, trail, body⟩ ++ r).head?, isBlank d = false := by simp [he, heb]
  rw [List.cons_append, afterHead?_of_name hl hc hw hu, takeWhile_append_stop ht hs, dropWhile_append_stop ht hs]
  cases body with
  | none => rfl
  | some b =>
    have hr : closing 0 (b ++ [')'] ++ r) = some (b, r) := closing_eq_some_iff.mpr ⟨by simp, hb b rfl⟩
    simp only [tail, List.cons_append, hr, Option.map_some]

lemma formed_of_afterHead? (hh : h ∈ heads) (e : afterHead? h s = some (m, r)) : m.Formed ∧ m.head = h := by
  have htake : ∀ (p : Char → Bool) (l : List Char), ∀ d ∈ l.takeWhile p, p d = true :=
    fun p l d => List.mem_takeWhile_imp
  simp only [afterHead?] at e
  split at e
  · contradiction
  · split at e
    · next c t _ hc =>
      split at e
      · obtain ⟨rfl, rfl⟩ := by simpa using e
        exact ⟨⟨hh, htake _ _, ⟨c, _, rfl, hc, htake _ _⟩, htake _ _, by simp⟩, rfl⟩
      · obtain ⟨⟨x, y⟩, hx, he⟩ := Option.map_eq_some_iff.1 e
        obtain ⟨rfl, rfl⟩ := by simpa using he
        refine ⟨⟨hh, htake _ _, ⟨c, _, rfl, hc, htake _ _⟩, htake _ _, ?_⟩, rfl⟩
        rintro b ⟨⟩
        exact (closing_eq_some_iff.mp hx).2
      · contradiction
    · contradiction

lemma afterHead?_eq_some_iff (hh : h ∈ heads) :
    afterHead? h s = some (m, r) ↔ m.Formed ∧ m.head = h ∧ h ++ s = m.text ++ r := by
  constructor
  · intro e
    obtain ⟨hm, hd⟩ := formed_of_afterHead? hh e
    exact ⟨hm, hd, afterHead?_text e⟩
  · rintro ⟨hm, rfl, e⟩
    rw [text, List.append_assoc, List.append_cancel_left_eq] at e
    rw [e]
    simpa only [List.append_assoc] using hm.afterHead?_text r

end Reading

section Heads

variable {h s t : List Char}

def Headed (s : List Char) : Prop := ∃ h ∈ heads, h <+: s

lemma word_of_heads (hh : h ∈ heads) :
    ∃ w, h = w ++ ['('] ∧ (∀ c ∈ w, isWord c = true) ∧ "STATIC".toList <:+ w := by
  simp only [heads, List.mem_cons, List.not_mem_nil, or_false] at hh
  rcases hh with rfl | rfl
  · exact ⟨"VADER_STATIC".toList, by decide, List.all_eq_true.mp (by decide +kernel), by decide⟩
  · exact ⟨"STATIC".toList, by decide, List.all_eq_true.mp (by decide +kernel), by decide⟩

lemma head?_eq_some_iff : head? s = some (h, t) ↔ h ∈ heads ∧ s = h ++ t := by
  constructor
  · intro e
    obtain ⟨x, hx, hs⟩ := List.exists_of_findSome?_eq_some e
    obtain ⟨u, hu, he⟩ := Option.map_eq_some_iff.1 hs
    obtain ⟨rfl, rfl⟩ := by simpa using he
    exact ⟨hx, after?_eq_some_iff.1 hu⟩
  · rintro ⟨hh, rfl⟩
    simp only [heads, List.mem_cons, List.not_mem_nil, or_false] at hh
    rcases hh with rfl | rfl
    · simp [head?, heads, after?]
    · simp [head?, heads, after?]

lemma headed_iff :
    Headed s ↔ s.takeWhile isWord ++ ['('] ∈ heads ∧ (s.dropWhile isWord).head? = some '(' := by
  constructor
  · rintro ⟨h, hh, t, rfl⟩
    obtain ⟨w, rfl, hw, -⟩ := word_of_heads hh
    have hp : ∀ c ∈ ('(' :: t).head?, isWord c = false := by
      rintro c ⟨⟩
      decide +kernel
    rw [List.append_assoc, List.singleton_append, takeWhile_append_stop hw hp, dropWhile_append_stop hw hp]
    exact ⟨hh, rfl⟩
  · rintro ⟨hh, hr⟩
    obtain ⟨t, ht⟩ := List.head?_eq_some_iff.mp hr
    refine ⟨_, hh, t, ?_⟩
    rw [List.append_assoc, List.singleton_append, ← ht, List.takeWhile_append_dropWhile]

lemma static_suffix_of_headed (hs : Headed s) : "STATIC".toList <:+ s.takeWhile isWord := by
  obtain ⟨w, hw, -, hsuf⟩ := word_of_heads (headed_iff.mp hs).1
  rwa [(List.append_inj' hw rfl).1]

lemma head?_isWord_of_headed (hs : Headed s) : s.head?.any isWord = true := by
  have hw := static_suffix_of_headed hs
  cases s with
  | nil => simp at hw
  | cons c s =>
    by_contra hc
    simp only [List.head?_cons, Option.any_some, Bool.not_eq_true] at hc
    simp [hc] at hw

end Heads

end StaticCall

end ShaderRunner

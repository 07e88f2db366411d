import ShaderRunner.StaticCall.Basic
import ShaderRunner.Text.Begins

/-!
Cutting a source into plain characters and static calls. The pieces give the source back
(`scan_text`), and a head that begins no call is reported with the rest of its line.
-/

namespace ShaderRunner

open Text

namespace StaticCall

def head? (s : List Char) : Option (List Char × List Char) :=
  heads.findSome? fun h => (after? h s).map (h, ·)

def closing : Nat → List Char → Option (List Char × List Char)
  | _, [] => none
  | 0, ')' :: r => some ([], r)
  | depth + 1, ')' :: r => (closing depth r).map fun x => (')' :: x.1, x.2)
  | depth, '(' :: r => (closing (depth + 1) r).map fun x => ('(' :: x.1, x.2)
  | depth, c :: r => (closing depth r).map fun x => (c :: x.1, x.2)

def afterHead? (head s : List Char) : Option (StaticCall × List Char) :=
  let lead := s.takeWhile isBlank
  match s.dropWhile isBlank with
  | [] => none
  | c :: r =>
    if isNameStart c then
      let name := c :: r.takeWhile isWord
      let r := r.dropWhile isWord
      let trail := r.takeWhile isBlank
      match r.dropWhile isBlank with
      | ')' :: rest => some (⟨head, lead, name, trail, none⟩, rest)
      | ',' :: t => (closing 0 t).map fun x => (⟨head, lead, name, trail, some x.1⟩, x.2)
      | _ => none
    else none

theorem closing_text {depth : Nat} {s b r : List Char} (h : closing depth s = some (b, r)) :
    s = b ++ ')' :: r := by
  fun_induction closing depth s generalizing b r with
  | case1 => simp at h
  | case2 => simp_all
  | case3 r' d ih | case4 d r' ih | case5 d c r' _ _ _ ih =>
    obtain ⟨⟨x, y⟩, hx, he⟩ := Option.map_eq_some_iff.1 h
    simp only [Prod.mk.injEq] at he
    obtain ⟨rfl, rfl⟩ := he
    simp [ih hx]

theorem afterHead?_text {head s r : List Char} {m : StaticCall} (h : afterHead? head s = some (m, r)) :
    head ++ s = m.text ++ r := by
  simp only [afterHead?] at h
  split at h
  · simp at h
  · next c t hs =>
    split at h
    · have h1 := List.takeWhile_append_dropWhile (p := isBlank) (l := s)
      have h2 := List.takeWhile_append_dropWhile (p := isWord) (l := t)
      have h3 := List.takeWhile_append_dropWhile (p := isBlank) (l := t.dropWhile isWord)
      rw [hs] at h1
      split at h
      · next rest hr =>
        rw [hr] at h3
        simp only [Option.some.injEq, Prod.mk.injEq] at h
        obtain ⟨rfl, rfl⟩ := h
        simp only [text, tail]
        conv => lhs; rw [← h1, ← h2, ← h3]
        simp
      · next u hr =>
        rw [hr] at h3
        obtain ⟨⟨x, y⟩, hx, he⟩ := Option.map_eq_some_iff.1 h
        simp only [Prod.mk.injEq] at he
        obtain ⟨rfl, rfl⟩ := he
        rw [closing_text hx] at h3
        simp only [text, tail]
        conv => lhs; rw [← h1, ← h2, ← h3]
        simp
      · simp at h
    · simp at h

theorem tail_ne_nil (m : StaticCall) : m.tail ≠ [] := by
  unfold tail
  split <;> simp

theorem length_text_pos (m : StaticCall) : 0 < m.text.length := by
  have := List.length_pos_iff.2 m.tail_ne_nil
  simp [text]
  omega

theorem head?_text {s h t : List Char} (e : head? s = some (h, t)) : s = h ++ t := by
  obtain ⟨x, _, hx⟩ := List.exists_of_findSome?_eq_some e
  obtain ⟨u, hu, he⟩ := Option.map_eq_some_iff.1 hx
  simp only [Prod.mk.injEq] at he
  obtain ⟨rfl, rfl⟩ := he
  exact after?_eq_some_iff.1 hu

end StaticCall

def malformedText (s : List Char) : List Char := trimEnd (s.takeWhile (· ≠ '\n'))

/-- The pieces of a source, or the text of the first head that begins no call. A head counts only
where no word character stands before it; `inWord` says whether one does. -/
def scanFrom (inWord : Bool) (s : List Char) : Except (List Char) (List Piece) :=
  match s with
  | [] => .ok []
  | c :: r =>
    match _hh : if inWord then none else StaticCall.head? (c :: r) with
    | none => do
      let ps ← scanFrom (isWord c) r
      return .plain c :: ps
    | some (h, t) =>
      match _hm : StaticCall.afterHead? h t with
      | none => .error (malformedText (c :: r))
      | some (m, rest) => do
        let ps ← scanFrom false rest
        return .call m :: ps
termination_by s.length
decreasing_by
  · simp
  · split at _hh
    · simp at _hh
    · rw [StaticCall.head?_text _hh, StaticCall.afterHead?_text _hm, List.length_append]
      have := m.length_text_pos
      omega

def scan (s : List Char) : Except (List Char) (List Piece) := scanFrom false s

theorem scanFrom_text {inWord : Bool} {s : List Char} {ps : List Piece} (h : scanFrom inWord s = .ok ps) :
    Piece.textOf ps = s := by
  fun_induction scanFrom inWord s generalizing ps with
  | case1 => simp_all [Piece.textOf]
  | case2 w c r _ ih =>
    cases e : scanFrom (isWord c) r with
    | error x => simp [e, bind, Except.bind] at h
    | ok qs =>
      simp only [e, bind, Except.bind, pure, Except.pure, Except.ok.injEq] at h
      simp [← h, ← ih e, Piece.textOf, Piece.text]
  | case3 => simp at h
  | case4 w c r hd t hh m rest hm ih =>
    cases e : scanFrom false rest with
    | error x => simp [e, bind, Except.bind] at h
    | ok qs =>
      simp only [e, bind, Except.bind, pure, Except.pure, Except.ok.injEq] at h
      split at hh
      · simp at hh
      · rw [StaticCall.head?_text hh, StaticCall.afterHead?_text hm]
        simp [← h, ← ih e, Piece.textOf, Piece.text]

theorem scan_text {s : List Char} {ps : List Piece} (h : scan s = .ok ps) : Piece.textOf ps = s :=
  scanFrom_text h

end ShaderRunner

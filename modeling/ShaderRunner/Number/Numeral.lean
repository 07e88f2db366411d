import ShaderRunner.Number.Binary

namespace ShaderRunner.Number

inductive WholeError
  | empty
  | invalidDigit
  | tooLarge
  deriving DecidableEq

def WholeError.message : WholeError → String
  | empty => "cannot parse integer from empty string"
  | invalidDigit => "invalid digit found in string"
  | tooLarge => "number too large to fit in target type"

def digitValue (c : Char) : Nat := c.toNat - '0'.toNat

def wholeFrom (limit n : Nat) : List Char → Except WholeError Nat
  | [] => .ok n
  | c :: r =>
    if !c.isDigit then .error .invalidDigit
    else if 10 * n + digitValue c > limit then .error .tooLarge
    else wholeFrom limit (10 * n + digitValue c) r

def whole (limit : Nat) : List Char → Except WholeError Nat
  | [] => .error .empty
  | ['+'] => .error .invalidDigit
  | '+' :: r => wholeFrom limit 0 r
  | s => wholeFrom limit 0 s

def Digits (s : List Char) : Prop := s ≠ [] ∧ ∀ c ∈ s, c.isDigit = true

theorem le_ofDigitChars (s : List Char) (n : Nat) : n ≤ Nat.ofDigitChars 10 s n := by
  induction s generalizing n with
  | nil => simp
  | cons c s ih =>
    rw [Nat.ofDigitChars_cons]
    exact Nat.le_trans (by omega) (ih _)

theorem wholeFrom_digits {limit n : Nat} {s : List Char} (hs : ∀ c ∈ s, c.isDigit = true)
    (hl : Nat.ofDigitChars 10 s n ≤ limit) : wholeFrom limit n s = .ok (Nat.ofDigitChars 10 s n) := by
  induction s generalizing n with
  | nil => simp [wholeFrom]
  | cons c s ih =>
    have hc : c.isDigit = true := hs c List.mem_cons_self
    have hn : 10 * n + digitValue c ≤ limit := Nat.le_trans (le_ofDigitChars s _) hl
    rw [wholeFrom, if_neg (by simp [hc]), if_neg (by omega)]
    exact ih (fun d hd => hs d (List.mem_cons_of_mem c hd)) hl

theorem whole_digits {limit : Nat} {s : List Char} (hne : s ≠ []) (hs : ∀ c ∈ s, c.isDigit = true)
    (hl : Nat.ofDigitChars 10 s 0 ≤ limit) : whole limit s = .ok (Nat.ofDigitChars 10 s 0) := by
  rw [whole.eq_def]
  split
  · contradiction
  · exact absurd (hs '+' (by simp)) (by decide)
  · exact absurd (hs '+' (by simp)) (by decide)
  · exact wholeFrom_digits hs hl

theorem wholeFrom_ok {limit m n : Nat} {s : List Char} (hm : m ≤ limit) (h : wholeFrom limit m s = .ok n) :
    (∀ c ∈ s, c.isDigit = true) ∧ Nat.ofDigitChars 10 s m = n ∧ n ≤ limit := by
  induction s generalizing m with
  | nil =>
    obtain rfl : m = n := Except.ok.inj h
    exact ⟨by simp, by simp, hm⟩
  | cons c s ih =>
    rw [wholeFrom] at h
    split at h
    · contradiction
    · next hc =>
      split at h
      · contradiction
      · next hle =>
        obtain ⟨hs, hn, hl⟩ := ih (by omega) h
        exact ⟨List.forall_mem_cons.mpr ⟨by simpa using hc, hs⟩, hn, hl⟩

theorem whole_ok_iff {limit n : Nat} {s : List Char} : whole limit s = .ok n ↔
    ∃ sign ∈ [[], ['+']], ∃ ds, Digits ds ∧ s = sign ++ ds ∧ Nat.ofDigitChars 10 ds 0 = n ∧ n ≤ limit := by
  constructor
  · intro h
    rw [whole.eq_def] at h
    split at h
    · contradiction
    · contradiction
    · next r hr =>
      obtain ⟨hs, hn, hl⟩ := wholeFrom_ok (Nat.zero_le limit) h
      exact ⟨['+'], by simp, r, ⟨fun hnil => hr (by rw [hnil]), hs⟩, rfl, hn, hl⟩
    · next hne _ _ =>
      obtain ⟨hs, hn, hl⟩ := wholeFrom_ok (Nat.zero_le limit) h
      exact ⟨[], by simp, s, ⟨hne, hs⟩, rfl, hn, hl⟩
  · rintro ⟨sign, hsign, ds, hds, rfl, rfl, hl⟩
    have hsign : sign = [] ∨ sign = ['+'] := by simpa using hsign
    rcases hsign with rfl | rfl
    · exact whole_digits hds.1 hds.2 hl
    · obtain ⟨c, r, rfl⟩ := List.exists_cons_of_ne_nil hds.1
      exact wholeFrom_digits hds.2 hl

/-- Stands for `digits · 10 ^ exponent`, with a sign. -/
structure Numeral where
  negative : Bool
  digits : Nat
  exponent : Int

/-- Beyond these powers of ten every double is infinite or zero. -/
def Numeral.magnitudeBits (n : Numeral) : Nat :=
  let size := (Nat.toDigits 10 n.digits).length + n.exponent
  if n.digits = 0 || size < -400 then 0
  else if size > 400 then Binary.double.infinity
  else Binary.double.nearest (n.digits * raised 10 n.exponent) (lowered 10 n.exponent)

def Numeral.toDouble (n : Numeral) : Float :=
  doubleOfBits (Binary.double.signed n.negative n.magnitudeBits)

end ShaderRunner.Number

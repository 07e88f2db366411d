import Mathlib.Algebra.Order.Field.Power
import Mathlib.Data.Rat.Cast.Order
import Mathlib.Tactic.FieldSimp
import Mathlib.Tactic.Linarith
import Mathlib.Tactic.Positivity
import Mathlib.Tactic.Ring
import ShaderRunner.Number.Shortest

namespace ShaderRunner.Number

def Whole (m : Nat) (q : Int) : Prop := ∃ n : ℕ, (m : ℚ) * 2 ^ q = n

section Powers

variable {a b : Nat} {s : Int}

lemma lowered_pos (hb : 0 < b) (e : Int) : 0 < lowered b e := Nat.pow_pos hb

lemma raised_pos (hb : 0 < b) (e : Int) : 0 < raised b e := Nat.pow_pos hb

lemma raised_eq_zpow_mul (hb : 0 < b) (e : Int) : (raised b e : ℚ) = (b : ℚ) ^ e * lowered b e := by
  have hb' : (b : ℚ) ≠ 0 := Nat.cast_ne_zero.mpr hb.ne'
  have hr : (raised b e : ℚ) = (b : ℚ) ^ e.toNat := Nat.cast_pow b e.toNat
  have hl : (lowered b e : ℚ) = (b : ℚ) ^ (-e).toNat := Nat.cast_pow b (-e).toNat
  rw [hr, hl, ← zpow_natCast, ← zpow_natCast, ← zpow_add₀ hb']
  congr 1
  omega

lemma ten_zpow_le (hb : b ≠ 0) (h : ((10 : ℚ) ^ a) ^ s ≤ (2 ^ b) ^ s) :
    (10 : ℚ) ^ (a * s / b) ≤ 2 ^ s := by
  refine le_of_pow_le_pow_left₀ hb (zpow_nonneg zero_le_two s) ?_
  calc ((10 : ℚ) ^ (a * s / b)) ^ b = 10 ^ (a * s / b * b) := by rw [← zpow_natCast, ← zpow_mul]
    _ ≤ 10 ^ (a * s) := zpow_le_zpow_right₀ (by norm_num) (Int.ediv_mul_le _ (by exact_mod_cast hb))
    _ = (10 ^ a) ^ s := by rw [zpow_mul, zpow_natCast]
    _ ≤ (2 ^ b) ^ s := h
    _ = (2 ^ s) ^ b := by rw [← zpow_natCast, ← zpow_natCast, ← zpow_mul, ← zpow_mul, mul_comm]

lemma exists_grid (s : Int) : ∃ k : Int, (10 : ℚ) ^ k ≤ 2 ^ s ∧
    (0 ≤ s ∧ k = 3 * s / 10 ∨ s < 0 ∧ k = 28 * s / 93) := by
  rcases le_or_gt 0 s with hs | hs
  · refine ⟨_, ten_zpow_le (a := 3) (b := 10) (by decide) ?_, .inl ⟨hs, rfl⟩⟩
    exact zpow_le_zpow_left₀ hs (by norm_num) (by norm_num)
  · refine ⟨_, ten_zpow_le (a := 28) (b := 93) (by decide) ?_, .inr ⟨hs, rfl⟩⟩
    have hinv := inv_anti₀ (zpow_pos (by norm_num) (-s)) (zpow_le_zpow_left₀ (n := -s) (by omega) (by norm_num)
      (by norm_num : (2 : ℚ) ^ 93 ≤ 10 ^ 28))
    rwa [← zpow_neg, ← zpow_neg, neg_neg] at hinv

end Powers

namespace Interval

variable {i : Interval} {f : Binary} {d m : Nat} {k q : Int}

lemma coarse_pos (i : Interval) (k : Int) : 0 < i.coarse k :=
  Nat.mul_pos (raised_pos Nat.two_pos _) (lowered_pos (by decide) _)

lemma fine_pos (i : Interval) (k : Int) : 0 < i.fine k :=
  Nat.mul_pos (lowered_pos Nat.two_pos _) (raised_pos (by decide) _)

lemma exists_factor (i : Interval) (k : Int) : ∃ c : ℚ, 0 < c ∧
    (∀ x : ℕ, ((x * i.coarse k : ℕ) : ℚ) = x * 2 ^ i.scale * c) ∧
    ∀ d : ℕ, ((d * i.fine k : ℕ) : ℚ) = d * 10 ^ k * c := by
  have htwo : (raised 2 i.scale : ℚ) = 2 ^ i.scale * lowered 2 i.scale := raised_eq_zpow_mul Nat.two_pos i.scale
  have hten : (raised 10 k : ℚ) = 10 ^ k * lowered 10 k := raised_eq_zpow_mul (by decide) k
  refine ⟨lowered 2 i.scale * lowered 10 k, ?_, fun x => ?_, fun d => ?_⟩
  · exact mul_pos (Nat.cast_pos.mpr (lowered_pos Nat.two_pos _)) (Nat.cast_pos.mpr (lowered_pos (by decide) _))
  · rw [coarse, Nat.cast_mul, Nat.cast_mul, htwo]
    ring
  · rw [fine, Nat.cast_mul, Nat.cast_mul, hten]
    ring

lemma bounds_of_holds (h : i.holds k d = true) :
    (i.low : ℚ) * 2 ^ i.scale ≤ d * 10 ^ k ∧ (d : ℚ) * 10 ^ k ≤ i.high * 2 ^ i.scale := by
  have hle : i.low * i.coarse k ≤ d * i.fine k ∧ d * i.fine k ≤ i.high * i.coarse k := by
    rw [holds] at h
    split at h
    · simpa using h
    · have hlt : i.low * i.coarse k < d * i.fine k ∧ d * i.fine k < i.high * i.coarse k := by simpa using h
      exact ⟨hlt.1.le, hlt.2.le⟩
  obtain ⟨c, hc, hx, hd⟩ := i.exists_factor k
  constructor
  · refine le_of_mul_le_mul_right ?_ hc
    rw [← hx, ← hd]
    exact_mod_cast hle.1
  · refine le_of_mul_le_mul_right ?_ hc
    rw [← hx, ← hd]
    exact_mod_cast hle.2

lemma holds_of_between (hl : i.low * i.coarse k < d * i.fine k) (hh : d * i.fine k < i.high * i.coarse k) :
    i.holds k d = true := by
  rw [holds]
  split
  · simp [hl.le, hh.le]
  · simp [hl, hh]

lemma holds_of_multiple? (h : i.multiple? k = some d) : i.holds k d = true := by
  rw [multiple?] at h
  split at h
  · next h₁ h₂ =>
    obtain rfl := Option.some.inj h
    split
    · exact h₂
    · exact h₁
  · next h₁ _ => exact Option.some.inj h ▸ h₁
  · next _ h₂ => exact Option.some.inj h ▸ h₂
  · contradiction

lemma isSome_multiple?_iff : (i.multiple? k).isSome = true ↔
    i.holds k (i.value * i.coarse k / i.fine k) = true ∨ i.holds k (i.value * i.coarse k / i.fine k + 1) = true := by
  rw [multiple?]
  split <;> simp_all

lemma findSome?_range {α : Type} {f : Nat → Option α} {n m : Nat} {a : α} (hn : n < m) (ha : f n = some a)
    (hf : ∀ j < n, f j = none) : (List.range m).findSome? f = some a := by
  obtain ⟨c, rfl⟩ := Nat.exists_eq_add_of_le (Nat.succ_le_of_lt hn)
  have hbelow : (List.range n).findSome? f = none :=
    List.findSome?_eq_none_iff.mpr fun j hj => hf j (List.mem_range.mp hj)
  rw [List.range_add, List.range_succ, List.findSome?_append, List.findSome?_append, hbelow,
    List.findSome?_singleton, ha]
  rfl

lemma shortest_first {n : Nat} (hn : n < 24) (h : (i.multiple? (i.beyond - n)).isSome = true) :
    ∃ m ≤ n, ∃ d, i.shortest = (d, i.beyond - m) ∧ i.holds (i.beyond - m) d = true := by
  have hex : ∃ j : Nat, (i.multiple? (i.beyond - j)).isSome = true := ⟨n, h⟩
  obtain ⟨d, hd⟩ := Option.isSome_iff_exists.mp (Nat.find_spec hex)
  have hle : Nat.find hex ≤ n := Nat.find_min' hex h
  refine ⟨Nat.find hex, hle, d, ?_, holds_of_multiple? hd⟩
  have hfirst := findSome?_range (f := fun j : Nat => (i.multiple? (i.beyond - j)).map (·, i.beyond - j))
    (hle.trans_lt hn) (by rw [hd]; rfl) fun j hj => by
      have hnone := Nat.find_min hex hj
      rw [Option.not_isSome_iff_eq_none] at hnone
      rw [hnone]
      rfl
  rw [shortest, hfirst]
  rfl

lemma meets_of_fine_le (hlow : i.low + 1 ≤ i.value) (hhigh : i.value + 2 ≤ i.high) (hfine : i.fine k ≤ i.coarse k) :
    (i.multiple? k).isSome = true := by
  have hlow' : i.low * i.coarse k + i.coarse k ≤ i.value * i.coarse k := by
    rw [← Nat.succ_mul]
    exact Nat.mul_le_mul_right _ hlow
  have hhigh' : i.value * i.coarse k + 2 * i.coarse k ≤ i.high * i.coarse k := by
    rw [← Nat.add_mul]
    exact Nat.mul_le_mul_right _ hhigh
  have hpos := i.fine_pos k
  have hbelow := Nat.div_mul_le_self (i.value * i.coarse k) (i.fine k)
  have habove := Nat.lt_div_mul_add hpos (a := i.value * i.coarse k)
  rw [isSome_multiple?_iff]
  by_cases hl : i.low * i.coarse k < i.value * i.coarse k / i.fine k * i.fine k
  · exact .inl (holds_of_between hl (by omega))
  · refine .inr (holds_of_between ?_ ?_)
    · rw [Nat.succ_mul]
      omega
    · rw [Nat.succ_mul]
      omega

lemma around_low (hm : 0 < m) : (around f m q).low + 1 ≤ (around f m q).value ∧
    (around f m q).value ≤ (around f m q).low + 2 := by
  simp only [around]
  split <;> omega

lemma around_meets (hm : 0 < m) (hk : (10 : ℚ) ^ k ≤ 2 ^ (q - 2)) : ((around f m q).multiple? k).isSome = true := by
  refine meets_of_fine_le (around_low hm).1 le_rfl ?_
  obtain ⟨c, hc, hx, hd⟩ := (around f m q).exists_factor k
  have hle : ((1 * (around f m q).fine k : ℕ) : ℚ) ≤ (1 * (around f m q).coarse k : ℕ) := by
    rw [hx, hd, Nat.cast_one, one_mul, one_mul]
    exact mul_le_mul_of_nonneg_right hk hc.le
  rw [one_mul, one_mul] at hle
  exact_mod_cast hle

lemma exists_exponent (hm : 0 < m) (hlt : m < 2 ^ 53) (hq : -1074 ≤ q ∧ q ≤ 971) :
    ∃ n : Nat, n < 24 ∧ ((around f m q).multiple? ((around f m q).beyond - n)).isSome = true := by
  obtain ⟨k, hk, hnear⟩ := exists_grid (q - 2)
  have hlog : (4 * m + 2).log2 < 55 := (Nat.log2_lt (by omega)).mpr (by omega)
  have hlog' : 2 ≤ (4 * m + 2).log2 := (Nat.le_log2 (by omega)).mpr (by omega)
  have hbeyond : (around f m q).beyond = ((4 * m + 2).log2 + 1 + (q - 2)) * 30103 / 100000 + 2 := rfl
  -- the exponents that are tried reach down to a grid that is finer than a unit
  have hwindow : k ≤ (around f m q).beyond ∧ (around f m q).beyond - k < 24 := by
    rw [hbeyond]
    rcases hnear with ⟨hs, rfl⟩ | ⟨hs, rfl⟩ <;> omega
  refine ⟨((around f m q).beyond - k).toNat, by omega, ?_⟩
  have hn : (around f m q).beyond - ((around f m q).beyond - k).toNat = k := by omega
  rw [hn]
  exact around_meets hm hk

lemma beyond_nonneg (hm : 0 < m) (hw : Whole m q) : 0 ≤ (around f m q).beyond := by
  obtain ⟨n, hn⟩ := hw
  have hone : (1 : ℚ) ≤ m * 2 ^ q := by
    have hpos : (0 : ℚ) < m * 2 ^ q := mul_pos (Nat.cast_pos.mpr hm) (zpow_pos two_pos q)
    rw [hn] at hpos ⊢
    exact_mod_cast hpos
  have hlog : ((4 * m : ℕ) : ℚ) < 2 ^ ((4 * m + 2).log2 + 1 : ℤ) := by
    have hlt : 4 * m < 2 ^ ((4 * m + 2).log2 + 1) := (Nat.le_add_right _ 2).trans_lt Nat.lt_log2_self
    exact_mod_cast hlt
  have hexp : (0 : ℤ) < (4 * m + 2).log2 + 1 + (q - 2) := by
    rw [← zpow_lt_zpow_iff_right₀ (one_lt_two : (1 : ℚ) < 2), zpow_zero, zpow_add₀ two_ne_zero]
    calc (1 : ℚ) ≤ (4 * m : ℕ) * 2 ^ (q - 2) := by
          rw [zpow_sub₀ two_ne_zero]
          push_cast
          linarith
      _ < 2 ^ ((4 * m + 2).log2 + 1 : ℤ) * 2 ^ (q - 2) := mul_lt_mul_of_pos_right hlog (zpow_pos two_pos _)
  have hbeyond : (around f m q).beyond = ((4 * m + 2).log2 + 1 + (q - 2)) * 30103 / 100000 + 2 := rfl
  rw [hbeyond]
  omega

lemma two_zpow_quarter (q : Int) : (2 : ℚ) ^ q = 4 * 2 ^ (q - 2) := by
  rw [zpow_sub₀ two_ne_zero]
  norm_num
  ring

lemma whole_meets (hm : 0 < m) (hw : Whole m q) : ((around f m q).multiple? 0).isSome = true := by
  obtain ⟨n, hn⟩ := hw
  have hvalue : (around f m q).value * (around f m q).coarse 0 = n * (around f m q).fine 0 := by
    obtain ⟨c, -, hx, hd⟩ := (around f m q).exists_factor 0
    have hq : ((4 * m : ℕ) : ℚ) * 2 ^ (q - 2) = n := by
      rw [← hn, two_zpow_quarter q]
      push_cast
      ring
    have hcast : (((around f m q).value * (around f m q).coarse 0 : ℕ) : ℚ) = (n * (around f m q).fine 0 : ℕ) := by
      rw [hx, hd, zpow_zero, mul_one]
      exact congrArg (· * c) hq
    exact_mod_cast hcast
  have hcoarse := (around f m q).coarse_pos 0
  have hhigh : (around f m q).value < (around f m q).high := Nat.lt_add_of_pos_right Nat.two_pos
  rw [isSome_multiple?_iff, hvalue, Nat.mul_div_cancel _ ((around f m q).fine_pos 0)]
  refine .inl (holds_of_between ?_ ?_)
  · exact hvalue ▸ Nat.mul_lt_mul_of_pos_right (around_low hm).1 hcoarse
  · exact hvalue ▸ Nat.mul_lt_mul_of_pos_right hhigh hcoarse

lemma near_of_holds (hm : 0 < m) (h : (around f m q).holds k d = true) :
    |(d : ℚ) * 10 ^ k - m * 2 ^ q| ≤ 2 ^ q / 2 := by
  obtain ⟨hlow, hhigh⟩ := bounds_of_holds h
  have hunit : (0 : ℚ) < 2 ^ (q - 2) := zpow_pos two_pos _
  have hl : (4 * m - 2 : ℚ) ≤ (around f m q).low := by
    rw [sub_le_iff_le_add]
    exact_mod_cast (around_low (f := f) (q := q) hm).2
  have hh : ((around f m q).high : ℚ) = 4 * m + 2 := by simp [around]
  have hlow' := (mul_le_mul_of_nonneg_right hl hunit.le).trans hlow
  rw [hh] at hhigh
  dsimp only [around] at hlow' hhigh
  rw [two_zpow_quarter q, abs_le]
  constructor <;> linarith

lemma whole_of_near (hk : 0 ≤ k) (h : |(d : ℚ) * 10 ^ k - m * 2 ^ q| ≤ 2 ^ q / 2) : Whole m q := by
  lift k to ℕ using hk
  rcases le_or_gt 0 q with hq | hq
  · lift q to ℕ using hq
    exact ⟨m * 2 ^ q, by push_cast; rw [zpow_natCast]⟩
  · obtain ⟨t, rfl⟩ : ∃ t : ℕ, q = -t := ⟨(-q).toNat, by omega⟩
    have hpos : (0 : ℚ) < 2 ^ t := by positivity
    rw [zpow_natCast, zpow_neg, zpow_natCast] at h
    have hscaled : |((d * 10 ^ k * 2 ^ t - m : ℤ) : ℚ)| ≤ 1 / 2 := by
      have heq : ((d * 10 ^ k * 2 ^ t - m : ℤ) : ℚ) = ((d : ℚ) * 10 ^ k - m * (2 ^ t)⁻¹) * 2 ^ t := by
        push_cast
        field_simp
      rw [heq, abs_mul, abs_of_pos hpos]
      calc _ ≤ (2 ^ t)⁻¹ / 2 * 2 ^ t := mul_le_mul_of_nonneg_right h hpos.le
        _ = 1 / 2 := by field_simp
    have hzero : (d * 10 ^ k * 2 ^ t - m : ℤ) = 0 := by
      rw [← Int.abs_lt_one_iff]
      have hlt : |((d * 10 ^ k * 2 ^ t - m : ℤ) : ℚ)| < 1 := hscaled.trans_lt (by norm_num)
      exact_mod_cast hlt
    refine ⟨d * 10 ^ k, ?_⟩
    rw [zpow_neg, zpow_natCast, ← div_eq_mul_inv, div_eq_iff hpos.ne']
    have hm : (m : ℤ) = d * 10 ^ k * 2 ^ t := (sub_eq_zero.mp hzero).symm
    exact_mod_cast hm

/-- The digits stand for a decimal that rounds to the value, and have no fraction exactly when the value has none. -/
theorem shortest_spec (f : Binary) (hm : 0 < m) (hlt : m < 2 ^ 53) (hq : -1074 ≤ q ∧ q ≤ 971) :
    ∃ d k, (around f m q).shortest = (d, k) ∧ |(d : ℚ) * 10 ^ k - m * 2 ^ q| ≤ 2 ^ q / 2 ∧ (0 ≤ k ↔ Whole m q) := by
  obtain ⟨n, hn, hsome⟩ := exists_exponent (f := f) hm hlt hq
  obtain ⟨j, hj, d, hd, hholds⟩ := shortest_first hn hsome
  have hnear := near_of_holds hm hholds
  refine ⟨d, _, hd, hnear, fun hk => whole_of_near hk hnear, fun hw => ?_⟩
  have hbeyond := beyond_nonneg (f := f) hm hw
  rcases lt_or_ge (around f m q).beyond 24 with hb | hb
  · -- the exponent zero is among those that are tried
    obtain ⟨j', hj', d', hd', -⟩ := shortest_first (n := (around f m q).beyond.toNat) (by omega) (by
      rw [Int.toNat_of_nonneg hbeyond, sub_self]
      exact whole_meets hm hw)
    have hexp : (around f m q).beyond - j = (around f m q).beyond - j' := congrArg Prod.snd (hd.symm.trans hd')
    omega
  · omega

end Interval

end ShaderRunner.Number

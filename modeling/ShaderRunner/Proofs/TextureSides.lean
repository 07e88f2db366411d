import Mathlib.Order.Bounds.Basic
import Mathlib.Tactic.Common
import ShaderRunner.Texture.PowerOfTwo

namespace ShaderRunner

lemma isPowerOfTwo_iff {v : UInt32} : isPowerOfTwo v = true ↔ v = 0 ∨ v.toNat.isPowerOfTwo := by
  by_cases h : v = 0
  · simp [isPowerOfTwo, h]
  · have hv : v.toNat ≠ 0 := fun e => h (UInt32.toNat_inj.mp e)
    have hone : (1 : UInt32) ≤ v := UInt32.le_iff_toNat_le.mpr (Nat.one_le_iff_ne_zero.mpr hv)
    have hand : (v &&& (v - 1)).toNat = v.toNat &&& (v.toNat - 1) := by
      rw [UInt32.toNat_and, UInt32.toNat_sub_of_le v 1 hone]
      rfl
    rw [isPowerOfTwo, beq_iff_eq, ← UInt32.toNat_inj, hand, or_iff_right h]
    exact Nat.and_sub_one_eq_zero_iff_isPowerOfTwo hv

lemma le_of_lt_two_mul {a b : ℕ} (ha : a.isPowerOfTwo) (hb : b.isPowerOfTwo) (h : a < b * 2) : a ≤ b := by
  obtain ⟨j, rfl⟩ := ha
  obtain ⟨k, rfl⟩ := hb
  rw [← Nat.pow_succ] at h
  exact Nat.pow_le_pow_right (by decide) (Nat.le_of_lt_succ ((Nat.pow_lt_pow_iff_right (by decide)).mp h))

structure Reached (longest n : UInt32) : Prop where
  power : n.toNat.isPowerOfTwo
  le : n.toNat ≤ greatestSide.toNat
  half_lt : n.toNat < longest.toNat * 2

section Doubling

variable {longest n : UInt32}

lemma greatestSide_isPowerOfTwo : greatestSide.toNat.isPowerOfTwo := by decide

lemma Reached.double (h : Reached longest n) (hl : n < longest) (hg : n < greatestSide) : Reached longest (n * 2) := by
  have hp : (n * 2).toNat.isPowerOfTwo := by
    rw [toNat_mul_two hg]
    exact Nat.isPowerOfTwo_mul_two_of_isPowerOfTwo h.power
  refine ⟨hp, le_of_lt_two_mul hp greatestSide_isPowerOfTwo ?_, ?_⟩ <;> rw [toNat_mul_two hg]
  · exact Nat.mul_lt_mul_of_pos_right (UInt32.lt_iff_toNat_lt.mp hg) Nat.two_pos
  · exact Nat.mul_lt_mul_of_pos_right (UInt32.lt_iff_toNat_lt.mp hl) Nat.two_pos

lemma Reached.doubledSide (h : Reached longest n) : Reached longest (doubledSide longest n) ∧
    (longest ≤ ShaderRunner.doubledSide longest n ∨ ShaderRunner.doubledSide longest n = greatestSide) := by
  fun_induction ShaderRunner.doubledSide longest n with
  | case1 n hn ih => exact ih (h.double hn.2.1 hn.2.2)
  | case2 n hn =>
    have hpos : 0 < n := UInt32.lt_iff_toNat_lt.mpr (Nat.pos_of_isPowerOfTwo h.power)
    refine ⟨h, ?_⟩
    by_contra! hno
    have hlt : n < greatestSide := UInt32.lt_iff_toNat_lt.mpr (h.le.lt_of_ne fun e => hno.2 (UInt32.toNat_inj.mp e))
    exact hn ⟨hpos, UInt32.not_le.mp hno.1, hlt⟩

lemma coveringSide_least (h2 : 2 ≤ longest) (hg : longest ≤ greatestSide) :
    IsLeast {m : ℕ | m.isPowerOfTwo ∧ longest.toNat ≤ m} (coveringSide longest).toNat ∧
      (coveringSide longest).toNat < longest.toNat * 2 := by
  have h : 2 ≤ longest.toNat := UInt32.le_iff_toNat_le.mp h2
  have hstart : Reached longest 2 := ⟨by decide, by decide, by
    change 2 < longest.toNat * 2
    omega⟩
  obtain ⟨hr, hcover⟩ := hstart.doubledSide
  have hle : longest ≤ coveringSide longest := by
    rcases hcover with h | h
    · exact h
    · rwa [coveringSide, h]
  refine ⟨⟨⟨hr.power, UInt32.le_iff_toNat_le.mp hle⟩, ?_⟩, hr.half_lt⟩
  rintro m ⟨hm, hlm⟩
  exact le_of_lt_two_mul hr.power hm (hr.half_lt.trans_le (Nat.mul_le_mul_right 2 hlm))

end Doubling

namespace Size

variable {s : Size}

def Powers (s : Size) : Prop := s.width.toNat.isPowerOfTwo ∧ s.height.toNat.isPowerOfTwo

lemma fits_iff (hw : s.width ≠ 0) (hh : s.height ≠ 0) : s.fits = true ↔ s.Powers := by
  rw [fits, Bool.and_eq_true, isPowerOfTwo_iff, isPowerOfTwo_iff, or_iff_right hw, or_iff_right hh, Powers]

lemma Powers.fits (h : s.Powers) : s.fits = true := by
  rw [Size.fits, Bool.and_eq_true, isPowerOfTwo_iff, isPowerOfTwo_iff]
  exact ⟨.inr h.1, .inr h.2⟩

lemma toNat_longest (s : Size) : s.longest.toNat = max s.width.toNat s.height.toNat := UInt32.toNat_max _ _

lemma two_le_longest (hw : s.width ≠ 0) (hh : s.height ≠ 0) (h : ¬ s.Powers) : 2 ≤ s.longest := by
  rw [UInt32.le_iff_toNat_le, toNat_longest]
  change 2 ≤ _
  by_contra! hlt
  have hw' : s.width.toNat ≠ 0 := fun e => hw (UInt32.toNat_inj.mp e)
  have hh' : s.height.toNat ≠ 0 := fun e => hh (UInt32.toNat_inj.mp e)
  have hwidth : s.width.toNat = 1 := by omega
  have hheight : s.height.toNat = 1 := by omega
  exact h ⟨hwidth ▸ Nat.isPowerOfTwo_one, hheight ▸ Nat.isPowerOfTwo_one⟩

end Size

section Fitted

variable {α : Type} {size : α → Size} {resize : α → UInt32 → α} {x : α}

lemma fitted_of_fits (h : (size x).fits = true) (target : UInt32) : fitted size resize target x = x := by
  rw [fitted, Size.scaledSide?, if_pos h]

lemma fitted_of_not_fits (h : ¬ (size x).fits = true) :
    fitted size resize 0 x = resize x (coveringSide (size x).longest) := by
  rw [fitted, Size.scaledSide?, if_neg h, if_pos rfl]

/-- An image with sides, of which the longest is at most the greatest one, stays the same exactly if both sides are
powers of two. Otherwise it becomes the square whose side is the least power of two that covers the longest side. -/
theorem fitted_least (hresize : ∀ x n, size (resize x n) = ⟨n, n⟩) (hw : (size x).width ≠ 0)
    (hh : (size x).height ≠ 0) (hl : (size x).longest ≤ greatestSide) :
    (fitted size resize 0 x = x ↔ (size x).Powers) ∧
    (¬ (size x).Powers → ∃ n, fitted size resize 0 x = resize x n ∧ size (fitted size resize 0 x) = ⟨n, n⟩ ∧
      IsLeast {m : ℕ | m.isPowerOfTwo ∧ (size x).longest.toNat ≤ m} n.toNat ∧
      n.toNat < (size x).longest.toNat * 2) ∧
    (size (fitted size resize 0 x)).Powers ∧ (size x).width ≤ (size (fitted size resize 0 x)).width ∧
    (size x).height ≤ (size (fitted size resize 0 x)).height ∧
    fitted size resize 0 (fitted size resize 0 x) = fitted size resize 0 x ∧
    ∀ v, isPowerOfTwo v = true ↔ v = 0 ∨ v.toNat.isPowerOfTwo := by
  by_cases h : (size x).Powers
  · have hx : fitted size resize 0 x = x := fitted_of_fits h.fits 0
    rw [hx]
    exact ⟨iff_of_true rfl h, fun hn => absurd h hn, h, UInt32.le_refl _, UInt32.le_refl _, hx,
      fun _ => isPowerOfTwo_iff⟩
  · have hx : fitted size resize 0 x = resize x (coveringSide (size x).longest) :=
      fitted_of_not_fits fun hf => h ((Size.fits_iff hw hh).mp hf)
    obtain ⟨hleast, hlt⟩ := coveringSide_least (Size.two_le_longest hw hh h) hl
    have hsize : size (fitted size resize 0 x) = ⟨coveringSide (size x).longest, coveringSide (size x).longest⟩ := by
      rw [hx, hresize]
    have hpowers : (size (fitted size resize 0 x)).Powers := by
      rw [hsize]
      exact ⟨hleast.1.1, hleast.1.1⟩
    have hcover : max (size x).width.toNat (size x).height.toNat ≤ (coveringSide (size x).longest).toNat := by
      rw [← Size.toNat_longest]
      exact hleast.1.2
    refine ⟨iff_of_false (fun e => h (e ▸ hpowers)) h, fun _ => ⟨_, hx, hsize, hleast, hlt⟩, hpowers, ?_, ?_,
      fitted_of_fits hpowers.fits 0, fun _ => isPowerOfTwo_iff⟩ <;> rw [hsize, UInt32.le_iff_toNat_le]
    · exact (le_max_left _ _).trans hcover
    · exact (le_max_right _ _).trans hcover

theorem fitted_least_picture :
    let x : Solid := ⟨⟨300, 100⟩, [255, 0, 0, 255]⟩
    (∀ x n, (Solid.resized x n).size = ⟨n, n⟩) ∧ x.size.width ≠ 0 ∧ x.size.height ≠ 0 ∧ x.size.longest ≤ greatestSide ∧
      x.normalized 0 ≠ x ∧ (x.normalized 0).size = ⟨512, 512⟩ ∧ (x.normalized 0).size.Powers := by
  intro x
  have hresize : ∀ x n, (Solid.resized x n).size = ⟨n, n⟩ := fun _ _ => rfl
  have hw : x.size.width ≠ 0 := by decide
  have hh : x.size.height ≠ 0 := by decide
  have hl : x.size.longest ≤ greatestSide := by decide
  obtain ⟨-, -, hpowers, -⟩ := fitted_least hresize hw hh hl
  exact ⟨hresize, hw, hh, hl, by decide +kernel, by decide +kernel, hpowers⟩

end Fitted

end ShaderRunner

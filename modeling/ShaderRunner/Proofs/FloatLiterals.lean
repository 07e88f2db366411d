import ShaderRunner.Proofs.DecimalText
import ShaderRunner.Proofs.UniformShape
import ShaderRunner.Session

namespace ShaderRunner

open Number (Digits)

def IntLiteral (t : String) : Prop := ∃ sign ∈ [[], ['-']], ∃ a, Digits a ∧ t.toList = sign ++ a

def FloatLiteral (t : String) : Prop :=
  ∃ sign ∈ [[], ['-']], ∃ a b, Digits a ∧ Digits b ∧ t.toList = sign ++ (a ++ '.' :: b)

section Literals

variable {t : String} {s a b : List Char}

lemma Number.Digits.append (ha : Digits a) (hb : ∀ c ∈ b, c.isDigit = true) : Digits (a ++ b) :=
  ⟨List.append_ne_nil_of_left_ne_nil ha.1 b, List.forall_mem_append.mpr ⟨ha.2, hb⟩⟩

lemma digits_toDigits (n : Nat) : Digits (Nat.toDigits 10 n) :=
  ⟨Nat.toDigits_ne_nil, fun _ hc => Nat.isDigit_of_mem_toDigits (by decide) (by decide) hc⟩

lemma Number.Digits.point_notMem (h : Digits s) : '.' ∉ s := fun hp => absurd (h.2 '.' hp) (by decide)

lemma IntLiteral.point_notMem (h : IntLiteral t) : '.' ∉ t.toList := by
  obtain ⟨sign, hs, a, ha, ht⟩ := h
  have hsign : '.' ∉ sign := by
    rcases List.mem_pair.mp hs with rfl | rfl <;> decide
  rw [ht, List.mem_append]
  exact not_or.mpr ⟨hsign, ha.point_notMem⟩

lemma FloatLiteral.point_mem (h : FloatLiteral t) : '.' ∈ t.toList := by
  obtain ⟨sign, -, a, b, -, -, ht⟩ := h
  rw [ht]
  exact List.mem_append_right _ (List.mem_append_right _ List.mem_cons_self)

lemma FloatLiteral.not_intLiteral (h : FloatLiteral t) : ¬ IntLiteral t := fun hi => hi.point_notMem h.point_mem

end Literals

namespace Number

variable {d m : Nat} {k q : Int}

lemma digits_plain (d : Nat) (hk : 0 ≤ k) : Digits (plain d k) := by
  have hplaces : (-k).toNat = 0 := by omega
  rw [plain, if_pos hplaces]
  refine (digits_toDigits d).append fun c hc => ?_
  rw [List.eq_of_mem_replicate hc]
  decide

lemma fraction_plain (d : Nat) (hk : k < 0) : ∃ a b, Digits a ∧ Digits b ∧ plain d k = a ++ '.' :: b := by
  obtain ⟨hne, hdigits⟩ := digits_toDigits d
  have hplaces : (-k).toNat ≠ 0 := by omega
  rw [plain, if_neg hplaces]
  split
  · next hlt =>
    refine ⟨_, _, ⟨?_, fun c hc => hdigits c (List.mem_of_mem_take hc)⟩,
      ⟨?_, fun c hc => hdigits c (List.mem_of_mem_drop hc)⟩, rfl⟩
    · rw [ne_eq, List.take_eq_nil_iff]
      exact not_or.mpr ⟨by omega, hne⟩
    · rw [ne_eq, List.drop_eq_nil_iff]
      omega
  · refine ⟨['0'], _, ⟨List.cons_ne_nil _ _, List.forall_mem_singleton.mpr (by decide)⟩, ⟨?_, ?_⟩, rfl⟩
    · exact List.append_ne_nil_of_right_ne_nil _ hne
    · refine List.forall_mem_append.mpr ⟨fun c hc => ?_, hdigits⟩
      rw [List.eq_of_mem_replicate hc]
      decide

namespace Binary

lemma content_bounds {f : Binary} (hf : f ∈ [single, double]) {bits : Nat} (h : f.content bits = .finite m q) :
    m < 2 ^ 53 ∧ -1074 ≤ q ∧ q ≤ 971 := by
  have hformat : 0 < f.hidden ∧ 2 * f.hidden ≤ 2 ^ 53 ∧ -1074 ≤ f.least ∧ f.least ≤ 971 ∧
      f.least + (Nat.pow 2 f.exponent : Nat) ≤ 974 := by
    rcases List.mem_pair.mp hf with rfl | rfl <;> decide
  have hm := Nat.mod_lt (bits % f.signBit) hformat.1
  have hexponent : bits % f.signBit < f.infinity → bits % f.signBit / f.hidden < Nat.pow 2 f.exponent - 1 :=
    fun hlt => Nat.div_lt_of_lt_mul ((Nat.mul_comm _ _).symm ▸ hlt)
  rw [content] at h
  generalize bits % f.signBit / f.hidden = e at h hexponent
  split at h
  · contradiction
  · split at h
    · contradiction
    · split at h <;> obtain ⟨rfl, rfl⟩ := Content.finite.inj h <;> omega

end Binary

lemma sign_mem (f : Binary) (bits : Nat) : (if f.negative bits then ['-'] else []) ∈ [[], ['-']] := by
  split <;> simp

lemma text_finite {f : Binary} (hf : f ∈ [.single, .double]) {bits : Nat} (h : f.content bits = .finite m q) :
    ∃ sign ∈ [[], ['-']], ∃ d k, (text f bits).toList = sign ++ plain d k ∧
      |(d : ℚ) * 10 ^ k - m * 2 ^ q| ≤ 2 ^ q / 2 ∧ (0 ≤ k ↔ Whole m q) := by
  refine ⟨_, sign_mem f bits, ?_⟩
  cases m with
  | zero =>
    have hwhole : Whole 0 q := ⟨0, by simp⟩
    refine ⟨0, 0, ?_, ?_, iff_of_true le_rfl hwhole⟩
    · rw [text, h]
      exact String.toList_ofList
    · rw [Nat.cast_zero, zero_mul, zero_mul, sub_self, abs_zero]
      exact (half_pos (zpow_pos two_pos q)).le
  | succ m =>
    obtain ⟨hlt, hq⟩ := Binary.content_bounds hf h
    obtain ⟨d, k, hd, hnear, hwhole⟩ := Interval.shortest_spec f m.succ_pos hlt hq
    refine ⟨d, k, ?_, hnear, hwhole⟩
    have htext : text f bits = String.ofList ((if f.negative bits then ['-'] else []) ++
        plain (Interval.around f (m + 1) q).shortest.1 (Interval.around f (m + 1) q).shortest.2) := by
      rw [text, h]
      rfl
    rw [htext, hd, String.toList_ofList]

lemma text_literal {f : Binary} (hf : f ∈ [.single, .double]) {bits : Nat} (h : f.content bits = .finite m q) :
    Whole m q ∧ IntLiteral (text f bits) ∨ ¬ Whole m q ∧ FloatLiteral (text f bits) := by
  obtain ⟨sign, hs, d, k, ht, -, hwhole⟩ := text_finite hf h
  rcases le_or_gt 0 k with hk | hk
  · exact .inl ⟨hwhole.mp hk, sign, hs, _, digits_plain d hk, ht⟩
  · obtain ⟨a, b, ha, hb, hab⟩ := fraction_plain d hk
    exact .inr ⟨fun hw => absurd (hwhole.mpr hw) (by omega), sign, hs, a, b, ha, hb, hab ▸ ht⟩

lemma mod_of_whole (h : Whole m q) : m % lowered 2 q = 0 := by
  obtain ⟨n, hn⟩ := h
  have hmul : m * raised 2 q = n * lowered 2 q := by
    have hcast : ((m * raised 2 q : ℕ) : ℚ) = (n * lowered 2 q : ℕ) := by
      push_cast
      rw [raised_eq_zpow_mul Nat.two_pos, ← mul_assoc, Nat.cast_two, hn]
    exact_mod_cast hcast
  rcases le_or_gt 0 q with hq | hq
  · have hone : lowered 2 q = 1 := by
      rw [lowered, Int.toNat_of_nonpos (by omega)]
    rw [hone, Nat.mod_one]
  · have hone : raised 2 q = 1 := by
      rw [raised, Int.toNat_of_nonpos hq.le]
    rw [hone, mul_one] at hmul
    rw [hmul, Nat.mul_mod_left]

lemma doubleText_literal {y : Float} (h : Binary.double.content y.toBits.toNat = .finite m q) :
    FloatLiteral (doubleText y) := by
  by_cases hmod : m % lowered 2 q = 0
  · have htext : doubleText y = String.ofList ((if Binary.double.negative y.toBits.toNat then ['-'] else []) ++
        Nat.toDigits 10 (m * raised 2 q / lowered 2 q) ++ ".0".toList) := by
      rw [doubleText, h]
      exact if_pos hmod
    refine ⟨_, sign_mem .double y.toBits.toNat, _, ['0'], digits_toDigits (m * raised 2 q / lowered 2 q), ?_, ?_⟩
    · exact ⟨List.cons_ne_nil _ _, List.forall_mem_singleton.mpr (by decide)⟩
    · rw [htext, String.toList_ofList, List.append_assoc]
      rfl
  · have htext : doubleText y = text .double y.toBits.toNat := by
      rw [doubleText, h]
      exact if_neg hmod
    rw [htext]
    exact ((text_literal (by simp) h).resolve_left fun hw => hmod (mod_of_whole hw.1)).2

def IsWhole (x : Float32) : Prop := ∃ m q, Binary.single.content x.toBits.toNat = .finite m q ∧ Whole m q

open Float.Model (Format UnpackedFloat) in
lemma exists_content {x : Float32} (hx : x.isFinite = true) :
    ∃ m q, Binary.single.content x.toBits.toNat = .finite m q := by
  have hfield : (@UnpackedFloat.unpackExponent Format.binary32 x.toBits.toBitVec).toNat =
      x.toBits.toNat / 2 ^ 23 % 2 ^ 8 := by
    rw [UnpackedFloat.unpackExponent]
    simp [Nat.shiftRight_eq_div_pow]
  have hones : x.toBits.toNat / 2 ^ 23 % 2 ^ 8 ≠ 255 := by
    intro h
    have hexponent : @UnpackedFloat.unpackExponent Format.binary32 x.toBits.toBitVec = -1#_ := by
      apply BitVec.eq_of_toNat_eq
      rw [hfield, h]
      rfl
    have hu : x.isFinite = (UnpackedFloat.unpack Format.binary32 x.toBits.toBitVec).isFinite := rfl
    rw [hu] at hx
    delta UnpackedFloat.unpack at hx
    dsimp only at hx
    rw [if_pos hexponent] at hx
    split at hx <;> contradiction
  have hinfinity : x.toBits.toNat % Binary.single.signBit < Binary.single.infinity := by
    have hs : Binary.single.signBit = 2147483648 := by decide
    have hi : Binary.single.infinity = 2139095040 := by decide
    rw [hs, hi]
    omega
  rw [Binary.content, if_neg hinfinity.le.not_gt, if_neg hinfinity.ne]
  split
  · exact ⟨_, _, rfl⟩
  · exact ⟨_, _, rfl⟩

lemma singleText_literal {x : Float32} (hx : x.isFinite = true) :
    IsWhole x ∧ IntLiteral (singleText x) ∨ ¬ IsWhole x ∧ FloatLiteral (singleText x) := by
  obtain ⟨m, q, hc⟩ := exists_content hx
  have hwhole : IsWhole x ↔ Whole m q := by
    constructor
    · rintro ⟨m', q', hc', hw⟩
      obtain ⟨rfl, rfl⟩ := Binary.Content.finite.inj (hc.symm.trans hc')
      exact hw
    · exact fun hw => ⟨m, q, hc, hw⟩
  rw [hwhole]
  exact text_literal (by simp) hc

lemma isFinite_infinite (n : Bool) :
    (singleOfBits (Binary.single.signed n Binary.single.infinity)).isFinite = false := by
  cases n <;> decide +kernel

lemma isFinite_nan (n : Bool) :
    (singleOfBits (Binary.single.signed n (Binary.single.infinity + Nat.pow 2 22))).isFinite = false := by
  cases n <;> decide +kernel

lemma exists_content_of_narrow {y : Float} (hx : (narrow y).isFinite = true) :
    ∃ m q, Binary.double.content y.toBits.toNat = .finite m q := by
  rw [narrow] at hx
  cases hc : Binary.double.content y.toBits.toNat with
  | finite m q => exact ⟨m, q, rfl⟩
  | nan =>
    rw [hc] at hx
    exact absurd hx (Bool.eq_false_iff.mp (isFinite_nan _))
  | infinite =>
    rw [hc] at hx
    exact absurd hx (Bool.eq_false_iff.mp (isFinite_infinite _))

end Number

namespace Uniform

/-- The text of a single in a static has a point exactly when the single has a fraction, while that of a static in a
manifest always has one: of one number the two entries make the same kind of literal unless it is whole. -/
theorem static_literal {x : Float32} (hx : x.isFinite = true) :
    (∀ location length,
      create .static location length (.float x) = .ok ⟨none, .single, .static (Value.float x).toText⟩) ∧
    (∀ u : Uniform, u.kind = .static →
      u.stage (.float x) = (.ok .recompileRequired, { u with payload := .static (Value.float x).toText }) ∧
      ∀ d, u.update (.float x) d = (.ok .recompileRequired, d, { u with payload := .static (Value.float x).toText })) ∧
    (FloatLiteral (Value.float x).toText ↔ ¬ Number.IsWhole x) ∧
    (IntLiteral (Value.float x).toText ↔ Number.IsWhole x) ∧
    ('.' ∈ (Value.float x).toText.toList ↔ ¬ Number.IsWhole x) ∧
    ∀ y, Number.narrow y = x → ∀ (m : Manifest) (f : Files) (place : Nat) (name : String), ∃ e e' t,
      Manifest.decodeEntry (.table [("name", .string name), ("value", .float y)]) = some e ∧
      Manifest.decodeEntry (.table [("name", .string name), ("static", .float y)]) = some e' ∧
      Session.entryValue m f place e = .ok (.float x) ∧ Session.entryValue m f place e' = .ok (.text t) ∧
      (∀ location length, create .static location length (.text t) = .ok ⟨none, .single, .static t⟩) ∧
      FloatLiteral t ∧ ((FloatLiteral (Value.float x).toText ↔ FloatLiteral t) ↔ ¬ Number.IsWhole x) := by
  have hkinds : Number.IsWhole x ∧ IntLiteral (Value.float x).toText ∨
      ¬ Number.IsWhole x ∧ FloatLiteral (Value.float x).toText := Number.singleText_literal hx
  have hfloat : FloatLiteral (Value.float x).toText ↔ ¬ Number.IsWhole x := by
    rcases hkinds with ⟨hw, hi⟩ | ⟨hw, hf⟩
    · exact iff_of_false (fun hf => hf.not_intLiteral hi) (not_not.mpr hw)
    · exact iff_of_true hf hw
  have hint : IntLiteral (Value.float x).toText ↔ Number.IsWhole x := by
    rcases hkinds with ⟨hw, hi⟩ | ⟨hw, hf⟩
    · exact iff_of_true hi hw
    · exact iff_of_false hf.not_intLiteral hw
  have hpoint : '.' ∈ (Value.float x).toText.toList ↔ ¬ Number.IsWhole x :=
    ⟨fun hp hw => (hint.mpr hw).point_notMem hp, fun hw => (hfloat.mpr hw).point_mem⟩
  refine ⟨fun _ _ => rfl, fun u hu => ?_, hfloat, hint, hpoint, ?_⟩
  · have hstage : u.stage (.float x) =
        (.ok .recompileRequired, { u with payload := .static (Value.float x).toText }) := by
      rw [stage, hu]
      rfl
    refine ⟨hstage, fun d => ?_⟩
    rw [update_of_kind (by simp [hu]), hstage]
  · rintro y rfl m f place name
    obtain ⟨n, k, hy⟩ := Number.exists_content_of_narrow hx
    have hdouble : FloatLiteral (Number.doubleText y) := Number.doubleText_literal hy
    refine ⟨_, _, Number.doubleText y, rfl, rfl, rfl, rfl, fun _ _ => rfl, hdouble, ?_⟩
    rw [iff_true_right hdouble, hfloat]

theorem static_literal_half :
    let x := Float32.ofBits 0x3f000000
    x.isFinite = true ∧ create .static none .single (.float x) = .ok ⟨none, .single, .static "0.5"⟩ ∧
      ¬ Number.IsWhole x := by
  intro x
  have hx : x.isFinite = true := by decide +kernel
  have ht : (Value.float x).toText = "0.5" := by decide +kernel
  obtain ⟨hcreate, -, -, -, hpoint, -⟩ := static_literal hx
  refine ⟨hx, ht ▸ hcreate none .single, hpoint.mp ?_⟩
  rw [ht]
  decide

/-- Two is a finite single, and no float literal in a static. -/
theorem static_literal_whole :
    let x := Float32.ofBits 0x40000000
    x.isFinite = true ∧ create .static none .single (.float x) = .ok ⟨none, .single, .static "2"⟩ ∧
      ¬ FloatLiteral "2" ∧ (StaticSpec.float (Float.ofBits 0x4000000000000000)).toText = "2.0" ∧
      Number.narrow (Float.ofBits 0x4000000000000000) = x := by
  intro x
  have ht : (Value.float x).toText = "2" := by decide +kernel
  have hcreate : create .static none .single (.float x) = .ok ⟨none, .single, .static (Value.float x).toText⟩ := rfl
  refine ⟨by decide +kernel, ht ▸ hcreate, fun h => absurd h.point_mem (by decide), ?_, ?_⟩
  · decide +kernel
  · decide +kernel

end Uniform

end ShaderRunner

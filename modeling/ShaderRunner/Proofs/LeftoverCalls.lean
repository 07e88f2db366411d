import ShaderRunner.Proofs.AtOnce

/-!
The defaults are put in place together and not scanned again, so a call that a default makes, alone or with what
stands around it, is there to stay.
-/

namespace ShaderRunner

open Text Piece StaticCall

def CallFree (t : List Char) : Prop := (scanSource t).map calls = .ok []

instance (t : List Char) : Decidable (CallFree t) := inferInstanceAs (Decidable ((scanSource t).map calls = .ok []))

def DefaultsPlain (ps : List Piece) : Prop :=
  ∀ a m b u c w, ps = a ++ .call m :: b → m.literal = some (u ++ c :: w) →
    ¬ HeadAt (substitute literal a ++ u).getLast? (c :: (w ++ substitute literal b))

variable {ps qs : List Piece} {source : String} {s : UniformSet} {t : Prepared}

lemma eq_map_plain (h : calls qs = []) : qs = (textOf qs).map .plain := by
  induction qs with
  | nil => rfl
  | cons p qs ih =>
    cases p with
    | plain c => rw [textOf_plain, List.map_cons, ← ih h]
    | call m => cases h

lemma callFree_iff_exists {t : List Char} : CallFree t ↔ ∃ qs, scanSource t = .ok qs ∧ calls qs = [] := by
  rw [CallFree]
  cases scanSource t <;> simp [Except.map]

lemma fits_literal_iff (hl : ∀ m ∈ calls ps, m.literal ≠ none) : Fits literal none ps ↔ DefaultsPlain ps := by
  have hcut : ∀ a m b, (∃ v, m.literal = some v) →
      (Cut (endOf none (substitute literal a)) (substitute literal b) (replaced literal m) ↔
        ∀ u c w, m.literal = some (u ++ c :: w) →
          ¬ HeadAt (substitute literal a ++ u).getLast? (c :: (w ++ substitute literal b))) := by
    rintro a m b ⟨v, hv⟩
    simp only [replaced, hv, cut_map_plain_iff, Option.some.injEq, ← endOf_none, endOf_append]
  constructor
  · rintro h a m b u c w rfl hv
    exact (hcut a m b ⟨_, hv⟩).mp (h a m b rfl) u c w hv
  · rintro h a m b rfl
    have hm := hl m (by simp [calls, call?])
    exact (hcut a m b (Option.ne_none_iff_exists'.mp hm)).mpr fun u c w => h a m b u c w rfl

lemma callFree_iff (hc : Cut none [] ps) (hl : ∀ m ∈ calls ps, m.literal ≠ none) :
    CallFree (substitute literal ps) ↔ Fits literal none ps := by
  have hn : calls (replace literal ps) = [] := by
    rw [calls_replace]
    simpa [List.filter_eq_nil_iff] using hl
  rw [callFree_iff_exists, ← cut_replace_iff hc id, ← textOf_replace]
  constructor
  · rintro ⟨qs, hq, hqs⟩
    obtain ⟨ht, hcut⟩ := scanSource_ok_iff.mp hq
    rwa [eq_map_plain hn, ← ht, ← eq_map_plain hqs]
  · exact fun h => ⟨_, scanSource_of_cut h, hn⟩

lemma prepare_ok (h : prepare source s = .ok t) :
    ∃ filled ds ps, fillStatics source.toList s.entries = .ok (filled, ds) ∧ scanSource filled = .ok ps ∧
      (∀ m ∈ calls ps, m.literal ≠ none) ∧ t.source.toList = substitute literal ps := by
  rw [prepare] at h
  obtain ⟨⟨filled, ds⟩, hf, h⟩ := bind_eq_ok h
  obtain ⟨resolved, hr, h⟩ := bind_eq_ok h
  rw [resolveDefaults] at hr
  obtain ⟨ps, hs, hr⟩ := bind_eq_ok hr
  refine ⟨filled, ds, ps, hf, hs, ?_⟩
  split at hr
  · contradiction
  · next hn =>
    refine ⟨by simpa using hn, ?_⟩
    rw [← Except.ok.inj h, ← Except.ok.inj hr, String.toList_ofList]

/-- Exactly the defaults decide whether calls are left. None is left if neither a static nor a default in use
holds `STATIC`, and no word goes on from a call of the source. -/
theorem prepare_callFree_iff (h : prepare source s = .ok t) :
    (∃ filled ds ps, fillStatics source.toList s.entries = .ok (filled, ds) ∧ scanSource filled = .ok ps ∧
        (CallFree t.source.toList ↔ DefaultsPlain ps)) ∧
      ∀ ps, scanSource source.toList = .ok ps → Apart ps →
        StaticFree s.entries →
        (∀ m ∈ calls ps, staticFor s.entries m = none → ∀ v ∈ m.literal, ¬ "STATIC".toList <:+: v) →
        CallFree t.source.toList := by
  obtain ⟨filled, ds, qs, hf, hq, hl, ht⟩ := prepare_ok h
  obtain ⟨rfl, hc⟩ := scanSource_ok_iff.mp hq
  rw [ht, callFree_iff hc hl]
  refine ⟨⟨_, ds, qs, hf, hq, fits_literal_iff hl⟩, fun ps hp ha hs hd => ?_⟩
  obtain ⟨htext, hcp⟩ := scanSource_ok_iff.mp hp
  have hqs : qs = replace (staticFor s.entries) ps := by
    have hfill := fillStatics_cut s.nodup hs hcp ha
    rw [htext, hf, Except.ok.injEq, Prod.mk.injEq] at hfill
    have hcut := (cut_replace_iff hcp id).mpr (fits_of_static_free hcp ha.unjoined fun m _ => hs.staticFor m)
    exact Except.ok.inj (hq.symm.trans (scanSource_ok_iff.mpr ⟨hfill.1.symm, hcut⟩))
  subst hqs
  refine fits_of_static_free hc (apart_replace hcp ha).unjoined fun m hm => ?_
  rw [calls_replace, List.mem_filter, Option.isNone_iff_eq_none] at hm
  exact hd m hm.1 hm.2

theorem prepare_callFree_iff_default :
    let s := UniformSet.ofList [("k", { payload := .static "(0.5" })]
    let source := "STATIC(k) STATIC(n, STAT);"
    prepare source s = .ok ⟨"(0.5 STAT;", []⟩ ∧ CallFree "(0.5 STAT;".toList := by
  intro s source
  have h : prepare source s = .ok ⟨"(0.5 STAT;", []⟩ := by decide +kernel
  have hp : scanSource source.toList = .ok ((scan source.toList).toOption.getD []) := by decide +kernel
  exact ⟨h, (prepare_callFree_iff h).2 _ hp (by decide +kernel) (by decide +kernel) (by decide +kernel)⟩

/-- The default of one call is another call. -/
theorem prepare_leaves_default_call :
    prepare "float a = STATIC(a, STATIC(b, 1));" .empty = .ok ⟨"float a = STATIC(b, 1);", []⟩ ∧
      ¬ CallFree "float a = STATIC(b, 1);".toList := by
  decide +kernel

end ShaderRunner

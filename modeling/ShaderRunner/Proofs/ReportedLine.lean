import ShaderRunner.Program.Build
import ShaderRunner.Proofs.CallGrammar
import ShaderRunner.Proofs.SourceWindow

namespace ShaderRunner

open Text

namespace ErrorWindow

/-- The bounds of the window are those that numbers would give: none of them wraps, and the window does not stop
before it starts. -/
structure Exact (line : UInt64) : Prop where
  start : (start line).toNat = line.toNat - 3
  stop : (stop line).toNat = line.toNat + 2
  start_le_stop : ErrorWindow.start line ≤ ErrorWindow.stop line
  count : (count line).toNat = (ErrorWindow.stop line).toNat - (ErrorWindow.start line).toNat

lemma exact_iff {line : UInt64} : Exact line ↔ line.toNat + 2 < UInt64.size := by
  constructor
  · intro h
    rw [← h.stop]
    exact UInt64.toNat_lt_size _
  · intro h
    have hstop : (stop line).toNat = line.toNat + 2 := by
      rw [stop, UInt64.toNat_add]
      exact Nat.mod_eq_of_lt h
    refine ⟨toNat_start line, hstop, UInt64.le_iff_toNat_le.mpr ?_, ?_⟩
    · rw [toNat_start, hstop]
      omega
    · rw [toNat_count, toNat_start, hstop]

section Logs

variable {ds r s : List Char}

lemma isDigit_of_decimal {c : Char} (h : c.isDigit = true) : isDigit c = true := by
  have hd : c.isDigit = (decide (48 ≤ c.toNat) && decide (c.toNat ≤ 57)) := rfl
  rw [hd] at h
  rw [isDigit, Ranges.contains, digitRanges, List.any_cons, Bool.or_eq_true]
  exact .inl h

lemma field?_digits (hne : ds ≠ []) (hds : ∀ c ∈ ds, c.isDigit = true) (r : List Char) :
    field? (ds ++ ':' :: r) = some (ds, r) := by
  have hdigit : ∀ c ∈ ds, isDigit c = true := fun c hc => isDigit_of_decimal (hds c hc)
  have hcolon : ∀ c ∈ (':' :: r).head?, isDigit c = false := by
    rintro c ⟨⟩
    decide +kernel
  rw [field?, takeWhile_append_stop hdigit hcolon, dropWhile_append_stop hdigit hcolon]
  cases ds with
  | nil => contradiction
  | cons => rfl

lemma report?_digits {es : List Char} (hne : ds ≠ []) (hds : ∀ c ∈ ds, c.isDigit = true) (hes : es ≠ [])
    (hdes : ∀ c ∈ es, c.isDigit = true) (r : List Char) :
    report? ("ERROR: ".toList ++ (ds ++ ':' :: (es ++ ':' :: r))) = some es := by
  rw [report?, after?_append]
  simp [field?_digits hne hds, field?_digits hes hdes]

lemma exists_lineOf? (line : UInt64) : ∃ log, lineOf? log = some line := by
  have hdigits : ∀ c ∈ Nat.toDigits 10 line.toNat, c.isDigit = true :=
    fun c hc => Nat.isDigit_of_mem_toDigits (by decide) (by decide) hc
  have hzero : ∀ c ∈ ['0'], c.isDigit = true := List.forall_mem_singleton.mpr (by decide)
  have hreport := report?_digits (List.cons_ne_nil '0' []) hzero Nat.toDigits_ne_nil hdigits []
  have hwhole : Number.whole (UInt64.size - 1) (Nat.toDigits 10 line.toNat) = .ok line.toNat := by
    have hle : Nat.ofDigitChars 10 (Nat.toDigits 10 line.toNat) 0 ≤ UInt64.size - 1 := by
      rw [Nat.ofDigitChars_ten_toDigits]
      exact Nat.le_sub_one_of_lt line.toNat_lt_size
    rw [Number.whole_digits Nat.toDigits_ne_nil hdigits hle, Nat.ofDigitChars_ten_toDigits]
  refine ⟨String.ofList ("ERROR: ".toList ++ (['0'] ++ ':' :: (Nat.toDigits 10 line.toNat ++ ':' :: []))), ?_⟩
  have hfirst : firstReport? ("ERROR: ".toList ++ (['0'] ++ ':' :: (Nat.toDigits 10 line.toNat ++ ':' :: []))) =
      some (Nat.toDigits 10 line.toNat) := by
    rw [firstReport?.eq_def]
    split
    · next h => exact absurd h (List.append_ne_nil_of_left_ne_nil (by decide) _)
    · next h => rw [← h, hreport]
  rw [lineOf?, String.toList_ofList, hfirst, Option.bind_some, hwhole, Except.toOption, Option.map_some,
    UInt64.ofNat_toNat]

lemma firstReport?_blank (hs : ∀ c ∈ s, isBlank c = true) : firstReport? s = none := by
  induction s with
  | nil => rfl
  | cons c s ih =>
    obtain ⟨hc, hs⟩ := List.forall_mem_cons.mp hs
    have hE : c ≠ 'E' := by
      rintro rfl
      revert hc
      decide +kernel
    have hreport : report? (c :: s) = none := by
      rw [report?]
      simp [after?, hE.symm]
    rw [firstReport?, hreport]
    exact ih hs

lemma lineOf?_blank {log : String} (h : trim log.toList = []) : lineOf? log = none := by
  obtain ⟨p, q, hl, hp, hq⟩ := exists_trim log.toList
  rw [h, List.nil_append] at hl
  rw [lineOf?, firstReport?_blank, Option.bind_none]
  rw [hl]
  exact fun c hc => (List.mem_append.mp hc).elim (hp c) (hq c)

end Logs

end ErrorWindow

open ErrorWindow

/-- A stage that fails to compile is reported with the line that the log of the device names and the window around it.
Its bounds are exact if and only if the line is none of the two greatest words, and a log can name those like any. -/
theorem Device.compileStage_reported {d d' : Device} {stage : Stage} {s : ShaderHandle} (source : String)
    (hs : d.createShader stage = (some s, d'))
    (hf : ((d'.shaderSource s source).compileShader s).compileStatus s = false) :
    let line := lineOf? (((d'.shaderSource s source).compileShader s).shaderLog s)
    (∃ log, (d.compileStage stage source).1 = .error (.compile stage log line (context source (line.getD 1)))) ∧
      (Exact (line.getD 1) ↔ ∀ n, line = some n → n.toNat + 2 < UInt64.size) ∧ ∀ n, ∃ log, lineOf? log = some n := by
  intro line
  refine ⟨?_, ?_, exists_lineOf?⟩
  · rw [compileStage, hs]
    dsimp only
    rw [if_neg (by simp [hf]), Failure.ofLog]
    split
    · next hb =>
      have hline : line = none := lineOf?_blank hb
      have hnone : lineOf? "Error report unavailable" = none := by decide +kernel
      rw [hline, hnone]
      exact ⟨_, rfl⟩
    · exact ⟨_, rfl⟩
  · rw [exact_iff]
    cases line with
    | none => simp [UInt64.size]
    | some n => simp

theorem Device.compileStage_reported_second :
    let d : Device := { fragmentError := some "ERROR: 0:2: 'x' : undeclared identifier" }
    let source := "void main() \x7b\n  x;\n\x7d"
    ∃ s d', d.createShader .fragment = (some s, d') ∧
      ((d'.shaderSource s source).compileShader s).compileStatus s = false ∧
      (∃ log, (d.compileStage .fragment source).1 = .error (.compile .fragment log (some 2) (context source 2))) ∧
      Exact 2 := by
  intro d source
  have hs : d.createShader .fragment = (some ⟨1⟩, (d.createShader .fragment).2) := rfl
  have hf : ((((d.createShader .fragment).2.shaderSource ⟨1⟩ source).compileShader ⟨1⟩)).compileStatus ⟨1⟩ = false := by
    decide +kernel
  have hline : lineOf? ((((d.createShader .fragment).2.shaderSource ⟨1⟩ source).compileShader ⟨1⟩).shaderLog ⟨1⟩) =
      some 2 := by decide +kernel
  obtain ⟨hreport, hexact, -⟩ := compileStage_reported source hs hf
  rw [hline] at hreport hexact
  refine ⟨_, _, hs, hf, hreport, hexact.mpr fun n hn => ?_⟩
  obtain rfl := Option.some.inj hn
  decide

/-- A log that names the greatest line: the window around it stops at the first line, far before it starts. -/
theorem Device.compileStage_wraps :
    let log := "ERROR: 0:18446744073709551615:"
    let d : Device := { fragmentError := some log }
    ∃ line, lineOf? log = some line ∧ (d.compileStage .fragment "").1 = .error (.compile .fragment log line "") ∧
      stop line = 1 ∧ stop line < start line ∧ ¬ Exact line := by
  refine ⟨18446744073709551615, by decide +kernel, by decide +kernel, by decide, by decide, fun h => ?_⟩
  exact absurd h.start_le_stop (by decide)

end ShaderRunner

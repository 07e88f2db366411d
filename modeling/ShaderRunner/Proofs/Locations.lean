import Mathlib.Data.List.Perm.Subperm
import ShaderRunner.Proofs.LinkedNames

/-!
Handles are numbered one after the other, whatever they stand for, and are words of 32 bits. A location is the place
of a name in the list of its program, and this list grows at its end only, until the program is linked or deleted.
-/

namespace ShaderRunner

section Entries

variable {κ α : Type} [DecidableEq κ]

lemma lookup_modify (l : List (κ × α)) (k k' : κ) (f : α → α) :
    (l.map fun e => if e.1 = k then (e.1, f e.2) else e).lookup k' = (l.lookup k').map (if k' = k then f else id) := by
  induction l with
  | nil => rfl
  | cons e l ih =>
    obtain ⟨x, a⟩ := e
    have hkey : (if x = k then (x, f a) else (x, a)) = (x, (if x = k then f else id) a) := by split <;> rfl
    rw [List.map_cons, hkey, List.lookup_cons, List.lookup_cons]
    by_cases hx : k' = x
    · subst hx
      simp
    · simp only [beq_false_of_ne hx, ih]

end Entries

def Request.keepsNames : Request → Bool
  | createProgram | attachShader .. | linkProgram _ | deleteProgram _ | resolve _ => false
  | _ => true

/-- The number of a handle as the word of 32 bits that a host holds. It comes round when the count outgrows it. -/
def Handle.word (h : Handle) : UInt32 := UInt32.ofNat h.id

namespace Device

def after (d : Device) : List Request → Device
  | [] => d
  | q :: qs => after (q.apply d) qs

def handles (d : Device) : List Request → List Handle
  | [] => []
  | q :: qs => (q.created? d).toList ++ handles (q.apply d) qs

def ResolvesAtMost (d : Device) (p : ProgramHandle) (n : Nat) : Prop :=
  ∀ names : List String, names.Nodup → (∀ name ∈ names, (d.uniformLocation p name).isSome = true) → names.length ≤ n

structure Unrepeated (d : Device) : Prop where
  programs : ∀ e ∈ d.programs, e.2.uniforms.Nodup
  extra : d.extra.Nodup

variable {d d' : Device} {p q : ProgramHandle} {name : String} {l : Location} {n : Nat}

lemma after_append (d : Device) (qs rs : List Request) : d.after (qs ++ rs) = (d.after qs).after rs := by
  induction qs generalizing d with
  | nil => rfl
  | cons q qs ih => exact ih _

lemma handles_id (d : Device) (qs : List Request) :
    (d.handles qs).map Handle.id = List.range' d.next (d.handles qs).length := by
  induction qs generalizing d with
  | nil => rfl
  | cons q qs ih =>
    rcases created?_spec q d with ⟨hq, hn⟩ | ⟨h, hq, hid, hn⟩
    · simp only [handles, hq, Option.toList_none, List.nil_append, ih, hn]
    · simp only [handles, hq, Option.toList_some, List.singleton_append, List.map_cons, List.length_cons,
        List.range'_succ, ih, hn, hid]

lemma after_next (d : Device) (qs : List Request) : (d.after qs).next = d.next + (d.handles qs).length := by
  induction qs generalizing d with
  | nil => rfl
  | cons q qs ih =>
    rcases created?_spec q d with ⟨hq, hn⟩ | ⟨h, hq, -, hn⟩
    · rw [after, ih, hn, handles, hq]
      rfl
    · rw [after, ih, hn, handles, hq, Option.toList_some, List.singleton_append, List.length_cons]
      omega

lemma toNat_word {h : Handle} {qs : List Request} (hn : (d.after qs).next ≤ UInt32.size) (hh : h ∈ d.handles qs) :
    h.word.toNat = h.id := by
  have hid : h.id ∈ (d.handles qs).map Handle.id := List.mem_map_of_mem hh
  rw [handles_id, List.mem_range'_1, ← after_next] at hid
  exact UInt32.toNat_ofNat_of_lt' (by omega)

lemma nodup_words_iff (d : Device) (qs : List Request) :
    ((d.handles qs).map Handle.word).Nodup ↔ (d.handles qs).length ≤ UInt32.size := by
  constructor
  · intro h
    have hnat : (((d.handles qs).map Handle.word).map UInt32.toNat).Nodup := h.map fun _ _ => UInt32.toNat_inj.mp
    have hsub : ((d.handles qs).map Handle.word).map UInt32.toNat ⊆ List.range UInt32.size := by
      intro n hn
      obtain ⟨w, -, rfl⟩ := List.mem_map.mp hn
      exact List.mem_range.mpr w.toNat_lt_size
    simpa using (hnat.subperm hsub).length_le
  · intro h
    have hwords : (d.handles qs).map Handle.word = (List.range' d.next (d.handles qs).length).map UInt32.ofNat := by
      rw [← handles_id, List.map_map]
      rfl
    rw [hwords]
    refine List.Nodup.map_on (fun a ha b hb hab => ?_) List.nodup_range'
    have hmod : a % UInt32.size = b % UInt32.size := by simpa using congrArg UInt32.toNat hab
    rw [List.mem_range'_1] at ha hb
    simp only [UInt32.size] at hmod h
    omega

lemma length_handles_buffers (hd : d.toRefusals = {}) (n : Nat) :
    (d.handles (List.replicate n .createBuffer)).length = n := by
  induction n generalizing d with
  | zero => rfl
  | succ n ih =>
    have hr : d.refuses .buffer = false := by rw [refuses, hd]; rfl
    have hc : ∃ b, d.createBuffer.1 = some b ∧ d.createBuffer.2.toRefusals = d.toRefusals := by
      rw [createBuffer, hr]
      exact ⟨_, rfl, rfl⟩
    obtain ⟨b, hb, hkept⟩ := hc
    rw [List.replicate_succ, handles, Request.created?, hb, List.length_append, Request.apply, ih (hkept.trans hd)]
    exact Nat.add_comm 1 n

lemma request_kept (q : Request) (d : Device) (hq : q.keepsNames = true) :
    (q.apply d).programs = d.programs ∧ (q.apply d).extra = d.extra := by
  cases q with
  | createShader stage => rw [Request.apply, createShader]; split <;> exact ⟨rfl, rfl⟩
  | createBuffer => rw [Request.apply, createBuffer]; split <;> exact ⟨rfl, rfl⟩
  | createTexture => rw [Request.apply, createTexture]; split <;> exact ⟨rfl, rfl⟩
  | shaderSource s source =>
    rw [Request.apply, shaderSource]
    cases d.shader? s <;> exact ⟨rfl, rfl⟩
  | createProgram | attachShader | linkProgram | deleteProgram | resolve => contradiction
  | _ => exact ⟨rfl, rfl⟩

lemma after_kept (d : Device) {qs : List Request} (hq : ∀ q ∈ qs, q.keepsNames = true) :
    (d.after qs).programs = d.programs ∧ (d.after qs).extra = d.extra := by
  induction qs generalizing d with
  | nil => exact ⟨rfl, rfl⟩
  | cons q qs ih =>
    obtain ⟨hq, hqs⟩ := List.forall_mem_cons.mp hq
    obtain ⟨hp, he⟩ := request_kept q d hq
    obtain ⟨hps, hes⟩ := ih (q.apply d) hqs
    exact ⟨hps.trans hp, hes.trans he⟩

section Unrepeated

lemma nodup_snoc {names : List String} (h : names.Nodup) (hn : names.contains name ≠ true) :
    (names ++ [name]).Nodup := by
  rw [← List.concat_eq_append]
  exact List.Nodup.concat (by simpa using hn) h

lemma nodup_distinct (names : List String) : (distinct names).Nodup := by
  suffices h : ∀ acc : List String, acc.Nodup →
      (names.foldl (fun acc n => if acc.contains n then acc else acc ++ [n]) acc).Nodup from h [] List.nodup_nil
  induction names with
  | nil => exact fun acc h => h
  | cons n names ih =>
    intro acc h
    rw [List.foldl_cons]
    apply ih
    split
    · exact h
    · next hn => exact nodup_snoc h hn

lemma Unrepeated.modifyProgram {f : Program → Program} (h : d.Unrepeated)
    (hf : ∀ x : Program, x.uniforms.Nodup → (f x).uniforms.Nodup) : (d.modifyProgram p f).Unrepeated := by
  refine ⟨fun e he => ?_, h.extra⟩
  obtain ⟨x, hx, rfl⟩ := List.mem_map.mp he
  split
  · exact hf x.2 (h.programs x hx)
  · exact h.programs x hx

lemma Unrepeated.request (h : d.Unrepeated) (q : Request) : (q.apply d).Unrepeated := by
  have hkept := request_kept q d
  cases q with
  | createProgram =>
    rw [Request.apply, createProgram]
    split
    · exact h
    · refine ⟨fun e he => ?_, h.extra⟩
      rcases List.mem_append.mp he with he | he
      · exact h.programs e he
      · rw [List.mem_singleton.mp he]
        exact List.nodup_nil
  | attachShader p s =>
    have hm := h.modifyProgram (p := p) (f := fun x => { x with shaders := x.shaders ++ [s] }) fun _ hx => hx
    exact ⟨hm.programs, hm.extra⟩
  | linkProgram p =>
    have hm := h.modifyProgram (p := p) (f := d.linked) fun x hx => by
      rw [linked]
      split
      · exact nodup_distinct _
      · exact hx
    exact ⟨hm.programs, hm.extra⟩
  | deleteProgram p => exact ⟨fun e he => h.programs e (List.mem_of_mem_filter he), h.extra⟩
  | resolve name =>
    rw [Request.apply, resolveAlways]
    split
    · exact h
    · next hn => exact ⟨h.programs, nodup_snoc h.extra hn⟩
  | _ =>
    obtain ⟨hp, he⟩ := hkept rfl
    exact ⟨hp ▸ h.programs, he ▸ h.extra⟩

lemma Unrepeated.after (h : d.Unrepeated) (qs : List Request) : (d.after qs).Unrepeated := by
  induction qs generalizing d with
  | nil => exact h
  | cons q qs ih => exact ih (h.request q)

lemma Unrepeated.resolvedNames (h : d.Unrepeated) (p : ProgramHandle) : (d.resolvedNames p).Nodup := by
  have hown : ((((d.program? p).filter (·.linked)).map (·.uniforms)).getD []).Nodup := by
    cases hx : (d.program? p).filter (·.linked) with
    | none => exact List.nodup_nil
    | some x =>
      obtain ⟨a, b, hab, -⟩ := List.lookup_eq_some_iff.mp (Option.filter_eq_some_iff.mp hx).1
      exact h.programs (p, x) (by simp [hab])
  refine List.Nodup.append hown (h.extra.filter _) (List.disjoint_right.mpr fun name hn => ?_)
  simpa using (List.mem_filter.mp hn).2

lemma Unrepeated.resolvesAtMost_iff (h : d.Unrepeated) : d.ResolvesAtMost p n ↔ (d.resolvedNames p).length ≤ n := by
  constructor
  · exact fun hn => hn _ (h.resolvedNames p) fun name hm => isSome_uniformLocation.mpr hm
  · intro hn names hnames hs
    have hsub : names ⊆ d.resolvedNames p := fun name hm => isSome_uniformLocation.mp (hs name hm)
    exact (hnames.subperm hsub).length_le.trans hn

end Unrepeated

section Locations

lemma uniformLocation_toNat (hp : p.id < 4294967) (hn : (d.resolvedNames p).length ≤ 1000)
    (h : d.uniformLocation p name = some l) :
    ∃ i < 1000, (d.resolvedNames p)[i]? = some name ∧ l.id.toNat = p.id * 1000 + i := by
  obtain ⟨i, hi, rfl⟩ := Option.map_eq_some_iff.mp h
  obtain ⟨hlt, hname, -⟩ := List.idxOf?_eq_some_iff.mp hi
  refine ⟨i, by omega, List.getElem?_eq_some_iff.mpr ⟨hlt, by simpa using hname⟩, ?_⟩
  exact UInt32.toNat_ofNat_of_lt' (by simp only [UInt32.size]; omega)

lemma uniformLocation_inj {other : String} (hp : p.id < 4294967) (hq : q.id < 4294967)
    (hnp : (d.resolvedNames p).length ≤ 1000) (hnq : (d.resolvedNames q).length ≤ 1000)
    (h : d.uniformLocation p name = some l) (h' : d.uniformLocation q other = some l) : p = q ∧ name = other := by
  obtain ⟨i, hi, hname, hl⟩ := uniformLocation_toNat hp hnp h
  obtain ⟨j, hj, hother, hl'⟩ := uniformLocation_toNat hq hnq h'
  obtain ⟨a⟩ := p
  obtain ⟨b⟩ := q
  obtain ⟨rfl, rfl⟩ : a = b ∧ i = j := by
    dsimp only at hl hl'
    omega
  exact ⟨rfl, Option.some.inj (hname.symm.trans hother)⟩

lemma program?_modifyProgram (d : Device) (p q : ProgramHandle) (f : Program → Program) :
    (d.modifyProgram q f).program? p = (d.program? p).map (if p = q then f else id) :=
  lookup_modify d.programs q p f

lemma prefix_of_program? (h : ((d'.program? p).filter (·.linked)).map (·.uniforms) =
    ((d.program? p).filter (·.linked)).map (·.uniforms)) (he : d'.extra = d.extra) :
    d.resolvedNames p <+: d'.resolvedNames p := by
  simp only [resolvedNames, h, he, List.prefix_rfl]

lemma request_resolvedNames (q : Request) (d : Device) (hl : q ≠ .linkProgram p) (hd : q ≠ .deleteProgram p) :
    d.resolvedNames p <+: (q.apply d).resolvedNames p := by
  have hkept := request_kept q d
  cases q with
  | createProgram =>
    rw [Request.apply, createProgram]
    split
    · exact List.prefix_rfl
    · refine prefix_of_program? ?_ rfl
      change ((List.lookup p (d.programs ++ [_])).filter _).map _ = _
      rw [List.lookup_append, ← program?]
      -- a handle that is not in use yet names a program that is not linked
      cases d.program? p with
      | some x => rfl
      | none =>
        rw [Option.none_or, List.lookup_cons]
        split <;> rfl
  | attachShader x s =>
    have hm : ((Request.attachShader x s).apply d).program? p = _ :=
      d.program?_modifyProgram p x fun y => { y with shaders := y.shaders ++ [s] }
    refine prefix_of_program? ?_ rfl
    rw [hm]
    cases d.program? p with
    | none => rfl
    | some y => by_cases hp : p = x <;> cases hy : y.linked <;> simp [hp, hy, Option.filter]
  | linkProgram x =>
    have hx : p ≠ x := fun h => hl (by rw [h])
    have hm : ((Request.linkProgram x).apply d).program? p = _ := d.program?_modifyProgram p x d.linked
    rw [if_neg hx, Option.map_id] at hm
    exact prefix_of_program? (by rw [hm, id]) rfl
  | deleteProgram x =>
    have hx : p ≠ x := fun h => hd (by rw [h])
    have hm : ((Request.deleteProgram x).apply d).program? p = _ := program?_deleteProgram hx
    exact prefix_of_program? (by rw [hm]) rfl
  | resolve name => exact d.resolvedNames_resolveAlways name p
  | _ =>
    obtain ⟨hp, he⟩ := hkept rfl
    exact prefix_of_program? (by rw [program?, hp, ← program?]) he

lemma after_resolvedNames (qs : List Request) (d : Device) (hl : .linkProgram p ∉ qs) (hd : .deleteProgram p ∉ qs) :
    d.resolvedNames p <+: (d.after qs).resolvedNames p := by
  induction qs generalizing d with
  | nil => exact List.prefix_rfl
  | cons q qs ih =>
    rw [List.mem_cons, not_or] at hl hd
    exact (request_resolvedNames q d (Ne.symm hl.1) (Ne.symm hd.1)).trans (ih (q.apply d) hl.2 hd.2)

end Locations

/-- As long as their count fits a word, the handles that a history gives out are numbered from one on, and all different.
Two uniforms have one location only if they are the same name of the same program, as long as the numbers and the names
of programs fit a location. And a location stays what it is until its program is linked or deleted. -/
theorem locations_distinct (size : Size) (qs rs : List Request)
    (hn : (({ size := size } : Device).after (qs ++ rs)).next < UInt32.size) :
    let d : Device := { size := size }
    ((d.handles (qs ++ rs)).map fun h => h.word.toNat) = List.range' 1 (d.handles (qs ++ rs)).length ∧
      ((d.handles (qs ++ rs)).map Handle.word).Nodup ∧
      (∀ p q name other l, p.id < 4294967 → q.id < 4294967 →
        (d.after qs).ResolvesAtMost p 1000 → (d.after qs).ResolvesAtMost q 1000 →
        (d.after qs).uniformLocation p name = some l → (d.after qs).uniformLocation q other = some l →
        p = q ∧ name = other) ∧
      ∀ p name l, (d.after qs).uniformLocation p name = some l → .linkProgram p ∉ rs → .deleteProgram p ∉ rs →
        (d.after (qs ++ rs)).uniformLocation p name = some l := by
  intro d
  have hd : (d.after qs).Unrepeated := Unrepeated.after ⟨by simp [d], List.nodup_nil⟩ qs
  have hlen : (d.handles (qs ++ rs)).length ≤ UInt32.size := calc
    (d.handles (qs ++ rs)).length ≤ d.next + (d.handles (qs ++ rs)).length := Nat.le_add_left _ _
    _ = (d.after (qs ++ rs)).next := (d.after_next _).symm
    _ ≤ UInt32.size := hn.le
  refine ⟨?_, (d.nodup_words_iff _).mpr hlen, fun p q name other l hp hq hnp hnq h h' => ?_,
    fun p name l h hl hdel => ?_⟩
  · exact (List.map_congr_left fun h hh => toNat_word hn.le hh).trans (d.handles_id _)
  · exact uniformLocation_inj hp hq (hd.resolvesAtMost_iff.mp hnp) (hd.resolvesAtMost_iff.mp hnq) h h'
  · rw [after_append]
    exact uniformLocation_of_prefix (after_resolvedNames rs _ hl hdel) h

theorem locations_distinct_relinked :
    let d : Device := { size := ⟨8, 8⟩ }
    let qs : List Request := [.createShader .fragment, .shaderSource ⟨1⟩ "uniform float u;\nuniform vec2 v;",
      .compileShader ⟨1⟩, .createProgram, .attachShader ⟨2⟩ ⟨1⟩, .linkProgram ⟨2⟩, .createProgram,
      .attachShader ⟨3⟩ ⟨1⟩, .linkProgram ⟨3⟩, .resolve "w"]
    let rs : List Request := [.resolve "x", .createTexture, .deleteShader ⟨1⟩, .linkProgram ⟨3⟩, .deleteProgram ⟨3⟩]
    ((d.handles (qs ++ rs)).map fun h => h.word.toNat) = [1, 2, 3, 4] ∧
      (d.after qs).uniformLocation ⟨2⟩ "v" = some ⟨2001⟩ ∧ (d.after qs).uniformLocation ⟨3⟩ "v" = some ⟨3001⟩ ∧
      (∀ name, (d.after qs).uniformLocation ⟨3⟩ name ≠ some ⟨2001⟩) ∧
      (d.after (qs ++ rs)).uniformLocation ⟨2⟩ "w" = some ⟨2002⟩ := by
  intro d qs rs
  have hlinked : (d.after qs).uniformLocation ⟨2⟩ "v" = some ⟨2001⟩ ∧
      (d.after qs).uniformLocation ⟨3⟩ "v" = some ⟨3001⟩ ∧ (d.after qs).uniformLocation ⟨2⟩ "w" = some ⟨2002⟩ ∧
      ((d.after qs).resolvedNames ⟨2⟩).length ≤ 1000 ∧ ((d.after qs).resolvedNames ⟨3⟩).length ≤ 1000 ∧
      (d.after (qs ++ rs)).next < UInt32.size := by
    decide +kernel
  obtain ⟨hv, hv', hw, hn, hn', hnext⟩ := hlinked
  have hd : (d.after qs).Unrepeated := Unrepeated.after ⟨by simp [d], List.nodup_nil⟩ qs
  obtain ⟨hids, -, hinj, hstay⟩ := locations_distinct ⟨8, 8⟩ qs rs hnext
  refine ⟨hids, hv, hv', fun name h => ?_, hstay ⟨2⟩ "w" ⟨2002⟩ hw (by simp [rs]) (by simp [rs])⟩
  have hp := (hinj ⟨2⟩ ⟨3⟩ "v" name ⟨2001⟩ (by decide) (by decide) (hd.resolvesAtMost_iff.mpr hn)
    (hd.resolvesAtMost_iff.mpr hn') hv h).1
  exact absurd hp (by decide)

/-- More buffers than words: two of them get the same one, though there is no program and no name resolves. And if a name
resolves everywhere, it has one location for two handles that stand for no program. -/
theorem locations_coincide :
    let d : Device := { size := ⟨8, 8⟩ }
    let qs : List Request := List.replicate 4294967297 .createBuffer
    ¬ ((d.handles qs).map Handle.word).Nodup ∧ (d.after qs).programs = [] ∧ (d.after qs).extra = [] ∧
      (d.after [.resolve "x"]).programs = [] ∧ (d.after [.resolve "x"]).uniformLocation ⟨0⟩ "x" = some ⟨0⟩ ∧
      (d.after [.resolve "x"]).uniformLocation ⟨536870912⟩ "x" = some ⟨0⟩ := by
  intro d qs
  have hkept : ∀ q ∈ qs, q.keepsNames = true := fun q hq => by rw [List.eq_of_mem_replicate hq]; rfl
  obtain ⟨hp, he⟩ := d.after_kept hkept
  refine ⟨fun h => ?_, hp, he, by decide +kernel⟩
  have hlen := (d.nodup_words_iff qs).mp h
  rw [length_handles_buffers rfl] at hlen
  exact absurd hlen (by decide)

end Device

end ShaderRunner

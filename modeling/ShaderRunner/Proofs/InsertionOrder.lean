import Mathlib.Data.Finset.Card
import ShaderRunner.Proofs.SetEntries
import ShaderRunner.Uniform.Creation

namespace ShaderRunner

structure IndexedSet where
  entries : List (String × Uniform) := []
  index : String → Option Nat := fun _ => none

namespace IndexedSet

variable (x : IndexedSet)

def names : List String := x.entries.map Prod.fst
def size : Nat := x.entries.length
def contains (name : String) : Bool := (x.index name).isSome
def get? (name : String) : Option Uniform := (x.index name).bind fun i => x.entries[i]?.map Prod.snd

def changeAt (i : Nat) (f : Uniform → Uniform) : IndexedSet :=
  { x with entries := x.entries.modify i fun e => (e.1, f e.2) }

def insert (name : String) (u : Uniform) : Option Uniform × IndexedSet :=
  match x.index name with
  | some i => (x.entries[i]?.map Prod.snd, x.changeAt i fun _ => u)
  | none => (none, ⟨x.entries ++ [(name, u)], Function.update x.index name (some x.entries.length)⟩)

def declare (name : String) (v : Value) (source : String) : Attempt (Option Uniform) IndexedSet :=
  match Uniform.createInferred none name v source with
  | .error e => (.error e, x)
  | .ok u => (.ok ((x.insert name u).2.get? name), (x.insert name u).2)

def modify (name : String) (f : Uniform → Uniform) : IndexedSet :=
  match x.index name with
  | some i => x.changeAt i f
  | none => x

def map (f : String → Uniform → Uniform) : IndexedSet :=
  { x with entries := x.entries.map fun e => (e.1, f e.1 e.2) }

end IndexedSet

inductive SetChange
  | insert (name : String) (u : Uniform)
  | declare (name : String) (v : Value) (source : String)
  | modify (name : String) (f : Uniform → Uniform)
  | map (f : String → Uniform → Uniform)

namespace SetChange

def apply (s : UniformSet) : SetChange → UniformSet
  | insert name u => (s.exchange name u).2
  | declare name v source => (s.declare name v source).toOption.getD s
  | modify name f => s.modify name f
  | map f => s.map f

def applyIndexed (x : IndexedSet) : SetChange → IndexedSet
  | insert name u => (x.insert name u).2
  | declare name v source => (x.declare name v source).2
  | modify name f => x.modify name f
  | map f => x.map f

def stored (name : String) (o : Option Uniform) : SetChange → Option Uniform
  | insert n u => if name = n then some u else o
  | declare n v source => if name = n then (Uniform.createInferred none n v source).toOption.or o else o
  | modify n f => if name = n then o.map f else o
  | map f => o.map (f name)

def insertedName? : SetChange → Option String
  | insert n _ => some n
  | declare n v source => if (Uniform.createInferred none n v source).isOk then some n else none
  | modify .. | map _ => none

def insertions (cs : List SetChange) : List String := cs.filterMap insertedName?

def lastStored (cs : List SetChange) (name : String) : Option Uniform := cs.foldl (stored name) none

end SetChange

open SetChange

def UniformSet.after (cs : List SetChange) : UniformSet := cs.foldl SetChange.apply .empty

namespace IndexedSet

def after (cs : List SetChange) : IndexedSet := cs.foldl applyIndexed {}

def InStep (x : IndexedSet) : Prop := ∀ name i, x.index name = some i ↔ x.names[i]? = some name

variable {x : IndexedSet} {s : UniformSet} {name : String} {u : Uniform} {i : Nat}

lemma InStep.congr {y : IndexedSet} (h : x.InStep) (hn : y.names = x.names) (hi : y.index = x.index) : y.InStep := by
  rw [InStep, hn, hi]
  exact h

lemma names_changeAt (x : IndexedSet) (i : Nat) (f : Uniform → Uniform) : (x.changeAt i f).names = x.names := by
  refine List.ext_getElem? fun j => ?_
  rw [names, names, changeAt, List.getElem?_map, List.getElem?_map, List.getElem?_modify]
  cases x.entries[j]? with
  | none => rfl
  | some e => by_cases h : i = j <;> simp [h]

lemma InStep.changeAt (h : x.InStep) (i : Nat) (f : Uniform → Uniform) : (x.changeAt i f).InStep :=
  h.congr (x.names_changeAt i f) rfl

lemma InStep.map (h : x.InStep) (f : String → Uniform → Uniform) : (x.map f).InStep :=
  h.congr (by simp [IndexedSet.map, names]) rfl

lemma InStep.notMem (h : x.InStep) (hn : x.index name = none) : name ∉ x.names := by
  intro hm
  obtain ⟨i, hi⟩ := List.mem_iff_getElem?.mp hm
  rw [(h name i).mpr hi] at hn
  contradiction

lemma InStep.push (h : x.InStep) (hn : x.index name = none) (u : Uniform) :
    InStep ⟨x.entries ++ [(name, u)], Function.update x.index name (some x.entries.length)⟩ := by
  intro k i
  have hlen : x.names.length = x.entries.length := List.length_map _
  rw [names, List.map_append, List.map_singleton, ← names, List.getElem?_append, hlen]
  change Function.update x.index name _ k = _ ↔ _
  rw [Function.update_apply]
  by_cases hk : k = name
  · subst hk
    rw [if_pos rfl, Option.some.injEq]
    split
    · next hlt =>
      -- a place in front of the new one belongs to another name
      have hother : x.names[i]? ≠ some k := fun hi => h.notMem hn (List.mem_of_getElem? hi)
      exact iff_of_false (by omega) hother
    · next hge => rw [List.getElem?_singleton]; split <;> simp <;> omega
  · rw [if_neg hk, h k i]
    split
    · rfl
    · next hge =>
      have hout : x.names[i]? = none := List.getElem?_eq_none (by omega)
      rw [hout, List.getElem?_singleton]
      split <;> simp [Ne.symm hk]

lemma InStep.insert (h : x.InStep) (name : String) (u : Uniform) : (x.insert name u).2.InStep := by
  rw [IndexedSet.insert]
  cases hi : x.index name with
  | some i => exact h.changeAt i _
  | none => exact h.push hi u

lemma InStep.nodup (h : x.InStep) : x.names.Nodup := by
  rw [List.nodup_iff_getElem?_ne_getElem?]
  intro i j hij hj he
  obtain ⟨name, hn⟩ : ∃ name, x.names[j]? = some name := ⟨_, List.getElem?_eq_getElem hj⟩
  have hsame := ((h name i).mpr (he.trans hn)).symm.trans ((h name j).mpr hn)
  exact hij.ne (Option.some.inj hsame)

lemma InStep.exists_entry (h : x.InStep) (hi : x.index name = some i) : ∃ u, x.entries[i]? = some (name, u) := by
  have hn := (h name i).mp hi
  rw [names, List.getElem?_map, Option.map_eq_some_iff] at hn
  obtain ⟨⟨n, u⟩, he, rfl⟩ := hn
  exact ⟨u, he⟩

lemma modify_entries (s : UniformSet) (name : String) (f : Uniform → Uniform) :
    (s.modify name f).entries = s.entries.map fun e => (e.1, if e.1 = name then f e.2 else e.2) := rfl

structure Represents (x : IndexedSet) (s : UniformSet) : Prop where
  entries : x.entries = s.entries
  inStep : x.InStep

namespace Represents

lemma names (h : x.Represents s) : x.names = s.names := congrArg (List.map Prod.fst) h.entries

lemma contains (h : x.Represents s) (name : String) : x.contains name = s.contains name := by
  rw [Bool.eq_iff_iff, IndexedSet.contains, UniformSet.contains, List.contains_iff_mem, ← h.names,
    Option.isSome_iff_exists, List.mem_iff_getElem?]
  exact exists_congr fun i => h.inStep name i

lemma get? (h : x.Represents s) (name : String) : x.get? name = s.get? name := by
  cases hi : x.index name with
  | some i =>
    obtain ⟨u, hu⟩ := h.inStep.exists_entry hi
    have hmem : (name, u) ∈ s.entries := h.entries ▸ List.mem_of_getElem? hu
    rw [UniformSet.mem_entries_iff.mp hmem, IndexedSet.get?, hi, Option.bind_some, hu, Option.map_some]
  | none =>
    have hc := h.contains name
    rw [IndexedSet.contains, hi, Option.isSome_none, UniformSet.contains_eq_isSome, eq_comm, Option.isSome_eq_false_iff,
      Option.isNone_iff_eq_none] at hc
    rw [IndexedSet.get?, hi, Option.bind_none, hc]

lemma changeAt (h : x.Represents s) (hi : x.index name = some i) (f : Uniform → Uniform) :
    (x.changeAt i f).Represents (s.modify name f) := by
  refine ⟨List.ext_getElem? fun j => ?_, h.inStep.changeAt i f⟩
  rw [IndexedSet.changeAt, List.getElem?_modify, h.entries, modify_entries, List.getElem?_map]
  cases hj : s.entries[j]? with
  | none => rfl
  | some e =>
    have hplace : i = j ↔ e.1 = name := by
      have hname := h.inStep name j
      rw [hi, h.names, UniformSet.names, List.getElem?_map, hj] at hname
      simpa using hname
    by_cases he : i = j <;> simp [he, ← hplace]

lemma insert (h : x.Represents s) (name : String) (u : Uniform) : (x.insert name u).2.Represents (s.insert name u) := by
  have hc := h.contains name
  rw [IndexedSet.contains] at hc
  cases hi : x.index name with
  | some i =>
    rw [hi, Option.isSome_some] at hc
    rw [IndexedSet.insert, hi, UniformSet.insert, dif_pos hc.symm]
    exact h.changeAt hi fun _ => u
  | none =>
    have hstep := h.inStep.insert name u
    rw [hi, Option.isSome_none] at hc
    rw [IndexedSet.insert, hi] at hstep ⊢
    rw [UniformSet.insert, dif_neg (by simp [← hc])]
    exact ⟨by rw [h.entries], hstep⟩

lemma modify (h : x.Represents s) (name : String) (f : Uniform → Uniform) :
    (x.modify name f).Represents (s.modify name f) := by
  cases hi : x.index name with
  | some i =>
    rw [IndexedSet.modify, hi]
    exact h.changeAt hi f
  | none =>
    have hsame : (s.modify name f).entries = s.entries := by
      conv_rhs => rw [← List.map_id s.entries]
      rw [modify_entries]
      refine List.map_congr_left fun e he => ?_
      have hne : e.1 ≠ name := by
        rintro rfl
        exact h.inStep.notMem hi (h.names ▸ List.mem_map_of_mem he)
      rw [if_neg hne, id]
    rw [IndexedSet.modify, hi]
    exact ⟨h.entries.trans hsame.symm, h.inStep⟩

lemma insert_answer (h : x.Represents s) (name : String) (u : Uniform) :
    (x.insert name u).1 = (s.exchange name u).1 := by
  rw [UniformSet.exchange, ← h.get?, IndexedSet.insert, IndexedSet.get?]
  cases x.index name <;> rfl

lemma declare (h : x.Represents s) (name : String) (v : Value) (source : String) :
    match s.declare name v source with
    | .error e => x.declare name v source = (.error e, x)
    | .ok s' => (x.declare name v source).1 = .ok (s'.get? name) ∧ (x.declare name v source).2.Represents s' := by
  rw [UniformSet.declare, IndexedSet.declare]
  cases Uniform.createInferred none name v source with
  | error e => rfl
  | ok u => exact ⟨congrArg _ ((h.insert name u).get? name), h.insert name u⟩

lemma apply (h : x.Represents s) (c : SetChange) : (c.applyIndexed x).Represents (c.apply s) := by
  cases c with
  | insert name u => exact h.insert name u
  | modify name f => exact h.modify name f
  | map f => exact ⟨by rw [applyIndexed, IndexedSet.map, h.entries]; rfl, h.inStep.map f⟩
  | declare name v source =>
    have hd := h.declare name v source
    rw [SetChange.apply, applyIndexed]
    cases hs : s.declare name v source with
    | error e =>
      rw [hs] at hd
      rw [hd]
      exact h
    | ok s' =>
      rw [hs] at hd
      exact hd.2

lemma after (cs : List SetChange) : (IndexedSet.after cs).Represents (UniformSet.after cs) := by
  induction cs using List.reverseRecOn with
  | nil => exact ⟨rfl, fun name i => by simp [IndexedSet.after, IndexedSet.names]⟩
  | append_singleton cs c ih =>
    rw [IndexedSet.after, UniformSet.after, List.foldl_append, List.foldl_append]
    exact ih.apply c

end Represents

end IndexedSet

namespace UniformSet

variable {s : UniformSet} {c : SetChange} {cs : List SetChange} {name : String}

lemma get?_apply (s : UniformSet) (c : SetChange) (name : String) :
    (c.apply s).get? name = c.stored name (s.get? name) := by
  cases c with
  | insert n u => exact s.get?_insert n name u
  | modify n f => exact s.get?_modify n name f
  | map f => exact s.get?_map f name
  | declare n v source =>
    rw [SetChange.apply, SetChange.stored, declare]
    cases Uniform.createInferred none n v source with
    | error e => simp [Except.map, Except.toOption]
    | ok u => simpa [Except.map, Except.toOption] using s.get?_insert n name u

lemma names_apply (s : UniformSet) (c : SetChange) :
    (c.apply s).names = s.names ++ c.insertedName?.toList.removeAll s.names := by
  have hinsert : ∀ n u, (s.insert n u).names = s.names ++ [n].removeAll s.names := fun n u => by
    rw [names_insert, contains, List.removeAll]
    cases hc : s.names.contains n <;> simp_all
  cases c with
  | insert n u => exact hinsert n u
  | modify n f => rw [SetChange.apply, names_modify]; simp [insertedName?, List.removeAll]
  | map f => rw [SetChange.apply, names_map]; simp [insertedName?, List.removeAll]
  | declare n v source =>
    rw [SetChange.apply, insertedName?, declare]
    cases Uniform.createInferred none n v source with
    | error e => simp [Except.map, Except.toOption, Except.isOk, Except.toBool, List.removeAll]
    | ok u => exact hinsert n u

lemma get?_after (cs : List SetChange) (name : String) : (after cs).get? name = lastStored cs name := by
  induction cs using List.reverseRecOn with
  | nil => rfl
  | append_singleton cs c ih =>
    rw [after, lastStored, List.foldl_append, List.foldl_append, List.foldl_cons, List.foldl_nil, get?_apply]
    exact congrArg (c.stored name) ih

lemma names_after (cs : List SetChange) : (after cs).names = (insertions cs).eraseDups := by
  induction cs using List.reverseRecOn with
  | nil => rfl
  | append_singleton cs c ih =>
    have hstep : (after (cs ++ [c])).names = (c.apply (after cs)).names := by rw [after, List.foldl_append]; rfl
    have hc : insertions (cs ++ [c]) = insertions cs ++ c.insertedName?.toList := by
      rw [insertions, List.filterMap_append, insertions]
      cases h : c.insertedName? <;> simp [h]
    rw [hstep, names_apply, ih, hc, List.eraseDups_append]
    rw [List.removeAll, List.removeAll]
    cases c.insertedName? with
    | none => rfl
    | some n => by_cases hn : n ∈ insertions cs <;> simp [hn, List.eraseDups_cons]

end UniformSet

namespace IndexedSet

structure InsertionOrdered (x : IndexedSet) (cs : List SetChange) : Prop where
  index : x.InStep
  nodup : x.names.Nodup
  names : x.names = (insertions cs).eraseDups
  size : x.size = (insertions cs).toFinset.card
  contains : ∀ name, x.contains name = true ↔ name ∈ insertions cs
  get? : ∀ name, x.get? name = lastStored cs name
  others : ∀ name, x.get? name = none ↔ name ∉ insertions cs

/-- After any changes a set is insertion-ordered, with an index or without. An insertion answers with the uniform that
it replaces, and a declaration that fails leaves the set as it is. -/
theorem after_insertionOrdered (cs : List SetChange) :
    let x := after cs
    let s := UniformSet.after cs
    x.InsertionOrdered cs ∧
      (s.entries = x.entries ∧ ∀ name, s.get? name = x.get? name ∧ s.contains name = x.contains name) ∧
      (∀ name u, (x.insert name u).1 = lastStored cs name ∧ (s.exchange name u).1 = lastStored cs name) ∧
      ∀ name v source, match Uniform.createInferred none name v source with
        | .error e => x.declare name v source = (.error e, x) ∧ s.declare name v source = .error e
        | .ok u => x.declare name v source = (.ok (some u), (x.insert name u).2) ∧
            s.declare name v source = .ok (s.insert name u) := by
  intro x s
  have h : x.Represents s := .after cs
  have hnames : x.names = (insertions cs).eraseDups := h.names.trans (UniformSet.names_after cs)
  have hget : ∀ name, s.get? name = lastStored cs name := UniformSet.get?_after cs
  have hcontains : ∀ name, x.contains name = true ↔ name ∈ insertions cs := fun name => by
    rw [h.contains, UniformSet.contains, ← h.names, hnames, List.contains_iff_mem, List.mem_eraseDups]
  have hsize : x.size = (insertions cs).toFinset.card := by
    have hset : (insertions cs).toFinset = x.names.toFinset := by
      ext name
      rw [List.mem_toFinset, List.mem_toFinset, hnames, List.mem_eraseDups]
    rw [hset, List.toFinset_card_of_nodup h.inStep.nodup, names, List.length_map, size]
  refine ⟨⟨h.inStep, h.inStep.nodup, hnames, hsize, hcontains, fun name => (h.get? name).trans (hget name),
    fun name => ?_⟩, ⟨h.entries.symm, fun name => ⟨(h.get? name).symm, (h.contains name).symm⟩⟩, fun name u => ?_,
    fun name v source => ?_⟩
  · rw [h.get?, ← hcontains, h.contains, UniformSet.contains_eq_isSome, Option.not_isSome_iff_eq_none]
  · have hs : (s.exchange name u).1 = lastStored cs name := hget name
    exact ⟨(h.insert_answer name u).trans hs, hs⟩
  · rw [declare, UniformSet.declare]
    cases Uniform.createInferred none name v source with
    | error e => exact ⟨rfl, rfl⟩
    | ok u =>
      have hstored : (x.insert name u).2.get? name = some u := by
        rw [(h.insert name u).get?, UniformSet.get?_insert, if_pos rfl]
      dsimp only
      exact ⟨by rw [hstored], rfl⟩

end IndexedSet

end ShaderRunner

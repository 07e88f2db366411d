import Mathlib.Tactic.Common
import Mathlib.Data.List.Basic
import ShaderRunner.Device.Basic

/-!
In a log of calls a handle is created, used and deleted, in this order, and not mentioned again. A device whose living
objects are those of its log stays so under every call that names living handles only.
-/

namespace ShaderRunner

inductive Handle
  | shader (s : ShaderHandle)
  | program (p : ProgramHandle)
  | buffer (b : BufferHandle)
  | texture (t : TextureHandle)
  deriving DecidableEq

def Handle.id : Handle → Nat
  | shader s => s.id
  | program p => p.id
  | buffer b => b.id
  | texture t => t.id

namespace Call

def created? : Call → Option Handle
  | createShader s _ => some (.shader s)
  | createProgram p => some (.program p)
  | createBuffer b => some (.buffer b)
  | createTexture t => some (.texture t)
  | _ => none

def deleted? : Call → Option Handle
  | deleteShader s => some (.shader s)
  | deleteProgram p => some (.program p)
  | deleteBuffer b => some (.buffer b)
  | deleteTexture t => some (.texture t)
  | _ => none

/-- The handles that a call names, other than those it creates or deletes. -/
def used : Call → List Handle
  | shaderSource s | compileShader s => [.shader s]
  | attachShader p s => [.program p, .shader s]
  | linkProgram p => [.program p]
  | useProgram p => (p.map Handle.program).toList
  | bindArrayBuffer b => (b.map Handle.buffer).toList
  | bindTexture2d t => (t.map Handle.texture).toList
  | _ => []

def mentions (c : Call) : List Handle := c.created?.toList ++ c.deleted?.toList ++ c.used

lemma deleted?_of_created? {c : Call} {h : Handle} (hc : c.created? = some h) : c.deleted? = none := by
  cases c <;> simp_all [created?, deleted?]

lemma mentions_created {c : Call} {h : Handle} (hc : c.created? = some h) : h ∈ c.mentions := by
  simp [mentions, hc]

lemma mentions_deleted {c : Call} {h : Handle} (hc : c.deleted? = some h) : h ∈ c.mentions := by
  simp [mentions, hc]

end Call

structure Orderly (cs : List Call) : Prop where
  created_before : ∀ before c after, cs = before ++ c :: after →
    ∀ h ∈ c.deleted?.toList ++ c.used, ∃ c' ∈ before, c'.created? = some h
  deleted_once : ∀ h, cs.countP (·.deleted? == some h) ≤ 1
  silent_after : ∀ before c after h, cs = before ++ c :: after → c.deleted? = some h →
    ∀ c' ∈ after, h ∉ c'.mentions

def Alive (cs : List Call) (h : Handle) : Prop :=
  (∃ c ∈ cs, c.created? = some h) ∧ ∀ c ∈ cs, c.deleted? ≠ some h

variable {cs : List Call} {c : Call}

lemma Orderly.nil : Orderly [] := by
  constructor <;> simp

lemma Orderly.snoc (ho : Orderly cs) (hold : ∀ h ∈ c.deleted?.toList ++ c.used, Alive cs h)
    (hnew : ∀ h, c.created? = some h → ∀ c' ∈ cs, h ∉ c'.mentions) : Orderly (cs ++ [c]) := by
  refine ⟨?_, ?_, ?_⟩
  · intro before d after hd h hh
    rcases List.eq_nil_or_concat after with rfl | ⟨after, e, rfl⟩
    · obtain ⟨rfl, hc⟩ := List.append_inj' hd rfl
      obtain rfl := (List.cons.inj hc).1
      exact (hold h hh).1
    · rw [List.concat_eq_append, ← List.cons_append, ← List.append_assoc] at hd
      exact ho.created_before before d after (List.append_inj' hd rfl).1 h hh
  · intro h
    have hl := ho.deleted_once h
    by_cases hc : c.deleted? = some h
    · have hz : cs.countP (·.deleted? == some h) = 0 :=
        List.countP_eq_zero.mpr fun d hd => by simpa using (hold h (by simp [hc])).2 d hd
      simp [List.countP_append, hz, hc]
    · simpa [List.countP_append, hc] using hl
  · intro before d after h hd hdel c' hc'
    rcases List.eq_nil_or_concat after with rfl | ⟨after, e, rfl⟩
    · simp at hc'
    · rw [List.concat_eq_append, ← List.cons_append, ← List.append_assoc] at hd
      obtain ⟨hlog, he⟩ := List.append_inj' hd rfl
      obtain rfl := (List.cons.inj he).1
      rw [List.concat_eq_append, List.mem_append, List.mem_singleton] at hc'
      rcases hc' with hc' | rfl
      · exact ho.silent_after before d after h hlog hdel c' hc'
      -- the last call: it names no handle that was deleted before it
      · have hd' : d ∈ cs := by simp [hlog]
        intro hm
        rw [Call.mentions, List.append_assoc, List.mem_append, Option.mem_toList] at hm
        rcases hm with hm | hm
        · exact hnew h hm d hd' (Call.mentions_deleted hdel)
        · exact (hold h hm).2 d hd' hdel

lemma alive_snoc {h : Handle} (hnew : ∀ h, c.created? = some h → ∀ c' ∈ cs, h ∉ c'.mentions) :
    Alive (cs ++ [c]) h ↔ Alive cs h ∧ c.deleted? ≠ some h ∨ c.created? = some h := by
  by_cases hc : c.created? = some h
  · have hn := hnew h hc
    simp only [hc, or_true, iff_true]
    refine ⟨⟨c, by simp, hc⟩, fun d hd => ?_⟩
    rw [List.mem_append, List.mem_singleton] at hd
    rcases hd with hd | rfl
    · exact fun he => hn d hd (Call.mentions_deleted he)
    · simp [Call.deleted?_of_created? hc]
  · simp only [Alive, List.mem_append, List.mem_singleton, hc, or_false]
    constructor
    · rintro ⟨⟨d, hd | rfl, he⟩, hl⟩
      · exact ⟨⟨⟨d, hd, he⟩, fun e h => hl e (.inl h)⟩, hl c (.inr rfl)⟩
      · exact absurd he hc
    · rintro ⟨⟨⟨d, hd, he⟩, hl⟩, hdel⟩
      refine ⟨⟨d, .inl hd, he⟩, ?_⟩
      rintro e (h | rfl)
      · exact hl e h
      · exact hdel

namespace Device

def log (d : Device) : List Call := d.calls.toList

def Holds (d : Device) : Handle → Prop
  | .shader s => s ∈ d.shaders.map Prod.fst
  | .program p => p ∈ d.programs.map Prod.fst
  | .buffer b => b ∈ d.buffers
  | .texture t => t ∈ d.textures

structure Tracked (d : Device) : Prop where
  orderly : Orderly d.log
  alive_iff : ∀ h, Alive d.log h ↔ d.Holds h
  bounded : ∀ c ∈ d.log, ∀ h ∈ c.mentions, h.id < d.next

@[simp] lemma log_record (d : Device) (c : Call) : (d.record c).log = d.log ++ [c] := by
  simp [record, log]

@[simp] lemma next_record (d : Device) (c : Call) : (d.record c).next = d.next := rfl
@[simp] lemma shaders_record (d : Device) (c : Call) : (d.record c).shaders = d.shaders := rfl
@[simp] lemma programs_record (d : Device) (c : Call) : (d.record c).programs = d.programs := rfl
@[simp] lemma buffers_record (d : Device) (c : Call) : (d.record c).buffers = d.buffers := rfl
@[simp] lemma textures_record (d : Device) (c : Call) : (d.record c).textures = d.textures := rfl
@[simp] lemma extra_record (d : Device) (c : Call) : (d.record c).extra = d.extra := rfl

@[simp] lemma holds_record (d : Device) (c : Call) (h : Handle) : (d.record c).Holds h ↔ d.Holds h := by
  cases h <;> rfl

namespace Tracked

variable {d d' : Device}

lemma id_lt (hd : d.Tracked) {h : Handle} (hh : d.Holds h) : h.id < d.next := by
  obtain ⟨⟨c, hc, he⟩, _⟩ := (hd.alive_iff h).mpr hh
  exact hd.bounded c hc h (Call.mentions_created he)

lemma fresh (hd : d.Tracked) {h : Handle} (hh : d.next ≤ h.id) : ¬ d.Holds h := fun hl =>
  absurd (hd.id_lt hl) (by omega)

lemma step (hd : d.Tracked) (hlog : d'.log = d.log ++ [c]) (hnext : d.next ≤ d'.next)
    (hold : ∀ h ∈ c.deleted?.toList ++ c.used, d.Holds h)
    (hnew : ∀ h, c.created? = some h → d.next ≤ h.id ∧ h.id < d'.next)
    (hholds : ∀ h, d'.Holds h ↔ d.Holds h ∧ c.deleted? ≠ some h ∨ c.created? = some h) : d'.Tracked := by
  have hn : ∀ h, c.created? = some h → ∀ c' ∈ d.log, h ∉ c'.mentions := fun h hc c' hc' hm =>
    absurd (hd.bounded c' hc' h hm) (by have := (hnew h hc).1; omega)
  refine ⟨?_, fun h => ?_, ?_⟩
  · rw [hlog]
    exact hd.orderly.snoc (fun h hh => (hd.alive_iff h).mpr (hold h hh)) hn
  · rw [hlog, alive_snoc hn, hd.alive_iff, hholds]
  · intro e he h hh
    rw [hlog, List.mem_append, List.mem_singleton] at he
    rcases he with he | rfl
    · exact Nat.lt_of_lt_of_le (hd.bounded e he h hh) hnext
    · rw [Call.mentions, List.append_assoc, List.mem_append, Option.mem_toList] at hh
      rcases hh with hh | hh
      · exact (hnew h hh).2
      · exact Nat.lt_of_lt_of_le (hd.id_lt (hold h hh)) hnext

lemma record (hd : d.Tracked) (hc : c.created? = none) (hdel : c.deleted? = none)
    (hold : ∀ h ∈ c.used, d.Holds h) : (d.record c).Tracked :=
  hd.step (log_record d c) (Nat.le_refl _) (by simpa [hdel] using hold) (by simp [hc])
    fun h => by simp [hc, hdel]

lemma create {h : Handle} (hd : d.Tracked) (hlog : d'.log = d.log ++ [c]) (hnext : d'.next = d.next + 1)
    (hc : c.created? = some h) (hu : c.used = []) (hid : h.id = d.next)
    (hholds : ∀ g, d'.Holds g ↔ d.Holds g ∨ g = h) : d'.Tracked := by
  have hdel := Call.deleted?_of_created? hc
  refine hd.step hlog (by omega) (by simp [hdel, hu]) ?_ fun g => ?_
  · rintro g hg
    obtain rfl : h = g := Option.some.inj (hc.symm.trans hg)
    omega
  · simp [hholds, hdel, hc, eq_comm]

lemma delete {h : Handle} (hd : d.Tracked) (hlog : d'.log = d.log ++ [c]) (hnext : d'.next = d.next)
    (hdel : c.deleted? = some h) (hc : c.created? = none) (hu : c.used = []) (hh : d.Holds h)
    (hholds : ∀ g, d'.Holds g ↔ d.Holds g ∧ g ≠ h) : d'.Tracked := by
  refine hd.step hlog (by omega) ?_ (by simp [hc]) fun g => ?_
  · simpa [hdel, hu] using hh
  · simp [hholds, hdel, hc, eq_comm]

lemma createShader (hd : d.Tracked) (stage : Stage) : (d.createShader stage).2.Tracked := by
  unfold Device.createShader
  split
  · exact hd
  · exact hd.create (log_record _ _) rfl rfl rfl rfl fun g => by cases g <;> simp [Holds, Device.record]

lemma createProgram (hd : d.Tracked) : d.createProgram.2.Tracked := by
  unfold Device.createProgram
  split
  · exact hd
  · exact hd.create (log_record _ _) rfl rfl rfl rfl fun g => by cases g <;> simp [Holds, Device.record]

lemma createBuffer (hd : d.Tracked) : d.createBuffer.2.Tracked := by
  unfold Device.createBuffer
  split
  · exact hd
  · exact hd.create (log_record _ _) rfl rfl rfl rfl fun g => by cases g <;> simp [Holds, Device.record]

lemma createTexture (hd : d.Tracked) : d.createTexture.2.Tracked := by
  unfold Device.createTexture
  split
  · exact hd
  · exact hd.create (log_record _ _) rfl rfl rfl rfl fun g => by cases g <;> simp [Holds, Device.record]

lemma deleteShader {s : ShaderHandle} (hd : d.Tracked) (hs : d.Holds (.shader s)) : (d.deleteShader s).Tracked :=
  hd.delete (log_record _ _) rfl rfl rfl rfl hs fun g => by
    cases g <;> simp [Holds, Device.deleteShader, Device.record]

lemma deleteProgram {p : ProgramHandle} (hd : d.Tracked) (hp : d.Holds (.program p)) :
    (d.deleteProgram p).Tracked :=
  hd.delete (log_record _ _) rfl rfl rfl rfl hp fun g => by
    cases g <;> simp [Holds, Device.deleteProgram, Device.record]

lemma deleteBuffer {b : BufferHandle} (hd : d.Tracked) (hb : d.Holds (.buffer b)) : (d.deleteBuffer b).Tracked :=
  hd.delete (log_record _ _) rfl rfl rfl rfl hb fun g => by
    cases g <;> simp [Holds, Device.deleteBuffer, Device.record]

lemma deleteTexture {t : TextureHandle} (hd : d.Tracked) (ht : d.Holds (.texture t)) :
    (d.deleteTexture t).Tracked :=
  hd.delete (log_record _ _) rfl rfl rfl rfl ht fun g => by
    cases g <;> simp [Holds, Device.deleteTexture, Device.record]

end Tracked

end Device

end ShaderRunner

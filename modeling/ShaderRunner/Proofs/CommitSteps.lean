import ShaderRunner.Proofs.AtomicUpdate

/-!
Only a sampler whose image waits to be built asks the device for anything in a commit: a texture in place of the one
that it holds. It is refused, and nothing changes, or the sampler is settled.
-/

namespace ShaderRunner

def Call.exchanges : Call → Bool
  | createTexture _ | texImage2d _ | deleteTexture _ => true
  | _ => false

structure Replacement where
  image : Image
  old : Option TextureHandle

def Replacement.calls (r : Replacement) (n : Nat) : List Call :=
  [.createTexture ⟨n⟩, .texImage2d (r.image.size.normalized 0)] ++ r.old.toList.map .deleteTexture

def replacementCalls (n : Nat) (rs : List Replacement) : List Call := (rs.zipIdx n).flatMap fun e => e.1.calls e.2

lemma replacementCalls_append (n : Nat) (rs rs' : List Replacement) :
    replacementCalls n (rs ++ rs') = replacementCalls n rs ++ replacementCalls (n + rs.length) rs' := by
  simp only [replacementCalls, List.zipIdx_append, List.flatMap_append]

namespace Device

structure Replaces (rs : List Replacement) (d d' : Device) : Prop where
  framed : d.Framed d'
  next : d'.next = d.next + rs.length
  calls : ∃ cs, d'.log = d.log ++ cs ∧ cs.filter Call.exchanges = replacementCalls d.next rs

variable {d d' d'' : Device} {rs rs' : List Replacement}

namespace Replaces

lemma refl (d : Device) : Replaces [] d d := ⟨.refl d, rfl, [], (List.append_nil _).symm, rfl⟩

lemma trans (h : Replaces rs d d') (h' : Replaces rs' d' d'') : Replaces (rs ++ rs') d d'' := by
  obtain ⟨cs, hl, hc⟩ := h.calls
  obtain ⟨cs', hl', hc'⟩ := h'.calls
  refine ⟨h.framed.trans h'.framed, ?_, cs ++ cs', by rw [hl', hl, List.append_assoc], ?_⟩
  · rw [h'.next, h.next, List.length_append, Nat.add_assoc]
  · rw [List.filter_append, hc, hc', h.next, replacementCalls_append]

lemma record (h : Replaces rs d d') {c : Call} (hc : c.exchanges = false) : Replaces rs d (d'.record c) := by
  obtain ⟨cs, hl, hcs⟩ := h.calls
  refine ⟨h.framed.record c, h.next, cs ++ [c], by rw [log_record, hl, List.append_assoc], ?_⟩
  rw [List.filter_append, hcs, List.filter_singleton, hc]
  exact List.append_nil _

lemma bind (h : Replaces rs d d') (s : Sampler) (unit : UInt32) : Replaces rs d (s.bind unit d') := by
  rw [Sampler.bind]
  split
  · exact h
  · split
    · exact h
    · exact (h.record rfl).record rfl

end Replaces

lemma replaces_exchange (d : Device) (i : Image) (old : Option TextureHandle) :
    Replaces [⟨i, old⟩] d (d.exchange (i.size.normalized 0) old) := by
  refine ⟨⟨Nat.le_succ _, rfl, rfl, rfl, rfl⟩, rfl,
    makingOf ⟨d.next⟩ (i.size.normalized 0) ++ old.toList.map .deleteTexture, ?_, ?_⟩
  · rw [log, log, exchange, Array.toList_appendList]
  · cases old <;> rfl

end Device

namespace Sampler

lemma bind_refusals (s : Sampler) (unit : UInt32) (d : Device) : (s.bind unit d).toRefusals = d.toRefusals := by
  rw [bind]
  split
  · rfl
  · cases s.texture <;> rfl

def replacement? (s : Sampler) : Option Replacement := s.unbuilt?.map (⟨·, s.texture⟩)

def settled (s : Sampler) (n : Nat) : Sampler :=
  (s.unbuilt?.map (⟨some ·, some ⟨n⟩, none⟩)).getD { s with pending := none }

variable {s : Sampler} {d : Device}

lemma pending_settled (s : Sampler) (n : Nat) : (s.settled n).pending = none := by
  rw [settled]
  cases s.unbuilt? <;> rfl

lemma unbuilt?_of_pending (h : s.pending = none) : s.unbuilt? = none := by
  rw [unbuilt?, h]
  rfl

lemma settled_settled (s : Sampler) (n m : Nat) : (s.settled n).settled m = s.settled n := by
  have hp := s.pending_settled n
  rw [settled, unbuilt?_of_pending hp]
  generalize s.settled n = s' at hp
  rw [Option.map_none, Option.getD_none, ← hp]

lemma settle_settled (s : Sampler) (d : Device) :
    (s.replacement?.isSome = true ∧ d.refuses .texture = true ∧ s.settle d = (.error (.refused .texture), d)) ∨
      ∃ d', s.settle d = (.ok (s.settled d.next), d') ∧ d.Replaces s.replacement?.toList d' ∧
        d'.toRefusals = d.toRefusals ∧ (s.replacement?.isSome = true → d.refuses .texture = false) := by
  cases hw : s.unbuilt? with
  | none =>
    refine .inr ⟨d, ?_, by simpa [replacement?, hw] using .refl d, rfl, by simp [replacement?, hw]⟩
    have hs := s.settles d
    generalize s.settle d = a at hs
    cases hs with
    | idle _ => rw [settled, hw]; rfl
    | refused h _ | built h _ _ => rw [hw] at h; contradiction
  | some i =>
    obtain ⟨hp, hb⟩ := Option.filter_eq_some_iff.mp hw
    have hb : ¬ s.isBuiltFrom i = true := by simpa using hb
    rw [settle, hp]
    dsimp only
    rw [if_neg hb]
    cases hr : d.refuses .texture with
    | true =>
      rw [build_refused s i hr]
      exact .inl ⟨by rw [replacement?, hw]; rfl, rfl, rfl⟩
    | false =>
      rw [build_exchange hr, settled, hw]
      refine .inr ⟨d.exchange (i.size.normalized 0) s.texture, rfl, ?_, rfl, fun _ => rfl⟩
      simpa [replacement?, hw] using d.replaces_exchange i s.texture

end Sampler

namespace Uniform

def replacement? (u : Uniform) : Option Replacement := u.sampler?.bind Sampler.replacement?

def settled (u : Uniform) (n : Nat) : Uniform :=
  match u.sampler? with
  | none => u
  | some s => { u with payload := .sampler (s.settled n) }

variable {u : Uniform} {s : Sampler}

lemma settled_of_none (hs : u.sampler? = none) (n : Nat) : u.settled n = u := by
  rw [settled, hs]

lemma settled_of_sampler (hs : u.sampler? = some s) (n : Nat) :
    u.settled n = { u with payload := .sampler (s.settled n) } := by
  rw [settled, hs]

lemma sampler?_settled (u : Uniform) (n : Nat) : (u.settled n).sampler? = u.sampler?.map (·.settled n) := by
  cases hs : u.sampler? with
  | none => rw [settled_of_none hs, hs, Option.map_none]
  | some s => rw [settled_of_sampler hs]; rfl

lemma settled_shape (u : Uniform) (n : Nat) : u.SameShape (u.settled n) := by
  cases hs : u.sampler? with
  | none => rw [settled_of_none hs]; exact .refl u
  | some s => rw [settled_of_sampler hs]; exact .payload (kind_of_sampler? hs).symm

lemma settled_settled (u : Uniform) (n m : Nat) : (u.settled n).settled m = u.settled n := by
  cases hs : u.sampler? with
  | none => rw [settled_of_none hs, settled_of_none hs]
  | some s =>
    have hs' := u.sampler?_settled n
    rw [hs, Option.map_some] at hs'
    rw [settled_of_sampler hs', settled_of_sampler hs, Sampler.settled_settled]

lemma replacement?_settled (u : Uniform) (n : Nat) : (u.settled n).replacement? = none := by
  rw [replacement?, sampler?_settled]
  cases u.sampler? with
  | none => rfl
  | some s =>
    rw [Option.map_some, Option.bind_some, Sampler.replacement?, Sampler.unbuilt?_of_pending (s.pending_settled n)]
    rfl

lemma exchanges_upload? {q : Payload} {l : Location} {c : Call} (h : q.upload? l = some c) : c.exchanges = false := by
  cases q <;> simp only [Payload.upload?, Option.some.injEq, reduceCtorEq] at h <;> subst h <;> rfl

inductive Commits (u : Uniform) (d : Device) : Attempt Unit (Device × Uniform) → Prop
  | refused (hw : u.replacement?.isSome = true) (hr : d.refuses .texture = true) :
      Commits u d (.error (.refused .texture), d, u)
  | committed {d' : Device} (hd : d.Replaces u.replacement?.toList d') (hr : d'.toRefusals = d.toRefusals)
      (hg : u.replacement?.isSome = true → d.refuses .texture = false) : Commits u d (.ok (), d', u.settled d.next)

lemma commit_commits (u : Uniform) (unit : UInt32) (d : Device) : u.Commits d (u.commit unit d) := by
  by_cases hk : u.kind = .sampler
  · obtain ⟨s, hs⟩ := exists_sampler hk
    have hw : u.replacement? = s.replacement? := by rw [replacement?, hs, Option.bind_some]
    rw [commit_sampler hk, commitSampler, hs]
    dsimp only
    rcases s.settle_settled d with ⟨hi, hr, he⟩ | ⟨d', he, hd, hr, hg⟩ <;> rw [he] <;> dsimp only
    · exact .refused (hw ▸ hi) hr
    · rw [← settled_of_sampler hs]
      rw [← hw] at hd
      refine .committed (Device.Replaces.bind ?_ _ unit) ?_ (hw ▸ hg)
      · cases u.location with
        | none => exact hd
        | some l => exact hd.record rfl
      · rw [Sampler.bind_refusals, ← hr]
        cases u.location <;> rfl
  · have hs := sampler?_of_kind hk
    have hd : d.Replaces u.replacement?.toList ((u.location.bind u.payload.upload?).elim d d.record) := by
      rw [replacement?, hs]
      cases hc : u.location.bind u.payload.upload? with
      | none => exact .refl d
      | some c =>
        obtain ⟨l, -, hl⟩ := Option.bind_eq_some_iff.mp hc
        exact (Device.Replaces.refl d).record (exchanges_upload? hl)
    have hr : ((u.location.bind u.payload.upload?).elim d d.record).toRefusals = d.toRefusals := by
      cases u.location.bind u.payload.upload? <;> rfl
    have hg : u.replacement?.isSome = true → d.refuses .texture = false := by simp [replacement?, hs]
    have h := Commits.committed hd hr hg
    rwa [settled_of_none hs, ← commit_value hk unit] at h

end Uniform

end ShaderRunner

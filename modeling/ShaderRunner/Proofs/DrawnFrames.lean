import ShaderRunner.Proofs.AtomicUpdate
import ShaderRunner.Proofs.FailedCompile

namespace ShaderRunner

open Device (Adds)

def Call.drawless : Call → Bool
  | drawTriangles .. => false
  | _ => true

def Call.quiet : Call → Bool
  | useProgram _ | drawTriangles .. => false
  | _ => true

namespace Call

variable {c : Call}

lemma drawless_of_quiet (h : c.quiet = true) : c.drawless = true := by
  cases c <;> first | rfl | contradiction

lemma quiet_of_readies (h : c.readies = true) : c.quiet = true := by
  cases c <;> first | rfl | contradiction

lemma quiet_of_upload (h : c.uploadLocation?.isSome = true) : c.quiet = true := by
  cases c <;> first | rfl | contradiction

end Call

section Devices

variable {d d' : Device}

lemma Device.Adds.drawCount (h : Adds Call.drawless d d') : d'.drawCount = d.drawCount := by
  obtain ⟨cs, hl, hc⟩ := h
  have hz : cs.countP (fun | .drawTriangles .. => true | _ => false) = 0 := by
    rw [List.countP_eq_zero]
    intro c hm
    have hq := hc c hm
    cases c <;> first | contradiction | simp
  have hd : d'.drawCount = d'.log.countP (fun | .drawTriangles .. => true | _ => false) := rfl
  rw [hd, hl, List.countP_append, hz]
  rfl

lemma Device.exchange_quiet (d : Device) (size : Size) (old : Option TextureHandle) :
    Adds Call.quiet d (d.exchange size old) := by
  have hq : ∀ c ∈ makingOf ⟨d.next⟩ size, c.quiet = true := by simp [makingOf, Call.quiet]
  refine ⟨makingOf ⟨d.next⟩ size ++ old.toList.map .deleteTexture, by simp [log, exchange], ?_⟩
  intro c hm
  rcases List.mem_append.mp hm with hm | hm
  · exact hq c hm
  · obtain ⟨t, -, rfl⟩ := List.mem_map.mp hm
    rfl

lemma Sampler.build_quiet (s : Sampler) (i : Image) (d : Device) : Adds Call.quiet d (s.build i d).2 := by
  cases hr : d.refuses .texture with
  | true =>
    rw [build_refused s i hr]
    exact .refl d
  | false =>
    rw [build_exchange hr]
    exact d.exchange_quiet _ _

lemma Sampler.settle_quiet (s : Sampler) (d : Device) : Adds Call.quiet d (s.settle d).2 := by
  rcases s.settle_cases d with h | h | ⟨i, s', d', -, -, hb, h⟩ <;> rw [h]
  · exact .refl d
  · exact .refl d
  · have hq := s.build_quiet i d
    rwa [hb] at hq

lemma Sampler.bind_quiet (s : Sampler) (unit : UInt32) (d : Device) : Adds Call.quiet d (s.bind unit d) := by
  unfold bind
  split
  · exact .refl d
  · split
    · exact .refl d
    · exact ((Adds.refl d).record rfl).record rfl

lemma Uniform.update_quiet (u : Uniform) (v : Value) (d : Device) : Adds Call.quiet d (u.update v d).2.1 := by
  have h := u.update_updates v d
  generalize u.update v d = a at h ⊢
  cases h with
  | failed e => exact .refl d
  | stored o _ _ => exact .refl d
  | exchanged _ _ _ => exact d.exchange_quiet _ _

lemma Uniform.commit_quiet (u : Uniform) (unit : UInt32) (d : Device) : Adds Call.quiet d (u.commit unit d).2.1 := by
  by_cases hk : u.kind = .sampler
  · rw [commit_sampler hk, commitSampler]
    cases hs : u.sampler? with
    | none => exact .refl d
    | some s =>
      have hq := s.settle_quiet d
      rcases hc : s.settle d with ⟨e | s', d₁⟩ <;> rw [hc] at hq <;> simp only [hc]
      · exact hq
      · refine Adds.trans ?_ (s'.bind_quiet unit _)
        cases u.location with
        | none => exact hq
        | some l => exact hq.record rfl
  · rw [commit_value_device hk]
    cases hc : u.location.bind u.payload.upload? with
    | none => exact .refl d
    | some c =>
      obtain ⟨l, -, hl⟩ := Option.bind_eq_some_iff.mp hc
      have hup : u.upload? unit l = some c := by rw [upload?, if_neg hk, hl]
      exact (Adds.refl d).record (Call.quiet_of_upload (uploadLocation?_upload? hup))

lemma commitEntries_quiet (p : ProgramHandle) (unit : UInt32) (d : Device) (es : List (String × Uniform)) :
    Adds Call.quiet d (commitEntries p unit d es).2.1 := by
  refine commitEntries_walk (R := fun d _ d' _ => Adds Call.quiet d d') .refl ?_ ?_ unit d es
  · exact fun name u k d _ => (u.located d p name).commit_quiet k d
  · exact fun name u k d _ _ _ ih => ((u.located d p name).commit_quiet k d).trans ih

end Devices

namespace Renderer

variable {r r' r'' : Renderer} {kind kind' : Call → Bool} {p : ProgramHandle} {d : Device}

structure Undrawn (kind : Call → Bool) (r r' : Renderer) : Prop where
  calls : Adds kind r.device r'.device
  frame : r'.frame = r.frame
  lastFrameTime : r'.lastFrameTime = r.lastFrameTime

lemma Undrawn.refl (r : Renderer) : Undrawn kind r r := ⟨.refl _, rfl, rfl⟩

lemma Undrawn.trans (h : Undrawn kind r r') (h' : Undrawn kind r' r'') : Undrawn kind r r'' :=
  ⟨h.calls.trans h'.calls, h'.frame.trans h.frame, h'.lastFrameTime.trans h.lastFrameTime⟩

lemma Undrawn.mono (h : Undrawn kind r r') (hk : ∀ c, kind c = true → kind' c = true) : Undrawn kind' r r' :=
  ⟨h.calls.mono hk, h.frame, h.lastFrameTime⟩

structure Drawn (r r' : Renderer) : Prop where
  calls : ∃ p before after, r'.program = some p ∧ p ∈ r'.device.programs.map Prod.fst ∧
    r'.device.log = r.device.log ++ (before ++ .useProgram (some p) :: (after ++ [.drawTriangles 0 6])) ∧
    ∀ c ∈ before ++ after, c.quiet = true
  frame : r'.frame = r.frame + 1

lemma Drawn.drawCount (h : Drawn r r') : r'.device.drawCount = r.device.drawCount + 1 := by
  obtain ⟨p, before, after, -, -, hl, hq⟩ := h.calls
  -- the device as it was just before the call that draws
  let d : Device := { r'.device with calls := (r.device.log ++ (before ++ .useProgram (some p) :: after)).toArray }
  have hd : Adds Call.drawless r.device d := by
    refine ⟨before ++ .useProgram (some p) :: after, rfl, fun c hm => ?_⟩
    rw [List.mem_append, List.mem_cons] at hm
    rcases hm with hm | rfl | hm
    · exact Call.drawless_of_quiet (hq c (List.mem_append_left _ hm))
    · rfl
    · exact Call.drawless_of_quiet (hq c (List.mem_append_right _ hm))
  have hlog : r'.device.log = d.log ++ [.drawTriangles 0 6] := by
    rw [hl]
    simp [d, Device.log]
  have hc : r'.device.drawCount = r'.device.log.countP (fun | .drawTriangles .. => true | _ => false) := rfl
  rw [hc, hlog, List.countP_append, ← hd.drawCount]
  rfl

lemma compile_undrawn (hr : r.Numbered) (source : String) (s : UniformSet) :
    Undrawn Call.quiet r (r.compile source s).2.1 := by
  rcases ha : r.compile source s with ⟨a, r', s'⟩
  have hq := (compile_readies hr.device ha).mono fun _ => Call.quiet_of_readies
  have hc := r.compile_compiles source s
  rw [ha] at hc
  cases hc with
  | unprepared _ => exact ⟨hq, rfl, rfl⟩
  | unbuilt _ _ => exact ⟨hq, rfl, rfl⟩
  | @unbuffered t p d _ _ _ _ he =>
    obtain ⟨b, hb⟩ := (r.adopted source t p d).ensureBuffer_eq
    rw [he] at hb
    dsimp only at hb
    exact ⟨hq, by rw [hb]; rfl, by rw [hb]; rfl⟩
  | @compiled t p d _ _ _ _ he =>
    obtain ⟨b, hb⟩ := (r.adopted source t p d).ensureBuffer_eq
    rw [he] at hb
    dsimp only at hb
    exact ⟨hq, by rw [hb]; rfl, by rw [hb]; rfl⟩

lemma destroy_undrawn (r : Renderer) : Undrawn Call.quiet r r.destroy := by
  refine ⟨?_, rfl, rfl⟩
  unfold destroy
  cases r.program <;> cases r.vertexBuffer
  · exact .refl _
  · exact (Adds.refl _).record rfl
  · exact (Adds.refl _).record rfl
  · exact ((Adds.refl _).record rfl).record rfl

lemma update_undrawn (r : Renderer) (s : UniformSet) (name : String) (v : Value) :
    Undrawn Call.quiet r (r.update s name v).2.1 := by
  rw [update]
  cases s.get? name with
  | none => exact .refl r
  | some u =>
    have hq := u.update_quiet v r.device
    dsimp only
    rcases ha : u.update v r.device with ⟨e | o, d, u'⟩ <;> rw [ha] at hq <;> exact ⟨hq, rfl, rfl⟩

lemma openFrame_log (r : Renderer) (p : ProgramHandle) : ∃ cs, (∀ c ∈ cs, c.quiet = true) ∧
    (r.openFrame p).log = r.device.log ++ (.viewport 0 0 r.device.size :: .useProgram (some p) :: cs) := by
  unfold openFrame Device.useProgram
  cases r.positionAttribute with
  | none => exact ⟨[], by simp, by simp⟩
  | some a =>
    exact ⟨[.enableVertexAttribArray a, .bindArrayBuffer r.vertexBuffer, .vertexAttribPointer a 2 0 0],
      by simp [Call.quiet], by simp⟩

lemma draw_drawn (hp : r.program = some p) (hl : p ∈ r.device.programs.map Prod.fst) (s : UniformSet)
    (ended : Float32) :
    match r.draw p s ended with
    | (.ok _, r', _) => Drawn r r' ∧ r'.lastFrameTime = ended
    | (.error _, r', _) => Undrawn Call.drawless r r' := by
  obtain ⟨bs, hbs, ho⟩ := r.openFrame_log p
  obtain ⟨cs, hcl, hcs⟩ := commitEntries_quiet p 0 (r.openFrame p) s.entries
  have hf := (r.openFrame_framed p).1.trans (commitEntries_framed p 0 (r.openFrame p) s.entries)
  rw [draw]
  rcases hc : s.commit p (r.openFrame p) with ⟨e | ⟨⟩, d, s'⟩ <;>
    rw [UniformSet.commit_entries hc] at hcl hf <;> dsimp only at hcl hf ⊢
  · refine ⟨⟨_, by rw [hcl, ho, List.append_assoc], ?_⟩, rfl, rfl⟩
    intro c hm
    simp only [List.cons_append, List.mem_cons, List.mem_append] at hm
    rcases hm with rfl | rfl | hm | hm
    · rfl
    · rfl
    · exact Call.drawless_of_quiet (hbs c hm)
    · exact Call.drawless_of_quiet (hcs c hm)
  · refine ⟨⟨⟨p, [.viewport 0 0 r.device.size], bs ++ cs, hp, ?_, ?_, ?_⟩, rfl⟩, rfl⟩
    · change p ∈ d.programs.map Prod.fst
      rwa [hf.programs]
    · rw [Device.log_record, hcl, ho]
      simp
    · intro c hm
      simp only [List.cons_append, List.nil_append, List.mem_cons, List.mem_append] at hm
      rcases hm with rfl | hm | hm
      · rfl
      · exact hbs c hm
      · exact hcs c hm

lemma Drawn.after (h : Undrawn Call.quiet r r') (h' : Drawn r' r'') : Drawn r r'' := by
  obtain ⟨cs, hl, hc⟩ := h.calls
  obtain ⟨p, before, after, hp, hlive, hl', hq⟩ := h'.calls
  refine ⟨⟨p, cs ++ before, after, hp, hlive, by simp [hl', hl], fun c hm => ?_⟩, by rw [h'.frame, h.frame]⟩
  rw [List.append_assoc, List.mem_append] at hm
  rcases hm with hm | hm
  · exact hc c hm
  · exact hq c hm

def Live (r : Renderer) : Prop := ∀ p, r.program = some p → p ∈ r.device.programs.map Prod.fst

lemma Live.adopt (h : r.Numbered) {t : String} (hb : r.device.buildProgram t = (.ok p, d)) (u : String) :
    (r.adopt p u d).Live := by
  obtain ⟨-, -, hs⟩ := Device.buildProgram_spec h.device t
  rw [hb] at hs
  obtain ⟨hn, -, z, -, hz⟩ := hs
  dsimp only at hz
  intro q hq
  obtain rfl : p = q := Option.some.inj hq
  rw [Renderer.adopt]
  cases ho : r.program with
  | none => simp [hz]
  | some old =>
    have hne : p ≠ old := by
      rintro rfl
      exact absurd (h.program p ho) (Nat.not_lt.mpr hn)
    simp [Device.deleteProgram, hz, hne]

lemma Live.change {x y : Scene} {l : Ledger} (hc : Scene.Change x l y) (hn : x.renderer.Numbered)
    (h : x.renderer.Live) : y.renderer.Live := by
  have hkeep : ∀ {d : Device}, d.programs = x.device.programs → ∀ p, x.renderer.program = some p →
      p ∈ d.programs.map Prod.fst := fun hd p hp => by rw [hd]; exact h p hp
  cases hc with
  | noted r hd hp _ =>
    intro p h'
    rw [hd]
    exact h p (hp ▸ h')
  | @unbuilt t e d hb =>
    obtain ⟨-, -, hp⟩ := Device.buildProgram_spec hn.device t
    rw [hb] at hp
    exact hkeep hp
  | adopted hb => exact .adopt hn hb _
  | buffered =>
    rw [Live, x.renderer.ensureBuffer_program]
    exact hkeep x.renderer.ensureBuffer_device.1
  | @drawn p ended _ =>
    have hf := (x.renderer.openFrame_framed p).1.trans
      (commitEntries_framed p 0 (x.renderer.openFrame p) x.uniforms.entries)
    rw [Renderer.draw]
    rcases hcm : x.uniforms.commit p (x.renderer.openFrame p) with ⟨e | ⟨⟩, d, s⟩ <;>
      rw [UniformSet.commit_entries hcm] at hf <;> exact hkeep hf.programs
  | staged _ _ => exact h
  | @stored name u v _ => exact hkeep (u.update_framed v x.device).programs
  | inserted _ _ _ => exact h
  | released => exact fun p hp => by contradiction
  | arranged f => exact hkeep rfl
  | resolved name =>
    obtain ⟨ns, he⟩ := x.device.resolveAlways_eq name
    rw [he]
    exact hkeep rfl

lemma Live.changes {x y : Scene} {l : Ledger} (hc : Scene.Changes x l y) (hn : x.renderer.Numbered)
    (h : x.renderer.Live) : y.renderer.Live :=
  (@Scene.Changes.preserve _ _ _ (fun _ x => x.renderer.Numbered ∧ x.renderer.Live)
    (fun _ _ _ _ hc h => ⟨h.1.change hc, h.2.change hc h.1⟩) hc [] ⟨hn, h⟩).2

lemma Reachable.live (h : r.Reachable) : r.Live := by
  induction h with
  | new label m size => exact fun p hp => by contradiction
  | @step r o s hr ih => exact ih.changes (Scene.apply_changes o ⟨r, s⟩) hr.numbered

lemma render_drawn (hn : r.Numbered) (hl : r.Live) (s : UniformSet) (ended : Float32) :
    match r.render s ended with
    | (.ok _, r', _) => Drawn r r' ∧ r'.lastFrameTime = ended
    | (.error _, r', _) => Undrawn Call.drawless r r' := by
  rw [render]
  cases hp : r.program with
  | none => exact .refl r
  | some p =>
    dsimp only
    cases r.needsRecompile with
    | false => exact draw_drawn hp (hl p hp) s ended
    | true =>
      have hu := compile_undrawn hn r.source s
      have hx := hl.changes (x := ⟨r, s⟩) (Scene.compile_changes r.source ⟨r, s⟩) hn
      simp only [Operation.apply, Scene.ofAttempt] at hx
      simp only [if_true]
      rcases hc : r.compile r.source s with ⟨e | ds, r₁, s₁⟩ <;> rw [hc] at hu hx <;> dsimp only at hu hx ⊢
      · exact hu.mono fun _ => Call.drawless_of_quiet
      · cases hq : r₁.program with
        | none => exact hu.mono fun _ => Call.drawless_of_quiet
        | some q =>
          have hd := draw_drawn hq (hx q hq) s₁ ended
          dsimp only
          rcases hr : r₁.draw q s₁ ended with ⟨e | _, r₂, s₂⟩ <;> rw [hr] at hd
          · exact (hu.mono fun _ => Call.drawless_of_quiet).trans hd
          · exact ⟨.after hu hd.1, hd.2⟩

lemma apply_undrawn (hn : r.Numbered) (s : UniformSet) {o : Operation} (ho : ∀ ended, o ≠ .render ended) :
    Undrawn Call.quiet r (o.apply ⟨r, s⟩).2.renderer := by
  cases o with
  | compile source => exact compile_undrawn hn source s
  | render ended => exact absurd rfl (ho ended)
  | destroy => exact r.destroy_undrawn
  | update name v => exact r.update_undrawn s name v
  | stage name v =>
    simp only [Operation.apply]
    cases s.get? name <;> exact .refl r
  | store name v =>
    simp only [Operation.apply]
    cases s.get? name with
    | none => exact .refl r
    | some u => exact ⟨u.update_quiet v r.device, rfl, rfl⟩
  | refresh now i => exact .refl r
  | insert name k length v =>
    simp only [Operation.apply]
    cases Uniform.create k none length v <;> exact .refl r
  | define name v source =>
    simp only [Operation.apply]
    cases s.declare name v source <;> exact .refl r
  | declare name v =>
    simp only [Operation.apply]
    cases r.declare s name v <;> exact .refl r
  | arrange f => exact ⟨.of_log rfl, rfl, rfl⟩
  | resolve name =>
    obtain ⟨ns, he⟩ := r.device.resolveAlways_eq name
    have hl : (r.device.resolveAlways name).log = r.device.log := by rw [he]; rfl
    exact ⟨.of_log hl, rfl, rfl⟩

lemma Reachable.frame (h : r.Reachable) : r.frame = r.device.drawCount := by
  induction h with
  | new label m size => rfl
  | @step r o s hr ih =>
    by_cases ho : ∃ ended, o = .render ended
    · obtain ⟨ended, rfl⟩ := ho
      have hd := render_drawn hr.numbered hr.live s ended
      simp only [Operation.apply, Scene.ofAttempt]
      rcases ha : r.render s ended with ⟨e | _, r', s'⟩ <;> rw [ha] at hd
      · rw [hd.frame, hd.calls.drawCount, ih]
      · rw [hd.1.frame, hd.1.drawCount, ih]
    · have hu := apply_undrawn hr.numbered s (o := o) fun ended he => ho ⟨ended, he⟩
      rw [hu.frame, (hu.calls.mono fun _ => Call.drawless_of_quiet).drawCount, ih]

/-- At any point of any run the frames are the draws recorded so far. A render that succeeds draws exactly once, as its
last call, with the live program that it has put to use; one that fails does not draw, and keeps the frame and its
time. -/
theorem draws_counted (h : r.Reachable) : r.frame = r.device.drawCount ∧ ∀ (s : UniformSet) (ended : Float32),
    match r.render s ended with
    | (.ok _, r', _) => Drawn r r' ∧ r'.lastFrameTime = ended
    | (.error _, r', _) => Undrawn Call.drawless r r' :=
  ⟨h.frame, render_drawn h.numbered h.live⟩

/-- A second frame is refused a texture in the middle of its commit: its program is in use, and the texture of another
sampler made. -/
theorem draws_counted_refused :
    let x := (Scene.new "scene" .default ⟨8, 8⟩ .empty).run [.compile "", .render 0,
      .insert "tex" .sampler .single (.image ⟨.host "a", ⟨2, 2⟩⟩),
      .insert "cut" .sampler .single (.image ⟨.host "b", ⟨2, 2⟩⟩), .arrange { withheld := [6] }]
    let a := x.renderer.render x.uniforms 1
    x.renderer.Reachable ∧ x.renderer.frame = x.renderer.device.drawCount ∧ x.renderer.frame = 1 ∧
      a.1 = .error (.refused .texture) ∧
      [.useProgram (some ⟨3⟩), .createTexture ⟨5⟩] ⊆ a.2.1.device.log.drop x.renderer.device.log.length ∧
      Undrawn Call.drawless x.renderer a.2.1 := by
  intro x a
  have hr : x.renderer.Reachable := Reachable.run (.new "scene" .default ⟨8, 8⟩) _
  have ha : x.renderer.frame = 1 ∧ a.1 = .error (.refused .texture) ∧
      [.useProgram (some ⟨3⟩), .createTexture ⟨5⟩] ⊆ a.2.1.device.log.drop x.renderer.device.log.length := by
    decide +kernel
  obtain ⟨hf, hd⟩ := draws_counted hr
  refine ⟨hr, hf, ha.1, ha.2.1, ha.2.2, ?_⟩
  have hx := hd x.uniforms 1
  rcases he : x.renderer.render x.uniforms 1 with ⟨e | o, r', s'⟩
  · rw [he] at hx
    have hr' : a.2.1 = r' := congrArg (·.2.1) he
    rwa [hr']
  · have hn : a.1 = .ok o := congrArg Prod.fst he
    rw [ha.2.1] at hn
    contradiction

end Renderer

end ShaderRunner

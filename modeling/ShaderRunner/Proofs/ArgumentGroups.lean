import Mathlib.Data.List.Perm.Basic
import Mathlib.Tactic.Common
import ShaderRunner.CommandLine

namespace ShaderRunner

open Number (Digits)

namespace CommandLine

structure FrameCount where
  sign : List Char
  digits : List Char
  sign_mem : sign ∈ [[], ['+']]
  formed : Digits digits
  fits : Nat.ofDigitChars 10 digits 0 ≤ UInt32.size - 1

namespace FrameCount

variable (c : FrameCount)

def text : String := String.ofList (c.sign ++ c.digits)

def number : UInt32 := UInt32.ofNat (Nat.ofDigitChars 10 c.digits 0)

lemma whole_text : Number.whole (UInt32.size - 1) c.text.toList = .ok (Nat.ofDigitChars 10 c.digits 0) :=
  Number.whole_ok_iff.mpr ⟨c.sign, c.sign_mem, c.digits, c.formed, String.toList_ofList, rfl, c.fits⟩

lemma exists_of_whole {value : String} {n : Nat} (h : Number.whole (UInt32.size - 1) value.toList = .ok n) :
    ∃ c : FrameCount, c.text = value := by
  obtain ⟨sign, hsign, ds, hds, hv, rfl, hl⟩ := Number.whole_ok_iff.mp h
  exact ⟨⟨sign, ds, hsign, hds, hl⟩, by rw [text, ← hv, String.ofList_toList]⟩

end FrameCount

inductive Switch
  | printSource
  | dump
  | help
  deriving DecidableEq

def Switch.forms : Switch → List String
  | printSource => ["--print-source"]
  | dump => ["--dump"]
  | help => ["--help", "-h"]

def Switch.noted (a : Arguments) : Switch → Arguments
  | printSource => { a with printSource := true }
  | dump => { a with dump := true }
  | help => { a with help := true }

inductive Group
  | frames (form : String) (mem : form ∈ ["--frames", "-n"]) (c : FrameCount)
  | switch (s : Switch) (form : String) (mem : form ∈ s.forms)
  | path (text : String) (plain : text.toList.head? ≠ some '-')

namespace Group

def words : Group → List String
  | frames form _ c => [form, c.text]
  | switch _ form _ => [form]
  | path text _ => [text]

def count? : Group → Option UInt32
  | frames _ _ c => some c.number
  | _ => none

def switch? : Group → Option Switch
  | switch s _ _ => some s
  | _ => none

def path? : Group → Option String
  | path text _ => some text
  | _ => none

def noted (a : Arguments) : Group → Arguments
  | frames _ _ c => { a with frames := some c.number }
  | switch s _ _ => s.noted a
  | path .. => a

end Group

def spelled (gs : List Group) : List String := gs.flatMap Group.words

def counts (gs : List Group) : List UInt32 := gs.filterMap Group.count?

def switches (gs : List Group) : List Switch := gs.filterMap Group.switch?

def paths (gs : List Group) : List String := gs.filterMap Group.path?

def asked (gs : List Group) : Arguments where
  manifest := (paths gs).head?.getD ""
  frames := (counts gs).getLast?
  printSource := decide (.printSource ∈ switches gs)
  dump := decide (.dump ∈ switches gs)
  help := decide (.help ∈ switches gs)

def Complete (gs : List Group) : Prop := (paths gs).length = 1 ∨ paths gs = [] ∧ .help ∈ switches gs

variable {a : Arguments} {m : Option String} {gs : List Group}

lemma foldl_noted (a : Arguments) (gs : List Group) :
    gs.foldl Group.noted a =
      { a with
        frames := (counts gs).getLast?.or a.frames
        printSource := a.printSource || decide (.printSource ∈ switches gs)
        dump := a.dump || decide (.dump ∈ switches gs)
        help := a.help || decide (.help ∈ switches gs) } := by
  induction gs generalizing a with
  | nil => simp [counts, switches]
  | cons g gs ih =>
    rw [List.foldl_cons, ih]
    cases g with
    | frames form _ c => simp [Group.noted, counts, switches, Group.count?, Group.switch?, List.getLast?_cons]
    | switch s form _ => cases s <;> simp [Group.noted, Switch.noted, counts, switches, Group.count?, Group.switch?]
    | path text _ => simp [Group.noted, counts, switches, Group.count?, Group.switch?]

lemma parseFrom_group (g : Group) (a : Arguments) (m : Option String) (args : List String) :
    parseFrom a m (g.words ++ args) =
      if m.isSome && g.path?.isSome then .error .secondManifest
      else parseFrom (g.noted a) (m.or g.path?) args := by
  rw [parseFrom.eq_def]
  cases g with
  | frames form mem c =>
    -- the limit is written as `simp` writes it
    have hc : Number.whole 4294967295 c.text.toList = .ok _ := c.whole_text
    rcases List.mem_pair.mp mem with rfl | rfl <;> simp [Group.words, Group.path?, Group.noted, hc, FrameCount.number]
  | switch s form mem =>
    cases s with
    | printSource => simp [Group.words, Group.path?, Group.noted, Switch.noted, List.mem_singleton.mp mem]
    | dump => simp [Group.words, Group.path?, Group.noted, Switch.noted, List.mem_singleton.mp mem]
    | help =>
      rcases List.mem_pair.mp mem with rfl | rfl <;> simp [Group.words, Group.path?, Group.noted, Switch.noted]
  | path text plain =>
    have hne : ∀ flag : String, flag.toList.head? = some '-' → text ≠ flag := by
      rintro flag hf rfl
      exact plain hf
    have hframes : ¬ (text = "--frames" ∨ text = "-n") := not_or.mpr ⟨hne _ (by decide), hne _ (by decide)⟩
    have hhelp : ¬ (text = "--help" ∨ text = "-h") := not_or.mpr ⟨hne _ (by decide), hne _ (by decide)⟩
    have hprint : text ≠ "--print-source" := hne _ (by decide)
    have hdump : text ≠ "--dump" := hne _ (by decide)
    cases m <;> simp [Group.words, Group.path?, Group.noted, plain, hframes, hprint, hdump, hhelp]

lemma parseFrom_spelled (gs : List Group) (a : Arguments) (m : Option String) :
    parseFrom a m (spelled gs) =
      if (m.toList ++ paths gs).length ≤ 1 then .ok (gs.foldl Group.noted a, m.or (paths gs).head?)
      else .error .secondManifest := by
  induction gs generalizing a m with
  | nil => cases m <;> simp [spelled, parseFrom, paths]
  | cons g gs ih =>
    rw [spelled, List.flatMap_cons, ← spelled, parseFrom_group, ih]
    cases hg : g.path? <;> cases m <;> simp [paths, hg]

lemma exists_spelled {args : List String} {r : Arguments × Option String} (h : parseFrom a m args = .ok r) :
    ∃ gs, spelled gs = args := by
  have hcons : ∀ (g : Group) {args}, (∃ gs, spelled gs = args) → ∃ gs, spelled gs = g.words ++ args := by
    rintro g args ⟨gs, rfl⟩
    exact ⟨g :: gs, List.flatMap_cons⟩
  fun_induction parseFrom a m args with
  | case1 => exact ⟨[], rfl⟩
  | case2 | case3 | case8 | case9 => contradiction
  | case4 a m form hform value args n hn ih =>
    obtain ⟨c, rfl⟩ := FrameCount.exists_of_whole hn
    exact hcons (.frames form (by simpa using hform) c) (ih h)
  | case5 a m args _ ih => exact hcons (.switch .printSource _ (List.mem_singleton_self _)) (ih h)
  | case6 a m args _ _ ih => exact hcons (.switch .dump _ (List.mem_singleton_self _)) (ih h)
  | case7 a m form args _ _ _ hform ih =>
    exact hcons (.switch .help form (by simpa [Switch.forms] using hform)) (ih h)
  | case10 a m text args _ _ _ _ plain _ ih => exact hcons (.path text plain) (ih h)

lemma parse_eq (args : List String) :
    parse args =
      match parseFrom {} none args with
      | .error e => .error e
      | .ok (a, some path) => .ok { a with manifest := path }
      | .ok (a, none) => if a.help = true then .ok a else .error .noManifest := by
  rw [parse]
  rcases parseFrom {} none args with e | ⟨a, _ | path⟩ <;> rfl

lemma parse_spelled (gs : List Group) :
    parse (spelled gs) =
      if 1 < (paths gs).length then .error .secondManifest
      else if paths gs = [] ∧ .help ∉ switches gs then .error .noManifest
      else .ok (asked gs) := by
  rw [parse_eq, parseFrom_spelled, foldl_noted]
  rcases hp : paths gs with _ | ⟨p, _ | ⟨q, ps⟩⟩
  · by_cases hh : .help ∈ switches gs <;> simp [asked, hp, hh]
  · simp [asked, hp]
  · simp

lemma parse_spelled_ok_iff : parse (spelled gs) = .ok a ↔ Complete gs ∧ asked gs = a := by
  rw [parse_spelled, Complete]
  rcases hp : paths gs with _ | ⟨p, _ | ⟨q, ps⟩⟩
  · by_cases hh : .help ∈ switches gs <;> simp [hh]
  · simp
  · simp

lemma eq_of_perm_of_length_le_one {α : Type} {l l' : List α} (h : l.Perm l') (hl : l.length ≤ 1) : l = l' := by
  rcases l with _ | ⟨x, _ | ⟨y, l⟩⟩
  · exact h.nil_eq
  · exact (List.perm_singleton.mp h.symm).symm
  · simp at hl

/-- An argument list is accepted if and only if it is made of groups with one path, or with none where help is asked for,
and it gives what the groups ask for. With one number of frames at most, the order of the groups changes nothing, not
even the failure. -/
theorem parse_grouped :
    (∀ args a, parse args = .ok a ↔ ∃ gs, spelled gs = args ∧ Complete gs ∧ asked gs = a) ∧
      ∀ gs gs' : List Group, gs.Perm gs' → (counts gs).length ≤ 1 → parse (spelled gs) = parse (spelled gs') := by
  refine ⟨fun args a => ⟨fun h => ?_, ?_⟩, fun gs gs' hp hc => ?_⟩
  · obtain ⟨gs, rfl⟩ : ∃ gs, spelled gs = args := by
      rw [parse_eq] at h
      cases hr : parseFrom {} none args with
      | error e => simp [hr] at h
      | ok r => exact exists_spelled hr
    exact ⟨gs, rfl, parse_spelled_ok_iff.mp h⟩
  · rintro ⟨gs, rfl, h⟩
    exact parse_spelled_ok_iff.mpr h
  · have hpaths : (paths gs).Perm (paths gs') := hp.filterMap _
    have hcounts : counts gs = counts gs' := eq_of_perm_of_length_le_one (hp.filterMap _) hc
    have hswitches : ∀ s, s ∈ switches gs ↔ s ∈ switches gs' := fun s => (hp.filterMap _).mem_iff
    rw [parse_spelled, parse_spelled, hpaths.length_eq]
    split
    · rfl
    · next hl =>
      have hpath : paths gs = paths gs' := eq_of_perm_of_length_le_one hpaths (by rw [hpaths.length_eq]; omega)
      simp only [asked, hpath, hcounts, hswitches]

theorem parse_grouped_reordered :
    let c : FrameCount := ⟨['+'], ['7'], by simp, ⟨by simp, List.forall_mem_singleton.mpr (by decide)⟩, by decide⟩
    let gs : List Group := [.frames "-n" (by simp) c, .path "" (by decide), .switch .help "-h" (by decide)]
    let gs' : List Group := [.switch .help "-h" (by decide), .path "" (by decide), .frames "-n" (by simp) c]
    spelled gs = ["-n", "+7", "", "-h"] ∧ spelled gs' = ["-h", "", "-n", "+7"] ∧ gs.Perm gs' ∧
      (counts gs).length ≤ 1 ∧ parse (spelled gs) = parse (spelled gs') ∧
      parse ["-n", "+7", "", "-h"] = .ok { manifest := "", frames := some 7, help := true } := by
  intro c gs gs'
  have hperm : gs.Perm gs' := (List.reverse_perm gs).symm
  exact ⟨by decide, by decide, hperm, by decide, parse_grouped.2 gs gs' hperm (by decide),
    (parse_grouped.1 _ _).mpr ⟨gs, by decide, .inl rfl, rfl⟩⟩

end CommandLine

end ShaderRunner

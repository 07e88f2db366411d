
namespace ShaderRunner.Text

def after? : List Char → List Char → Option (List Char)
  | [], s => some s
  | _ :: _, [] => none
  | c :: h, d :: s => if c = d then after? h s else none

theorem after?_eq_some_iff {h s t : List Char} : after? h s = some t ↔ s = h ++ t := by
  fun_induction after? h s with
  | case1 => simp
  | case2 => simp
  | case3 c h s ih => simp [ih]
  | case4 c h d s hd => simp [Ne.symm hd]

theorem after?_append (h t : List Char) : after? h (h ++ t) = some t := after?_eq_some_iff.2 rfl

end ShaderRunner.Text


namespace ShaderRunner.Text

def utf8Size : List Char → Nat
  | [] => 0
  | c :: s => c.utf8Size + utf8Size s

theorem utf8Size_append (s t : List Char) : utf8Size (s ++ t) = utf8Size s + utf8Size t := by
  induction s with
  | nil => simp [utf8Size]
  | cons c s ih => simp [utf8Size, ih, Nat.add_assoc]

end ShaderRunner.Text

import ShaderRunner.Text.Ranges

namespace ShaderRunner.Text

def blankRanges : Ranges :=
  [(0x9, 0xD), (0x20, 0x20), (0x85, 0x85), (0xA0, 0xA0), (0x1680, 0x1680), (0x2000, 0x200A),
    (0x2028, 0x2029), (0x202F, 0x202F), (0x205F, 0x205F), (0x3000, 0x3000)]

def isBlank (c : Char) : Bool := blankRanges.contains c

def trimStart (s : List Char) : List Char := s.dropWhile isBlank

def trimEnd (s : List Char) : List Char := (s.reverse.dropWhile isBlank).reverse

def trim (s : List Char) : List Char := trimStart (trimEnd s)

theorem length_dropWhile_le {α : Type} (p : α → Bool) (s : List α) : (s.dropWhile p).length ≤ s.length :=
  (List.dropWhile_sublist p).length_le

def words : List Char → List (List Char)
  | [] => []
  | c :: r =>
    if isBlank c then words r
    else (c :: r.takeWhile (!isBlank ·)) :: words (r.dropWhile (!isBlank ·))
termination_by s => s.length
decreasing_by
  · simp
  · exact Nat.lt_succ_of_le (length_dropWhile_le _ r)

end ShaderRunner.Text

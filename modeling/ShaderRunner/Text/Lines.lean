
namespace ShaderRunner.Text

/-- A line ends at a line feed or at the end of the text, and a carriage return just before the line
feed belongs to the ending. A text that ends with a line feed has no empty line after it. -/
def lines : List Char → List (List Char)
  | [] => []
  | '\n' :: r => [] :: lines r
  | '\r' :: '\n' :: r => [] :: lines r
  | c :: r =>
    match lines r with
    | [] => [[c]]
    | l :: ls => (c :: l) :: ls

def unlines (ls : List (List Char)) : List Char := List.intercalate ['\n'] ls

end ShaderRunner.Text

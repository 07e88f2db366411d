
namespace ShaderRunner.Path

def pieces : List Char → List (List Char)
  | [] => [[]]
  | '/' :: r => [] :: pieces r
  | c :: r =>
    match pieces r with
    | [] => [[c]]
    | p :: ps => (c :: p) :: ps

def isAbsolute (path : String) : Bool := path.toList.head? == some '/'

def join (base path : String) : String :=
  if isAbsolute path then path
  else if base.isEmpty || base.toList.getLast? == some '/' then base ++ path
  else base ++ "/" ++ path

/-- Empty pieces and single dots name nothing, except for a dot in front. -/
def names (s : List Char) : Bool := s ≠ [] && s ≠ ['.']

def withoutTrailing (s : List Char) : List Char :=
  match s with
  | [] => []
  | ['/'] => ['/']
  | '/' :: r => withoutTrailing r
  | '.' :: '/' :: r => withoutTrailing ('/' :: r)
  | s => s
termination_by s.length

def parent (path : String) : String :=
  let last := withoutTrailing path.toList.reverse
  let rest := last.dropWhile (· ≠ '/')
  String.ofList (withoutTrailing rest).reverse

def fileName (path : String) : List Char :=
  ((withoutTrailing path.toList.reverse).takeWhile (· ≠ '/')).reverse

def extension? (path : String) : Option (List Char) :=
  let name := (fileName path).reverse
  match name.dropWhile (· ≠ '.') with
  | [] => none
  | _ :: stem => if stem = [] || fileName path = ['.', '.'] then none else some (name.takeWhile (· ≠ '.')).reverse

end ShaderRunner.Path

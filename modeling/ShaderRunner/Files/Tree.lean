import ShaderRunner.Files.Content
import ShaderRunner.Text.Bytes

/-!
A tree of files below a working directory. Files are known by their names with slashes; a name implies
the directories above it.
-/

namespace ShaderRunner

structure FileTree where
  files : List (String × FileContent) := []

namespace FileTree

variable (t : FileTree)

def placed : List (List (List Char) × FileContent) :=
  t.files.map fun f => ((Path.pieces f.1.toList).filter Path.names, f.2)

def file? (place : List (List Char)) : Option FileContent := t.placed.lookup place

def isDirectory (place : List (List Char)) : Bool :=
  place.isEmpty || t.placed.any fun f => place.isPrefixOf f.1 && place ≠ f.1

def maxName : Nat := 255

def maxPath : Nat := 4095

inductive Place
  | inside (components : List (List Char))
  | above

def walk : Place → List (List Char) → Except FileError Place
  | p, [] => .ok p
  | .above, x :: ps =>
    if x = [] || x = ['.'] || x = ['.', '.'] then walk .above ps else .error .notFound
  | .inside c, x :: ps =>
    if !t.isDirectory c then
      if (t.file? c).isSome then .error .notDirectory else .error .notFound
    else if x = [] || x = ['.'] then walk (.inside c) ps
    else if x = ['.', '.'] then walk (if c = [] then .above else .inside c.dropLast) ps
    else if maxName < Text.utf8Size x then .error .nameTooLong
    else walk (.inside (c ++ [x])) ps

def read (path : String) : Except FileError FileContent := do
  if path.toList.contains '\x00' then throw .nulInName
  if path.isEmpty then throw .notFound
  if maxPath < path.utf8ByteSize then throw .nameTooLong
  let start := if Path.isAbsolute path then Place.above else .inside []
  match ← t.walk start (Path.pieces path.toList) with
  | .above => throw .isDirectory
  | .inside c =>
    match t.file? c with
    | some x => return x
    | none => throw (if t.isDirectory c then .isDirectory else .notFound)

def toFiles : Files := ⟨t.read⟩

end FileTree

end ShaderRunner

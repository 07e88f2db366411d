import ShaderRunner.Number.Numeral
import ShaderRunner.Text.Begins
import ShaderRunner.Text.Blank
import ShaderRunner.Text.Digit
import ShaderRunner.Text.Lines

namespace ShaderRunner.ErrorWindow

open Text

def field? (s : List Char) : Option (List Char × List Char) :=
  match s.takeWhile isDigit, s.dropWhile isDigit with
  | [], _ => none
  | ds, ':' :: r => some (ds, r)
  | _, _ => none

def report? (s : List Char) : Option (List Char) := do
  let r ← after? "ERROR: ".toList s
  let (_, r) ← field? r
  let (ds, _) ← field? r
  return ds

def firstReport? : List Char → Option (List Char)
  | [] => none
  | c :: r =>
    match report? (c :: r) with
    | some ds => some ds
    | none => firstReport? r

def lineOf? (log : String) : Option UInt64 :=
  (firstReport? log.toList).bind fun ds => (Number.whole (UInt64.size - 1) ds).toOption.map UInt64.ofNat

def alignRight (width : Nat) (s : List Char) : List Char := List.replicate (width - s.length) ' ' ++ s

def row (line : UInt64) (number : Nat) (text : List Char) : List Char :=
  let mark := if number = line.toNat then "> ".toList else "  ".toList
  alignRight 5 (mark ++ Nat.toDigits 10 number) ++ ": ".toList ++ text

def start (line : UInt64) : UInt64 := if line < 3 then 0 else line - 3

def stop (line : UInt64) : UInt64 := line + 2

def count (line : UInt64) : UInt64 := stop line - start line

def context (source : String) (line : UInt64) : String :=
  let rows := ((lines source.toList).zipIdx 1).map fun x => row line x.2 x.1
  String.ofList (unlines ((rows.drop (start line).toNat).take (count line).toNat))

end ShaderRunner.ErrorWindow

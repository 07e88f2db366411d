import ShaderRunner.Number.Numeral
import ShaderRunner.Toml.Text
import ShaderRunner.Toml.Value

namespace ShaderRunner.Toml

open Reader

def digits (isDigit : Char → Bool) : Reader (List Char) := do
  let d ← one isDigit
  let ds ← repeated do
    match ← next? with
    | some '_' => do
      exactly ['_']
      return some (← one isDigit)
    | some c => if isDigit c then return some (← one isDigit) else return none
    | none => return none
  return d :: ds

def sign : Reader (Option Char) := maybe (one fun c => c == '+' || c == '-')

def wholeDigits : Reader (List Char) := do
  if (← next?) = some '0' then return [← one (· == '0')] else digits Char.isDigit

def valueOf (base : Nat) (ds : List Char) : Nat := ds.foldl (fun n c => base * n + hexValue c) 0

def fits (n : Int) : Bool := Int64.minValue.toInt ≤ n && n ≤ Int64.maxValue.toInt

def integer (n : Int) : Reader Value := if fits n then return .integer n else failure

def based (lead : List Char) (base : Nat) (isDigit : Char → Bool) : Reader Value := do
  exactly lead
  integer (valueOf base (← digits isDigit))

def special (negative : Bool) : Reader Value :=
  (do exactly "inf".toList; return .float (if negative then -(1.0 / 0.0) else 1.0 / 0.0)) <|>
  (do exactly "nan".toList; return .float (0.0 / 0.0))

def fraction : Reader (List Char) := do
  exactly ['.']
  digits Char.isDigit

def exponent : Reader Int := do
  let _ ← one fun c => c == 'e' || c == 'E'
  let s ← sign
  let n := valueOf 10 (← digits Char.isDigit)
  return if s = some '-' then -n else n

def decimal (negative : Bool) : Reader Value := do
  let ds ← wholeDigits
  match ← next? with
  | some c =>
    if c == '.' || c == 'e' || c == 'E' then
      let fs ← if c == '.' then fraction else pure []
      let e ← if (← next?).any fun c => c == 'e' || c == 'E' then exponent else pure 0
      let x := ({ negative, digits := valueOf 10 (ds ++ fs), exponent := e - fs.length } : Number.Numeral).toDouble
      if x.isInf && !negative then failure
      return .float x
    else integer (if negative then -valueOf 10 ds else valueOf 10 ds)
  | none => integer (if negative then -valueOf 10 ds else valueOf 10 ds)

def bounded (n low high : Nat) : Reader Nat := do
  let s ← get
  let ds := s.take n
  let v := valueOf 10 ds
  if ds.length = n && ds.all Char.isDigit && low ≤ v && v ≤ high then do
    set (s.drop n)
    return v
  else failure

def daysInMonth (year month : Nat) : Nat :=
  if month = 2 then if year % 4 = 0 && (year % 100 ≠ 0 || year % 400 = 0) then 29 else 28
  else if month = 4 || month = 6 || month = 9 || month = 11 then 30
  else 31

def date : Reader Unit := do
  let year ← bounded 4 0 9999
  exactly ['-']
  let month ← bounded 2 1 12
  exactly ['-']
  let _ ← bounded 2 1 (daysInMonth year month)

/-- A minute may end with a leap second. -/
def time : Reader Unit := do
  let _ ← bounded 2 0 23
  exactly [':']
  let _ ← bounded 2 0 59
  exactly [':']
  let _ ← bounded 2 0 60
  let _ ← maybe do
    exactly ['.']
    let _ ← one Char.isDigit
    span Char.isDigit

def offset : Reader Unit := do
  let c ← one fun c => c == 'Z' || c == 'z' || c == '+' || c == '-'
  if c == '+' || c == '-' then
    let _ ← bounded 2 0 23
    exactly [':']
    let _ ← bounded 2 0 59

def pointInTime : Reader Unit :=
  (do
    date
    let _ ← maybe do
      let _ ← one fun c => c == 'T' || c == 't' || c == ' '
      time
      maybe offset) <|>
  time

def number : Reader Value :=
  (do pointInTime; return .dateTime) <|>
  based "0x".toList 16 isHexDigit <|>
  based "0o".toList 8 (fun c => '0' ≤ c && c ≤ '7') <|>
  based "0b".toList 2 (fun c => c == '0' || c == '1') <|>
  (do
    let s ← sign
    special (s == some '-') <|> decimal (s == some '-'))

end ShaderRunner.Toml

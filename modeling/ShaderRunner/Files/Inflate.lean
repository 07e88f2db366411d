import ShaderRunner.Files.Bytes
import ShaderRunner.Files.PrefixCode

/-!
Deflated data, which come in pieces. A reader knows how many bytes are wanted; once they are there, it goes on only as
far as no more of them come, and to the end of the piece at hand.
-/

namespace ShaderRunner.Inflate

inductive Stop
  | ended
  | full
  | broken
  deriving DecidableEq, Repr

/-- The pieces in one, the ends of those to come, the bit at which the piece at hand ends, the bit to read next,
and what has been made. The lowest bit of a byte comes first. -/
structure Source where
  data : ByteArray
  ends : List Nat
  wanted : Nat
  stop : Nat := 0
  place : Nat := 0
  out : ByteArray := .empty

abbrev Reader := ExceptT Stop (StateM Source)

def Source.bitAt (s : Source) (i : Nat) : Nat :=
  if i < s.stop then ((Bytes.byte? s.data (i / 8)).getD 0 >>> (i % 8)) % 2 else 0

def Source.numberAt (s : Source) (i : Nat) : Nat → Nat
  | 0 => 0
  | n + 1 => s.bitAt i + 2 * s.numberAt (i + 1) n

def isFull : Reader Bool := return (← get).wanted ≤ (← get).out.size

def moreThan (place : Nat) : Reader Unit := do
  if ← isFull then throw .full
  let s ← get
  match s.ends.dropWhile fun e => 8 * e ≤ place with
  | [] => throw .ended
  | e :: ends => set { s with stop := 8 * e, ends }

def await (n : Nat) : Reader Unit := do
  let s ← get
  if s.stop < s.place + n then moreThan (s.place + n - 1)

def advance (n : Nat) : Reader Unit := modify fun s => { s with place := s.place + n }

def number (n : Nat) : Reader Nat := do
  await n
  let s ← get
  advance n
  return s.numberAt s.place n

def steps : Reader Nat := do
  let s ← get
  return s.data.size * 8 - s.place + 1

def emit (b : Nat) : Reader Unit := modify fun s => { s with out := s.out.push (UInt8.ofNat b) }

def longest : Nat := 15

def codeOf (lengths : List Nat) : PrefixCode := .ofLengths longest lengths

/-- A code for distances may have no symbol, or a single one of one bit. -/
def isSparse (c : PrefixCode) : Bool := c.symbols.size == 0 || (c.symbols.size == 1 && c.counts.head? == some 1)

def Source.symbolAt (s : Source) (c : PrefixCode) (place : Nat) : Option (Nat × Nat) :=
  c.find? fun i => s.bitAt (place + i)

/-- The next symbol; a code that does not end within the piece at hand is looked at again with the next one. -/
def symbolWithin (c : PrefixCode) : Nat → Reader Nat
  | 0 => throw .ended
  | fuel + 1 => do
    let s ← get
    match s.symbolAt c s.place with
    | none => throw .broken
    | some (x, n) =>
      if s.place + n ≤ s.stop then
        advance n
        return x
      else
        moreThan s.stop
        symbolWithin c fuel

def tries : Reader Nat := return (← get).ends.length + 1

def symbol (c : PrefixCode) : Reader Nat := do symbolWithin c (← tries)

def lengthBases : List (Nat × Nat) :=
  [(3, 0), (4, 0), (5, 0), (6, 0), (7, 0), (8, 0), (9, 0), (10, 0), (11, 1), (13, 1), (15, 1), (17, 1), (19, 2),
    (23, 2), (27, 2), (31, 2), (35, 3), (43, 3), (51, 3), (59, 3), (67, 4), (83, 4), (99, 4), (115, 4),
    (131, 5), (163, 5), (195, 5), (227, 5), (258, 0)]

def distanceBases : List (Nat × Nat) :=
  [(1, 0), (2, 0), (3, 0), (4, 0), (5, 1), (7, 1), (9, 2), (13, 2), (17, 3), (25, 3), (33, 4), (49, 4), (65, 5),
    (97, 5), (129, 6), (193, 6), (257, 7), (385, 7), (513, 8), (769, 8), (1025, 9), (1537, 9), (2049, 10),
    (3073, 10), (4097, 11), (6145, 11), (8193, 12), (12289, 12), (16385, 13), (24577, 13)]

def based (bases : List (Nat × Nat)) (symbol : Nat) : Reader Nat := do
  let (base, bits) := bases.getD symbol (0, 0)
  return base + (← number bits)

def repeatBack (distance : Nat) : Nat → Reader Unit
  | 0 => return
  | n + 1 => do
    if ← isFull then throw .full
    let out := (← get).out
    let b := (Bytes.byte? out (out.size - distance)).getD 0
    emit b
    repeatBack distance n

/-- Two bytes whose codes are that short are taken in one, unless the second code is a single bit. -/
def pairBits : Nat := 12

def taken (literals : PrefixCode) (s : Source) : Option (List Nat × Nat) := do
  let (x, n) ← s.symbolAt literals s.place
  match s.symbolAt literals (s.place + n) with
  | some (y, m) =>
    if x < 256 && y < 256 && 1 < m && n + m ≤ pairBits then some ([x, y], n + m) else some ([x], n)
  | none => some ([x], n)

def nextTaken (literals : PrefixCode) : Nat → Reader (List Nat)
  | 0 => throw .ended
  | fuel + 1 => do
    let s ← get
    match taken literals s with
    | none => throw .broken
    | some (xs, n) =>
      if s.place + n ≤ s.stop then
        advance n
        return xs
      else
        moreThan s.stop
        nextTaken literals fuel

/-- Bits that have to be looked at before a distance is found wrong. -/
def distanceBits : Nat := 9

def distance (c : PrefixCode) : Nat → Reader Nat
  | 0 => throw .ended
  | fuel + 1 => do
    let s ← get
    match s.symbolAt c s.place with
    | some (x, n) =>
      if s.place + n ≤ s.stop then
        advance n
        based distanceBases x
      else
        moreThan s.stop
        distance c fuel
    | none =>
      if s.place + distanceBits < s.stop then throw .broken
      moreThan s.stop
      distance c fuel

/-- With all that is wanted, the end of the block is still taken, if enough bits are left to see it. -/
def endOfFull (literals : PrefixCode) : Reader Unit := do
  let s ← get
  match s.symbolAt literals s.place with
  | some (256, n) => if s.stop < s.place + 15 then throw .full else advance n
  | _ => throw .full

def emitAll : List Nat → Reader Unit
  | [] => return
  | x :: xs => do
    if ← isFull then throw .full
    emit x
    emitAll xs

def symbols (literals distances : PrefixCode) : Nat → Reader Unit
  | 0 => throw .ended
  | fuel + 1 => do
    if ← isFull then return ← endOfFull literals
    match ← nextTaken literals (← tries) with
    | [x] =>
      if x = 256 || 286 ≤ x then return
      else if x < 256 then emit x
      else
        let n ← based lengthBases (x - 257)
        let d ← distance distances (← tries)
        if (← get).out.size < d then throw .broken
        repeatBack d n
    | xs => emitAll xs
    symbols literals distances fuel

def storedBytes : Nat → Reader Unit
  | 0 => return
  | n + 1 => do
    if ← isFull then throw .full
    emit (← number 8)
    storedBytes n

def stored : Reader Unit := do
  let rest := (8 - (← get).place % 8) % 8
  await (rest + 32)
  advance rest
  let n ← number 16
  if (← number 16) ≠ 65535 - n then throw .broken
  storedBytes n

def fixedLiterals : PrefixCode :=
  codeOf (List.replicate 144 8 ++ List.replicate 112 9 ++ List.replicate 24 7 ++ List.replicate 8 8)

def fixedDistances : PrefixCode := codeOf (List.replicate 30 5)

def lengthOrder : List Nat := [16, 17, 18, 0, 8, 7, 9, 6, 10, 5, 11, 4, 12, 3, 13, 2, 14, 1, 15]

def lengths (c : PrefixCode) (n : Nat) (found : List Nat) : Nat → Reader (List Nat)
  | 0 => throw .ended
  | fuel + 1 => do
    if n < found.length then throw .broken
    if n = found.length then return found
    await 7
    let x ← symbol c
    if x < 16 then lengths c n (found ++ [x]) fuel
    else if x = 16 then
      match found.getLast? with
      | none => throw .broken
      | some l => lengths c n (found ++ List.replicate (3 + (← number 2)) l) fuel
    else if x = 17 then lengths c n (found ++ List.replicate (3 + (← number 3)) 0) fuel
    else lengths c n (found ++ List.replicate (11 + (← number 7)) 0) fuel

def codes : Reader (PrefixCode × PrefixCode) := do
  await 14
  let literals := 257 + (← number 5)
  let distances := 1 + (← number 5)
  let given := 4 + (← number 4)
  if 286 < literals || 30 < distances then throw .broken
  let given ← (lengthOrder.take given).mapM fun i => return (i, ← number 3)
  let c := codeOf ((List.range 19).map fun i => (given.lookup i).getD 0)
  if !c.isComplete then throw .broken
  let ls ← lengths c (literals + distances) [] (literals + distances + 1)
  let l := codeOf (ls.take literals)
  let d := codeOf (ls.drop literals)
  if !l.isComplete || ls[256]? = some 0 || !(d.isComplete || isSparse d) then throw .broken
  return (l, d)

def block : Reader Unit := do
  match ← number 2 with
  | 0 => stored
  | 1 => symbols fixedLiterals fixedDistances (← steps)
  | 2 => do
    let (l, d) ← codes
    symbols l d (← steps)
  | _ => throw .broken

/-- No block has less than ten bits. -/
def blocks : Nat → Reader Unit
  | 0 => throw .ended
  | fuel + 1 => do
    await 10
    let last ← number 1
    block
    if last = 1 then return
    blocks fuel

/-- Two bytes in front name the method. A checksum may follow the blocks; it is not looked at. -/
def envelope : Reader Unit := do
  await 16
  let method ← number 8
  let flags ← number 8
  if method % 16 ≠ 8 || 7 < method / 16 then throw .broken
  if (256 * method + flags) % 31 ≠ 0 || flags / 32 % 2 ≠ 0 then throw .broken
  blocks (← steps)

def joined (pieces : List ByteArray) : ByteArray × List Nat :=
  pieces.foldl (fun (data, ends) p => (data ++ p, ends ++ [data.size + p.size])) (.empty, [])

def inflate (pieces : List ByteArray) (wanted : Nat) : Option ByteArray :=
  let (data, ends) := joined pieces
  match envelope.run.run { data, ends, wanted } with
  | (.error .broken, _) => none
  | (_, s) => if s.out.size = wanted then some s.out else none

end ShaderRunner.Inflate

/-!
Prefix codes that are given by how many codes there are of each length: shorter codes come first, and codes
of one length stand in the order of their symbols.
-/

namespace ShaderRunner

/-- `counts` are the numbers of codes of one bit, of two, and so on; `symbols` are in the order of
their codes. -/
structure PrefixCode where
  counts : List Nat
  symbols : Array Nat

namespace PrefixCode

def free? (free : Nat) : List Nat → Option Nat
  | [] => some free
  | n :: ns => if n ≤ 2 * free then free? (2 * free - n) ns else none

def ofLengths (longest : Nat) (lengths : List Nat) : PrefixCode where
  counts := (List.range longest).map fun l => lengths.count (l + 1)
  symbols := ((List.range longest).flatMap fun l => (lengths.zipIdx.filter (·.1 == l + 1)).map (·.2)).toArray

variable (c : PrefixCode)

def isComplete : Bool := free? 1 c.counts == some 0

/-- Finds the symbol whose code a row of bits begins with, and the bits that it takes. `code` has been read from
`n` bits, and `first` is the first code of its length. -/
def findFrom (bit : Nat → Nat) (n code first before : Nat) : List Nat → Option (Nat × Nat)
  | [] => none
  | count :: counts =>
    let code := 2 * code + bit n
    let first := 2 * first
    if first ≤ code && code < first + count then some (c.symbols.getD (before + (code - first)) 0, n + 1)
    else findFrom bit (n + 1) code (first + count) (before + count) counts

def find? (bit : Nat → Nat) : Option (Nat × Nat) := c.findFrom bit 0 0 0 0 c.counts

end PrefixCode

end ShaderRunner

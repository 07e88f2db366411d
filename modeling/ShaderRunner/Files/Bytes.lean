
namespace ShaderRunner.Bytes

variable (data : ByteArray)

def byte? (i : Nat) : Option Nat := if h : i < data.size then some (data.get i h).toNat else none

def word16? (i : Nat) : Option Nat := do return 256 * (← byte? data i) + (← byte? data (i + 1))

def word32? (i : Nat) : Option Nat := do return 65536 * (← word16? data i) + (← word16? data (i + 2))

def standsAt (bytes : List Nat) (i : Nat) : Bool := bytes.zipIdx.all fun x => byte? data (i + x.2) == some x.1

/-- A cyclic redundancy check of 32 bits, with its register. -/
def checkBit (r : UInt32) : UInt32 := if r &&& 1 = 1 then (r >>> 1) ^^^ 0xEDB88320 else r >>> 1

def checkBits : Nat → UInt32 → UInt32
  | 0, r => r
  | n + 1, r => checkBits n (checkBit r)

def checkFrom (r : UInt32) (i : Nat) : Nat → UInt32
  | 0 => r
  | n + 1 => checkFrom (checkBits 8 (r ^^^ UInt32.ofNat ((byte? data i).getD 0))) (i + 1) n

def checksum (i n : Nat) : UInt32 := checkFrom data 0xFFFFFFFF i n ^^^ 0xFFFFFFFF

end ShaderRunner.Bytes

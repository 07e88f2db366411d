
namespace ShaderRunner.Jpeg

inductive Marker
  | frame (progressive : Bool)
  | codes
  | arithmetic
  | restart
  | start
  | stop
  | scan
  | quantization
  | lines
  | interval
  | application (n : Nat)
  | comment
  deriving DecidableEq, Repr

def Marker.ofByte? (b : Nat) : Option Marker :=
  match b with
  | 0xC0 | 0xC1 => some (.frame false)
  | 0xC2 => some (.frame true)
  | 0xC4 => some .codes
  | 0xCC => some .arithmetic
  | 0xD8 => some .start
  | 0xD9 => some .stop
  | 0xDA => some .scan
  | 0xDB => some .quantization
  | 0xDC => some .lines
  | 0xDD => some .interval
  | 0xFE => some .comment
  | b =>
    if 0xD0 ≤ b && b ≤ 0xD7 then some .restart
    else if 0xE0 ≤ b && b ≤ 0xEF then some (.application (b - 0xE0))
    else none

end ShaderRunner.Jpeg

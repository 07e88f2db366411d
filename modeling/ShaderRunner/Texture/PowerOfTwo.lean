import ShaderRunner.Texture.Image

namespace ShaderRunner

/-- A power of two shares no bit with its predecessor. Zero passes too. -/
def isPowerOfTwo (v : UInt32) : Bool := v &&& (v - 1) == 0

def greatestSide : UInt32 := 4096

theorem toNat_mul_two {n : UInt32} (h : n < greatestSide) : (n * 2).toNat = n.toNat * 2 := by
  have hn : n.toNat < 4096 := UInt32.lt_iff_toNat_lt.1 h
  have hw : n.toNat * 2 < UInt32.size := Nat.lt_trans (by omega) (by decide : 8192 < UInt32.size)
  exact (UInt32.toNat_mul n 2).trans (Nat.mod_eq_of_lt hw)

/-- Doubles a side until it covers the length or is the greatest one. Zero would stay what it is. -/
def doubledSide (longest n : UInt32) : UInt32 :=
  if h : 0 < n ∧ n < longest ∧ n < greatestSide then doubledSide longest (n * 2) else n
termination_by greatestSide.toNat - n.toNat
decreasing_by
  have h0 : 0 < n.toNat := UInt32.lt_iff_toNat_lt.1 h.1
  have hn : n.toNat < greatestSide.toNat := UInt32.lt_iff_toNat_lt.1 h.2.2
  rw [toNat_mul_two h.2.2]
  omega

def coveringSide (longest : UInt32) : UInt32 := doubledSide longest 2

namespace Size

variable (s : Size)

def longest : UInt32 := max s.width s.height

def fits : Bool := isPowerOfTwo s.width && isPowerOfTwo s.height

def scaledSide? (target : UInt32) : Option UInt32 :=
  if s.fits then none
  else some (if target = 0 then coveringSide s.longest else target)

end Size

def fitted {α : Type} (size : α → Size) (resize : α → UInt32 → α) (target : UInt32) (x : α) : α :=
  match (size x).scaledSide? target with
  | none => x
  | some n => resize x n

def Size.normalized (s : Size) (target : UInt32) : Size := fitted id (fun _ n => ⟨n, n⟩) target s

structure Solid where
  size : Size
  colour : List UInt8
  deriving DecidableEq, Repr

def Solid.resized (x : Solid) (side : UInt32) : Solid :=
  ⟨⟨side, side⟩, if x.size.width = 0 || x.size.height = 0 then [0, 0, 0, 0] else x.colour⟩

def Solid.normalized (x : Solid) (target : UInt32) : Solid := fitted Solid.size Solid.resized target x

end ShaderRunner

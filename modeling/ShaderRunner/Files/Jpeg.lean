import ShaderRunner.Files.Jpeg.Progressive
import ShaderRunner.Files.Jpeg.Sequential
import ShaderRunner.Files.Jpeg.StandardCodes
import ShaderRunner.Texture.Image

/-!
JPEG files: whether a file holds a picture, and its size. The data are followed to their end, because a picture can
fail there, but no pixel is kept.
-/

namespace ShaderRunner.Jpeg

open Bytes

namespace Picture

def fits (p : Picture) : Bool :=
  p.width * p.height * (if p.components.length = 1 then 1 else 3) ≤ 512 * 1024 * 1024

def size (p : Picture) : Size := ⟨.ofNat p.width, .ofNat p.height⟩

end Picture

variable (data : ByteArray)

def readScans (p : Picture) : Reader Unit :=
  if p.progressive then Progressive.read data p else Sequential.read data p

def size? : Option Size := do
  if !standsAt data [0xFF, 0xD8] 0 then none
  let (p, place) ← Picture.headers data {} 0 2 data.size
  if !p.fits then none
  let p ← p.withCodes.prepared?
  match (readScans data p).run' { place } with
  | .ok _ => return p.size
  | .error _ => none

end ShaderRunner.Jpeg

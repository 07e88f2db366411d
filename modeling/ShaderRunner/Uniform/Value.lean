import ShaderRunner.Number.Shortest
import ShaderRunner.Texture.Image

namespace ShaderRunner

structure Vec2 where
  x : Float32
  y : Float32
  deriving DecidableEq

structure Vec3 where
  x : Float32
  y : Float32
  z : Float32
  deriving DecidableEq

structure Vec4 where
  x : Float32
  y : Float32
  z : Float32
  w : Float32
  deriving DecidableEq

def Vec2.toList (v : Vec2) : List Float32 := [v.x, v.y]
def Vec3.toList (v : Vec3) : List Float32 := [v.x, v.y, v.z]
def Vec4.toList (v : Vec4) : List Float32 := [v.x, v.y, v.z, v.w]

inductive Value
  | int (n : Int32)
  | float (x : Float32)
  | vec2 (v : Vec2)
  | vec3 (v : Vec3)
  | vec4 (v : Vec4)
  | points (vs : List Vec3)
  | image (i : Image)
  | text (s : String)
  | none
  deriving DecidableEq

namespace Value

def floatsText (xs : List Float32) : String := ",".intercalate (xs.map Number.singleText)

def imageText (i : Image) : String := s!"<image {i.size.width.toNat}x{i.size.height.toNat}>"

def toText : Value → String
  | int n => toString n.toInt
  | float x => Number.singleText x
  | vec2 v => floatsText v.toList
  | vec3 v => floatsText v.toList
  | vec4 v => floatsText v.toList
  | points vs => floatsText (vs.flatMap Vec3.toList)
  | image i => imageText i
  | text s => s
  | none => ""

def describe : Value → String
  | image _ => "an image"
  | none => "nothing"
  | v => s!"'{v.toText}'"

def pointCount? : Value → Option Nat
  | points vs => some vs.length
  | _ => Option.none

end Value

end ShaderRunner

/-! Two images are the same object if they have the same identity, whatever they show. -/

namespace ShaderRunner

structure Size where
  width : UInt32
  height : UInt32
  deriving DecidableEq, Repr

/-- Images come from the files of a manifest, by the place of their entry, or from the host by a key. -/
inductive Image.Identity
  | entry (place : Nat)
  | host (key : String)
  deriving DecidableEq, Repr

structure Image where
  identity : Image.Identity
  size : Size
  deriving DecidableEq, Repr

end ShaderRunner

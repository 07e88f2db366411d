import ShaderRunner.Texture.Image

namespace ShaderRunner

inductive Stage
  | vertex
  | fragment
  deriving DecidableEq, Repr

def Stage.name : Stage → String
  | vertex => "vertex"
  | fragment => "fragment"

structure ShaderHandle where
  id : Nat
  deriving DecidableEq, Repr

structure ProgramHandle where
  id : Nat
  deriving DecidableEq, Repr

structure BufferHandle where
  id : Nat
  deriving DecidableEq, Repr

structure TextureHandle where
  id : Nat
  deriving DecidableEq, Repr

structure Location where
  id : UInt32
  deriving DecidableEq, Repr

inductive Resource
  | shader (stage : Stage)
  | program
  | buffer
  | texture
  deriving DecidableEq, Repr

inductive Wrap
  | clampToEdge
  | repeated
  deriving DecidableEq, Repr

inductive Filter
  | linear
  | nearest
  deriving DecidableEq, Repr

inductive Call
  | createShader (s : ShaderHandle) (stage : Stage)
  | shaderSource (s : ShaderHandle)
  | compileShader (s : ShaderHandle)
  | deleteShader (s : ShaderHandle)
  | createProgram (p : ProgramHandle)
  | attachShader (p : ProgramHandle) (s : ShaderHandle)
  | linkProgram (p : ProgramHandle)
  | deleteProgram (p : ProgramHandle)
  | useProgram (p : Option ProgramHandle)
  | createBuffer (b : BufferHandle)
  | deleteBuffer (b : BufferHandle)
  | bindArrayBuffer (b : Option BufferHandle)
  | arrayBufferData (xs : List Float32)
  | viewport (x y : Int32) (size : Size)
  | enableVertexAttribArray (index : UInt32)
  | vertexAttribPointer (index : UInt32) (size stride offset : Int32)
  | drawTriangles (first count : Int32)
  | uniform1i (l : Location) (n : Int32)
  | uniform1f (l : Location) (x : Float32)
  | uniform2f (l : Location) (x y : Float32)
  | uniform3f (l : Location) (x y z : Float32)
  | uniform4f (l : Location) (x y z w : Float32)
  | uniform3fv (l : Location) (xs : List Float32)
  | createTexture (t : TextureHandle)
  | deleteTexture (t : TextureHandle)
  | activeTexture (unit : UInt32)
  | bindTexture2d (t : Option TextureHandle)
  | textureWrap (w : Wrap)
  | textureFilter (f : Filter)
  | texImage2d (size : Size)
  deriving DecidableEq

def Call.uploadLocation? : Call → Option Location
  | uniform1i l _ | uniform1f l _ | uniform2f l _ _ | uniform3f l _ _ _ | uniform4f l _ _ _ _
  | uniform3fv l _ => some l
  | _ => none

end ShaderRunner

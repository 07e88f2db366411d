import ShaderRunner.Device.Basic
import ShaderRunner.Texture.PowerOfTwo
import ShaderRunner.Uniform.Basic

namespace ShaderRunner

def Device.makeTexture (d : Device) (size : Size) : Option TextureHandle × Device :=
  match d.createTexture with
  | (none, d) => (none, d)
  | (some t, d) =>
    (some t, (((d.record (.bindTexture2d (some t))).record (.textureWrap .clampToEdge)).record
      (.textureFilter .linear)).record (.texImage2d size))

def Sampler.build (s : Sampler) (i : Image) (d : Device) : Option Sampler × Device :=
  match d.makeTexture (i.size.normalized 0) with
  | (none, d) => (none, d)
  | (some t, d) =>
    (some { s with texture := some t, built := some i },
      match s.texture with
      | some old => d.deleteTexture old
      | none => d)

end ShaderRunner

import ShaderRunner.Program.Mode

namespace ShaderRunner

structure BundledShader where
  name : String
  mode : Mode
  source : String
  deriving DecidableEq, Repr

namespace BundledShader

def plasmaSource : String :=
  "// Classic sine plasma. Default mode: u_resolution and u_time come from the\n" ++
    "// prologue, u_mouse is declared here.\n" ++
    "uniform vec4 u_mouse;\n" ++
    "\n" ++
    "#define SPEED VADER_STATIC(SPEED, 1.0)\n" ++
    "\n" ++
    "void main() \x7b\n" ++
    "  vec2 uv = gl_FragCoord.xy / u_resolution;\n" ++
    "  float t = u_time * SPEED;\n" ++
    "  float v = sin(uv.x * 10.0 + t)\n" ++
    "          + sin((uv.y * 10.0 + t) * 0.5)\n" ++
    "          + sin((uv.x * 10.0 + uv.y * 10.0 + t) * 0.5);\n" ++
    "  vec2 m = u_mouse.xy / u_resolution;\n" ++
    "  v += sin(length(uv - m) * 20.0 - t);\n" ++
    "  gl_FragColor = vec4(0.5 + 0.5 * sin(v), 0.5 + 0.5 * sin(v + 2.094), 0.5 + 0.5 * sin(v + 4.188), 1.0);\n" ++
    "\x7d\n"

def gradientSource : String :=
  "// Two-colour gradient with a tint and an optional texture overlay.\n" ++
    "uniform vec3 u_top;\n" ++
    "uniform vec3 u_bottom;\n" ++
    "uniform sampler2D u_overlay;\n" ++
    "\n" ++
    "void main() \x7b\n" ++
    "  vec2 uv = gl_FragCoord.xy / u_resolution;\n" ++
    "  vec3 base = mix(u_bottom, u_top, pow(uv.y, STATIC(CURVE, 1.0)));\n" ++
    "  vec4 over = texture2D(u_overlay, uv);\n" ++
    "  gl_FragColor = vec4(mix(base, over.rgb, over.a * STATIC(OVERLAY_MIX, 0.0)), 1.0);\n" ++
    "\x7d\n"

def tunnelSource : String :=
  "// VADER_MODE(shadertoy)\n" ++
    "// Shadertoy-style tunnel; runs unchanged on shadertoy.com.\n" ++
    "\n" ++
    "#define RINGS VADER_STATIC(RINGS, 8.0)\n" ++
    "\n" ++
    "void mainImage(out vec4 fragColor, in vec2 fragCoord) \x7b\n" ++
    "  vec2 p = (2.0 * fragCoord - iResolution.xy) / iResolution.y;\n" ++
    "  float r = length(p);\n" ++
    "  float a = atan(p.y, p.x);\n" ++
    "  float stripes = 0.5 + 0.5 * sin(RINGS / r + iTime * 3.0);\n" ++
    "  float spokes = 0.5 + 0.5 * sin(a * 6.0 + iTime);\n" ++
    "  fragColor = vec4(vec3(stripes * spokes) * smoothstep(0.0, 0.4, r), 1.0);\n" ++
    "\x7d\n"

def all : List BundledShader :=
  [⟨"plasma", .default, plasmaSource⟩, ⟨"gradient", .default, gradientSource⟩,
    ⟨"tunnel", .shadertoy, tunnelSource⟩]

def names : List String := all.map (·.name)

def find? (name : String) : Option BundledShader := all.find? (·.name == name)

end BundledShader

end ShaderRunner


namespace ShaderRunner.Boilerplate

def vertex : String :=
  "attribute vec4 a_position;\n" ++
    "\n" ++
    "void main() \x7b\n" ++
    "  gl_Position = a_position;\n" ++
    "\x7d\n"

def defaultOpening : String :=
  "precision highp float;\n" ++
    "\n" ++
    "uniform vec2  u_resolution;\n" ++
    "uniform float u_time;\n" ++
    "\n" ++
    "/// END VADER PROLOGUE\n" ++
    "\n"

def shadertoyOpening : String :=
  "precision highp float;\n" ++
    "\n" ++
    "uniform vec3  iResolution;\n" ++
    "uniform vec4  iMouse;\n" ++
    "uniform float iTime;\n" ++
    "uniform float iTimeDelta;\n" ++
    "uniform int   iFrame;\n" ++
    "\n" ++
    "/// END SHADERTOY PROLOGUE\n" ++
    "\n"

def shadertoyClosing : String :=
  "\n" ++
    "/// BEGIN SHADERTOY EPILOGUE\n" ++
    "\n" ++
    "void main() \x7b\n" ++
    "  mainImage(gl_FragColor, gl_FragCoord.xy);\n" ++
    "\x7d\n"

end ShaderRunner.Boilerplate

/-!
# What a program is compiled for

A request names a shader stage, a platform family and a feature profile. Platform and profile matter
only through the capability tier they select, and the tier selects the dialect: desktop, legacy ES or
modern ES.
-/

namespace GlslCompiler

/-- The stage a caller may ask for. -/
inductive ShaderStage where
  | vertex
  | pixel
  | geometry
  | hull
  | domain
  | compute
  deriving DecidableEq

/-- The stages a program can be written for. -/
inductive PipelineStage where
  | vertex
  | pixel
  deriving DecidableEq

/-- The platform family. -/
inductive Platform where
  | opengl
  | opengles
  deriving DecidableEq

/-- The minimum feature level, lowest first. -/
inductive Profile where
  | level91
  | level92
  | level93
  | level100
  | level101
  | level110
  | level111
  deriving DecidableEq

namespace ShaderStage

/-- Every stage, in the order choices are listed. -/
def all : List ShaderStage := [vertex, pixel, geometry, hull, domain, compute]

def name : ShaderStage → String
  | vertex => "vertex"
  | pixel => "pixel"
  | geometry => "geometry"
  | hull => "hull"
  | domain => "domain"
  | compute => "compute"

/-- The stage's name as it begins a sentence. -/
def title : ShaderStage → String
  | vertex => "Vertex"
  | pixel => "Pixel"
  | geometry => "Geometry"
  | hull => "Hull"
  | domain => "Domain"
  | compute => "Compute"

/-- The pipeline stage a requested stage is written as, where there is one. -/
def pipeline? : ShaderStage → Option PipelineStage
  | vertex => some .vertex
  | pixel => some .pixel
  | _ => none

end ShaderStage

namespace Platform

def all : List Platform := [opengl, opengles]

def name : Platform → String
  | opengl => "opengl"
  | opengles => "opengles"

end Platform

namespace Profile

def all : List Profile := [level91, level92, level93, level100, level101, level110, level111]

def name : Profile → String
  | level91 => "level_9_1"
  | level92 => "level_9_2"
  | level93 => "level_9_3"
  | level100 => "level_10_0"
  | level101 => "level_10_1"
  | level110 => "level_11_0"
  | level111 => "level_11_1"

/-- The number by which profiles are ordered. -/
def level : Profile → Nat
  | level91 => 0x9100
  | level92 => 0x9200
  | level93 => 0x9300
  | level100 => 0xA000
  | level101 => 0xA100
  | level110 => 0xB000
  | level111 => 0xB100

/-- Whether the profile reaches the modern dialect. -/
def isModern (profile : Profile) : Bool := level100.level ≤ profile.level

end Profile

/-- A capability bucket: `constrained` for the ES family, `modern` from level 10 on. -/
structure Tier where
  constrained : Bool
  modern : Bool
  deriving DecidableEq

namespace Tier

def desktop : Tier := ⟨false, true⟩

def es2 : Tier := ⟨true, false⟩

def es3 : Tier := ⟨true, true⟩

/-- The tier a platform and a profile select. -/
def select (platform : Platform) (profile : Profile) : Tier :=
  ⟨platform = .opengles, profile.isModern⟩

def name (tier : Tier) : String :=
  if tier.constrained then (if tier.modern then "es3" else "es2") else "desktop"

/-- Whether the dialect writes uniform blocks as blocks; otherwise their members become uniforms. -/
def hasUniformBlocks (tier : Tier) : Bool := !tier.constrained || tier.modern

/-- Whether the dialect refuses the suffix of a floating constant. -/
def trimsFloatSuffix (tier : Tier) : Bool := tier.constrained

/-- The tier of the legacy ES dialect: constrained and without modern features. -/
def isLegacy (tier : Tier) : Bool := tier.constrained && !tier.modern

end Tier

end GlslCompiler

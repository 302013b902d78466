import GlslCompiler.Tier

/-!
# Preambles

What stands before the body of a program: the version directive, extensions, default precision and the
fragment outputs, in that order, each line followed by an empty one. Legacy ES relies on its implicit
version, so a legacy vertex program has no preamble at all.
-/

namespace GlslCompiler.Preamble

def version (tier : Tier) : List String :=
  if tier.constrained then (if tier.modern then ["#version 300 es"] else []) else ["#version 420"]

def extensions (tier : Tier) : List String :=
  if tier.constrained && tier.hasUniformBlocks then ["#extension GL_ARB_gpu_shader5 : enable"] else []

def precision (tier : Tier) (stage : PipelineStage) : List String :=
  if tier.constrained && stage = .pixel then ["precision highp float;"] else []

/-- The fragment outputs of a desktop pixel program, one per render target. -/
def outputs (tier : Tier) (renderTargets : Int) (stage : PipelineStage) : List String :=
  if !tier.constrained && stage = .pixel then
    ["out vec4 gl_FragData[" ++ toString renderTargets ++ "];"]
  else []

def lines (tier : Tier) (renderTargets : Int) (stage : PipelineStage) : List String :=
  version tier ++ extensions tier ++ precision tier stage ++ outputs tier renderTargets stage

def text (tier : Tier) (renderTargets : Int) (stage : PipelineStage) : String :=
  String.join ((lines tier renderTargets stage).map (· ++ "\n\n"))

/-- A body with its preamble in front. -/
def compose (tier : Tier) (renderTargets : Int) (stage : PipelineStage) (body : String) : String :=
  text tier renderTargets stage ++ body

end GlslCompiler.Preamble

import GlslCompiler.Diagnostic
import GlslCompiler.Tier

/-!
# Stage checks

Before a variant is built its stage is checked: several render targets on legacy ES are worth a warning,
and only vertex and pixel programs can be written at all.
-/

namespace GlslCompiler.StageCheck

/-- The warning about several render targets, where it applies. -/
def renderTargetWarnings (tier : Tier) (renderTargets : Int) (file : Option String) : Diagnostics :=
  if tier.isLegacy ∧ 1 < renderTargets then
    [{ kind := .multiRenderTargetUnsupported
       severity := .warning
       message := "OpenGL ES 2 does not support multiple render targets."
       file := file }]
  else []

/-- The error about a stage that has no pipeline stage. -/
def unsupported (stage : ShaderStage) (file : Option String) : Diagnostic :=
  { kind := .unsupportedStage
    severity := .error
    message := stage.title ++ " stage can't be converted to OpenGL. "
      ++ "Only Vertex and Pixel shaders are supported"
    file := file }

/-- The pipeline stage of a request, with the diagnostics the check gives rise to. -/
def run (stage : ShaderStage) (tier : Tier) (renderTargets : Int) (file : Option String) :
    Option PipelineStage × Diagnostics :=
  let warnings := renderTargetWarnings tier renderTargets file
  match stage.pipeline? with
  | some pipeline => (some pipeline, warnings)
  | none => (none, warnings ++ [unsupported stage file])

end GlslCompiler.StageCheck

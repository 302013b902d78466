import GlslCompiler.Fault
import GlslCompiler.Program.Decl
import GlslCompiler.Tier

/-!
# Converters

A converter turns source text into a program. It is a collaborator with a state of its own. It may hand
out the same program again and again: `retain` tells it what the passes have made of the program it
handed out last, and a converter that keeps that program will hand out the changed one.
-/

namespace GlslCompiler

/-- A problem that a converter reports. -/
structure ConverterMessage where
  message : String
  line : Option Int := none
  deriving DecidableEq

/-- What a converter is asked. -/
structure ConverterCall where
  source : String
  entryPoint : Option String
  stage : PipelineStage
  file : Option String
  deriving DecidableEq

/-- What a converter answers: a result, a refusal of the source, or a fault of its own. -/
inductive ConverterAnswer where
  | result (program : Option Program) (messages : List ConverterMessage)
  | refused (message : String) (line : Option Int)
  | crashed (fault : Fault)

/-- A converter with states in `σ`. -/
structure Converter (σ : Type) where
  convert (call : ConverterCall) : σ → ConverterAnswer × σ
  retain (changed : Program) : σ → σ

end GlslCompiler

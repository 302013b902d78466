import GlslCompiler.Converter.Basic
import GlslCompiler.Optimizer.Bridge
import GlslCompiler.Preamble
import GlslCompiler.Program.Normalize
import GlslCompiler.StageCheck
import GlslCompiler.Variant.Plan
import GlslCompiler.Writer.Decl

/-!
# Compilation

A request is compiled variant by variant. For each variant the stage is checked, the converter is asked
for a program, the passes put the program into the form its dialect wants, and the written text goes
through the optimizer. A variant that cannot be built leaves an error on record and ends the
compilation without an artifact. Three things leave a compilation altogether: a literal that has no text,
a fault of the converter, and a text that is too long for the artifact.
-/

namespace GlslCompiler

/-- What is to be compiled, and for what. -/
structure Request where
  source : String
  entryPoint : Option String
  stage : ShaderStage
  platform : Platform
  profile : Profile
  renderTargets : Int := 1
  file : Option String := none

def Request.tier (request : Request) : Tier := Tier.select request.platform request.profile

/-- The complete text of one variant. -/
structure Variant where
  text : String
  stage : ShaderStage
  tier : Tier
  deriving DecidableEq

/-- The result of a compilation. -/
structure CompileResult where
  artifact : Option Artifact
  diagnostics : Diagnostics
  variants : List Variant

namespace CompileResult

def succeeded (result : CompileResult) : Bool := result.artifact.isSome

/-- The artifact, or the failure that explains its absence. -/
def unwrap (result : CompileResult) : Except CompilationError Artifact :=
  match result.artifact with
  | some artifact => .ok artifact
  | none => .error (.ofDiagnostics result.diagnostics)

end CompileResult

/-- What can leave a compilation. -/
inductive Escape where
  | literal (error : LiteralError)
  | converter (fault : Fault)
  | packaging (error : Oversized)

def Escape.message : Escape → String
  | .literal error => error.message
  | .converter fault => fault.message
  | .packaging error => error.message

/-- The collaborators of a compilation: a converter, and an engine unless programs are not optimized. -/
structure Compiler (σ ε : Type) where
  converter : Converter σ
  engine : Option (Engine ε)

/-- The states of the collaborators, what was asked of them, and the record of the compilation under
way. -/
structure Session (σ ε : Type) where
  converter : σ
  engine : ε
  calls : List ConverterCall := []
  events : List BridgeEvent := []
  diagnostics : Diagnostics := []
  variants : List Variant := []

namespace Session

variable {σ ε : Type}

/-- Adds to the record. -/
def record (session : Session σ ε) (ds : Diagnostics) : Session σ ε :=
  { session with diagnostics := session.diagnostics ++ ds }

end Session

/-- The program of an ES pixel request without an entry point. -/
def emptyPixelProgram : String := "void main()\x7b\x7d"

/-- An error about the conversion. -/
def conversionError (file : Option String) (message : String) (line : Option Int) : Diagnostic :=
  { kind := .conversionFailed, severity := .error, message := message, file := file, line := line }

/-- The program in a converter's answer, or the errors that the answer amounts to. Messages are errors
even when a program comes with them. -/
def ConverterAnswer.read (file : Option String) :
    ConverterAnswer → Except Fault (Except Diagnostics Program)
  | .crashed fault => .error fault
  | .refused message line => .ok (.error [conversionError file message line])
  | .result none [] => .ok (.error [conversionError file "Converter produced no program" none])
  | .result (some program) [] => .ok (.ok program)
  | .result _ messages => .ok (.error (messages.map fun m => conversionError file m.message m.line))

/-- A program in the form its dialect wants. -/
def Program.normalize (tier : Tier) (stage : PipelineStage) (program : Program) : Program :=
  let staged := if tier.constrained then (program.assignStorage stage).2 else program
  staged.annotateLayouts.2

namespace Compiler

variable {σ ε : Type}

/-- Optimizes a text, keeping it where there is no engine or the engine gives nothing. -/
def optimize (compiler : Compiler σ ε) (job : OptimizerJob) (file : Option String)
    (session : Session σ ε) : String × Session σ ε :=
  let (text, ds, run) := Bridge.offer compiler.engine job file ⟨session.engine, session.events⟩
  (text.getD job.source, { session with engine := run.state, events := run.events }.record ds)

/-- Asks the converter for the request's program. -/
def convert (compiler : Compiler σ ε) (request : Request) (stage : PipelineStage)
    (session : Session σ ε) : Except Fault (Except Diagnostics Program) × Session σ ε :=
  let call : ConverterCall := ⟨request.source, request.entryPoint, stage, request.file⟩
  let (answer, state) := compiler.converter.convert call session.converter
  (answer.read request.file, { session with converter := state, calls := session.calls ++ [call] })

/-- Writes and optimizes a converted program. -/
def finish (compiler : Compiler σ ε) (request : Request) (tier : Tier) (stage : PipelineStage)
    (program : Program) (session : Session σ ε) : Attempt Escape × Session σ ε :=
  let normal := program.normalize tier stage
  let session := { session with converter := compiler.converter.retain normal session.converter }
  match normal.text tier with
  | .error error => (.escaped (.literal error), session)
  | .ok body =>
    let source := Preamble.compose tier request.renderTargets stage body
    let (text, session) := compiler.optimize ⟨source, tier, stage⟩ request.file session
    (.built text, session)

/-- Builds the text of one variant. -/
def buildText (compiler : Compiler σ ε) (request : Request) (tier : Tier) (session : Session σ ε) :
    Attempt Escape × Session σ ε :=
  let (pipeline, ds) := StageCheck.run request.stage tier request.renderTargets request.file
  let session := session.record ds
  match pipeline with
  | none => (.failed, session)
  | some stage =>
    if session.diagnostics.hasErrors then (.failed, session)
    else if request.entryPoint = none ∧ stage = .pixel ∧ tier.constrained then
      (.built (Preamble.compose tier request.renderTargets stage emptyPixelProgram), session)
    else
      match compiler.convert request stage session with
      | (.error fault, session) => (.escaped (.converter fault), session)
      | (.ok (.error ds), session) => (.failed, session.record ds)
      | (.ok (.ok program), session) => compiler.finish request tier stage program session

/-- Builds one variant and keeps it with the variants built before. -/
def build (compiler : Compiler σ ε) (request : Request) (tier : Tier) (session : Session σ ε) :
    Attempt Escape × Session σ ε :=
  match compiler.buildText request tier session with
  | (.built text, session) =>
    (.built text, { session with variants := session.variants ++ [⟨text, request.stage, tier⟩] })
  | other => other

/-- The artifact of a completed plan. -/
def package (plan : Plan) (texts : SlotTexts) (stage : ShaderStage) : Except Oversized Artifact :=
  if plan.dual then Artifact.dual texts.dualVariants stage
  else .ok (.single texts.singleText stage)

/-- Compiles a request. The session carries the collaborators' states from request to request; its
record starts anew with each. -/
def compile (compiler : Compiler σ ε) (request : Request) (session : Session σ ε) :
    Except Escape CompileResult × Session σ ε :=
  let plan := Plan.ofTier request.tier
  let start := { session with diagnostics := [], variants := [] }
  match plan.run (fun _ tier => compiler.build request tier) start with
  | (.escaped fault, session) => (.error fault, session)
  | (.failed, session) => (.ok ⟨none, session.diagnostics, []⟩, session)
  | (.complete texts, session) =>
    if session.diagnostics.hasErrors then (.ok ⟨none, session.diagnostics, []⟩, session)
    else
      match package plan texts request.stage with
      | .error error => (.error (.packaging error), session)
      | .ok artifact => (.ok ⟨some artifact, session.diagnostics, session.variants⟩, session)

end Compiler

end GlslCompiler

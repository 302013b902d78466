import GlslCompiler.Diagnostic
import GlslCompiler.Optimizer.Engine
import GlslCompiler.Tier

/-!
# The optimizer bridge

The bridge hands one complete program to an engine, under a lock, and gets back either the optimized
program or the reason for keeping the program as it is. Whatever the engine does, a context that was
created is cleaned up, a shader that was made is deleted before that, and the lock is released: a fault
of the engine never leaves the bridge. A context and a shader each have a scope, which is entered by the
call that makes it and left by the call that releases it; these two calls are part of the scope, and what
is done with the shader in between is not.
-/

namespace GlslCompiler

/-- A call of an engine. -/
inductive EngineCall where
  | createContext (target : Int)
  | optimize (shaderType : Int) (source : String) (options : Int)
  | status
  | output
  | deleteShader
  | cleanup
  deriving DecidableEq

/-- What happens while the bridge is used, in order. -/
inductive BridgeEvent where
  | acquire
  | call (call : EngineCall)
  | library (event : LibraryEvent)
  | release
  deriving DecidableEq

/-- A program to optimize. -/
structure OptimizerJob where
  source : String
  tier : Tier
  stage : PipelineStage

/-- The built-in vertex attributes that ES programs lose, each with the attribute that stands for it, its
precision and its type. -/
def vertexAttributes : List (String × String × String × String) := [
  ("gl_Vertex", "_glesVertex", "highp", "vec4"),
  ("gl_Normal", "_glesNormal", "mediump", "vec3"),
  ("gl_MultiTexCoord0", "_glesMultiTexCoord0", "highp", "vec4"),
  ("gl_MultiTexCoord1", "_glesMultiTexCoord1", "highp", "vec4"),
  ("gl_Color", "_glesColor", "lowp", "vec4")]

/-- The definitions that map built-in vertex attributes to attributes of the program's own. -/
def vertexAttributeShims : String :=
  String.join (vertexAttributes.map fun (builtin, own, precision, type) =>
    "#define " ++ builtin ++ " " ++ own ++ "\n"
      ++ "attribute " ++ precision ++ " " ++ type ++ " " ++ own ++ ";\n")

/-- The engine's number for a dialect: desktop, legacy ES, modern ES. -/
def optimizerTarget (tier : Tier) : Int :=
  if tier.constrained then (if tier.modern then 2 else 1) else 0

namespace OptimizerJob

/-- The text submitted to the engine; ES vertex programs get the attribute definitions in front. -/
def input (job : OptimizerJob) : String :=
  if job.tier.constrained && job.stage = .vertex then vertexAttributeShims ++ job.source
  else job.source

/-- The engine's number for a stage. -/
def shaderType (job : OptimizerJob) : Int :=
  match job.stage with
  | .vertex => 0
  | .pixel => 1

end OptimizerJob

/-- The options of every optimization. -/
def defaultOptimizerOptions : Int := 0

namespace Bridge

/-- The engine's state and what has happened so far. -/
structure Run (ε : Type) where
  state : ε
  events : List BridgeEvent := []

/-- Makes one engine call, recording it and what it does to the library. -/
def perform {ε α : Type} (call : EngineCall) (action : EngineAction ε α) (run : Run ε) :
    Except Fault α × Run ε :=
  let (answer, events, state) := action run.state
  (answer, ⟨state, run.events ++ .call call :: events.map .library⟩)

/-- Releases something after its use. A fault of the release replaces what the use ended with. -/
def releasing {ε α : Type} (call : EngineCall) (release : EngineAction ε Unit)
    (used : Except Fault α × Run ε) : Except Fault α × Run ε :=
  match perform call release used.2 with
  | (.ok _, run) => (used.1, run)
  | (.error fault, run) => (.error fault.leavingScope, run)

/-- The output of a shader whose status is good and whose output is not empty. -/
def readOutput {ε : Type} (engine : Engine ε) (shader : Handle) (run : Run ε) :
    Except Fault (Option String) × Run ε :=
  match perform .status (engine.status shader) run with
  | (.error fault, run) => (.error fault, run)
  | (.ok false, run) => (.ok none, run)
  | (.ok true, run) =>
    match perform .output (engine.output shader) run with
    | (.error fault, run) => (.error fault, run)
    | (.ok output, run) => (.ok (output.filter fun text => !text.isEmpty), run)

/-- Optimizes within a context and deletes the shader afterwards. -/
def withShader {ε : Type} (engine : Engine ε) (job : OptimizerJob) (context : Handle) (run : Run ε) :
    Except Fault (Option String) × Run ε :=
  let call := EngineCall.optimize job.shaderType job.input defaultOptimizerOptions
  match perform call (engine.optimize context job.shaderType job.input defaultOptimizerOptions) run with
  | (.error fault, run) => (.error fault.leavingScope, run)
  | (.ok shader, run) =>
    releasing .deleteShader (engine.deleteShader shader) (readOutput engine shader run)

/-- Creates a context, optimizes in it and cleans it up afterwards. -/
def withContext {ε : Type} (engine : Engine ε) (job : OptimizerJob) (run : Run ε) :
    Except Fault (Option String) × Run ε :=
  let target := optimizerTarget job.tier
  match perform (.createContext target) (engine.createContext target) run with
  | (.error fault, run) => (.error fault.leavingScope, run)
  | (.ok context, run) =>
    releasing .cleanup (engine.cleanup context) (withShader engine job context run)

end Bridge

/-- What the bridge answers. -/
inductive Verdict where
  | optimized (text : String)
  | kept (reason : String)
  deriving DecidableEq

namespace Verdict

/-- Why a program is kept after a fault. -/
def faultReason : Fault → String
  | .unavailable message => message
  | .exhausted name message => "optimizer raised " ++ name ++ ": " ++ message
  | .raised name message => "optimizer raised " ++ name ++ ": " ++ message

def ofAnswer : Except Fault (Option String) → Verdict
  | .ok (some text) => .optimized text
  | .ok none => .kept "optimizer reported a failure"
  | .error fault => .kept (faultReason fault)

/-- The optimized text, if there is one. -/
def text? : Verdict → Option String
  | .optimized text => some text
  | .kept _ => none

/-- The entry recorded for a program that was kept. -/
def diagnostics (file : Option String) : Verdict → Diagnostics
  | .optimized _ => []
  | .kept reason =>
    [{ kind := .optimizationSkipped
       severity := .info
       message := "Optimization skipped, keeping unoptimized program: " ++ reason
       file := file }]

end Verdict

namespace Bridge

/-- Runs a job under the lock. -/
def optimize {ε : Type} (engine : Engine ε) (job : OptimizerJob) (run : Run ε) : Verdict × Run ε :=
  let (answer, run) := withContext engine job ⟨run.state, run.events ++ [.acquire]⟩
  (Verdict.ofAnswer answer, ⟨run.state, run.events ++ [.release]⟩)

/-- Offers a job to the engine, if there is one: the optimized text, if there is one, and what to
record about the job. -/
def offer {ε : Type} (engine : Option (Engine ε)) (job : OptimizerJob) (file : Option String)
    (run : Run ε) : Option String × Diagnostics × Run ε :=
  match engine with
  | none => (none, [], run)
  | some engine =>
    let (verdict, run) := optimize engine job run
    (verdict.text?, verdict.diagnostics file, run)

end Bridge

end GlslCompiler

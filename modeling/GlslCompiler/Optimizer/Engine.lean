import GlslCompiler.Artifact.Bytes
import GlslCompiler.Fault

/-!
# Optimizer engines

An engine optimizes programs through contexts and shader handles that have to be released again. It is a
collaborator with a state of its own: each call answers from the state or raises a fault, and leaves a
new state. What it does to a native library on the way is kept as a list of events.
-/

namespace GlslCompiler

/-- A context or a shader as an engine names it. -/
abbrev Handle := Option Int

/-- Absent and zero handles are null. -/
def Handle.isNull : Handle → Bool
  | none => true
  | some n => n == 0

/-- What was asked of the dynamic loader or of the optimizer library. -/
inductive LibraryEvent where
  | findLibrary (name : String)
  | load (path : String)
  | createContext (target : Int)
  | optimize (context : Handle) (shaderType : Int) (source : Bytes) (options : Int)
  | status (shader : Handle)
  | output (shader : Handle)
  | deleteShader (shader : Handle)
  | cleanup (context : Handle)
  deriving DecidableEq

/-- An engine call: from a state to an answer or a fault, the library events, and the next state. -/
abbrev EngineAction (ε α : Type) := ε → Except Fault α × List LibraryEvent × ε

/-- An optimizer engine with states in `ε`. -/
structure Engine (ε : Type) where
  createContext (target : Int) : EngineAction ε Handle
  optimize (context : Handle) (shaderType : Int) (source : String) (options : Int) :
    EngineAction ε Handle
  status (shader : Handle) : EngineAction ε Bool
  output (shader : Handle) : EngineAction ε (Option String)
  deleteShader (shader : Handle) : EngineAction ε Unit
  cleanup (context : Handle) : EngineAction ε Unit

end GlslCompiler

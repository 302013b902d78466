import GlslCompiler.CommandLine.Command
import GlslCompiler.CommandLine.Shell

/-!
# The inspect command

An artifact file is shown with its id and the variants in it. The two layouts carry no mark, so unless
one is asked for the ES layout is tried, and what does not follow it is a desktop program.
-/

namespace GlslCompiler

namespace Inspect

variable {σ ε : Type}

/-- The lines about one slot of an ES artifact. -/
def slotLines (label : String) : Option String → List String
  | none => ["// " ++ label ++ ": absent"]
  | some text => ["// " ++ label ++ ": " ++ toString text.length ++ " bytes", text]

/-- The lines about an ES artifact. -/
def dualLines (variants : DualVariants) : List String :=
  slotLines "legacy" variants.legacy ++ slotLines "modern" variants.modern

/-- The lines about a desktop artifact. -/
def singleLines (data : Bytes) : List String :=
  ["// single: " ++ toString data.length ++ " bytes", Bytes.toText data]

/-- The lines about an artifact under a layout; a forced ES layout may not fit. -/
def lines (layout : ArtifactLayout) (data : Bytes) : Except FormatError (List String) :=
  match layout with
  | .single => .ok (singleLines data)
  | .dual => (DualVariants.decode data).map dualLines
  | .detect =>
    match DualVariants.decode data with
    | .ok variants => .ok (dualLines variants)
    | .error _ => .ok (singleLines data)

/-- Shows an artifact. -/
def present (layout : ArtifactLayout) (data : Bytes) : Action σ ε Unit := do
  Shell.onConsole (·.print ("id: " ++ (ObjectId.ofBytes data).text))
  match lines layout data with
  | .ok lines => Shell.onConsole (·.printAll lines)
  | .error error =>
    Shell.log .error ("Invalid dual-variant artifact: " ++ error.message)
    throw .failed

/-- The inspect command. -/
def run (host : Host σ ε) (artifactFile : String) (layout : ArtifactLayout) : Action σ ε Unit := do
  match (← get).files.read host.workingDirectory (Path.tidy artifactFile) with
  | .error error => throw (.uncaught (.file error))
  | .ok data => present layout data

end Inspect

end GlslCompiler

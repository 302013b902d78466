import GlslCompiler.Path

/-!
# Diagnostics

Problems of a compilation are recorded, in order, as diagnostics. Only an error keeps the compilation
from producing an artifact; a caller who wants the failure itself gets a `CompilationError` made from
the first error.
-/

namespace GlslCompiler

inductive Severity where
  | error
  | warning
  | info
  deriving DecidableEq

def Severity.name : Severity → String
  | .error => "error"
  | .warning => "warning"
  | .info => "info"

/-- What a diagnostic is about. -/
inductive DiagnosticKind where
  | unsupportedStage
  | multiRenderTargetUnsupported
  | conversionFailed
  | optimizationSkipped
  deriving DecidableEq

/-- Where in the sources a message belongs: the file's own name and the line. A line is shown only with
a file, and line zero is not shown. -/
def locationText (file : Option String) (line : Option Int) : String :=
  match file with
  | none => ""
  | some path =>
    if path.isEmpty then ""
    else
      " in " ++ Path.fileName path
        ++ match line with
          | none => ""
          | some n => if n = 0 then "" else " at line " ++ toString n

structure Diagnostic where
  kind : DiagnosticKind
  severity : Severity
  message : String
  file : Option String := none
  line : Option Int := none
  deriving DecidableEq

namespace Diagnostic

def isError (d : Diagnostic) : Bool := d.severity == .error

def text (d : Diagnostic) : String :=
  d.severity.name ++ ": " ++ d.message ++ locationText d.file d.line

end Diagnostic

/-- The diagnostics of one compilation, oldest first. -/
abbrev Diagnostics := List Diagnostic

namespace Diagnostics

def hasErrors (ds : Diagnostics) : Bool := ds.any Diagnostic.isError

def errors (ds : Diagnostics) : Diagnostics := ds.filter Diagnostic.isError

def ofKind (ds : Diagnostics) (kind : DiagnosticKind) : Diagnostics := ds.filter (·.kind = kind)

/-- The warnings, which are also reported as they arise. -/
def warnings (ds : Diagnostics) : Diagnostics := ds.filter (·.severity = .warning)

end Diagnostics

/-- The failure of a compilation that produced no artifact. -/
structure CompilationError where
  message : String
  file : Option String := none
  line : Option Int := none
  diagnostics : Diagnostics := []

namespace CompilationError

def text (e : CompilationError) : String := e.message ++ locationText e.file e.line

/-- The failure described by the first error. -/
def ofDiagnostics (ds : Diagnostics) : CompilationError :=
  match ds.errors with
  | first :: _ => ⟨first.message, first.file, first.line, ds⟩
  | [] => ⟨"Compilation produced no artifact", none, none, ds⟩

end CompilationError

end GlslCompiler

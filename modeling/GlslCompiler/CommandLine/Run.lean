import GlslCompiler.CommandLine.Inspect
import GlslCompiler.CommandLine.Watch

/-!
# Running a command line

The words of a command line are first understood as a command, or not at all, which is a usage error. The
rules for that are a parameter.
-/

namespace GlslCompiler

/-- How a command line ended. -/
inductive Ending where
  | success
  | stopped (stop : Stop)

namespace Ending

def ofResult : Except Stop Unit → Ending
  | .ok _ => .success
  | .error stop => .stopped stop

/-- The code the process ends with. -/
def exitCode : Ending → Nat
  | .success => 0
  | .stopped .usage => 2
  | .stopped _ => 1

end Ending

namespace CommandLine

variable {σ ε : Type}

/-- What running a command line leaves behind. -/
structure Outcome (σ ε : Type) where
  ending : Ending
  shell : Shell σ ε
  watchEvents : List WatchEvent := []

/-- Runs a command line. `understand` gives the command that the words stand for, if they stand for one. -/
def run (understand : List String → Option Command) (host : Host σ ε) (steps : List WatchStep)
    (conversions : Shell σ ε → Nat) (words : List String) (shell : Shell σ ε) : Outcome σ ε :=
  match understand words with
  | none => { ending := .stopped .usage, shell := shell }
  | some (.compile options) =>
    let (result, shell) := (Build.run host options).run.run shell
    { ending := .ofResult result, shell := shell }
  | some (.inspect artifactFile layout) =>
    let (result, shell) := (Inspect.run host artifactFile layout).run.run shell
    { ending := .ofResult result, shell := shell }
  | some (.watch options) =>
    let ((result, shell), events) := Watch.run host options steps conversions shell
    { ending := .ofResult result, shell := shell, watchEvents := events }

end CommandLine

end GlslCompiler

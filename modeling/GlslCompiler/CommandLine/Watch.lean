import GlslCompiler.CommandLine.Build

/-!
# The watch command

A source file is compiled once and then again after every change that an observer reports for it. The
loop looks for a pending change, clears it, rebuilds, and sleeps; a change reported during a rebuild is
therefore pending when the loop comes round. What happens while the loop sleeps is given as a list of
steps, and the user's interrupt comes when no step is left.
-/

namespace GlslCompiler

/-- What happens during one sleep: files are written, files are deleted, then changes are reported. -/
structure WatchStep where
  written : List (String × Bytes) := []
  deleted : List String := []
  modified : List String := []

/-- What the command does to its observer, and its sleeps with the number of conversions so far. -/
inductive WatchEvent where
  | schedule (directory : String)
  | start
  | step (conversions : Nat)
  | stop
  | join
  deriving DecidableEq

/-- The watched file and whether a change of it awaits a rebuild. -/
structure Watcher where
  path : String
  pending : Bool := false
  deriving DecidableEq

namespace Watcher

/-- Whether a report is about the watched file. -/
def concerns (watcher : Watcher) (path : String) : Bool := path == watcher.path

/-- A change is reported. -/
def notify (watcher : Watcher) (path : String) : Watcher :=
  if watcher.concerns path then { watcher with pending := true } else watcher

/-- The pending change is taken on. -/
def clear (watcher : Watcher) : Watcher := { watcher with pending := false }

end Watcher

namespace Watch

variable {σ ε : Type}

/-- Builds anew. A source that cannot be read now will be reported when it has been saved. -/
def rebuild (host : Host σ ε) (compiler : Compiler σ ε) (options : BuildOptions) (path : String) :
    Action σ ε Unit := do
  let shell ← get
  match (Build.request host options path).run.run shell with
  | (.ok request, shell) =>
    set shell
    discard <| Build.once host compiler request { options with printText := false }
  | (.error .failed, shell) => set shell
  | (.error stop, shell) =>
    set shell
    throw stop

/-- Reports changes to the watcher, with a log line for those that concern it. -/
def notifyAll (watcher : Watcher) : List String → Action σ ε Watcher
  | [] => return watcher
  | path :: rest => do
    if watcher.concerns path then
      Shell.log .info ("Detected changes in " ++ watcher.path)
    notifyAll (watcher.notify path) rest

/-- Applies what happens to the files during a sleep. -/
def applyFiles (workingDirectory : String) (step : WatchStep) (files : FileTree) : FileTree :=
  let locate (path : String) : Location := FileTree.locationOf workingDirectory path
  let files := step.written.foldl (fun files (path, content) => files.place (locate path) content) files
  step.deleted.foldl (fun files path => files.remove (locate path)) files

/-- The loop, over the sleeps to come. It gives the events of the loop, in order, and how it ended. -/
def loop (host : Host σ ε) (compiler : Compiler σ ε) (options : BuildOptions)
    (conversions : Shell σ ε → Nat) :
    List WatchStep → Watcher → Shell σ ε → (Except Stop Unit × Shell σ ε) × List WatchEvent
  | steps, watcher, shell =>
    let cleared := watcher.clear
    let (built, shell) :=
      if watcher.pending then (rebuild host compiler options watcher.path).run.run shell
      else (.ok (), shell)
    match built, steps with
    | .error stop, _ => ((.error stop, shell), [])
    | .ok _, [] => ((Shell.log .info "Keyboard interrupt received, stopping...").run.run shell, [])
    | .ok _, step :: rest =>
      let event := WatchEvent.step (conversions shell)
      let shell := { shell with files := applyFiles host.workingDirectory step shell.files }
      let reports := step.modified.map fun path => host.workingDirectory ++ "/" ++ path
      match (notifyAll cleared reports).run.run shell with
      | (.error stop, shell) => ((.error stop, shell), [event])
      | (.ok watcher, shell) =>
        let (result, events) := loop host compiler options conversions rest watcher shell
        (result, event :: events)

/-- The watch command, with the events of its observer. `conversions` counts the converter's calls. -/
def run (host : Host σ ε) (options : BuildOptions) (steps : List WatchStep)
    (conversions : Shell σ ε → Nat) (shell : Shell σ ε) :
    (Except Stop Unit × Shell σ ε) × List WatchEvent :=
  let path := Path.absolute host.workingDirectory options.sourceFile
  match (Build.compiler host options).run.run shell with
  | (.error stop, shell) => ((.error stop, shell), [])
  | (.ok compiler, shell) =>
    let first : Action σ ε Unit := do
      rebuild host compiler options path
      Shell.log .info ("Watching " ++ options.sourceFile ++ " (Ctrl+C to stop)...")
    let (result, events) : (Except Stop Unit × Shell σ ε) × List WatchEvent :=
      match first.run.run shell with
      | (.error stop, shell) => ((.error stop, shell), [])
      | (.ok _, shell) => loop host compiler options conversions steps { path := path } shell
    (result, [.schedule (Path.directory path), .start] ++ events ++ [.stop, .join])

end Watch

end GlslCompiler

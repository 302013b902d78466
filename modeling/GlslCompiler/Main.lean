import GlslCompiler.CommandLine.Arguments
import GlslCompiler.CommandLine.Run
import GlslCompiler.CommandLine.Timestamp
import GlslCompiler.CommandLine.WatchLoop
import GlslCompiler.Text.ControlSequence
import Std.Time.DateTime.Timestamp

/-!
# The program

The outer layer of the command line: it brings the files that a command names into the shell, runs the
command, and carries what it gave out, logged and stored over to the terminal and the disk. A program
with converters of its own calls `runOnDisk` with them; the program here has none.
-/

namespace GlslCompiler

/-- Now, on the system's clock. -/
def readClock : IO Timestamp := do
  let nanoseconds := (← Std.Time.Timestamp.now).toNanosecondsSinceUnixEpoch
  return Timestamp.ofMicroseconds (nanoseconds.val.toNat / 1000)

/-- The content of a file, if it can be read. -/
def readFile? (path : String) : IO (Option Bytes) := do
  try
    let content ← IO.FS.readBinFile path
    return some content.data.toList
  catch _ => return none

/-- The files that a command line names. -/
def readNamedFiles (workingDirectory : String) (words : List String) : IO FileTree := do
  let mut tree := FileTree.ofWorkingDirectory workingDirectory
  for word in words do
    if let some content ← readFile? word then
      tree := tree.place (FileTree.locationOf workingDirectory word) content
  return tree

/-- Stores the files that a command has made or changed. -/
def storeFiles (before after : FileTree) : IO Unit := do
  for directory in after.directories do
    IO.FS.createDirAll ("/" ++ "/".intercalate directory)
  for (location, content) in after.files do
    unless before.fileAt? location == some content do
      IO.FS.writeBinFile ("/" ++ "/".intercalate location) ⟨content.toArray⟩

/-- Shows texts, each on lines of its own. Control sequences are for terminals only. -/
def showTexts (stream : IO.FS.Stream) (texts : List String) : IO Unit := do
  if ← stream.isTty then texts.forM stream.putStrLn else stream.putStr (Text.shown texts)

/-- Shows what a command has given out and logged. -/
def showConsole (console : Console) : IO Unit := do
  showTexts (← IO.getStdout) console.output
  showTexts (← IO.getStderr) console.errors
  for entry in console.log do
    IO.eprintln (entry.level.name ++ " | " ++ entry.message)

/-- Says why a command ended early. -/
def showEnding : Ending → IO Unit
  | .stopped .usage => IO.eprintln "Usage: (compile | inspect | watch) [OPTIONS] FILE"
  | .stopped (.uncaught (.file error)) => IO.eprintln error.message
  | .stopped (.uncaught .undecodableSource) => IO.eprintln "The source is not valid UTF-8"
  | .stopped (.uncaught (.compilation escape)) => IO.eprintln escape.message
  | .stopped (.uncaught (.loading fault)) => IO.eprintln fault.message
  | _ => pure ()

/-- Finishes a command: shows the console and gives the exit code. -/
def finish (console : Console) (ending : Ending) : IO UInt32 := do
  showConsole console
  showEnding ending
  return ending.exitCode.toUInt32

/-- What the disk reports about the watched file: the change and the files with it, if there is one. -/
def observe {σ ε : Type} (workingDirectory : String) (state : Watch.LoopState σ ε) :
    IO (List Watch.LoopEvent) := do
  let path := state.watcher.path
  let location := FileTree.locationOf workingDirectory path
  let files := state.shell.files
  let content ← readFile? path
  if content == files.fileAt? location then return []
  let changed := match content with
    | some content => files.place location content
    | none => files.remove location
  return [.edited changed, .delivered path]

/-- Runs the watch loop on the disk until the program is interrupted. Reports come between the steps. -/
partial def watchOnDisk {σ ε : Type} (host : Host σ ε) (compiler : Compiler σ ε)
    (options : BuildOptions) (state : Watch.LoopState σ ε) : IO UInt32 := do
  if state.phase matches .sleeping then IO.sleep 100
  let reported := state.run host compiler options (← observe host.workingDirectory state)
  match reported, state.phase.next? with
  | some reported, some event =>
    let next := (reported.step host compiler options event).getD reported
    storeFiles reported.shell.files next.shell.files
    showConsole next.shell.console
    watchOnDisk host compiler options { next with shell := { next.shell with console := {} } }
  | _, _ =>
    match state.phase with
    | .ended result => finish {} (.ofResult result)
    | _ => finish {} .success

/-- Runs a command line on the disk. Converter modules are given by their contents, and `converter` is
behind the functions that they leave to the host. -/
def runOnDisk {σ : Type} (modules : List (String × ModuleFile)) (converter : Converter σ) (state : σ)
    (words : List String) : IO UInt32 := do
  let workingDirectory := (← IO.currentDir).toString
  let host : Host σ Unit := {
    workingDirectory := workingDirectory
    now := (← readClock).text
    converter := converter
    engine := none }
  let tree ← readNamedFiles workingDirectory words
  let modules := modules.map fun (path, content) =>
    (FileTree.locationOf workingDirectory path, content)
  let shell : Shell σ Unit := {
    files := modules.foldl (fun tree (location, _) => tree.place location []) tree
    modules := { contents := modules, importPath := [FileTree.locationOf workingDirectory ""] }
    session := { converter := state, engine := () } }
  match Command.parse words with
  | some (.watch options) =>
    match (Build.compiler host options).run.run shell with
    | (.error stop, shell) => finish shell.console (.stopped stop)
    | (.ok compiler, shell) =>
      let path := Path.absolute workingDirectory options.sourceFile
      watchOnDisk host compiler options (.start path shell)
  | some (.inspect artifactFile layout) =>
    let content ← IO.FS.readBinFile artifactFile
    let (result, shell) := (Inspect.present layout content.data.toList).run.run shell
    finish shell.console (.ofResult result)
  | _ =>
    let outcome := CommandLine.run Command.parse host [] (fun _ => 0) words shell
    storeFiles shell.files outcome.shell.files
    finish outcome.shell.console outcome.ending

/-- The converter of a program that has none. -/
def noConverter : Converter Unit where
  convert _ := fun s => (.refused "No converter is available" none, s)
  retain _ := fun s => s

end GlslCompiler

def main (words : List String) : IO UInt32 :=
  GlslCompiler.runOnDisk [] GlslCompiler.noConverter () words

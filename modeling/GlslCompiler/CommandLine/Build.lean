import GlslCompiler.CommandLine.Choice
import GlslCompiler.CommandLine.Command
import GlslCompiler.CommandLine.Shell
import GlslCompiler.Text.Newline

/-!
# The compile command

A source is read and compiled, its diagnostics are shown, and the artifact is named on the output. With
an output directory the artifact and its manifest are stored there under the artifact's id.
-/

namespace GlslCompiler

namespace Build

variable {σ ε : Type}

/-- The text of a source file: valid UTF-8 with uniform line ends. -/
def decodeSource (content : Bytes) : Option String :=
  (String.fromUTF8? ⟨content.toArray⟩).map fun text =>
    String.ofList (Text.unifyNewlines text.toList)

/-- Reads a source. A file that cannot be read fails the command with a log line. -/
def readSource (host : Host σ ε) (path : String) : Action σ ε String := do
  match (← get).files.read host.workingDirectory path with
  | .error error =>
    if error.isSystem then
      Shell.log .error ("Failed to read shader source: " ++ error.message)
      throw .failed
    else throw (.uncaught (.file error))
  | .ok content =>
    match decodeSource content with
    | some text => return text
    | none => throw (.uncaught .undecodableSource)

/-- A choice, or a usage error. -/
def choose {α : Type} (choice : Except InvalidChoice α) : Action σ ε α :=
  match choice with
  | .ok a => return a
  | .error _ => throw .usage

/-- The request that the options describe. The source is read before the choices are looked at. -/
def request (host : Host σ ε) (options : BuildOptions) (sourceFile : String) : Action σ ε Request := do
  let source ← readSource host sourceFile
  let stage ← choose (Choice.stage options.stage "--stage")
  let platform ← choose (Choice.platform options.platform "--platform")
  let profile ← choose (Choice.profile options.profile "--profile")
  return {
    source := source
    entryPoint := options.entryPoint
    stage := stage
    platform := platform
    profile := profile
    renderTargets := options.renderTargets
    file := some sourceFile }

/-- The compiler for a converter reference. -/
def compiler (host : Host σ ε) (options : BuildOptions) : Action σ ε (Compiler σ ε) := do
  let shell ← get
  let (result, modules) :=
    loadConverter shell.files host.workingDirectory options.converter shell.modules
  set { shell with modules := modules }
  match result with
  | .error (.unresolved message) =>
    Shell.log .error ("Failed to load converter: " ++ message)
    throw .failed
  | .error (.escaped fault) => throw (.uncaught (.loading fault))
  | .ok loaded =>
    Shell.log .info loaded.notice
    return {
      converter := loaded.converter host.converter
      engine := if options.noOptimize then none else host.engine }

/-- Compiles a request, logging its warnings. -/
def compile (compiler : Compiler σ ε) (request : Request) : Action σ ε CompileResult := do
  let shell ← get
  let (result, session) := compiler.compile request shell.session
  set { shell with session := session }
  Shell.onConsole (·.noteWarnings session.diagnostics)
  match result with
  | .ok result => return result
  | .error escape => throw (.uncaught (.compilation escape))

/-- Stores an artifact and its manifest in a directory and gives the artifact's path. -/
def store (host : Host σ ε) (artifact : Artifact) (request : Request) (directory : String) :
    Action σ ε String := do
  let directory := Path.tidy directory
  let artifactPath := Path.child directory (artifact.id.text ++ ".bin")
  let manifestPath := Path.child directory (artifact.id.text ++ ".json")
  let manifest := Manifest.ofArtifact artifact request host.now
  Shell.changeFiles (·.makeDirectories host.workingDirectory directory)
  Shell.changeFiles (·.write host.workingDirectory artifactPath artifact.data)
  Shell.changeFiles (·.write host.workingDirectory manifestPath (Bytes.ofText manifest.text))
  return artifactPath

/-- The lines about variants: the name of the dialect, then the text. -/
def variantLines (variants : List Variant) : List String :=
  variants.flatMap fun variant => ["// " ++ variant.tier.name, variant.text]

/-- Compiles a request once and reports it; says whether there is an artifact. -/
def once (host : Host σ ε) (compiler : Compiler σ ε) (request : Request) (options : BuildOptions) :
    Action σ ε Bool := do
  let result ← compile compiler request
  Shell.onConsole (·.report result.diagnostics)
  match result.artifact with
  | none =>
    Shell.log .error ("Compilation of " ++ request.file.getD "" ++ " failed")
    return false
  | some artifact =>
    Shell.onConsole (·.print artifact.id.text)
    if options.printText then Shell.onConsole (·.printAll (variantLines result.variants))
    match options.output with
    | some directory =>
      let path ← store host artifact request directory
      Shell.log .info ("Artifact written to " ++ path)
    | none => pure ()
    return true

/-- The compile command. -/
def run (host : Host σ ε) (options : BuildOptions) : Action σ ε Unit := do
  let request ← request host options options.sourceFile
  let compiler ← compiler host options
  unless ← once host compiler request options do throw .failed

end Build

end GlslCompiler

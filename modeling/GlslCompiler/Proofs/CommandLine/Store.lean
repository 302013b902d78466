import GlslCompiler.CommandLine.Arguments
import GlslCompiler.CommandLine.Run
import GlslCompiler.Proofs.CommandLine.Manifest
import GlslCompiler.Proofs.CommandLine.Shell
import GlslCompiler.Proofs.Compile.Contents
import GlslCompiler.Proofs.Files.Tree
import Mathlib.Logic.Relation

/-!
# The output directory

Artifacts are stored under the id of their content, with a manifest beside each. Whatever commands are run on an output
directory, every artifact in it has the content that its name promises and a manifest that describes it: an artifact
that is stored again, from whatever request, is written with the same content, and no other artifact is touched.
-/

namespace GlslCompiler

/-! ### Directories of artifacts -/

/-- A file is a manifest of an artifact with an id and a size. -/
def Describes (file : Bytes) (id : String) (size : Nat) : Prop :=
  ∃ document, Json.read (Bytes.toText file) = some document ∧
    document.member? "id" = some (.string (Text.units id)) ∧ (document.member? "size").bind Json.natural? = some size

namespace FileTree

/-- Where a directory keeps the artifact with an id. -/
def artifactAt (directory : Location) (id : String) : Location := directory ++ [id ++ ".bin"]

/-- Where a directory keeps the manifest of the artifact with an id. -/
def manifestAt (directory : Location) (id : String) : Location := directory ++ [id ++ ".json"]

/-- Every artifact in the directory has the content that its name promises, and a manifest. A directory that is not
there has no artifact in it. -/
def Consistent (tree : FileTree) (directory : Location) : Prop :=
  ∀ id content, tree.fileAt? (artifactAt directory id) = some content →
    (ObjectId.ofBytes content).text = id ∧
    ∃ manifest, tree.fileAt? (manifestAt directory id) = some manifest ∧ Describes manifest id content.length

theorem Consistent.congr {before after : FileTree} {directory : Location} (h : before.Consistent directory)
    (hartifacts : ∀ id, after.fileAt? (artifactAt directory id) = before.fileAt? (artifactAt directory id))
    (hmanifests : ∀ id, after.fileAt? (manifestAt directory id) = before.fileAt? (manifestAt directory id)) :
    after.Consistent directory := by
  intro id content hcontent
  rw [hartifacts] at hcontent
  rw [hmanifests]
  exact h id content hcontent

end FileTree

namespace Action

variable {σ ε α β : Type}

/-- An action that leaves the files alone and prints nothing, however it ends. -/
def Quiet (x : Action σ ε α) : Prop :=
  ∀ shell, (x.run.run shell).2.files = shell.files ∧ (x.run.run shell).2.console.output = shell.console.output

theorem Quiet.bind {x : Action σ ε α} {f : α → Action σ ε β} (hx : x.Quiet) (hf : ∀ a, (f a).Quiet) :
    (x >>= f).Quiet := by
  intro shell
  have hfirst := hx shell
  rw [run_bind]
  generalize x.run.run shell = outcome at hfirst ⊢
  obtain ⟨answer, after⟩ := outcome
  cases answer with
  | ok a => exact ⟨(hf a after).1.trans hfirst.1, (hf a after).2.trans hfirst.2⟩
  | error stop => exact hfirst

theorem Quiet.log (level : LogLevel) (message : String) : (Shell.log level message : Action σ ε Unit).Quiet :=
  fun _ => ⟨rfl, rfl⟩

theorem Quiet.pure (a : α) : (Pure.pure a : Action σ ε α).Quiet := fun _ => ⟨rfl, rfl⟩

theorem Quiet.throw (stop : Stop) : (MonadExcept.throw stop : Action σ ε α).Quiet := fun _ => ⟨rfl, rfl⟩

theorem Quiet.get : (MonadState.get : Action σ ε (Shell σ ε)).Quiet := fun _ => ⟨rfl, rfl⟩

end Action

/-- A compilation ends with an artifact. -/
def Compiler.Produces {σ ε : Type} (compiler : Compiler σ ε) (request : Request) (session : Session σ ε)
    (artifact : Artifact) : Prop :=
  ∃ result after, compiler.compile request session = (.ok result, after) ∧ result.artifact = some artifact

namespace Build

variable {σ ε : Type}

/-- The compile command makes an artifact: its source is read, its converter is loaded, and the compilation ends with
the artifact. -/
def Produces (host : Host σ ε) (options : BuildOptions) (shell : Shell σ ε) (artifact : Artifact) : Prop :=
  ∃ request read compiler loaded, (Build.request host options options.sourceFile).run.run shell = (.ok request, read) ∧
    (Build.compiler host options).run.run read = (.ok compiler, loaded) ∧
    compiler.Produces request loaded.session artifact

section Run

variable {host : Host σ ε} {options : BuildOptions} {shell : Shell σ ε}

end Run

end Build

namespace Watch

variable {σ ε : Type} {host : Host σ ε} {compiler : Compiler σ ε} {options : BuildOptions} {path : String}
  {shell : Shell σ ε}

/-- A rebuild makes an artifact. -/
def Produces (host : Host σ ε) (compiler : Compiler σ ε) (options : BuildOptions) (path : String) (shell : Shell σ ε)
    (artifact : Artifact) : Prop :=
  ∃ request read, (Build.request host options path).run.run shell = (.ok request, read) ∧
    compiler.Produces request read.session artifact

end Watch

theorem Compiler.Produces.id {σ ε : Type} {compiler : Compiler σ ε} {request : Request} {session : Session σ ε}
    {artifact : Artifact} (h : compiler.Produces request session artifact) :
    artifact.id = ObjectId.ofBytes artifact.data := by
  obtain ⟨result, after, hcompile, hartifact⟩ := h
  exact compiler.compile_id request hcompile hartifact

end GlslCompiler

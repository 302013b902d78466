import GlslCompiler.Compile
import GlslCompiler.Text.JsonString

/-!
# Manifests

Beside every stored artifact stands a manifest that says what it is and when it was made.
-/

namespace GlslCompiler

/-- The description of a stored artifact. -/
structure Manifest where
  id : ObjectId
  stage : ShaderStage
  platform : Platform
  profile : Profile
  tier : Tier
  size : Nat
  sourceFile : String
  compiledAt : String

namespace Manifest

/-- The manifest of an artifact made for a request. -/
def ofArtifact (artifact : Artifact) (request : Request) (now : String) : Manifest :=
  { id := artifact.id
    stage := artifact.stage
    platform := request.platform
    profile := request.profile
    tier := request.tier
    size := artifact.data.length
    sourceFile := Path.fileName (request.file.getD "")
    compiledAt := now }

/-- The fields in the order they are written, each value as JSON. -/
def fields (m : Manifest) : List (String × String) := [
  ("id", Text.jsonString m.id.text),
  ("stage", Text.jsonString m.stage.name),
  ("platform", Text.jsonString m.platform.name),
  ("profile", Text.jsonString m.profile.name),
  ("tier", Text.jsonString m.tier.name),
  ("size", toString m.size),
  ("source_file", Text.jsonString m.sourceFile),
  ("compiled_at", Text.jsonString m.compiledAt)]

/-- The text of the manifest file. -/
def text (m : Manifest) : String :=
  "\x7b\n" ++ ",\n".intercalate (m.fields.map fun (key, value) =>
    "  " ++ Text.jsonString key ++ ": " ++ value) ++ "\n\x7d\n"

end Manifest

end GlslCompiler

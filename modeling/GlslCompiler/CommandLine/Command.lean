/-!
# Commands

What a user may ask for. How the words of a command line are understood as one of these commands is left
to whoever runs them.
-/

namespace GlslCompiler

/-- What a `compile` or `watch` command is asked to do. -/
structure BuildOptions where
  sourceFile : String
  converter : String
  stage : String := "pixel"
  platform : String := "opengl"
  profile : String := "10_0"
  entryPoint : Option String := some "main"
  renderTargets : Int := 1
  output : Option String := none
  noOptimize : Bool := false
  printText : Bool := false

/-- How an artifact file is to be read; `detect` tries the ES layout first. -/
inductive ArtifactLayout where
  | detect
  | dual
  | single
  deriving DecidableEq

/-- A command line that has been understood. -/
inductive Command where
  | compile (options : BuildOptions)
  | inspect (artifactFile : String) (layout : ArtifactLayout)
  | watch (options : BuildOptions)

end GlslCompiler

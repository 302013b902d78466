import GlslCompiler.Files.Tree
import Mathlib.Data.List.Basic
import Mathlib.Tactic.Common

/-!
# Looking up, writing and making directories

A path that leads to a directory is followed through directories only, so files make no difference to it; a name added
to it is looked up in that directory. Writing changes the one file that the path leads to, and making directories
changes no file.
-/

namespace GlslCompiler

namespace Path

end Path

namespace FileTree

variable {tree tree' : FileTree} {place : Place} {directory : Location} {names : List String}

/-! ### Following a path -/

section Resolve

variable {workingDirectory path : String}

end Resolve

/-! ### Files -/

end FileTree

end GlslCompiler

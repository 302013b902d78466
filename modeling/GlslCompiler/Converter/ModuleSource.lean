import GlslCompiler.Converter.Module

/-!
# Where modules are found

The last part of a module's name is looked for in the directories of a search path, one after another. A
directory with an initialisation file is a package and comes before a module file of the same name. Only
if no directory of the search path has either, the directories of that name make up a package.
-/

namespace GlslCompiler

/-- What kind of file a module is in. -/
inductive ModuleFormat where
  | source
  /-- Stored code, which is never accepted here. -/
  | compiled
  /-- A shared library, which is never accepted here. -/
  | library
  deriving DecidableEq

/-- The endings of module files, in the order in which they are looked for. -/
def ModuleFormat.suffixes : List (String × ModuleFormat) :=
  [(".cpython-311-x86_64-linux-gnu.so", .library), (".abi3.so", .library), (".so", .library),
    (".py", .source), (".pyc", .compiled)]

/-- The format that a file name announces. -/
def ModuleFormat.ofFileName? (name : String) : Option ModuleFormat :=
  (suffixes.find? fun (suffix, _) => name.endsWith suffix).map (·.2)

/-- Where a module was found: in a file, perhaps as a package, or as plain directories. -/
inductive ModuleSource where
  | file (location : Location) (format : ModuleFormat) (searchPath : SearchPath)
  | directories (directories : List Location)

namespace FileTree

/-- The first file of a directory that is a module of a name. -/
def moduleFile? (tree : FileTree) (directory : Location) (name : String) :
    Option (Location × ModuleFormat) :=
  ModuleFormat.suffixes.findSome? fun (suffix, format) =>
    let location := directory ++ [name ++ suffix]
    if tree.isFile location then some (location, format) else none

/-- Looks for a module's last name in one directory; a package comes before a module. -/
def moduleIn? (tree : FileTree) (name : String) (directory : Location) : Option ModuleSource :=
  let package := directory ++ [name]
  match tree.moduleFile? package "__init__" with
  | some (location, format) => some (.file location format (.package package))
  | none => (tree.moduleFile? directory name).map fun (location, format) =>
    .file location format .closed

/-- Looks for a module's last name along a search path. -/
def findModule? (tree : FileTree) (name : String) (searchPath : List Location) :
    Option ModuleSource :=
  match searchPath.findSome? (tree.moduleIn? name) with
  | some source => some source
  | none =>
    match (searchPath.map (· ++ [name])).filter fun l => name ≠ "" && tree.isDirectory l with
    | [] => none
    | directories => some (.directories directories)

end FileTree

end GlslCompiler

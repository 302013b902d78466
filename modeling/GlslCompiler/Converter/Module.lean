import GlslCompiler.Converter.Entity
import GlslCompiler.Files.Tree

/-!
# Converter modules

A converter lives in a module of its own. This library does not run modules: a host describes what each
module file defines. A module is run at most once under its name. One that fails loses its name, but a
module that got hold of it before keeps it, so modules are known by numbers and names lead to numbers.
-/

namespace GlslCompiler

/-- What a module file does when it is run: it may import a module, defines attributes, and may then
raise a fault, given by the name of its class and a text. -/
structure ModuleFile where
  imports : Option String := none
  attributes : List (String × AttributeKind) := []
  raises : Option (String × String) := none

/-- How the text of a module file begins. -/
def ModuleFile.opening (file : ModuleFile) : String :=
  match file.imports, file.attributes, file.raises with
  | some name, _, _ => "import " ++ name
  | none, (name, .function) :: _, _ => "def " ++ name
  | none, (name, .hook) :: _, _ => "def " ++ name
  | none, (name, .constant) :: _, _ => name ++ " = 42"
  | none, (name, .nothing) :: _, _ => name ++ " = None"
  | none, (name, _) :: _, _ => "class " ++ name
  | none, [], some (className, _) => "raise " ++ className
  | none, [], none => ""

/-- Where the submodules of a module are looked for. -/
inductive SearchPath where
  /-- The module is no package. -/
  | closed
  /-- The directory of a package. -/
  | package (directory : Location)
  /-- The directories that make up a package without a file of its own, as they were found last. They are
  looked for again whenever they are needed, as the import path may have grown. -/
  | portions (directories : List Location)
  deriving DecidableEq

/-- A module that has been run, or is being run. -/
structure LoadedModule where
  attributes : List (String × Entity) := []
  searchPath : SearchPath := .closed

/-- The module files, the import path, and the modules: all that were ever begun, in order, and the
numbers of those that have a name. -/
structure ModuleRegistry where
  contents : List (Location × ModuleFile) := []
  importPath : List Location := []
  modules : List LoadedModule := []
  names : List (String × Nat) := []

/-- The attributes that a module has from the start, with the classes of their values. Those made from a
file have all of them, packages without a file only the first ones. -/
def LoadedModule.given : List (String × String) :=
  [("__name__", "str"), ("__package__", "str"), ("__loader__", "object"), ("__spec__", "ModuleSpec"),
    ("__file__", "str"), ("__cached__", "str"), ("__builtins__", "dict")]

namespace LoadedModule

/-- A new module. -/
def begin (searchPath : SearchPath) : LoadedModule :=
  let names :=
    match searchPath with
    | .portions _ => given.take 5
    | _ => given
  let package :=
    match searchPath with
    | .closed => []
    | _ => [("__path__", Entity.constant "list")]
  { attributes :=
      ("__doc__", .nothing) :: names.map (fun (name, className) => (name, .constant className)) ++ package
    searchPath := searchPath }

/-- The module with a name bound. -/
def define (m : LoadedModule) (name : String) (entity : Entity) : LoadedModule :=
  { m with attributes := (name, entity) :: m.attributes }

/-- What the module itself has bound a name to. -/
def own? (m : LoadedModule) (name : String) : Option Entity := m.attributes.lookup name

/-- What an attribute of the module is. Its class and its table of names cannot be redefined; methods
count only where the module itself has nothing of that name. For what is missing the module may have a
function of its own, and that may fail. -/
def attribute? (m : LoadedModule) (name : String) : Except Fault (Option Entity) :=
  if name = "__class__" then .ok (some .moduleClass)
  else if name = "__dict__" then .ok (some (.constant "dict"))
  else
    match m.own? name with
    | some entity => .ok (some entity)
    | none =>
      if Entity.methodNames.contains name then .ok (some (.method name))
      else if name = "__annotations__" then .ok (some (.constant "dict"))
      else
        match m.own? "__getattr__" with
        | some fallback => (fallback.call 1).map fun response => some (.ofResponse response)
        | none => .ok none

end LoadedModule

namespace ModuleRegistry

/-- The number of a module that has a name. -/
def number? (registry : ModuleRegistry) (name : String) : Option Nat := registry.names.lookup name

def module? (registry : ModuleRegistry) (number : Nat) : Option LoadedModule :=
  registry.modules[number]?

/-- What an attribute of a module is. -/
def attribute? (registry : ModuleRegistry) (number : Nat) (name : String) :
    Except Fault (Option Entity) :=
  match registry.module? number with
  | some m => m.attribute? name
  | none => .ok none

/-- A new module, not named yet, with its number. -/
def add (registry : ModuleRegistry) (searchPath : SearchPath) : Nat × ModuleRegistry :=
  (registry.modules.length,
    { registry with modules := registry.modules ++ [LoadedModule.begin searchPath] })

/-- Gives a module a name. -/
def assign (registry : ModuleRegistry) (name : String) (number : Nat) : ModuleRegistry :=
  { registry with names := (name, number) :: registry.names }

/-- Takes a name away. -/
def forget (registry : ModuleRegistry) (name : String) : ModuleRegistry :=
  { registry with names := registry.names.filter (·.1 ≠ name) }

/-- Changes a module. -/
def update (registry : ModuleRegistry) (number : Nat) (change : LoadedModule → LoadedModule) :
    ModuleRegistry :=
  { registry with modules := registry.modules.modify number change }

/-- What running a module file does. A file the host says nothing about defines nothing. -/
def contentOf (registry : ModuleRegistry) (location : Location) : ModuleFile :=
  (registry.contents.lookup location).getD {}

/-- Puts a directory at the front of the import path, unless it is on it. -/
def addImportDirectory (registry : ModuleRegistry) (directory : Location) : ModuleRegistry :=
  if registry.importPath.contains directory then registry
  else { registry with importPath := directory :: registry.importPath }

end ModuleRegistry

end GlslCompiler

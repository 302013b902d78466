import GlslCompiler.Converter.ModuleSource

/-!
# Importing modules

A dotted name is imported part by part, first along the import path and then along the search path of
the package found so far, and a submodule is bound in its package when it has been run. A module that is
being run has its name already, so that modules can import each other.
-/

namespace GlslCompiler

/-- Why a module could not be imported. -/
inductive ImportProblem where
  | noModule (name : String)
  /-- A submodule was asked of a module that is not a package. -/
  | notPackage (name parent : String)
  /-- The package above one without a file of its own has lost its name. -/
  | lostPackage (name : String)
  | file (error : FileError)
  /-- Stored code begins with the wrong bytes. -/
  | wrongCode (name : String) (opening : Bytes)
  /-- A shared library was refused. -/
  | library (path reason : String)
  | fault (fault : Fault)
  | emptyName
  | relativeName (name : String)

namespace ImportProblem

/-- The message of a problem of loading; `none` for the problems that are not. -/
def loadMessage? : ImportProblem → Option String
  | .noModule name => some ("No module named " ++ Text.quoted name)
  | .notPackage name parent =>
    some ("No module named " ++ Text.quoted name ++ "; " ++ Text.quoted parent
      ++ " is not a package")
  | .file error => if error.isSystem then some error.message else none
  | .wrongCode name opening =>
    some ("bad magic number in " ++ Text.quoted name ++ ": " ++ Text.quotedBytes opening)
  | .library path reason => some (path ++ ": " ++ reason)
  | .fault f => if f.isLoading then some f.message else none
  | .lostPackage _ => none
  | .emptyName => none
  | .relativeName _ => none

/-- The problem as a fault that goes past the loader. -/
def asFault : ImportProblem → Fault
  | .fault f => f
  | .lostPackage name => .raised "KeyError" (Text.quoted name)
  | .emptyName => .raised "ValueError" "Empty module name"
  | .relativeName name =>
    .ofType ("the 'package' argument is required to perform a relative import for "
      ++ Text.quoted name)
  | .file error => .raised (if error.isSystem then "OSError" else "ValueError") error.message
  | problem => .raised "ImportError" (problem.loadMessage?.getD "")

end ImportProblem

namespace ModuleName

/-- The parts of a module name between its dots, last part first. -/
def reversedParts (name : String) : List String := (name.splitOn ".").reverse

/-- A name cut at its last dot. -/
def split (name : String) : Option String × String :=
  match reversedParts name with
  | [] => (none, name)
  | [last] => (none, last)
  | last :: above => (some (".".intercalate above.reverse), last)

/-- The part of a name before its first dot. -/
def top (name : String) : String := String.ofList (name.toList.takeWhile (· ≠ '.'))

end ModuleName

namespace ModuleRegistry

/-- Where the submodules of a named module are looked for, `none` if it is no package. The name is given
by its parts, last part first; without parts it is the import path. -/
def searchPath (registry : ModuleRegistry) (tree : FileTree) :
    List String → Except ImportProblem (Option (List Location))
  | [] => .ok (some registry.importPath)
  | last :: above =>
    let name := ".".intercalate (last :: above).reverse
    match (registry.number? name).bind registry.module? with
    | none => .error (.lostPackage name)
    | some m =>
      match m.searchPath with
      | .closed => .ok none
      | .package directory => .ok (some [directory])
      | .portions found =>
        match registry.searchPath tree above with
        | .error problem => .error problem
        | .ok above? =>
          match tree.findModule? last (above?.getD []) with
          | some (.directories directories) => .ok (some directories)
          | _ => .ok (some found)

end ModuleRegistry

/-- A step of importing. What it has done to the registry stays when it fails. -/
abbrev Importing (α : Type) := ExceptT ImportProblem (StateM ModuleRegistry) α

namespace Importing

/-- Binds a name in a module. -/
def define (number : Nat) (name : String) (entity : Entity) : Importing Unit :=
  modify fun registry => registry.update number (·.define name entity)

/-- Records where the directories of a package without a file of its own were found. -/
def recordPortions (name : String) (directories : List Location) : Importing Unit :=
  modify fun registry =>
    match registry.number? name with
    | some number => registry.update number fun m =>
      match m.searchPath with
      | .portions _ => { m with searchPath := .portions directories }
      | _ => m
    | none => registry

/-- Where the submodules of a package are looked for. A module that has redefined its search path as
nothing is looked at like the import path; anything else cannot be gone through. -/
def packagePath (tree : FileTree) (name parent : String) : Importing (List Location) := do
  let registry ← get
  let some m := (registry.number? parent).bind registry.module? | throw (.lostPackage parent)
  match m.attribute? "__path__" with
  | .error fault => throw (.fault fault)
  | .ok none => throw (.notPackage name parent)
  | .ok (some .nothing) => return registry.importPath
  | .ok (some (.constant "str")) => return []
  | .ok (some (.constant "list")) =>
    match registry.searchPath tree (ModuleName.reversedParts parent) with
    | .error problem => throw problem
    | .ok none => throw (.notPackage name parent)
    | .ok (some directories) =>
      recordPortions parent directories
      return directories
  | .ok (some entity) =>
    throw (.fault (.ofType ("'" ++ entity.className ++ "' object is not iterable")))

/-- The fault that a module raises under the name of a class. The module's own names come first; what it
has bound to something else is called all the same, and only then found to be no fault. -/
def raise (number : Nat) (className message : String) : Importing Unit := do
  let name := ModuleName.top (Text.normalForm className)
  match ((← get).module? number).bind (·.own? name) with
  | none => throw (.fault (.ofName name message))
  | some entity =>
    match entity.call 1 with
    | .error fault => throw (.fault fault)
    | .ok _ => throw (.fault (.ofType "exceptions must derive from BaseException"))

/-- The first bytes of stored code, by which it is recognised. -/
def openingLength : Nat := 4

/-- The length of the header of a shared library. -/
def libraryHeaderLength : Nat := 64

/-- Refuses a shared library. -/
def refuseLibrary (path : String) (content : Except FileError Bytes) : ImportProblem :=
  match content with
  | .ok bytes =>
    .library path (if bytes.length < libraryHeaderLength then "file too short" else "invalid ELF header")
  | .error error =>
    if !error.isSystem then .file error
    else if error.problem = .isDirectory then
      .library path ("cannot read file data: " ++ error.problem.wording)
    else .library path ("cannot open shared object file: " ++ error.problem.wording)

/-- Runs the definitions of a module, and then the fault it raises. -/
def runDefinitions (content : ModuleFile) (number : Nat) : Importing Unit := do
  for (name, kind) in content.attributes do
    for (bound, entity) in Entity.definitions name kind do
      define number bound entity
  match content.raises with
  | some (className, message) => raise number className message
  | none => pure ()

mutual

/-- Imports a module by name and gives its number. The fuel bounds the nesting of imports. -/
def importName (tree : FileTree) : Nat → String → Importing Nat
  | 0, name => throw (.noModule name)
  | fuel + 1, name => do
    match (← get).number? name with
    | some number => return number
    | none =>
      match ModuleName.split name with
      | (none, last) => load tree fuel name last (← get).importPath
      | (some parent, last) =>
        unless ((← get).number? parent).isSome do discard <| importName tree fuel parent
        match (← get).number? name with
        | some number => return number
        | none =>
          let number ← load tree fuel name last (← packagePath tree name parent)
          match (← get).number? parent with
          | some above => define above last (.module number)
          | none => pure ()
          return number

/-- Finds a module along a search path and runs it under its name. -/
def load (tree : FileTree) : Nat → String → String → List Location → Importing Nat
  | 0, name, _, _ => throw (.noModule name)
  | fuel + 1, name, last, searchPath => do
    match tree.findModule? last searchPath with
    | none => throw (.noModule name)
    | some (.directories directories) =>
      let (number, registry) := (← get).add (.portions directories)
      set (registry.assign name number)
      return number
    | some (.file location format searchPath) =>
      let (number, registry) := (← get).add searchPath
      set (registry.assign name number)
      let path := "/" ++ "/".intercalate location
      try
        runFile tree fuel name path location format number
      catch problem =>
        modify (·.forget name)
        throw problem
      return number

/-- Runs the file of a module. -/
def runFile (tree : FileTree) :
    Nat → String → String → Location → ModuleFormat → Nat → Importing Unit
  | 0, _, _, _, _, _ => pure ()
  | fuel + 1, name, path, location, format, number => do
    let content := tree.read "/" path
    match format, content with
    | .library, content => throw (refuseLibrary path content)
    | _, .error error => throw (.file error)
    | .compiled, .ok bytes => throw (.wrongCode name (bytes.take openingLength))
    | .source, .ok _ =>
      let content := (← get).contentOf location
      match content.imports with
      | some imported =>
        let imported := Text.normalForm imported
        let found ← importName tree fuel imported
        let top := ModuleName.top imported
        let bound ← if top = imported then pure found else importName tree fuel top
        define number top (.module bound)
      | none => pure ()
      runDefinitions content number

end

/-- Enough fuel for every import. Modules in progress have different names, each the beginning of a name
that is imported somewhere, and between two of them stand at most as many steps as a name has parts. -/
def fuelFor (registry : ModuleRegistry) (name : String) : Nat :=
  let lengths := registry.contents.map fun (_, content) => (content.imports.getD "").length + 2
  let total := lengths.foldr (· + ·) 0 + name.length + 2
  4 * total * total

end Importing

end GlslCompiler

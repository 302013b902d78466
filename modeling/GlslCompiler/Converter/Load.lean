import GlslCompiler.Converter.Basic
import GlslCompiler.Converter.Import

/-!
# Converter references

A reference names a module and an attribute of it, `convert` if none is given. A module is named by a
file path, if the name ends in `.py` or holds a slash, and otherwise by its import name. The attribute
may be a converter object, a class of converters, a module with a converter function, or anything that
can be called.
-/

namespace GlslCompiler

/-- A reference cut into module and attribute. -/
structure ConverterReference where
  moduleName : String
  attributeName : String
  deriving DecidableEq

namespace ConverterReference

/-- The attribute that a reference without one means. -/
def defaultAttribute : String := "convert"

/-- Cuts a reference at its last colon. Without a module before the colon the whole reference names the
module. -/
def parse (reference : String) : ConverterReference :=
  let cs := reference.toList.reverse
  let name := (cs.takeWhile (· ≠ ':')).reverse
  match cs.dropWhile (· ≠ ':') with
  | _ :: front =>
    if front.isEmpty then ⟨reference, defaultAttribute⟩
    else ⟨String.ofList front.reverse, String.ofList name⟩
  | [] => ⟨reference, defaultAttribute⟩

/-- Whether the module is named by a path. -/
def isPath (reference : ConverterReference) : Bool :=
  reference.moduleName.endsWith ".py" || reference.moduleName.toList.contains '/'

end ConverterReference

/-- A converter that a reference resolves to. -/
structure LoadedConverter where
  /-- The class of the converter; a function is wrapped in a class for functions. -/
  className : String
  /-- What is logged about it. -/
  notice : String
  /-- What a conversion gives. -/
  response : Except Fault Response

namespace LoadedConverter

/-- What a conversion gives that is not scripted: no result of a conversion, but an accident. -/
def accident : Fault :=
  .raised "AttributeError" "'str' object has no attribute 'messages'"

/-- The converter, where the host's script is `scripted`. -/
def converter {σ : Type} (scripted : Converter σ) (loaded : LoadedConverter) : Converter σ :=
  match loaded.response with
  | .ok .scripted => scripted
  | .ok _ => { convert := fun _ state => (.crashed accident, state), retain := fun _ state => state }
  | .error fault => { convert := fun _ state => (.crashed fault, state), retain := fun _ state => state }

end LoadedConverter

/-- Why a reference gives no converter: it cannot be resolved, or a fault went past the loader. -/
inductive LoadFailure where
  | unresolved (message : String)
  | escaped (fault : Fault)

namespace ConverterReference

/-- The number of arguments a converter is called with. -/
def argumentCount : Nat := 4

/-- The converter that is an object of a class. -/
def objectConverter (reference : ConverterReference) (className : String)
    (response : Except Fault Response) : LoadedConverter :=
  { className := className
    notice := "Using converter " ++ className ++ " from " ++ reference.moduleName
    response := response }

/-- The converter that wraps something that can be called. -/
def functionConverter (reference : ConverterReference) (response : Except Fault Response) :
    LoadedConverter :=
  { className := "FunctionConverter"
    notice := "Using convert function " ++ reference.attributeName ++ " from " ++ reference.moduleName
    response := response }

/-- Makes a converter of what an attribute stands for. Classes are instantiated first. -/
def convertEntity (reference : ConverterReference) (registry : ModuleRegistry) (entity : Entity) :
    Except LoadFailure LoadedConverter :=
  let refused : Except LoadFailure LoadedConverter :=
    .error (.unresolved
      ("'" ++ reference.attributeName ++ "' in '" ++ reference.moduleName ++ "' is not a converter"))
  match entity with
  | .function _ => .ok (reference.functionConverter (entity.call argumentCount))
  | .hook => .ok (reference.functionConverter (entity.call argumentCount))
  | .method _ => .ok (reference.functionConverter (entity.call argumentCount))
  | .callableClass _ label => .ok (reference.functionConverter (.ok (.label label)))
  | .converterClass name label => .ok (reference.objectConverter name (.ok (.label label)))
  | .converterObject className label => .ok (reference.objectConverter className (.ok (.label label)))
  | .classWithArguments _ =>
    match entity.call 0 with
    | .error fault => .error (.escaped fault)
    | .ok _ => refused
  | .moduleClass =>
    match entity.call 0 with
    | .error fault => .error (.escaped fault)
    | .ok _ => refused
  | .plainClass _ => refused
  | .constant _ => refused
  | .nothing => refused
  | .module number =>
    match registry.attribute? number defaultAttribute with
    | .error fault => .error (.escaped fault)
    | .ok none => refused
    | .ok (some .nothing) => refused
    | .ok (some entity) => .ok (reference.objectConverter "module" (entity.call argumentCount))

/-- The name of the module that a file holds: the file's name without its last ending. -/
def moduleNameOf (path : String) : String :=
  let name := (Path.fileName path).toList.reverse
  match name.dropWhile (· ≠ '.') with
  | _ :: front =>
    if front.all (· == '.') then Path.fileName path else String.ofList front.reverse
  | [] => Path.fileName path

/-- Runs the module of a path reference and gives its number, which has no name; `none` if the file is no
module. Its directory stays on the import path, so that the modules beside it can be imported. -/
def loadPath (tree : FileTree) (workingDirectory path : String) : Importing (Option Nat) := do
  let absolute := Path.absolute workingDirectory path
  let location := FileTree.locationOf workingDirectory path
  modify (·.addImportDirectory (FileTree.locationOf workingDirectory (Path.directory absolute)))
  match ModuleFormat.ofFileName? absolute with
  | none => return none
  | some format =>
    let (number, registry) := (← get).add .closed
    set registry
    Importing.runFile tree (Importing.fuelFor registry path) (moduleNameOf absolute) absolute location
      format number
    return some number

/-- Imports the module of a name reference and gives its number. -/
def loadName (tree : FileTree) (name : String) : Importing Nat := do
  if name = "" then throw .emptyName
  else if name.startsWith "." then throw (.relativeName name)
  else Importing.importName tree (Importing.fuelFor (← get) name) name

/-- Loads the module of a reference. -/
def loadModule (reference : ConverterReference) (tree : FileTree) (workingDirectory : String) :
    Importing (Option Nat) := do
  if reference.isPath then loadPath tree workingDirectory reference.moduleName
  else return some (← loadName tree reference.moduleName)

/-- The failure that an import problem amounts to. -/
def importFailure (reference : ConverterReference) (problem : ImportProblem) : LoadFailure :=
  match problem.loadMessage? with
  | some message =>
    .unresolved ("Failed to import converter module '" ++ reference.moduleName ++ "': " ++ message)
  | none => .escaped problem.asFault

/-- Picks the attribute out of a loaded module. -/
def pick (reference : ConverterReference) (registry : ModuleRegistry) (number : Nat) :
    Except LoadFailure LoadedConverter :=
  match registry.attribute? number reference.attributeName with
  | .error fault => .error (.escaped fault)
  | .ok (some entity) => reference.convertEntity registry entity
  | .ok none =>
    .error (.unresolved
      ("'" ++ reference.attributeName ++ "' not found in converter module '" ++ reference.moduleName ++ "'"))

end ConverterReference

/-- Resolves a converter reference. -/
def loadConverter (tree : FileTree) (workingDirectory reference : String)
    (registry : ModuleRegistry) : Except LoadFailure LoadedConverter × ModuleRegistry :=
  let reference := ConverterReference.parse reference
  match (reference.loadModule tree workingDirectory).run.run registry with
  | (.error problem, registry) => (.error (reference.importFailure problem), registry)
  | (.ok none, registry) =>
    (.error (.unresolved ("Could not load module from " ++ reference.moduleName)), registry)
  | (.ok (some number), registry) => (reference.pick registry number, registry)

end GlslCompiler

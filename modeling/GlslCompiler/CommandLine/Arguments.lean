import GlslCompiler.CommandLine.Command
import GlslCompiler.Text.Integer

/-!
# Arguments

The words of a command line are options and operands in any order. A long option takes its value from
behind an equals sign or from the next word, a short option from the rest of its own word or from the
next; a lone double dash makes everything after it an operand. A word that is no known option is a
usage error, whatever else the line says.
-/

namespace GlslCompiler

/-- An option of a command. -/
structure OptionSpec where
  long : String
  short : Option Char := none
  takesValue : Bool := true

/-- The options found, in order, and the operands. A flag has an empty value. -/
structure Arguments where
  options : List (String × String) := []
  operands : List String := []

namespace Arguments

/-- Whether a word is read as an option. -/
def isOption (word : String) : Bool :=
  match word.toList with
  | '-' :: _ :: _ => true
  | _ => false

/-- A word cut at its first equals sign. -/
def cutValue (word : String) : String × Option String :=
  let cs := word.toList
  match cs.dropWhile (· ≠ '=') with
  | [] => (word, none)
  | _ :: value => (String.ofList (cs.takeWhile (· ≠ '=')), some (String.ofList value))

/-- How an option word is understood. -/
inductive Reading where
  | complete (name value : String)
  /-- The value is the next word. -/
  | needsValue (name : String)
  | refused

/-- Understands an option word. A word with two dashes is only ever a long option. -/
def readOption (specs : List OptionSpec) (word : String) : Reading :=
  let (name, value?) := cutValue word
  match specs.find? (·.long = name) with
  | some spec =>
    match spec.takesValue, value? with
    | true, some value => .complete spec.long value
    | true, none => .needsValue spec.long
    | false, some _ => .refused
    | false, none => .complete spec.long ""
  | none =>
    match word.toList with
    | '-' :: '-' :: _ => .refused
    | '-' :: letter :: attached =>
      match specs.find? (·.short = some letter) with
      | some spec =>
        if attached.isEmpty then .needsValue spec.long
        else .complete spec.long (String.ofList attached)
      | none => .refused
    | _ => .refused

/-- Reads the words of a command; `none` is a usage error. -/
def parse (specs : List OptionSpec) : List String → Option Arguments
  | [] => some {}
  | "--" :: rest => some { operands := rest }
  | word :: rest =>
    if isOption word then
      match readOption specs word with
      | .refused => none
      | .complete name value =>
        (parse specs rest).map fun a => { a with options := (name, value) :: a.options }
      | .needsValue name =>
        match rest with
        | [] => none
        | value :: rest =>
          (parse specs rest).map fun a => { a with options := (name, value) :: a.options }
    else (parse specs rest).map fun a => { a with operands := word :: a.operands }

/-- The value of an option; the last one given counts. -/
def value? (arguments : Arguments) (name : String) : Option String :=
  arguments.options.reverse.lookup name

def valueOr (arguments : Arguments) (name default : String) : String :=
  (arguments.value? name).getD default

def hasFlag (arguments : Arguments) (name : String) : Bool := (arguments.value? name).isSome

end Arguments

namespace Command

/-- The options that `compile` and `watch` share. -/
def buildSpecs : List OptionSpec := [
  { long := "--converter", short := some 'c' },
  { long := "--stage", short := some 's' },
  { long := "--platform", short := some 'p' },
  { long := "--profile" },
  { long := "--entry", short := some 'e' },
  { long := "--no-entry", takesValue := false },
  { long := "--render-targets" },
  { long := "--output", short := some 'o' },
  { long := "--no-optimize", takesValue := false }]

def compileSpecs : List OptionSpec :=
  buildSpecs ++ [{ long := "--print-text", takesValue := false }]

def inspectSpecs : List OptionSpec :=
  [{ long := "--dual", takesValue := false }, { long := "--single", takesValue := false }]

/-- A path given as a value; a path cannot hold the NUL character. -/
def path? (value : String) : Option String := if value.toList.contains '\x00' then none else some value

/-- The options of a build command: one source file and a converter are required. -/
def buildOptions? (arguments : Arguments) : Option BuildOptions := do
  let [sourceFile] := arguments.operands | none
  let converter ← arguments.value? "--converter"
  let renderTargets ←
    match arguments.value? "--render-targets" with
    | some text => Text.integer? text
    | none => some 1
  let output ←
    match arguments.value? "--output" with
    | some path => (path? path).map some
    | none => some none
  return {
    sourceFile := sourceFile
    converter := converter
    stage := arguments.valueOr "--stage" "pixel"
    platform := arguments.valueOr "--platform" "opengl"
    profile := arguments.valueOr "--profile" "10_0"
    entryPoint :=
      if arguments.hasFlag "--no-entry" then none else some (arguments.valueOr "--entry" "main")
    renderTargets := renderTargets
    output := output
    noOptimize := arguments.hasFlag "--no-optimize"
    printText := arguments.hasFlag "--print-text" }

/-- The layout asked for last. -/
def layoutOf (arguments : Arguments) : ArtifactLayout :=
  match arguments.options.getLast? with
  | some (name, _) => if name = "--dual" then .dual else .single
  | none => .detect

def inspectCommand? (arguments : Arguments) : Option Command := do
  let [artifactFile] := arguments.operands | none
  return .inspect (← path? artifactFile) (layoutOf arguments)

/-- Understands the words after a command's name; `none` is a usage error. -/
def parseNamed (name : String) (words : List String) : Option Command :=
  match name with
  | "compile" => ((Arguments.parse compileSpecs words).bind buildOptions?).map .compile
  | "inspect" => (Arguments.parse inspectSpecs words).bind inspectCommand?
  | "watch" => ((Arguments.parse buildSpecs words).bind buildOptions?).map .watch
  | _ => none

/-- Understands a command line. A double dash may stand before the command's name. -/
def parse : List String → Option Command
  | "--" :: name :: words => parseNamed name words
  | name :: words => parseNamed name words
  | [] => none

end Command

end GlslCompiler

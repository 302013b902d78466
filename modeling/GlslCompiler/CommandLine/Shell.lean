import GlslCompiler.CommandLine.Manifest
import GlslCompiler.Converter.Load

/-!
# The shell of a command

What commands read and change: the working directory, the modules and collaborators, and a console with
two streams and a log. A command is a pure action on this state; an outer layer shows the console, in the
way of the terminal it has, and carries the files over to the disk.
-/

namespace GlslCompiler

inductive LogLevel where
  | info
  | warning
  | error
  deriving DecidableEq

def LogLevel.name : LogLevel → String
  | .info => "INFO"
  | .warning => "WARNING"
  | .error => "ERROR"

structure LogEntry where
  level : LogLevel
  message : String
  deriving DecidableEq

/-- The texts that a command has given out to be shown, each on lines of its own, and its log. -/
structure Console where
  output : List String := []
  errors : List String := []
  log : List LogEntry := []

namespace Console

/-- Gives a text out to the output stream. -/
def print (console : Console) (text : String) : Console :=
  { console with output := console.output ++ [text] }

/-- Gives a text out to the error stream. -/
def printError (console : Console) (text : String) : Console :=
  { console with errors := console.errors ++ [text] }

/-- Gives texts out to the output stream. -/
def printAll (console : Console) (texts : List String) : Console := texts.foldl print console

/-- Prints diagnostics, errors to the error stream. -/
def report (console : Console) (diagnostics : Diagnostics) : Console :=
  diagnostics.foldl
    (fun console d => if d.isError then console.printError d.text else console.print d.text) console

/-- Adds a line to the log. -/
def note (console : Console) (level : LogLevel) (message : String) : Console :=
  { console with log := console.log ++ [⟨level, message⟩] }

/-- Logs every warning among diagnostics. -/
def noteWarnings (console : Console) (diagnostics : Diagnostics) : Console :=
  diagnostics.warnings.foldl (fun console d => console.note .warning d.text) console

end Console

/-- Something that ends a command by going through all of it. -/
inductive Uncaught where
  | file (error : FileError)
  /-- A source is not valid UTF-8. -/
  | undecodableSource
  | compilation (escape : Escape)
  | loading (fault : Fault)

/-- How a command ends other than by success. -/
inductive Stop where
  | failed
  | usage
  | uncaught (cause : Uncaught)

/-- What commands are run with and do not change. -/
structure Host (σ ε : Type) where
  workingDirectory : String
  /-- The present moment, as the clock writes it. -/
  now : String
  /-- The converter behind the functions that modules leave to the host. -/
  converter : Converter σ
  /-- The engine that programs share, unless optimization is switched off. -/
  engine : Option (Engine ε)

/-- What commands change. -/
structure Shell (σ ε : Type) where
  files : FileTree
  modules : ModuleRegistry
  session : Session σ ε
  console : Console := {}

/-- A step of a command. -/
abbrev Action (σ ε α : Type) := ExceptT Stop (StateM (Shell σ ε)) α

namespace Shell

variable {σ ε : Type}

/-- Changes the console. -/
def onConsole (change : Console → Console) : Action σ ε Unit :=
  modify fun shell => { shell with console := change shell.console }

/-- Adds a line to the log. -/
def log (level : LogLevel) (message : String) : Action σ ε Unit := onConsole (·.note level message)

/-- Runs a file operation that changes the tree. -/
def changeFiles (operation : FileTree → Except FileError FileTree) : Action σ ε Unit := do
  match operation (← get).files with
  | .ok files => modify fun shell => { shell with files := files }
  | .error error => throw (.uncaught (.file error))

end Shell

end GlslCompiler

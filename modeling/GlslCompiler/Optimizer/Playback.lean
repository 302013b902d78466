import GlslCompiler.Optimizer.Native

/-!
# Engines that play back prepared answers

Two stand-ins for what lies outside this library: an engine that follows a script, and a host whose
loader and library give fixed answers.
-/

namespace GlslCompiler

/-- What a scripted engine gives as output. -/
inductive ScriptedOutput where
  | nothing
  | text (text : String)
  /-- The submitted source with a text in front. -/
  | prefixed (front : String)

/-- The faults of a scripted engine, by call. -/
structure ScriptedFaults where
  createContext : Option Fault := none
  optimize : Option Fault := none
  status : Option Fault := none
  output : Option Fault := none
  deleteShader : Option Fault := none
  cleanup : Option Fault := none

/-- How a scripted engine behaves from one context creation to the next. -/
structure ScriptedRun where
  status : Bool := true
  output : ScriptedOutput := .nothing
  faults : ScriptedFaults := {}

/-- The rest of a script, its current entry and the source last submitted. The last entry is never used
up. -/
structure ScriptState where
  current : ScriptedRun := {}
  upcoming : List ScriptedRun := []
  submitted : String := ""

namespace Playback

/-- Raises the prepared fault, or answers. -/
def answer {α : Type} (fault : Option Fault) (value : α) (s : ScriptState) :
    Except Fault α × List LibraryEvent × ScriptState :=
  match fault with
  | some fault => (.error fault, [], s)
  | none => (.ok value, [], s)

/-- The script as the next context creation finds it. -/
def advance (s : ScriptState) : ScriptState :=
  match s.upcoming with
  | [] => s
  | [last] => { s with current := last }
  | next :: rest => { s with current := next, upcoming := rest }

/-- The engine that follows a script. -/
def engine : Engine ScriptState where
  createContext _ := fun s =>
    let s := advance s
    answer s.current.faults.createContext (some 1) s
  optimize _ _ source _ := fun s =>
    answer s.current.faults.optimize (some 1) { s with submitted := source }
  status _ := fun s => answer s.current.faults.status s.current.status s
  output _ := fun s =>
    let text :=
      match s.current.output with
      | .nothing => none
      | .text text => some text
      | .prefixed front => some (front ++ s.submitted)
    answer s.current.faults.output text s
  deleteShader _ := fun s => answer s.current.faults.deleteShader () s
  cleanup _ := fun s => answer s.current.faults.cleanup () s

end Playback

/-- The fixed answers of a loader and a library. -/
structure FixedHost where
  found : Option String := none
  loadError : Option String := none
  context : Handle := some 11
  shader : Handle := some 22
  status : Bool := true
  output : Option Bytes := none

/-- The host with fixed answers. -/
def FixedHost.host (fixed : FixedHost) : NativeHost Unit where
  findLibrary _ := fun s => (fixed.found, s)
  load _ := fun s =>
    match fixed.loadError with
    | some message => (.error (.refused message), s)
    | none => (.ok 0, s)
  lookUp _ _ := fun s => (.ok (), s)
  createContext _ _ := fun s => (fixed.context, s)
  optimize _ _ _ _ _ := fun s => (fixed.shader, s)
  status _ _ := fun s => (fixed.status, s)
  output _ _ := fun s => (fixed.output, s)
  deleteShader _ _ := fun s => s
  cleanup _ _ := fun s => s

end GlslCompiler

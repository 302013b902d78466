import GlslCompiler.Optimizer.Engine

/-!
# The native engine

The engine behind which a shared library does the work. The library is looked for, loaded and set up at
the first call that needs it; what fails on the way is not remembered, so the next call begins anew, and
only when the set-up is complete is the library kept and the loader never asked again. Program texts
cross the border as ASCII.
-/

namespace GlslCompiler

/-- A loaded library as the loader names it. -/
abbrev Library := Nat

/-- Why a library was not loaded: the system refused to, with a message, or the path was not even one
that could be handed to the system. -/
inductive LibraryFailure where
  | refused (message : String)
  | unusable (fault : Fault)
  deriving DecidableEq

/-- The dynamic loader and the functions of the libraries it has loaded, with states in `η`. -/
structure NativeHost (η : Type) where
  findLibrary (name : String) : η → Option String × η
  load (path : String) : η → Except LibraryFailure Library × η
  /-- Looks up a function in a library; one that is missing comes with the loader's message. -/
  lookUp (library : Library) (function : String) : η → Except String Unit × η
  createContext (library : Library) (target : Int) : η → Handle × η
  optimize (library : Library) (context : Handle) (shaderType : Int) (source : Bytes) (options : Int) :
    η → Handle × η
  status (library : Library) (shader : Handle) : η → Bool × η
  output (library : Library) (shader : Handle) : η → Option Bytes × η
  deleteShader (library : Library) (shader : Handle) : η → η
  cleanup (library : Library) (context : Handle) : η → η

namespace Native

/-- The name under which the library is looked for. -/
def libraryName : String := "glsl_optimizer"

/-- The functions of the library, in the order in which they are looked up. -/
def functionNames : List String :=
  ["glslopt_initialize", "glslopt_optimize", "glslopt_get_status", "glslopt_get_output",
    "glslopt_shader_delete", "glslopt_cleanup"]

/-- The library once it has been loaded and set up, and the host's state. -/
structure State (η : Type) where
  library : Option Library := none
  host : η

/-- The path to load from: the configured one, or what the loader finds. -/
def locate {η : Type} (host : NativeHost η) (libraryPath : Option String) (s : η) :
    Option String × List LibraryEvent × η :=
  match libraryPath.filter (!·.isEmpty) with
  | some path => (some path, [], s)
  | none =>
    let (found, s) := host.findLibrary libraryName s
    (found.filter (!·.isEmpty), [.findLibrary libraryName], s)

/-- Looks up functions one after the other, up to the first that is missing. -/
def lookUpAll {η : Type} (host : NativeHost η) (library : Library) :
    List String → η → Except Fault Unit × η
  | [], s => (.ok (), s)
  | function :: rest, s =>
    match host.lookUp library function s with
    | (.ok _, s) => lookUpAll host library rest s
    | (.error message, s) => (.error (.raised "AttributeError" message), s)

/-- Loads a library and sets it up. Only the system's refusal means that there is no optimizer. -/
def loadFrom {η : Type} (host : NativeHost η) (path : String) (s : η) : Except Fault Library × η :=
  match host.load path s with
  | (.error (.refused message), s) =>
    (.error (.unavailable ("Failed to load " ++ path ++ ": " ++ message)), s)
  | (.error (.unusable fault), s) => (.error fault, s)
  | (.ok library, s) =>
    match lookUpAll host library functionNames s with
    | (.error fault, s) => (.error fault, s)
    | (.ok _, s) => (.ok library, s)

/-- The library, loaded if need be. -/
def obtain {η : Type} (host : NativeHost η) (libraryPath : Option String) :
    EngineAction (State η) Library := fun s =>
  match s.library with
  | some library => (.ok library, [], s)
  | none =>
    match locate host libraryPath s.host with
    | (none, events, h) =>
      (.error (.unavailable ("Could not locate the " ++ libraryName ++ " library")), events,
        { s with host := h })
    | (some path, events, h) =>
      match loadFrom host path h with
      | (.ok library, h) => (.ok library, events ++ [.load path], ⟨some library, h⟩)
      | (.error fault, h) => (.error fault, events ++ [.load path], { s with host := h })

/-- Calls a library function, loading the library first if need be. -/
def callLibrary {η α : Type} (host : NativeHost η) (libraryPath : Option String)
    (event : LibraryEvent) (function : Library → η → Except Fault α × η) : EngineAction (State η) α := fun s =>
  match obtain host libraryPath s with
  | (.error fault, events, s) => (.error fault, events, s)
  | (.ok library, events, s) =>
    let (answer, h) := function library s.host
    (answer, events ++ [event], { s with host := h })

/-- The engine over a host. An empty library path is the same as none. -/
def engine {η : Type} (host : NativeHost η) (libraryPath : Option String) : Engine (State η) where
  createContext target := callLibrary host libraryPath (.createContext target) fun library h =>
    let (context, h) := host.createContext library target h
    if context.isNull then
      (.error (.unavailable ("glslopt_initialize returned no context for target " ++ toString target)),
        h)
    else (.ok context, h)
  optimize context shaderType source options :=
    let bytes := Bytes.ofText source
    callLibrary host libraryPath (.optimize context shaderType bytes options) fun library h =>
      let (shader, h) := host.optimize library context shaderType bytes options h
      (.ok shader, h)
  status shader := callLibrary host libraryPath (.status shader) fun library h =>
    let (status, h) := host.status library shader h
    (.ok status, h)
  output shader := callLibrary host libraryPath (.output shader) fun library h =>
    let (output, h) := host.output library shader h
    (.ok (output.map Bytes.toText), h)
  deleteShader shader := fun s =>
    if shader.isNull then (.ok (), [], s)
    else
      callLibrary host libraryPath (.deleteShader shader)
        (fun library h => (.ok (), host.deleteShader library shader h)) s
  cleanup context :=
    callLibrary host libraryPath (.cleanup context) fun library h => (.ok (), host.cleanup library context h)

end Native

end GlslCompiler

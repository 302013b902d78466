import GlslCompiler.Converter.Raising
import GlslCompiler.Text.NormalForm

/-!
# What names in a module stand for

A module file defines functions, classes, objects and values. What a converter reference gets hold of is
one of these, another module, or something that every module has; this file says what comes of calling
each of them.
-/

namespace GlslCompiler

/-- What a module file defines under a name. -/
inductive AttributeKind where
  | function
  /-- A class whose objects convert. -/
  | converterClass
  /-- An object that converts. -/
  | converterObject
  /-- A class whose objects can be called but do not convert. -/
  | callableClass
  | plainClass
  /-- A class that cannot be instantiated without arguments. -/
  | classWithArguments
  /-- A value that neither converts nor can be called. -/
  | constant
  /-- The absence of a value. -/
  | nothing
  /-- The function that the host answers from a script. -/
  | hook
  deriving DecidableEq

/-- What a name stands for. A label is what a function or an object answers a conversion with. -/
inductive Entity where
  | function (label : String)
  | hook
  | converterClass (name label : String)
  | converterObject (className label : String)
  | callableClass (name label : String)
  | plainClass (name : String)
  | classWithArguments (name : String)
  | constant (className : String)
  | nothing
  /-- A module, by its number. -/
  | module (number : Nat)
  /-- The class of all modules. -/
  | moduleClass
  /-- A method that all modules have. -/
  | method (name : String)
  deriving DecidableEq

/-- What a call gives. -/
inductive Response where
  /-- A text. -/
  | label (text : String)
  /-- What the host's script answers. -/
  | scripted
  /-- A new object of the class that was called. -/
  | object (className : String)
  deriving DecidableEq

namespace Entity

/-- The names that a definition binds, in order. Names count in normal form, while the label is the name
as it was written. An object is made from a class that is bound too. -/
def definitions (name : String) (kind : AttributeKind) : List (String × Entity) :=
  let bound := Text.normalForm name
  match kind with
  | .function => [(bound, .function name)]
  | .converterClass => [(bound, .converterClass bound name)]
  | .converterObject =>
    [("_" ++ bound, .converterClass ("_" ++ bound) name),
      (bound, .converterObject ("_" ++ bound) name)]
  | .callableClass => [(bound, .callableClass bound name)]
  | .plainClass => [(bound, .plainClass bound)]
  | .classWithArguments => [(bound, .classWithArguments bound)]
  | .constant => [(bound, .constant "int")]
  | .nothing => [(bound, .nothing)]
  | .hook => [(bound, .hook)]

/-- The class of what a name stands for. -/
def className : Entity → String
  | .function _ => "function"
  | .hook => "function"
  | .converterObject name _ => name
  | .constant name => name
  | .nothing => "NoneType"
  | .module _ => "module"
  | .method _ => "builtin_function_or_method"
  | .converterClass _ _ => "type"
  | .callableClass _ _ => "type"
  | .plainClass _ => "type"
  | .classWithArguments _ => "type"
  | .moduleClass => "type"

/-- What was got from a call, none of which converts or can be called. -/
def ofResponse : Response → Entity
  | .label _ => .constant "str"
  | .scripted => .constant "ConversionResult"
  | .object className => .constant className

/-- Calls a class whose objects take no arguments. -/
def instantiate (name : String) (count : Nat) : Except Fault Response :=
  if count = 0 then .ok (.object name) else .error (.ofType (name ++ "() takes no arguments"))

/-- The methods of modules that take so many operands. -/
def operatorArity? (name : String) : Option Nat :=
  if ["__hash__", "__repr__", "__str__"].contains name then some 0
  else if ["__delattr__", "__eq__", "__ge__", "__getattribute__", "__gt__", "__le__", "__lt__",
      "__ne__"].contains name then some 1
  else none

/-- The methods of all modules. -/
def methodNames : List String :=
  ["__delattr__", "__dir__", "__eq__", "__format__", "__ge__", "__getattribute__", "__getstate__",
    "__gt__", "__hash__", "__init__", "__init_subclass__", "__le__", "__lt__", "__ne__", "__new__",
    "__reduce__", "__reduce_ex__", "__repr__", "__setattr__", "__sizeof__", "__str__",
    "__subclasshook__"]

/-- Calls a method of a module as a converter is called, which suits none of them. -/
def callMethod (name : String) (count : Nat) : Except Fault Response :=
  let given := "(" ++ toString count ++ " given)"
  match operatorArity? name with
  | some arity =>
    .error (.ofType ("expected " ++ toString arity ++ (if arity = 1 then " argument" else " arguments")
      ++ ", got " ++ toString count))
  | none =>
    if name = "__setattr__" then .error (.ofType (" expected 2 arguments, got " ++ toString count))
    else if name = "__format__" ∨ name = "__reduce_ex__" then
      .error (.ofType (name ++ "() takes exactly one argument " ++ given))
    else if name = "__init__" then .error (.ofType ("module() takes at most 2 arguments " ++ given))
    else if name = "__init_subclass__" then
      .error (.ofType ("module.__init_subclass__() takes no arguments " ++ given))
    else if name = "__new__" then
      .error (.ofType "module.__new__(X): X is not a type object (str)")
    else if name = "__subclasshook__" then .ok (.label "NotImplemented")
    else .error (.ofType (name ++ "() takes no arguments " ++ given))

/-- What comes of calling something with so many arguments. -/
def call (count : Nat) : Entity → Except Fault Response
  | .function label => .ok (.label label)
  | .hook => .ok .scripted
  | .converterClass name _ => instantiate name count
  | .callableClass name _ => instantiate name count
  | .plainClass name => instantiate name count
  | .classWithArguments name =>
    if count = 1 then .ok (.object name)
    else if count = 0 then
      .error (.ofType (name ++ ".__init__() missing 1 required positional argument: 'required'"))
    else
      .error (.ofType (name ++ ".__init__() takes 2 positional arguments but " ++ toString (count + 1)
        ++ " were given"))
  | .moduleClass =>
    if count = 0 then .error (.ofType "module() missing required argument 'name' (pos 1)")
    else .ok (.object "module")
  | .method name => callMethod name count
  | entity => .error (.notCallable entity.className)

end Entity

end GlslCompiler

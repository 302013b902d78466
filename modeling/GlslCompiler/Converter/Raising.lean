import GlslCompiler.Fault
import GlslCompiler.Text.Quoted

/-!
# Raising faults by name

A module raises a fault by naming its class and giving one text. Most classes keep the text as it is; a
few show it in quotes, are other names of a class, or cannot be made from one text, and a name that is
no class is a fault of its own.
-/

namespace GlslCompiler.Fault

/-- The classes that say a module cannot be imported. -/
def importClasses : List String := ["ImportError", "ModuleNotFoundError"]

/-- The class of failures that the operating system reports, and its special cases. -/
def systemClasses : List String :=
  ["OSError", "BlockingIOError", "BrokenPipeError", "ChildProcessError", "ConnectionAbortedError",
    "ConnectionError", "ConnectionRefusedError", "ConnectionResetError", "FileExistsError",
    "FileNotFoundError", "InterruptedError", "IsADirectoryError", "NotADirectoryError",
    "PermissionError", "ProcessLookupError", "TimeoutError"]

/-- The other classes that keep their text as it is. -/
def plainClasses : List String :=
  ["ArithmeticError", "AssertionError", "AttributeError", "BaseException", "BufferError",
    "BytesWarning", "DeprecationWarning", "EOFError", "EncodingWarning", "Exception",
    "FloatingPointError", "FutureWarning", "GeneratorExit", "ImportWarning", "IndentationError",
    "IndexError", "KeyboardInterrupt", "LookupError", "MemoryError", "NameError",
    "NotImplementedError", "OverflowError", "PendingDeprecationWarning", "RecursionError",
    "ReferenceError", "ResourceWarning", "RuntimeError", "RuntimeWarning", "StopAsyncIteration",
    "SyntaxError", "SyntaxWarning", "SystemError", "SystemExit", "TabError",
    "TypeError", "UnboundLocalError", "UnicodeError", "UnicodeWarning", "UserWarning", "ValueError",
    "Warning", "ZeroDivisionError"]

/-- A wrong number or kind of arguments. -/
def ofType (message : String) : Fault := .raised "TypeError" message

/-- What cannot be called was called. -/
def notCallable (className : String) : Fault :=
  ofType ("'" ++ className ++ "' object is not callable")

/-- The fault that comes of raising one by the name of its class with one text. -/
def ofName (name message : String) : Fault :=
  if name = "KeyError" then .raised name (Text.quoted message)
  else if name = "IOError" ∨ name = "EnvironmentError" then .raised "OSError" message
  else if name = "UnicodeDecodeError" ∨ name = "UnicodeEncodeError" then
    ofType "function takes exactly 5 arguments (1 given)"
  else if name = "UnicodeTranslateError" then ofType "function takes exactly 4 arguments (1 given)"
  else if name = "ExceptionGroup" ∨ name = "BaseExceptionGroup" then
    ofType "BaseExceptionGroup.__new__() takes exactly 2 arguments (1 given)"
  else if name = "StopIteration" then .exhausted name message
  else if (importClasses ++ systemClasses ++ plainClasses).contains name then .raised name message
  else .raised "NameError" ("name '" ++ name ++ "' is not defined")

/-- Whether a fault says that a module could not be loaded, rather than that it misbehaved. -/
def isLoading : Fault → Bool
  | .raised name _ => (importClasses ++ systemClasses).contains name
  | _ => false

end GlslCompiler.Fault

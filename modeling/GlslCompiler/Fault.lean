/-!
# Faults of collaborators

Converters, optimizer engines and module loaders are not part of this library. What one of them raises
is known by its class name and its text.
-/

namespace GlslCompiler

/-- Something a collaborator raised. `unavailable` says that the optimizer cannot be used at all, and
`exhausted` is a signal that an iteration has come to its end. -/
inductive Fault where
  | unavailable (message : String)
  | exhausted (name message : String)
  | raised (name message : String)
  deriving DecidableEq

namespace Fault

def message : Fault → String
  | .unavailable message => message
  | .exhausted _ message => message
  | .raised _ message => message

/-- What becomes of a fault that leaves a scope which is itself run as an iteration: the end of another
iteration may not be taken for the end of this one. -/
def leavingScope : Fault → Fault
  | .exhausted _ _ => .raised "RuntimeError" "generator raised StopIteration"
  | fault => fault

end Fault

end GlslCompiler

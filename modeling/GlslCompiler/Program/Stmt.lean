import GlslCompiler.Program.Expr
import GlslCompiler.Program.Layout

/-!
# Variables and statements
-/

namespace GlslCompiler

/-- A storage qualifier. `input`, `output` and `inout` are the generic markers of the source dialect;
`attrib` and `varying` exist only in the ES family. -/
inductive Qualifier where
  | input
  | output
  | inout
  | uniform
  | const
  | attrib
  | varying
  deriving DecidableEq

def Qualifier.text : Qualifier → String
  | .input => "in"
  | .output => "out"
  | .inout => "inout"
  | .uniform => "uniform"
  | .const => "const"
  | .attrib => "attribute"
  | .varying => "varying"

/-- A variable declaration. The initial value is a text, written as it is. -/
structure Variable where
  name : String
  type : GlslType
  qualifiers : List Qualifier := []
  layout : Layout := {}
  initialValue : Option String := none
  deriving DecidableEq

/-- A statement. `unknown` is a node of no known kind; it is written as nothing. -/
inductive Stmt where
  | declare (var : Variable) (initial : Option Expr)
  | assign (target value : Expr)
  | augment (target : Expr) (operator : String) (value : Expr)
  | ret (value : Option Expr)
  | branch (condition : Expr) (whenTrue whenFalse : List Stmt)
  | forLoop (initial : Option Stmt) (condition : Option Expr) (update : Option Stmt)
      (body : List Stmt)
  | whileLoop (condition : Expr) (body : List Stmt)
  | expression (value : Expr)
  | breakLoop
  | continueLoop
  | discard
  | unknown
  deriving Inhabited

end GlslCompiler

import GlslCompiler.Number.Double

/-!
# Expressions

The expressions a converter produces. Operators, names and types are texts: a program may use operators
this library has never heard of, and they are written as they are.
-/

namespace GlslCompiler

/-- A type: a base name and the size of the array, if it is one. Any integer may stand as a size. -/
structure GlslType where
  base : String
  arraySize : Option Int := none
  deriving DecidableEq

namespace GlslType

/-- The type in a message: a size of zero is not shown. -/
def describe (type : GlslType) : String :=
  match type.arraySize with
  | some size => if size = 0 then type.base else type.base ++ "[" ++ toString size ++ "]"
  | none => type.base

end GlslType

/-- A literal value that the converter has already evaluated; `missing` is the absence of one. -/
inductive Scalar where
  | int (value : Int)
  | float (value : Double)
  | bool (value : Bool)
  | missing
  deriving DecidableEq

/-- The value of a literal: a spelling kept from the source, or an evaluated scalar. -/
inductive Value where
  | spelling (text : String)
  | scalar (value : Scalar)
  deriving DecidableEq

/-- An expression. `unknown` is a node of no known kind; it is written as nothing. -/
inductive Expr where
  | literal (value : Value) (type : GlslType)
  | name (identifier : String)
  | binary (operator : String) (left right : Expr)
  | unary (operator : String) (operand : Expr)
  | call (function : String) (arguments : List Expr)
  | construct (type : GlslType) (arguments : List Expr)
  | swizzle (base : Expr) (components : String)
  | field (base : Expr) (member : String)
  | index (base position : Expr)
  | conditional (condition whenTrue whenFalse : Expr)
  | unknown
  deriving Inhabited

end GlslCompiler

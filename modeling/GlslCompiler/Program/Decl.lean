import GlslCompiler.Program.Stmt

/-!
# Programs

A program is a list of top-level declarations in the order they are written.
-/

namespace GlslCompiler

structure Struct where
  name : String
  fields : List (String × GlslType)

/-- A group of uniforms that is bound together, with an optional instance name. -/
structure UniformBlock where
  name : String
  members : List Variable := []
  layout : Layout := {}
  instanceName : Option String := none

structure Parameter where
  name : String
  type : GlslType
  qualifier : Option Qualifier := none

/-- A function; without a return type it returns nothing. -/
structure Function where
  name : String
  parameters : List Parameter := []
  returnType : Option GlslType := none
  body : List Stmt := []

/-- A declaration. `unknown` is of no known kind and is written as nothing. -/
inductive Decl where
  | struct (declaration : Struct)
  | block (declaration : UniformBlock)
  | global (declaration : Variable)
  | function (declaration : Function)
  | unknown

def Decl.block? : Decl → Option UniformBlock
  | .block b => some b
  | _ => none

def Decl.global? : Decl → Option Variable
  | .global v => some v
  | _ => none

abbrev Program := List Decl

/-- The uniform blocks of a program, in order. -/
def Program.blocks (program : Program) : List UniformBlock := program.filterMap Decl.block?

end GlslCompiler

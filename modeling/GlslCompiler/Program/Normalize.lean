import GlslCompiler.Program.Decl
import GlslCompiler.Tier

/-!
# Passes over a program

Two passes run between conversion and writing. The ES family has no generic `in` and `out` on global
variables, so `assignStorage` replaces them; `annotateLayouts` gives every uniform block the packing
layout that all dialects agree on. Each pass returns the changed program and how many places it changed.
-/

namespace GlslCompiler

namespace Qualifier

/-- What a qualifier of a global variable becomes in the ES family. -/
def inStage (stage : PipelineStage) : Qualifier → Qualifier
  | .input => if stage = .vertex then .attrib else .varying
  | .output => .varying
  | other => other

/-- Whether the qualifier is one of the two that are replaced. -/
def isGeneric : Qualifier → Bool
  | .input => true
  | .output => true
  | _ => false

end Qualifier

/-- Keeps the first occurrence of each element. -/
def keepFirst {α : Type} [DecidableEq α] : List α → List α
  | [] => []
  | a :: rest => a :: (keepFirst rest).filter (· ≠ a)

/-- A global variable with its qualifiers as the stage has them and repeated ones dropped. -/
def Variable.assignStorage (stage : PipelineStage) (v : Variable) : Variable :=
  { v with qualifiers := keepFirst (v.qualifiers.map (·.inStage stage)) }

namespace Decl

def assignStorage (stage : PipelineStage) : Decl → Decl
  | .global v => .global (v.assignStorage stage)
  | other => other

/-- How many qualifiers of the declaration are replaced. -/
def genericCount : Decl → Nat
  | .global v => v.qualifiers.countP (·.isGeneric)
  | _ => 0

/-- The packing layout of every uniform block. -/
def packingLayout : String := "std140"

def annotateLayout : Decl → Decl
  | .block b => .block { b with layout := b.layout.add packingLayout none }
  | other => other

/-- Whether the declaration is a block without the packing layout. -/
def lacksPacking : Decl → Bool
  | .block b => !b.layout.has packingLayout
  | _ => false

end Decl

namespace Program

/-- Replaces the generic qualifiers of global variables; counts the replaced ones, also those that
coincide with a qualifier already present. -/
def assignStorage (stage : PipelineStage) (program : Program) : Nat × Program :=
  ((program.map Decl.genericCount).foldr (· + ·) 0, program.map (Decl.assignStorage stage))

/-- Adds the packing layout to every block that lacks it; counts those blocks. -/
def annotateLayouts (program : Program) : Nat × Program :=
  (program.countP Decl.lacksPacking, program.map Decl.annotateLayout)

end Program

end GlslCompiler

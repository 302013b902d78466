import GlslCompiler.Program.Decl
import GlslCompiler.Writer.Stmt

/-!
# Writing programs

Each declaration contributes its own lines, in program order; a struct, a block and a function are
followed by an empty line. The text of a program is its lines, each ended by a line feed.
-/

namespace GlslCompiler

/-- A variable declaration with the given qualifiers. -/
def Variable.declarationWith (qualifiers : List Qualifier) (v : Variable) : String :=
  let parts := (if v.layout.isEmpty then [] else [v.layout.text]) ++ qualifiers.map Qualifier.text
    ++ [declarator v.type v.name]
  let head := " ".intercalate parts
  match v.initialValue with
  | some value => head ++ " = " ++ value ++ ";"
  | none => head ++ ";"

/-- A variable declaration with its own qualifiers. -/
def Variable.declaration (v : Variable) : String := v.declarationWith v.qualifiers

def Struct.lines (s : Struct) : List String :=
  ["struct " ++ s.name ++ " \x7b"]
    ++ s.fields.map (fun field => "    " ++ declarator field.2 field.1 ++ ";") ++ ["\x7d;"]

/-- The lines of a uniform block. Where the dialect has no blocks, each member is a uniform of its own. -/
def UniformBlock.lines (tier : Tier) (b : UniformBlock) : List String :=
  if tier.hasUniformBlocks then
    let head := "uniform " ++ b.name ++ " \x7b"
    let opening := if b.layout.isEmpty then head else b.layout.text ++ " " ++ head
    let closing :=
      match b.instanceName with
      | some name => if name.isEmpty then "\x7d;" else "\x7d " ++ name ++ ";"
      | none => "\x7d;"
    [opening] ++ b.members.map (fun member => "    " ++ member.declaration) ++ [closing]
  else b.members.map (Variable.declarationWith [.uniform])

def Parameter.text (p : Parameter) : String :=
  match p.qualifier with
  | some qualifier => qualifier.text ++ " " ++ declarator p.type p.name
  | none => declarator p.type p.name

/-- The name of a function's return type. -/
def Function.returnName (f : Function) : String :=
  match f.returnType with
  | some type => type.base
  | none => "void"

def Function.lines (tier : Tier) (f : Function) : Except LiteralError (List String) := do
  let body ← Stmt.bodyLines tier f.body 1
  return [f.returnName ++ " " ++ f.name ++ "(" ++ ", ".intercalate (f.parameters.map Parameter.text)
    ++ ") \x7b"] ++ body ++ ["\x7d"]

/-- The lines of a declaration, with the empty line that follows it. -/
def Decl.lines (tier : Tier) : Decl → Except LiteralError (List String)
  | .struct s => .ok (s.lines ++ [""])
  | .block b => .ok (b.lines tier ++ [""])
  | .global v => .ok [v.declaration]
  | .function f => (f.lines tier).map (· ++ [""])
  | .unknown => .ok []

namespace Program

/-- The lines of a program. -/
def lines (tier : Tier) : Program → Except LiteralError (List String)
  | [] => .ok []
  | d :: rest => do
    let own ← d.lines tier
    let others ← lines tier rest
    return own ++ others

/-- The text of a program, without its preamble. -/
def text (tier : Tier) (program : Program) : Except LiteralError String := do
  let lines ← program.lines tier
  return String.join (lines.map (· ++ "\n"))

end Program

end GlslCompiler

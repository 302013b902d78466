import GlslCompiler.Program.Stmt
import GlslCompiler.Writer.Expr

/-!
# Writing statements

A statement is written as a list of lines, each indented by four spaces for every block around it.
-/

namespace GlslCompiler

/-- The spaces in front of a line. A negative depth has none. -/
def indentation (depth : Int) : String := String.ofList (List.replicate (4 * depth.toNat) ' ')

/-- A declared name with its type in front and the size of the array behind. -/
def declarator (type : GlslType) (name : String) : String :=
  match type.arraySize with
  | some size => type.base ++ " " ++ name ++ "[" ++ toString size ++ "]"
  | none => type.base ++ " " ++ name

/-- A declared name with its qualifiers in front. -/
def Variable.qualifiedDeclarator (v : Variable) : String :=
  let bare := declarator v.type v.name
  if v.qualifiers.isEmpty then bare
  else " ".intercalate (v.qualifiers.map Qualifier.text) ++ " " ++ bare

/-- The text of an optional expression, nothing when it is absent. -/
def Expr.optionalText (tier : Tier) : Option Expr → Except LiteralError String
  | some e => e.text tier
  | none => .ok ""

/-- An assignment, without the semicolon. -/
def assignmentText (tier : Tier) (target value : Expr) : Except LiteralError String := do
  let targetText ← target.text tier
  let valueText ← value.text tier
  return targetText ++ " = " ++ valueText

/-- An augmented assignment, without the semicolon. -/
def augmentText (tier : Tier) (target : Expr) (operator : String) (value : Expr) :
    Except LiteralError String := do
  let targetText ← target.text tier
  let valueText ← value.text tier
  return targetText ++ " " ++ operator ++ "= " ++ valueText

/-- The first clause of a loop header: a declaration, reduced to type, name and initial value, or an
assignment. Any other statement leaves the clause empty. -/
def Stmt.initialClause (tier : Tier) : Option Stmt → Except LiteralError String
  | some (.declare v (some initial)) => do
    let initialText ← initial.text tier
    return v.type.base ++ " " ++ v.name ++ " = " ++ initialText
  | some (.declare v none) => .ok (v.type.base ++ " " ++ v.name)
  | some (.assign target value) => assignmentText tier target value
  | _ => .ok ""

/-- The last clause of a loop header: an assignment or an expression. Any other statement leaves the
clause empty. -/
def Stmt.updateClause (tier : Tier) : Option Stmt → Except LiteralError String
  | some (.assign target value) => assignmentText tier target value
  | some (.augment target operator value) => augmentText tier target operator value
  | some (.expression value) => value.text tier
  | _ => .ok ""

mutual

/-- The lines of a statement at a depth. -/
def Stmt.lines (tier : Tier) : Stmt → Int → Except LiteralError (List String)
  | .declare v (some initial), depth => do
    let initialText ← initial.text tier
    return [indentation depth ++ v.qualifiedDeclarator ++ " = " ++ initialText ++ ";"]
  | .declare v none, depth => .ok [indentation depth ++ v.qualifiedDeclarator ++ ";"]
  | .assign target value, depth => do
    let text ← assignmentText tier target value
    return [indentation depth ++ text ++ ";"]
  | .augment target operator value, depth => do
    let text ← augmentText tier target operator value
    return [indentation depth ++ text ++ ";"]
  | .ret (some value), depth => do
    let text ← value.text tier
    return [indentation depth ++ "return " ++ text ++ ";"]
  | .ret none, depth => .ok [indentation depth ++ "return;"]
  | .branch condition whenTrue whenFalse, depth => do
    let conditionText ← condition.text tier
    let trueLines ← Stmt.bodyLines tier whenTrue (depth + 1)
    let falseLines ← Stmt.bodyLines tier whenFalse (depth + 1)
    return [indentation depth ++ "if (" ++ conditionText ++ ") \x7b"] ++ trueLines
      ++ (if whenFalse.isEmpty then [] else [indentation depth ++ "\x7d else \x7b"] ++ falseLines)
      ++ [indentation depth ++ "\x7d"]
  | .forLoop initial condition update body, depth => do
    let initialText ← Stmt.initialClause tier initial
    let conditionText ← Expr.optionalText tier condition
    let updateText ← Stmt.updateClause tier update
    let bodyLines ← Stmt.bodyLines tier body (depth + 1)
    return [indentation depth ++ "for (" ++ initialText ++ "; " ++ conditionText ++ "; "
        ++ updateText ++ ") \x7b"] ++ bodyLines ++ [indentation depth ++ "\x7d"]
  | .whileLoop condition body, depth => do
    let conditionText ← condition.text tier
    let bodyLines ← Stmt.bodyLines tier body (depth + 1)
    return [indentation depth ++ "while (" ++ conditionText ++ ") \x7b"] ++ bodyLines
      ++ [indentation depth ++ "\x7d"]
  | .expression value, depth => do
    let text ← value.text tier
    return [indentation depth ++ text ++ ";"]
  | .breakLoop, depth => .ok [indentation depth ++ "break;"]
  | .continueLoop, depth => .ok [indentation depth ++ "continue;"]
  | .discard, depth => .ok [indentation depth ++ "discard;"]
  | .unknown, _ => .ok []

/-- The lines of a list of statements, in order. -/
def Stmt.bodyLines (tier : Tier) : List Stmt → Int → Except LiteralError (List String)
  | [], _ => .ok []
  | s :: rest, depth => do
    let lines ← s.lines tier depth
    let others ← Stmt.bodyLines tier rest depth
    return lines ++ others

end

end GlslCompiler

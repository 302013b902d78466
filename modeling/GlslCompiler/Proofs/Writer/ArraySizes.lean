import Mathlib.Data.List.Infix
import GlslCompiler.Proofs.Writer.Dialects
import GlslCompiler.Proofs.Writer.Headers

/-!
# The sizes of arrays

A type is written around a declared name or in front of the arguments of a constructor, and has the size of an array
in both. Fields, members, global variables, parameters, local variables and constructors are written so. Two places
are not: a function's return type and the variable of a loop are written by their base types alone. The lines of a
declaration show its types one after the other, each in a place of its own, so that none is written for another.

The header of a function determines the types of its parameters, and of the type it returns everything but the size.
-/

namespace GlslCompiler

/-- A type where it is written out. -/
inductive TypeUse where
  | declared (type : GlslType) (name : String)
  | constructed (type : GlslType)
  | counter (type : GlslType) (name : String)
  | returned (type : GlslType)

namespace TypeUse

def text : TypeUse → String
  | .declared type name => type.base ++ " " ++ name ++ sizeText type.arraySize
  | .constructed type => type.base ++ sizeText type.arraySize
  | .counter type name => type.base ++ " " ++ name
  | .returned type => type.base

/-- What may stand behind a type. It is never a bracket, so that a size in the text is the size of the type. -/
def stops : TypeUse → List String
  | .declared _ _ => [";", " ", ",", ")"]
  | .constructed _ => ["("]
  | .counter _ _ => [";", " "]
  | .returned _ => [" "]

/-- The text is that of the type with what may stand behind it. -/
def Written (use : TypeUse) (whole : String) : Prop := ∃ stop ∈ use.stops, whole = use.text ++ stop

theorem shows_stop (use : TypeUse) {stop : String} (h : stop ∈ use.stops) : Shows Written [use] (use.text ++ stop) :=
  .item ⟨stop, h, rfl⟩

theorem shows_declarator (type : GlslType) (name : String) {stop : String} (h : stop ∈ [";", " ", ",", ")"]) :
    Shows Written [.declared type name] (declarator type name ++ stop) := by
  rw [declarator_eq]
  exact shows_stop (.declared type name) h

end TypeUse

open TypeUse (Written shows_stop shows_declarator)

/-! ### The types of a program -/

def Expr.typeUse? : Expr → Option TypeUse
  | .construct type _ => some (.constructed type)
  | _ => none

/-- The types of the constructors in an expression. -/
def Expr.typeUses (e : Expr) : List TypeUse := e.parts.filterMap Expr.typeUse?

def Fragment.typeUses : Fragment → List TypeUse
  | .expression e => e.typeUses
  | .declarator type name => [.declared type name]
  | .counter type name => [.counter type name]
  | .operator _ => []

def Variable.typeUse (v : Variable) : TypeUse := .declared v.type v.name

def Parameter.typeUse (p : Parameter) : TypeUse := .declared p.type p.name

/-- The types in a function. One without a return type returns nothing. -/
def Function.typeUses (f : Function) : List TypeUse :=
  (f.returnType.map TypeUse.returned).toList ++ f.parameters.map Parameter.typeUse
    ++ (Stmt.allFragments f.body).flatMap Fragment.typeUses

/-- The types in a declaration, in the order in which they are written. -/
def Decl.typeUses : Decl → List TypeUse
  | .struct s => s.fields.map fun field => .declared field.2 field.1
  | .block b => b.members.map Variable.typeUse
  | .global v => [v.typeUse]
  | .function f => f.typeUses
  | .unknown => []

/-! ### Types in statements -/

section Statements

variable {tier : Tier}

mutual

theorem Expr.text_shows : ∀ e : Expr, Ensures (Shows Written e.typeUses) (e.text tier)
  | .literal value type => fun text _ => .nothing text
  | .name identifier => fun text _ => .nothing text
  | .binary operator left right => by
    refine .bind fun leftText hleft => .bind fun rightText hright => .ok ?_
    have hleft := (text_shows left leftText hleft).group (operatorPrecedence operator) left.precedence
    have hright := (text_shows right rightText hright).group (operatorPrecedence operator + 1) right.precedence
    rw [Expr.typeUses, Expr.parts, List.filterMap_cons_none rfl, List.filterMap_append]
    exact (((hleft.after " ").after operator).after " ").append hright
  | .unary operator operand => by
    refine .bind fun text htext => .ok ?_
    exact ((text_shows operand text htext).group Precedence.unary operand.precedence).guardSign.before operator
  | .call function arguments => by
    refine .bind fun texts htexts => .ok ?_
    exact (((texts_show arguments texts htexts).intercalate ", ").before (function ++ "(")).after ")"
  | .construct type arguments => by
    refine .bind fun texts htexts => .ok ?_
    have htype : Shows Written [.constructed type] (type.text ++ "(") := by
      rw [GlslType.text_eq]
      exact shows_stop (.constructed type) (List.mem_singleton_self "(")
    exact (htype.append ((texts_show arguments texts htexts).intercalate ", ")).after ")"
  | .swizzle base components => by
    refine .bind fun text htext => .ok ?_
    exact (((text_shows base text htext).group Precedence.member base.precedence).after ".").after components
  | .field base member => by
    refine .bind fun text htext => .ok ?_
    exact (((text_shows base text htext).group Precedence.member base.precedence).after ".").after member
  | .index base position => by
    refine .bind fun baseText hbase => .bind fun positionText hposition => .ok ?_
    have hbase := (text_shows base baseText hbase).group Precedence.member base.precedence
    rw [Expr.typeUses, Expr.parts, List.filterMap_cons_none rfl, List.filterMap_append]
    exact ((hbase.after "[").append (text_shows position positionText hposition)).after "]"
  | .conditional condition whenTrue whenFalse => by
    refine .bind fun conditionText hcondition => .bind fun trueText htrue => .bind fun falseText hfalse => .ok ?_
    have hcondition := (text_shows condition conditionText hcondition).group (Precedence.conditional + 1)
      condition.precedence
    have hfalse := (text_shows whenFalse falseText hfalse).group Precedence.conditional whenFalse.precedence
    rw [Expr.typeUses, Expr.parts, List.filterMap_cons_none rfl, List.filterMap_append, List.filterMap_append]
    exact (((hcondition.after " ? ").append (text_shows whenTrue trueText htrue)).after " : ").append hfalse
  | .unknown => fun text _ => .nothing text

theorem Expr.texts_show : ∀ es : List Expr,
    Ensures (LinesShow Written ((Expr.allParts es).filterMap Expr.typeUse?)) (Expr.texts tier es)
  | [] => .ok .nil
  | e :: rest => by
    refine .bind fun text htext => .bind fun texts htexts => .ok ?_
    rw [Expr.allParts, List.filterMap_append]
    exact .cons (text_shows e text htext) (texts_show rest texts htexts)

end

/-- What stands behind a declarator in a statement may stand behind its type. -/
theorem Fragment.written_shows (f : Fragment) (whole : String) (h : f.Written tier whole) :
    Shows TypeUse.Written f.typeUses whole := by
  obtain ⟨text, htext, stop, hstop, rfl⟩ := h
  cases f with
  | expression e => exact (Expr.text_shows e text htext).after stop
  | declarator type name =>
    have hsub : [";", " "] ⊆ [";", " ", ",", ")"] := by simp
    cases htext
    exact shows_declarator type name (hsub hstop)
  | counter type name =>
    cases htext
    exact shows_stop (.counter type name) hstop
  | operator text => exact .nothing _

theorem Stmt.typeUses_shown (ss : List Stmt) (depth : Int) :
    Ensures (LinesShow Written ((Stmt.allFragments ss).flatMap Fragment.typeUses)) (Stmt.bodyLines tier ss depth) :=
  fun lines hlines => (Stmt.bodyLines_show ss depth lines hlines).flatMap Fragment.written_shows

end Statements

/-! ### Types in declarations -/

theorem exists_intercalate_append (separator : String) (texts : List String) (last : String) :
    ∃ before, separator.intercalate (texts ++ [last]) = before ++ last := by
  cases texts with
  | nil => exact ⟨"", by simp⟩
  | cons first rest =>
    have happend := String.intercalate_append_of_ne_nil (s := separator) (List.cons_ne_nil first rest)
      (List.cons_ne_nil last [])
    rw [happend, String.intercalate_singleton]
    exact ⟨_, rfl⟩

theorem Variable.declarationWith_shows (v : Variable) (qualifiers : List Qualifier) :
    Shows Written [v.typeUse] (v.declarationWith qualifiers) := by
  obtain ⟨before, hbefore⟩ := exists_intercalate_append " "
    ((if v.layout.isEmpty then [] else [v.layout.text]) ++ qualifiers.map Qualifier.text) (declarator v.type v.name)
  unfold declarationWith
  dsimp only
  rw [hbefore]
  split
  · rename_i value hvalue
    have hequals : " = " = " " ++ "= " := rfl
    have hline : before ++ declarator v.type v.name ++ " = " ++ value ++ ";"
        = before ++ (declarator v.type v.name ++ " ") ++ ("= " ++ value ++ ";") := by
      simp only [hequals, String.append_assoc]
    rw [hline]
    exact ((shows_declarator v.type v.name (by simp)).before before).after _
  · rw [String.append_assoc]
    exact (shows_declarator v.type v.name (by simp)).before before

theorem Parameter.text_shows (p : Parameter) {stop : String} (h : stop ∈ [",", ")"]) :
    Shows Written [p.typeUse] (p.text ++ stop) := by
  have hsub : [",", ")"] ⊆ [";", " ", ",", ")"] := by simp
  obtain ⟨before, hbefore⟩ := p.exists_text
  rw [hbefore, String.append_assoc]
  exact (shows_declarator p.type p.name (hsub h)).before before

/-- A parameter is followed by a comma or by what ends the list. -/
theorem Parameter.texts_show (ps : List Parameter) :
    Shows Written (ps.map typeUse) (", ".intercalate (ps.map text) ++ ")") := by
  induction ps with
  | nil => exact .nothing _
  | cons p rest ih =>
    cases rest with
    | nil =>
      rw [List.map_singleton, List.map_singleton, String.intercalate_singleton]
      exact p.text_shows (by simp)
    | cons q rest =>
      have hcomma : ", " = "," ++ " " := rfl
      have hlist : ", ".intercalate ((p :: q :: rest).map text) ++ ")"
          = p.text ++ "," ++ " " ++ (", ".intercalate ((q :: rest).map text) ++ ")") := by
        rw [List.map_cons, List.map_cons, String.intercalate_cons_cons]
        simp only [hcomma, String.append_assoc]
      rw [hlist]
      exact ((p.text_shows (by simp)).after " ").append ih

theorem Function.header_shows (f : Function) :
    Shows Written ((f.returnType.map TypeUse.returned).toList ++ f.parameters.map Parameter.typeUse) f.header := by
  have hreturned : Shows Written (f.returnType.map TypeUse.returned).toList (f.returnName ++ " ") := by
    unfold returnName
    cases f.returnType with
    | none => exact .nothing _
    | some type => exact shows_stop (.returned type) (List.mem_singleton_self " ")
  have hheader : f.header = f.returnName ++ " " ++ f.name ++ "("
      ++ (", ".intercalate (f.parameters.map Parameter.text) ++ ")") ++ " \x7b" := by
    have hend : ") \x7b" = ")" ++ " \x7b" := rfl
    rw [header, hend]
    simp only [String.append_assoc]
  rw [hheader]
  exact (((hreturned.after f.name).after "(").append (Parameter.texts_show f.parameters)).after " \x7b"

section Programs

variable {tier : Tier}

theorem UniformBlock.lines_show (b : UniformBlock) :
    LinesShow Written (b.members.map Variable.typeUse) (b.lines tier) := by
  unfold lines
  split
  · exact (LinesShow.before _ (.map b.members fun v _ => (v.declarationWith_shows v.qualifiers).before "    ")).after _
  · exact .map b.members fun v _ => v.declarationWith_shows [.uniform]

theorem Function.lines_show (f : Function) : Ensures (LinesShow Written f.typeUses) (f.lines tier) := by
  refine .bind fun body hbody => .ok ?_
  exact ((LinesShow.single f.header_shows).append (Stmt.typeUses_shown f.body 1 body hbody)).after "\x7d"

theorem Decl.lines_show (d : Decl) : Ensures (LinesShow Written d.typeUses) (d.lines tier) := by
  cases d with
  | struct s =>
    have hfields : LinesShow Written (s.fields.map fun field => .declared field.2 field.1)
        (s.fields.map fun field => "    " ++ declarator field.2 field.1 ++ ";") := by
      refine .map s.fields fun field _ => ?_
      rw [String.append_assoc]
      exact (shows_declarator field.2 field.1 (by simp)).before "    "
    exact .ok (((hfields.before _).after _).after "")
  | block b => exact .ok (b.lines_show.after "")
  | global v => exact .ok (.single (v.declarationWith_shows v.qualifiers))
  | function f => exact f.lines_show.map fun lines hlines => hlines.after ""
  | unknown => exact .ok .nil

end Programs

end GlslCompiler

import GlslCompiler.Proofs.Writer.Blocks
import GlslCompiler.Proofs.Writer.References

/-!
# Scopes

A local variable can be named behind its declaration, up to the end of the block that it stands in, and the variable
of a loop from the second clause of the header to the end of the loop. `Outline.allUses` goes through lines and blocks
by this rule and finds what is selected from names, each selection with the variables that can be named there;
`Stmt.allUses` does so with statements. The lines of plain statements have the uses of the statements.
-/

namespace GlslCompiler

open Grammar

/-! ### Scopes of lines -/

/-- A reference with the local variables that can be named where it stands, the innermost first. -/
structure Use where
  scope : List String
  reference : Reference
  deriving DecidableEq

/-- The references in a text. -/
def usesIn (scope : List String) (text : String) : List Use := (selections text).map (Use.mk scope)

/-- The variable that the header of a loop declares. -/
def loopNames (header : String) : List String :=
  match header.toList.dropPrefix? "for (".toList with
  | some clause => (declaredName? clause).toList
  | none => []

/-- The references in a header. Its first clause is not in the scope of the variable that it declares. -/
def headerUses (scope : List String) (header : String) : List Use :=
  usesIn scope (String.ofList (header.toList.takeWhile (· != ';')))
    ++ usesIn (loopNames header ++ scope) (String.ofList (header.toList.dropWhile (· != ';')))

namespace Outline

/-- The name that a line declares for the lines behind it. -/
def names : Outline → List String
  | .line text => (declaredName? text.toList).toList
  | _ => []

mutual

/-- The references in an outline, given the local variables that are declared in front of it. -/
def uses (scope : List String) : Outline → List Use
  | .line text => usesIn scope text
  | .block header body => headerUses scope header ++ allUses (loopNames header ++ scope) body
  | .choice header first second =>
    headerUses scope header ++ allUses (loopNames header ++ scope) first
      ++ allUses (loopNames header ++ scope) second

def allUses (scope : List String) : List Outline → List Use
  | [] => []
  | o :: rest => o.uses scope ++ allUses (o.names ++ scope) rest

end

end Outline

/-! ### Scopes of statements -/

def Fragment.references : Fragment → List Reference
  | .expression e => e.references
  | _ => []

/-- The references in fragments. -/
def usesOf (scope : List String) (fragments : List Fragment) : List Use :=
  (fragments.flatMap Fragment.references).map (Use.mk scope)

namespace Stmt

/-- The variable that a statement declares. -/
def name? : Stmt → Option String
  | .declare v _ => some v.name
  | _ => none

/-- The scope of what a loop repeats. -/
def loopScope (scope : List String) (initial : Option Stmt) : List String := (initial.bind name?).toList ++ scope

mutual

/-- The references in a statement, given the local variables that are declared in front of it. -/
def uses (scope : List String) : Stmt → List Use
  | .branch condition whenTrue whenFalse =>
    usesOf scope [.expression condition] ++ allUses scope whenTrue ++ allUses scope whenFalse
  | .forLoop initial condition update body =>
    usesOf scope (initialFragments initial)
      ++ usesOf (loopScope scope initial) (Fragment.ofOption condition ++ updateFragments update)
      ++ allUses (loopScope scope initial) body
  | .whileLoop condition body => usesOf scope [.expression condition] ++ allUses scope body
  | s => usesOf scope s.fragments

def allUses (scope : List String) : List Stmt → List Use
  | [] => []
  | s :: rest => s.uses scope ++ allUses (s.name?.toList ++ scope) rest

end

end Stmt

/-! ### Plain statements -/

/-- The fragment is of the class that its place asks for. -/
def Fragment.Plain (tier : Tier) : Fragment → Prop
  | .expression e => ∀ p ∈ e.parts, p.Plain tier
  | .declarator type name => isTypeName type.base = true ∧ isWord name.toList = true
  | .counter type name => isTypeName type.base = true ∧ isWord name.toList = true
  | .operator text => isOperator text = true

instance (tier : Tier) (f : Fragment) : Decidable (f.Plain tier) := by
  unfold Fragment.Plain
  split <;> infer_instance

def FragmentsPlain (tier : Tier) (fragments : List Fragment) : Prop := ∀ f ∈ fragments, f.Plain tier

instance (tier : Tier) (fragments : List Fragment) : Decidable (FragmentsPlain tier fragments) :=
  inferInstanceAs (Decidable (∀ f ∈ fragments, f.Plain tier))

section Statements

variable {tier : Tier}

theorem fragmentsPlain_cons {f : Fragment} {fragments : List Fragment} :
    FragmentsPlain tier (f :: fragments) ↔ f.Plain tier ∧ FragmentsPlain tier fragments := List.forall_mem_cons

theorem fragmentsPlain_append {fragments others : List Fragment} :
    FragmentsPlain tier (fragments ++ others) ↔ FragmentsPlain tier fragments ∧ FragmentsPlain tier others :=
  List.forall_mem_append

/-- A text that is written from fragments: it reads as they do. -/
abbrev ReadsAs (fragments : List Fragment) (text : String) : Prop :=
  Reads text (fragments.flatMap Fragment.references)

theorem Expr.text_readsAs {e : Expr} (h : (Fragment.expression e).Plain tier) :
    Ensures (ReadsAs [.expression e]) (e.text tier) := by
  intro text htext
  rw [ReadsAs, List.flatMap_singleton]
  exact e.text_reads h text htext

theorem Expr.optionalText_readsAs {e : Option Expr} (h : FragmentsPlain tier (Fragment.ofOption e)) :
    Ensures (ReadsAs (Fragment.ofOption e)) (Expr.optionalText tier e) := by
  cases e with
  | none => exact .ok .empty
  | some e => exact Expr.text_readsAs (fragmentsPlain_cons.1 h).1

theorem ReadsAs.join {fragments others : List Fragment} {s t joint : String} (hjoint : IsJoint joint)
    (hs : ReadsAs fragments s) (ht : ReadsAs others t) : ReadsAs (fragments ++ others) (s ++ joint ++ t) := by
  rw [ReadsAs, List.flatMap_append]
  exact Reads.join hjoint hs ht

theorem assignmentText_readsAs {target value : Expr}
    (h : FragmentsPlain tier [.expression target, .expression value]) :
    Ensures (ReadsAs [.expression target, .expression value]) (assignmentText tier target value) := by
  obtain ⟨htarget, h⟩ := fragmentsPlain_cons.1 h
  obtain ⟨hvalue, -⟩ := fragmentsPlain_cons.1 h
  refine .bind fun targetText ht => .bind fun valueText hv => .ok ?_
  exact (Expr.text_readsAs htarget _ ht).join ⟨by decide, by decide, by decide⟩ (Expr.text_readsAs hvalue _ hv)

theorem augmentText_readsAs {target value : Expr} {operator : String}
    (h : FragmentsPlain tier [.expression target, .operator operator, .expression value]) :
    Ensures (ReadsAs [.expression target, .operator operator, .expression value])
      (augmentText tier target operator value) := by
  obtain ⟨htarget, h⟩ := fragmentsPlain_cons.1 h
  obtain ⟨hoperator, h⟩ := fragmentsPlain_cons.1 h
  obtain ⟨hvalue, -⟩ := fragmentsPlain_cons.1 h
  refine .bind fun targetText ht => .bind fun valueText hv => .ok ?_
  have hassign : isOperator (operator ++ "=") = true := by
    have hall := (Bool.and_eq_true_iff.1 hoperator).2
    rw [isOperator, String.toList_append, List.all_append, hall]
    simp [isOperatorChar, isNameChar, isWordChar, isWordStart]
  have hjoin := (Expr.text_readsAs htarget _ ht).join (IsJoint.operator hassign).spaced
    (Expr.text_readsAs hvalue _ hv)
  have htext : targetText ++ " " ++ operator ++ "= " ++ valueText
      = targetText ++ (" " ++ (operator ++ "=") ++ " ") ++ valueText := by
    have hequals : "= " = "=" ++ " " := rfl
    simp only [hequals, String.append_assoc]
  rw [htext]
  exact hjoin

theorem declares_counter {base name : String} (hbase : isTypeName base = true) (hname : isWord name.toList = true) :
    Declares (base ++ " " ++ name) (some name) [] := by
  have hwords : Declares (" ".intercalate ([] ++ [base, name]) ++ sizeText none) _ _ :=
    declares_words (by simp) hbase hname none
  rwa [List.nil_append, String.intercalate_cons_cons, String.intercalate_singleton, sizeText,
    String.append_empty] at hwords

theorem Stmt.initialClause_declares {s : Option Stmt} (h : FragmentsPlain tier (Stmt.initialFragments s)) :
    Ensures (fun text => Declares text (s.bind Stmt.name?) ((Stmt.initialFragments s).flatMap Fragment.references))
      (Stmt.initialClause tier s) := by
  match s with
  | some (.declare v none) =>
    obtain ⟨⟨hbase, hname⟩, -⟩ := fragmentsPlain_cons.1 h
    exact .ok (declares_counter hbase hname)
  | some (.declare v (some initial)) =>
    obtain ⟨⟨hbase, hname⟩, h⟩ := fragmentsPlain_cons.1 h
    refine .bind fun initialText ht => .ok ?_
    exact (declares_counter hbase hname).given (Expr.text_readsAs (fragmentsPlain_cons.1 h).1 _ ht)
  | some (.assign target value) => exact fun text htext => (assignmentText_readsAs h text htext).declares
  | none | some (.augment _ _ _) | some (.ret _) | some (.branch _ _ _) | some (.forLoop _ _ _ _)
  | some (.whileLoop _ _) | some (.expression _) | some .breakLoop | some .continueLoop | some .discard
  | some .unknown => exact .ok Reads.empty.declares

theorem Stmt.updateClause_readsAs {s : Option Stmt} (h : FragmentsPlain tier (Stmt.updateFragments s)) :
    Ensures (ReadsAs (Stmt.updateFragments s)) (Stmt.updateClause tier s) := by
  match s with
  | some (.assign target value) => exact assignmentText_readsAs h
  | some (.augment target operator value) => exact augmentText_readsAs h
  | some (.expression value) => exact Expr.text_readsAs (fragmentsPlain_cons.1 h).1
  | none | some (.declare _ _) | some (.ret _) | some (.branch _ _ _) | some (.forLoop _ _ _ _)
  | some (.whileLoop _ _) | some .breakLoop | some .continueLoop | some .discard | some .unknown =>
    exact .ok .empty

/-- The words in front of a declared name, with the name. -/
theorem Variable.qualifiedDeclarator_eq (v : Variable) : v.qualifiedDeclarator
    = " ".intercalate (v.qualifiers.map Qualifier.text ++ [v.type.base, v.name]) ++ sizeText v.type.arraySize := by
  rw [← intercalate_declarator]
  unfold qualifiedDeclarator
  dsimp only
  split
  · rename_i hempty
    rw [List.isEmpty_iff.1 hempty, List.map_nil, List.nil_append, String.intercalate_singleton]
  · rename_i hsome
    have hne : v.qualifiers.map Qualifier.text ≠ [] := by simpa using hsome
    rw [String.intercalate_append_of_ne_nil hne (by simp), String.intercalate_singleton]

theorem isTypeName_qualifiers (qualifiers : List Qualifier) :
    ∀ word ∈ qualifiers.map Qualifier.text, isTypeName word = true :=
  List.forall_mem_map.2 fun q _ => isTypeName_qualifier q

theorem Variable.declares {v : Variable} (h : (Fragment.declarator v.type v.name).Plain tier) :
    Declares v.qualifiedDeclarator (some v.name) [] := by
  rw [qualifiedDeclarator_eq]
  exact declares_words (isTypeName_qualifiers v.qualifiers) h.1 h.2 v.type.arraySize

/-- Plain fragments can stand in a line. -/
theorem FragmentsPlain.allBraceFree {fragments : List Fragment} (h : FragmentsPlain tier fragments) :
    AllBraceFree tier fragments := by
  intro f hf
  have hf := h f hf
  cases f with
  | expression e => exact fun text htext => (e.text_reads hf text htext).undivided.subset (by simp)
  | declarator type name =>
    have hdeclares : Declares (" ".intercalate ([] ++ [type.base, name]) ++ sizeText type.arraySize) _ _ :=
      declares_words (by simp) hf.1 hf.2 type.arraySize
    rw [← intercalate_declarator, List.nil_append, String.intercalate_singleton] at hdeclares
    exact .ok (hdeclares.undivided.subset (by simp))
  | counter type name => exact .ok ((declares_counter hf.1 hf.2).undivided.subset (by simp))
  | operator text => exact .ok ((IsJoint.operator hf).undivided.subset (by simp))

/-! ### The headers of blocks -/

/-- A header without clauses declares nothing. -/
theorem condition_header {text : String} {rs : List Reference} (h : Reads text rs) (keyword : String)
    (hkeyword : keyword ∈ ["if", "while"]) (scope : List String) :
    loopNames (keyword ++ " (" ++ text ++ ") \x7b") = [] ∧
      headerUses scope (keyword ++ " (" ++ text ++ ") \x7b") = rs.map (Use.mk scope) := by
  have hkeywords : ∀ keyword ∈ ["if", "while"], selections keyword = [] ∧ Lacks [';'] keyword := by decide
  obtain ⟨hnone, hlacks⟩ := hkeywords keyword hkeyword
  have hnames : loopNames (keyword ++ " (" ++ text ++ ") \x7b") = [] := by
    simp only [List.mem_cons, List.not_mem_nil, or_false] at hkeyword
    rcases hkeyword with rfl | rfl <;> simp [loopNames, List.dropPrefix?]
  have hselects : selections (keyword ++ " (" ++ text ++ ") \x7b") = rs := by
    rw [selections_before_gap (by decide), selections_gap (by decide), hnone, h.selects, List.nil_append]
  have hheader : Lacks [';'] (keyword ++ " (" ++ text ++ ") \x7b") :=
    ((hlacks.append (by decide)).append (h.undivided.subset (by simp))).append (by decide)
  have hsemicolon := hheader.bne (List.mem_singleton_self ';')
  rw [headerUses, List.takeWhile_eq_self_iff.2 hsemicolon, List.dropWhile_eq_nil_iff.2 hsemicolon,
    String.ofList_toList, usesIn, hselects]
  exact ⟨hnames, List.append_nil _⟩

/-- The variable of a loop can be named behind the first semicolon of its header. -/
theorem loop_header {initialText conditionText updateText : String} {name : Option String} {is cs us : List Reference}
    (hinitial : Declares initialText name is) (hcondition : Reads conditionText cs) (hupdate : Reads updateText us)
    (scope : List String) :
    let header := "for (" ++ initialText ++ "; " ++ conditionText ++ "; " ++ updateText ++ ") \x7b"
    loopNames header = name.toList ∧
      headerUses scope header = is.map (Use.mk scope) ++ (cs ++ us).map (Use.mk (name.toList ++ scope)) := by
  intro header
  have hchars : header.toList = "for (".toList ++ (initialText.toList
      ++ "; ".toList ++ (conditionText ++ "; " ++ updateText ++ ") \x7b").toList) := by
    simp only [header, String.toList_append, List.append_assoc]
  have hnames : loopNames header = name.toList := by
    rw [loopNames, hchars, List.dropPrefix?_append_of_beq _ (beq_self_eq_true _), List.append_assoc]
    dsimp only
    rw [hinitial.names _ (endsWords_of_breaksWords (by decide) _)]
  have hclause : Lacks [';'] ("for (" ++ initialText) :=
    (by decide : Lacks [';'] "for (").append (hinitial.undivided.subset (by simp))
  have hall := hclause.bne (List.mem_singleton_self ';')
  have hsplit : header.toList = ("for (" ++ initialText).toList
      ++ ("; " ++ conditionText ++ "; " ++ updateText ++ ") \x7b").toList := by
    simp only [header, String.toList_append, List.append_assoc]
  have hfirst : header.toList.takeWhile (· != ';') = ("for (" ++ initialText).toList := by
    rw [hsplit, List.takeWhile_append_of_pos hall]
    simp
  have hrest : header.toList.dropWhile (· != ';')
      = ("; " ++ conditionText ++ "; " ++ updateText ++ ") \x7b").toList := by
    rw [hsplit, List.dropWhile_append_of_pos hall]
    simp
  have hselects : selections ("for (" ++ initialText) = is := by
    have hgap : selections ("for" ++ " (" ++ initialText) = _ := selections_gap (by decide) "for" initialText
    rw [show selections "for" = [] by decide, List.nil_append, hinitial.selects] at hgap
    exact hgap
  have hothers : selections ("; " ++ conditionText ++ "; " ++ updateText ++ ") \x7b") = cs ++ us := by
    rw [selections_before_gap (by decide), selections_gap (by decide), selections_after_gap (by decide),
      hcondition.selects, hupdate.selects]
  refine ⟨hnames, ?_⟩
  rw [headerUses, hfirst, hrest, hnames, String.ofList_toList, String.ofList_toList, usesIn, usesIn, hselects, hothers]

/-! ### Statements and their lines -/

theorem Outline.allUses_line {text : String} {name : Option String} {rs : List Reference} (h : Declares text name rs)
    (scope : List String) (rest : List Outline) :
    Outline.allUses scope (.line (text ++ ";") :: rest)
      = rs.map (Use.mk scope) ++ Outline.allUses (name.toList ++ scope) rest := by
  rw [Outline.allUses, Outline.uses, Outline.names, usesIn, selections_before_gap (by decide), h.selects,
    String.toList_append, h.names _ (by decide)]

open Outline (allUses_line)

mutual

/-- The lines of a statement, read in front of other lines, have the references of the statement and declare its
variable for the others. -/
theorem Stmt.outline_uses : ∀ s : Stmt, FragmentsPlain tier s.fragments → Ensures (fun own => ∀ scope rest,
    Outline.allUses scope (own ++ rest) = s.uses scope ++ Outline.allUses (s.name?.toList ++ scope) rest)
      (s.outline tier)
  | .declare v none, h => .ok fun scope rest => allUses_line (v.declares (fragmentsPlain_cons.1 h).1) scope rest
  | .declare v (some initial), h => by
    obtain ⟨hdeclarator, h⟩ := fragmentsPlain_cons.1 h
    refine .bind fun text ht => .ok fun scope rest => ?_
    have hinitial := Expr.text_readsAs (fragmentsPlain_cons.1 h).1 text ht
    exact allUses_line ((v.declares hdeclarator).given hinitial) scope rest
  | .assign target value, h => by
    refine .bind fun text ht => .ok fun scope rest => ?_
    exact allUses_line (assignmentText_readsAs h text ht).declares scope rest
  | .augment target operator value, h => by
    refine .bind fun text ht => .ok fun scope rest => ?_
    exact allUses_line (augmentText_readsAs h text ht).declares scope rest
  | .ret none, h => .ok fun scope rest => allUses_line (Reads.word (s := "return") (by decide)).declares scope rest
  | .ret (some value), h => by
    refine .bind fun text ht => .ok fun scope rest => ?_
    exact allUses_line (declares_return (Expr.text_readsAs (fragmentsPlain_cons.1 h).1 text ht)) scope rest
  | .branch condition whenTrue [], h => by
    obtain ⟨hcondition, h⟩ := fragmentsPlain_cons.1 h
    obtain ⟨htrue, -⟩ := fragmentsPlain_append.1 h
    refine .bind fun text ht => .bind fun body hb => .ok fun scope rest => ?_
    obtain ⟨hnames, huses⟩ := condition_header (Expr.text_readsAs hcondition text ht) "if" (by simp) scope
    change headerUses scope ("if" ++ " (" ++ text ++ ") \x7b")
      ++ Outline.allUses (loopNames ("if" ++ " (" ++ text ++ ") \x7b") ++ scope) body ++ _ = _
    have hnone : Stmt.allUses scope [] = [] := rfl
    rw [hnames, huses, List.nil_append, outlines_uses whenTrue htrue body hb, Stmt.uses, hnone, List.append_nil]
    rfl
  | .branch condition whenTrue (s :: others), h => by
    obtain ⟨hcondition, h⟩ := fragmentsPlain_cons.1 h
    obtain ⟨htrue, hfalse⟩ := fragmentsPlain_append.1 h
    refine .bind fun text ht => .bind fun first hf => .bind fun second hs => .ok fun scope rest => ?_
    obtain ⟨hnames, huses⟩ := condition_header (Expr.text_readsAs hcondition text ht) "if" (by simp) scope
    change headerUses scope ("if" ++ " (" ++ text ++ ") \x7b")
      ++ Outline.allUses (loopNames ("if" ++ " (" ++ text ++ ") \x7b") ++ scope) first
      ++ Outline.allUses (loopNames ("if" ++ " (" ++ text ++ ") \x7b") ++ scope) second ++ _ = _
    rw [hnames, huses, List.nil_append, outlines_uses whenTrue htrue first hf,
      outlines_uses (s :: others) hfalse second hs]
    rfl
  | .forLoop initial condition update body, h => by
    obtain ⟨h, hbody⟩ := fragmentsPlain_append.1 h
    obtain ⟨h, hupdate⟩ := fragmentsPlain_append.1 h
    obtain ⟨hinitial, hcondition⟩ := fragmentsPlain_append.1 h
    refine .bind fun initialText hi => .bind fun conditionText hc => .bind fun updateText hu => .bind fun lines hl =>
      .ok fun scope rest => ?_
    obtain ⟨hnames, huses⟩ := loop_header (Stmt.initialClause_declares hinitial initialText hi)
      (Expr.optionalText_readsAs hcondition conditionText hc) (Stmt.updateClause_readsAs hupdate updateText hu) scope
    rw [List.singleton_append, Outline.allUses, Outline.uses, hnames, huses, outlines_uses body hbody lines hl,
      ← List.flatMap_append]
    rfl
  | .whileLoop condition body, h => by
    obtain ⟨hcondition, hbody⟩ := fragmentsPlain_cons.1 h
    refine .bind fun text ht => .bind fun lines hl => .ok fun scope rest => ?_
    obtain ⟨hnames, huses⟩ := condition_header (Expr.text_readsAs hcondition text ht) "while" (by simp) scope
    change headerUses scope ("while" ++ " (" ++ text ++ ") \x7b")
      ++ Outline.allUses (loopNames ("while" ++ " (" ++ text ++ ") \x7b") ++ scope) lines ++ _ = _
    rw [hnames, huses, List.nil_append, outlines_uses body hbody lines hl]
    rfl
  | .expression value, h => by
    refine .bind fun text ht => .ok fun scope rest => ?_
    exact allUses_line (Expr.text_readsAs (fragmentsPlain_cons.1 h).1 text ht).declares scope rest
  | .breakLoop, _ => .ok fun scope rest => allUses_line (Reads.word (s := "break") (by decide)).declares scope rest
  | .continueLoop, _ =>
    .ok fun scope rest => allUses_line (Reads.word (s := "continue") (by decide)).declares scope rest
  | .discard, _ => .ok fun scope rest => allUses_line (Reads.word (s := "discard") (by decide)).declares scope rest
  | .unknown, _ => .ok fun scope rest => rfl

theorem Stmt.outlines_uses : ∀ ss : List Stmt, FragmentsPlain tier (Stmt.allFragments ss) →
    Ensures (fun os => ∀ scope, Outline.allUses scope os = Stmt.allUses scope ss) (Stmt.outlines tier ss)
  | [], _ => .ok fun scope => rfl
  | s :: rest, h => by
    obtain ⟨hs, hrest⟩ := fragmentsPlain_append.1 h
    refine .bind fun own hown => .bind fun others hothers => .ok fun scope => ?_
    rw [outline_uses s hs own hown, outlines_uses rest hrest others hothers]
    rfl

end

end Statements

end GlslCompiler

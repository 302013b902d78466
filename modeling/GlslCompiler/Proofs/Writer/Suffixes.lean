import GlslCompiler.Proofs.Expression.Suffixes
import GlslCompiler.Proofs.Writer.Dialects

/-!
# Suffixes in the text of a program

The ES family has no suffix on floating constants. A literal in an expression loses its suffix, wherever in a function
the expression stands. The initial value of a global variable or of a member of a block is no expression but a text,
written as it is. So the suffixed constants that are read in the text of a program are the suffixed ones among these
initial values and no others.
-/

namespace GlslCompiler

open Grammar

/-! ### Statements -/

def Fragment.Lexical (tier : Tier) : Fragment → Prop
  | .expression e => AllLexical tier e.parts
  | .declarator type name => isWord type.base.toList = true ∧ isWord name.toList = true
  | .counter type name => isWord type.base.toList = true ∧ isWord name.toList = true
  | .operator text => text.toList.all isSymbolChar = true

def FragmentsLexical (tier : Tier) (fragments : List Fragment) : Prop := ∀ f ∈ fragments, f.Lexical tier

theorem counter_unsuffixed {base name : String} (htype : isWord base.toList = true)
    (hname : isWord name.toList = true) : Unsuffixed (base ++ " " ++ name) :=
  ((Unsuffixed.word htype).append_separator (by decide)).append (.word hname)

theorem declarator_unsuffixed {type : GlslType} {name : String} (htype : isWord type.base.toList = true)
    (hname : isWord name.toList = true) : Unsuffixed (declarator type name) := by
  have hbare := counter_unsuffixed htype hname
  unfold declarator
  split
  · exact (((hbare.append_separator (by decide)).append (.toString _)).append_separator (by decide)).unsuffixed
  · exact hbare

theorem Qualifier.text_unsuffixed (q : Qualifier) : Unsuffixed q.text := by
  cases q <;> exact .word (by decide)

theorem qualifiers_unsuffixed (qualifiers : List Qualifier) :
    ∀ text ∈ qualifiers.map Qualifier.text, Unsuffixed text := by
  intro text htext
  obtain ⟨q, -, rfl⟩ := List.mem_map.1 htext
  exact q.text_unsuffixed

theorem Variable.qualifiedDeclarator_unsuffixed {v : Variable} (h : Unsuffixed (declarator v.type v.name)) :
    Unsuffixed v.qualifiedDeclarator := by
  unfold qualifiedDeclarator
  dsimp only
  split
  · exact h
  · have hqualifiers : Unsuffixed (" ".intercalate (v.qualifiers.map Qualifier.text)) :=
      .intercalate (by decide) (qualifiers_unsuffixed v.qualifiers)
    exact (hqualifiers.append_separator (by decide)).append h

section Statements

variable {tier : Tier}

theorem fragmentsLexical_cons {f : Fragment} {fragments : List Fragment} :
    FragmentsLexical tier (f :: fragments) ↔ f.Lexical tier ∧ FragmentsLexical tier fragments := List.forall_mem_cons

theorem fragmentsLexical_append {fragments others : List Fragment} :
    FragmentsLexical tier (fragments ++ others) ↔ FragmentsLexical tier fragments ∧ FragmentsLexical tier others :=
  List.forall_mem_append

theorem carries_unsuffixed (htier : tier.constrained = true) : Carries tier (Fragment.Lexical tier) Unsuffixed where
  empty := .of_lacks rfl
  expression h := Expr.text_unsuffixed htier _ h
  counter h := counter_unsuffixed h.1 h.2
  assign htarget hvalue := (htarget.append_separator (by decide)).append hvalue
  augment {target operator value} hoperator htarget hvalue := by
    -- The equals sign is no delimiter: it belongs to the operator before it.
    have hoperator : Unsuffixed (operator ++ "=") := .symbols_append hoperator (.symbols (by decide))
    have htarget : Leads (target ++ " ") := htarget.append_separator (by decide)
    have hassign : Leads (target ++ " " ++ (operator ++ "=") ++ " ") :=
      (htarget.append hoperator).append_separator (by decide)
    have hparts : target ++ " " ++ (operator ++ "=") ++ " " = target ++ " " ++ operator ++ "= " := by
      simp only [String.append_assoc]
      rfl
    rw [← hparts]
    exact hassign.append hvalue

/-- A line may begin with a word and a separator. -/
theorem keyword_leads (word sep : String) (hword : isWord word.toList = true) (hsep : separates sep = true)
    (depth : Int) : Leads (indentation depth ++ (word ++ sep)) :=
  (leads_indentation depth).append_leads ((Unsuffixed.word hword).append_separator hsep)

theorem line_unsuffixed {text : String} (h : Unsuffixed text) (depth : Int) :
    Unsuffixed (indentation depth ++ text ++ ";") :=
  (((leads_indentation depth).append h).append_separator (by decide)).unsuffixed

theorem block_unsuffixed {header : String} {lines : List String} (hheader : Unsuffixed header)
    (hlines : ∀ line ∈ lines, Unsuffixed line) (depth : Int) :
    ∀ line ∈ [header] ++ lines ++ [indentation depth ++ "\x7d"], Unsuffixed line := by
  have hbrace : Leads "\x7d" := leads_separator _ (by decide)
  refine List.forall_mem_append.2 ⟨List.forall_mem_append.2 ⟨?_, hlines⟩, ?_⟩
  · exact List.forall_mem_singleton.2 hheader
  · exact List.forall_mem_singleton.2 ((leads_indentation depth).append hbrace.unsuffixed)

mutual

theorem Stmt.lines_unsuffixed (htier : tier.constrained = true) : ∀ (s : Stmt) (depth : Int),
    FragmentsLexical tier s.fragments → Ensures (fun lines => ∀ line ∈ lines, Unsuffixed line) (s.lines tier depth)
  | .declare v none, depth, h => by
    obtain ⟨⟨htype, hname⟩, -⟩ := fragmentsLexical_cons.1 h
    have hv := Variable.qualifiedDeclarator_unsuffixed (declarator_unsuffixed htype hname)
    exact .ok (List.forall_mem_singleton.2 (line_unsuffixed hv depth))
  | .declare v (some initial), depth, h => by
    obtain ⟨⟨htype, hname⟩, h⟩ := fragmentsLexical_cons.1 h
    have hv := Variable.qualifiedDeclarator_unsuffixed (declarator_unsuffixed htype hname)
    refine .bind fun initialText ht => .ok (List.forall_mem_singleton.2 ?_)
    have ht := initial.text_unsuffixed htier (fragmentsLexical_cons.1 h).1 _ ht
    have hequals : Leads (indentation depth ++ v.qualifiedDeclarator ++ " = ") :=
      ((leads_indentation depth).append hv).append_separator (by decide)
    exact ((hequals.append ht).append_separator (by decide)).unsuffixed
  | .assign target value, depth, h => by
    refine .bind fun text ht => .ok (List.forall_mem_singleton.2 ?_)
    exact line_unsuffixed ((carries_unsuffixed htier).assignmentText h _ ht) depth
  | .augment target operator value, depth, h => by
    refine .bind fun text ht => .ok (List.forall_mem_singleton.2 ?_)
    exact line_unsuffixed ((carries_unsuffixed htier).augmentText h _ ht) depth
  | .ret none, depth, _ => by
    refine .ok (List.forall_mem_singleton.2 ?_)
    exact (keyword_leads "return" ";" (by decide) (by decide) depth).unsuffixed
  | .ret (some value), depth, h => by
    refine .bind fun text ht => .ok (List.forall_mem_singleton.2 ?_)
    have ht := value.text_unsuffixed htier (fragmentsLexical_cons.1 h).1 _ ht
    have hkeyword := keyword_leads "return" " " (by decide) (by decide) depth
    exact ((hkeyword.append ht).append_separator (by decide)).unsuffixed
  | .branch condition whenTrue whenFalse, depth, h => by
    obtain ⟨hcondition, h⟩ := fragmentsLexical_cons.1 h
    obtain ⟨htrue, hfalse⟩ := fragmentsLexical_append.1 h
    refine .bind fun text ht => .bind fun trueLines htl => .bind fun falseLines hfl => .ok ?_
    have ht := condition.text_unsuffixed htier hcondition _ ht
    have hkeyword := keyword_leads "if" " (" (by decide) (by decide) depth
    have helse : Leads "\x7d else \x7b" := leads_separator _ (by decide)
    rw [List.append_assoc [_]]
    refine block_unsuffixed ((hkeyword.append ht).append_separator (by decide)).unsuffixed
      (List.forall_mem_append.2 ⟨?_, ?_⟩) depth
    · exact Stmt.bodyLines_unsuffixed htier whenTrue (depth + 1) htrue trueLines htl
    · split
      · simp
      · refine List.forall_mem_append.2 ⟨List.forall_mem_singleton.2 ?_, ?_⟩
        · exact (leads_indentation depth).append helse.unsuffixed
        · exact Stmt.bodyLines_unsuffixed htier whenFalse (depth + 1) hfalse falseLines hfl
  | .forLoop initial condition update body, depth, h => by
    obtain ⟨h, hbody⟩ := fragmentsLexical_append.1 h
    obtain ⟨h, hupdate⟩ := fragmentsLexical_append.1 h
    obtain ⟨hinitial, hcondition⟩ := fragmentsLexical_append.1 h
    refine .bind fun initialText hi => .bind fun conditionText hc => .bind fun updateText hu => .bind fun lines hl =>
      .ok ?_
    have hi := (carries_unsuffixed htier).initialClause hinitial _ hi
    have hc := (carries_unsuffixed htier).optionalText hcondition _ hc
    have hu := (carries_unsuffixed htier).updateClause hupdate _ hu
    have hkeyword := keyword_leads "for" " (" (by decide) (by decide) depth
    have hfirst : Leads (_ ++ initialText ++ "; ") := (hkeyword.append hi).append_separator (by decide)
    have hsecond : Leads (_ ++ conditionText ++ "; ") := (hfirst.append hc).append_separator (by decide)
    refine block_unsuffixed ((hsecond.append hu).append_separator (by decide)).unsuffixed ?_ depth
    exact Stmt.bodyLines_unsuffixed htier body (depth + 1) hbody lines hl
  | .whileLoop condition body, depth, h => by
    obtain ⟨hcondition, hbody⟩ := fragmentsLexical_cons.1 h
    refine .bind fun text ht => .bind fun lines hl => .ok ?_
    have ht := condition.text_unsuffixed htier hcondition _ ht
    have hkeyword := keyword_leads "while" " (" (by decide) (by decide) depth
    refine block_unsuffixed ((hkeyword.append ht).append_separator (by decide)).unsuffixed ?_ depth
    exact Stmt.bodyLines_unsuffixed htier body (depth + 1) hbody lines hl
  | .expression value, depth, h => by
    refine .bind fun text ht => .ok (List.forall_mem_singleton.2 ?_)
    exact line_unsuffixed (value.text_unsuffixed htier (fragmentsLexical_cons.1 h).1 _ ht) depth
  | .breakLoop, depth, _ => by
    refine .ok (List.forall_mem_singleton.2 ?_)
    exact (keyword_leads "break" ";" (by decide) (by decide) depth).unsuffixed
  | .continueLoop, depth, _ => by
    refine .ok (List.forall_mem_singleton.2 ?_)
    exact (keyword_leads "continue" ";" (by decide) (by decide) depth).unsuffixed
  | .discard, depth, _ => by
    refine .ok (List.forall_mem_singleton.2 ?_)
    exact (keyword_leads "discard" ";" (by decide) (by decide) depth).unsuffixed
  | .unknown, _, _ => .ok (by simp)

theorem Stmt.bodyLines_unsuffixed (htier : tier.constrained = true) : ∀ (ss : List Stmt) (depth : Int),
    FragmentsLexical tier (Stmt.allFragments ss) →
      Ensures (fun lines => ∀ line ∈ lines, Unsuffixed line) (Stmt.bodyLines tier ss depth)
  | [], _, _ => .ok (by simp)
  | s :: rest, depth, h => by
    obtain ⟨hs, hrest⟩ := fragmentsLexical_append.1 h
    refine .bind fun lines hl => .bind fun others ho => .ok (List.forall_mem_append.2 ⟨?_, ?_⟩)
    · exact Stmt.lines_unsuffixed htier s depth hs lines hl
    · exact Stmt.bodyLines_unsuffixed htier rest depth hrest others ho

end

end Statements

/-! ### Lines -/

/-- The suffixed constants that are read in lines. -/
def suffixedInLines (lines : List String) : Set String := {w | ∃ line ∈ lines, w ∈ suffixedIn line}

/-- The suffixed constants among texts. -/
def suffixedAmong (texts : List String) : Set String := {w | w ∈ texts ∧ IsSuffixed w}

theorem suffixedInLines_append (xs ys : List String) :
    suffixedInLines (xs ++ ys) = suffixedInLines xs ∪ suffixedInLines ys := by
  ext w
  show (∃ line ∈ xs ++ ys, _) ↔ (∃ line ∈ xs, _) ∨ ∃ line ∈ ys, _
  simp only [List.mem_append, or_and_right, exists_or]

theorem suffixedInLines_singleton (line : String) : suffixedInLines [line] = suffixedIn line := by
  ext w
  simp [suffixedInLines]

theorem suffixedInLines_of_unsuffixed {lines : List String} (h : ∀ line ∈ lines, Unsuffixed line) :
    suffixedInLines lines = ∅ := by
  refine Set.eq_empty_of_forall_notMem ?_
  rintro w ⟨line, hline, hw⟩
  rw [h line hline] at hw
  exact hw

theorem suffixedInLines_between {opening closing : String} (hopening : Unsuffixed opening)
    (hclosing : Unsuffixed closing) (lines : List String) :
    suffixedInLines ([opening] ++ lines ++ [closing]) = suffixedInLines lines := by
  rw [suffixedInLines_append, suffixedInLines_append, suffixedInLines_singleton, suffixedInLines_singleton, hopening,
    hclosing, Set.empty_union, Set.union_empty]

theorem suffixedAmong_nil : suffixedAmong [] = ∅ := by
  ext w
  simp [suffixedAmong]

theorem suffixedAmong_append (xs ys : List String) :
    suffixedAmong (xs ++ ys) = suffixedAmong xs ∪ suffixedAmong ys := by
  ext w
  show _ ∈ xs ++ ys ∧ _ ↔ _ ∧ _ ∨ _ ∧ _
  rw [List.mem_append, or_and_right]

/-- No constant reaches from one line into the next. -/
theorem suffixedIn_joinLines (lines : List String) : suffixedIn (Program.joinLines lines) = suffixedInLines lines := by
  induction lines with
  | nil =>
    have hnone : Unsuffixed "" := .of_lacks rfl
    rw [suffixedInLines_of_unsuffixed (by simp)]
    exact hnone
  | cons line rest ih =>
    rw [Program.joinLines_cons, suffixedIn_join (by decide), ih, ← suffixedInLines_singleton, ← suffixedInLines_append]
    rfl

/-! ### Declarations -/

/-- The names are words, the layout has no suffixed constant in it, and the initial value is a constant. -/
structure Variable.Lexical (v : Variable) : Prop where
  type : isWord v.type.base.toList = true
  name : isWord v.name.toList = true
  layout : ∀ entry ∈ v.layout.entries, Unsuffixed (Layout.entryText entry)
  initialValue : ∀ value ∈ v.initialValue, SpellsConstant value

theorem Layout.text_unsuffixed {layout : Layout} (h : ∀ entry ∈ layout.entries, Unsuffixed (entryText entry)) :
    Unsuffixed layout.text := by
  have hentries : Unsuffixed (", ".intercalate (layout.entries.map entryText)) := by
    refine .intercalate (by decide) fun text htext => ?_
    obtain ⟨entry, hentry, rfl⟩ := List.mem_map.1 htext
    exact h entry hentry
  have hhead : Leads ("layout" ++ "(") := (Unsuffixed.word (by decide)).append_separator (by decide)
  exact ((hhead.append hentries).append_separator (by decide)).unsuffixed

theorem Variable.Lexical.suffixedIn_declarationWith {v : Variable} (h : v.Lexical) (qualifiers : List Qualifier) :
    suffixedIn (v.declarationWith qualifiers) = suffixedAmong v.initialValue.toList := by
  have hhead : Unsuffixed (" ".intercalate ((if v.layout.isEmpty then [] else [v.layout.text])
      ++ qualifiers.map Qualifier.text ++ [declarator v.type v.name])) := by
    refine .intercalate (by decide) (List.forall_mem_append.2 ⟨List.forall_mem_append.2 ⟨?_, ?_⟩, ?_⟩)
    · split
      · simp
      · exact List.forall_mem_singleton.2 (Layout.text_unsuffixed h.layout)
    · exact qualifiers_unsuffixed qualifiers
    · exact List.forall_mem_singleton.2 (declarator_unsuffixed h.type h.name)
  unfold declarationWith
  dsimp only
  cases hvalue : v.initialValue with
  | none =>
    rw [suffixedIn_separator (by decide), hhead]
    exact suffixedAmong_nil.symm
  | some value =>
    have hequals : Leads (_ ++ " = ") := hhead.append_separator (by decide)
    rw [suffixedIn_separator (by decide), hequals.suffixedIn_append, (h.initialValue value hvalue).suffixedIn_eq]
    simp [suffixedAmong]

theorem suffixedInLines_map {members : List Variable} {f : Variable → String}
    (h : ∀ v ∈ members, suffixedIn (f v) = suffixedAmong v.initialValue.toList) :
    suffixedInLines (members.map f) = suffixedAmong (members.flatMap fun v => v.initialValue.toList) := by
  induction members with
  | nil => rw [List.map_nil, List.flatMap_nil, suffixedAmong_nil, suffixedInLines_of_unsuffixed (by simp)]
  | cons v rest ih =>
    obtain ⟨hv, hrest⟩ := List.forall_mem_cons.1 h
    rw [List.map_cons, List.flatMap_cons, suffixedAmong_append, ← ih hrest, ← hv, ← suffixedInLines_singleton,
      ← suffixedInLines_append]
    rfl

structure Struct.Lexical (s : Struct) : Prop where
  name : isWord s.name.toList = true
  fields : ∀ field ∈ s.fields, isWord field.2.base.toList = true ∧ isWord field.1.toList = true

theorem Struct.Lexical.lines_unsuffixed {s : Struct} (h : s.Lexical) : ∀ line ∈ s.lines, Unsuffixed line := by
  have hopening : Leads ("struct" ++ " ") := (Unsuffixed.word (by decide)).append_separator (by decide)
  refine List.forall_mem_append.2 ⟨List.forall_mem_append.2 ⟨?_, ?_⟩, ?_⟩
  · exact List.forall_mem_singleton.2 ((hopening.append (.word h.name)).append_separator (by decide)).unsuffixed
  · intro line hline
    obtain ⟨field, hfield, rfl⟩ := List.mem_map.1 hline
    obtain ⟨htype, hname⟩ := h.fields field hfield
    exact (((leads_separator "    " (by decide)).append (declarator_unsuffixed htype hname)).append_separator
      (by decide)).unsuffixed
  · exact List.forall_mem_singleton.2 (leads_separator "\x7d;" (by decide)).unsuffixed

structure UniformBlock.Lexical (b : UniformBlock) : Prop where
  name : isWord b.name.toList = true
  layout : ∀ entry ∈ b.layout.entries, Unsuffixed (Layout.entryText entry)
  instanceName : ∀ name ∈ b.instanceName, name.isEmpty = false → isWord name.toList = true
  members : ∀ v ∈ b.members, v.Lexical

theorem UniformBlock.Lexical.suffixedIn_lines {b : UniformBlock} (h : b.Lexical) (tier : Tier) :
    suffixedInLines (b.lines tier) = suffixedAmong (b.members.flatMap fun v => v.initialValue.toList) := by
  have hhead : Unsuffixed ("uniform " ++ b.name ++ " \x7b") := by
    have hkeyword : Leads ("uniform" ++ " ") := (Unsuffixed.word (by decide)).append_separator (by decide)
    exact ((hkeyword.append (.word h.name)).append_separator (by decide)).unsuffixed
  unfold lines
  dsimp only
  split
  · have hmembers : ∀ v ∈ b.members,
        suffixedIn ("    " ++ v.declaration) = suffixedAmong v.initialValue.toList := by
      intro v hv
      rw [(leads_separator "    " (by decide)).suffixedIn_append]
      exact (h.members v hv).suffixedIn_declarationWith v.qualifiers
    refine (suffixedInLines_between ?opening ?closing _).trans (suffixedInLines_map hmembers)
    case opening =>
      split
      · exact hhead
      · exact ((Layout.text_unsuffixed h.layout).append_separator (by decide)).append hhead
    case closing =>
      split
      · rename_i name hname
        split
        · exact .of_lacks rfl
        · rename_i hempty
          have hword := h.instanceName name hname (Bool.eq_false_iff.2 hempty)
          exact (((leads_separator "\x7d " (by decide)).append (.word hword)).append_separator (by decide)).unsuffixed
      · exact .of_lacks rfl
  · exact suffixedInLines_map fun v hv => (h.members v hv).suffixedIn_declarationWith [.uniform]

structure Function.Lexical (tier : Tier) (f : Function) : Prop where
  name : isWord f.name.toList = true
  returned : isWord f.returnName.toList = true
  parameters : ∀ p ∈ f.parameters, isWord p.type.base.toList = true ∧ isWord p.name.toList = true
  body : FragmentsLexical tier (Stmt.allFragments f.body)

theorem Parameter.text_unsuffixed {p : Parameter} (htype : isWord p.type.base.toList = true)
    (hname : isWord p.name.toList = true) : Unsuffixed p.text := by
  unfold Parameter.text
  split
  · rename_i qualifier _
    exact (qualifier.text_unsuffixed.append_separator (by decide)).append (declarator_unsuffixed htype hname)
  · exact declarator_unsuffixed htype hname

theorem Function.Lexical.lines_unsuffixed {tier : Tier} (htier : tier.constrained = true) {f : Function}
    (h : f.Lexical tier) : Ensures (fun lines => ∀ line ∈ lines, Unsuffixed line) (f.lines tier) := by
  refine .bind fun body hbody => .ok ?_
  have hparameters : Unsuffixed (", ".intercalate (f.parameters.map Parameter.text)) := by
    refine .intercalate (by decide) fun text htext => ?_
    obtain ⟨p, hp, rfl⟩ := List.mem_map.1 htext
    exact Parameter.text_unsuffixed (h.parameters p hp).1 (h.parameters p hp).2
  have hname : Leads (f.returnName ++ " ") := (Unsuffixed.word h.returned).append_separator (by decide)
  have hopening : Leads (f.returnName ++ " " ++ f.name ++ "(") :=
    (hname.append (.word h.name)).append_separator (by decide)
  refine List.forall_mem_append.2 ⟨List.forall_mem_append.2 ⟨?_, ?_⟩, ?_⟩
  · exact List.forall_mem_singleton.2 ((hopening.append hparameters).append_separator (by decide)).unsuffixed
  · exact Stmt.bodyLines_unsuffixed htier f.body 1 h.body body hbody
  · exact List.forall_mem_singleton.2 (leads_separator "\x7d" (by decide)).unsuffixed

namespace Decl

/-- Every text in the declaration is of the class that its place asks for. -/
def Lexical (tier : Tier) : Decl → Prop
  | .struct s => s.Lexical
  | .block b => b.Lexical
  | .global v => v.Lexical
  | .function f => f.Lexical tier
  | .unknown => True

/-- The initial values that are kept as texts. -/
def initialValues : Decl → List String
  | .block b => b.members.flatMap fun v => v.initialValue.toList
  | .global v => v.initialValue.toList
  | .struct _ => []
  | .function _ => []
  | .unknown => []

theorem Lexical.suffixedIn_lines {tier : Tier} (htier : tier.constrained = true) {d : Decl} (h : d.Lexical tier) :
    Ensures (fun lines => suffixedInLines lines = suffixedAmong d.initialValues) (d.lines tier) := by
  have hempty : Unsuffixed "" := .of_lacks rfl
  cases d with
  | struct s =>
    have hlines : ∀ line ∈ s.lines ++ [""], Unsuffixed line :=
      List.forall_mem_append.2 ⟨h.lines_unsuffixed, List.forall_mem_singleton.2 hempty⟩
    exact .ok ((suffixedInLines_of_unsuffixed hlines).trans suffixedAmong_nil.symm)
  | block b =>
    refine .ok ?_
    rw [suffixedInLines_append, suffixedInLines_singleton, hempty, Set.union_empty]
    exact UniformBlock.Lexical.suffixedIn_lines h tier
  | global v =>
    refine .ok ?_
    rw [suffixedInLines_singleton]
    exact h.suffixedIn_declarationWith v.qualifiers
  | function f =>
    refine (h.lines_unsuffixed htier).map fun lines hlines => ?_
    have hlines : ∀ line ∈ lines ++ [""], Unsuffixed line :=
      List.forall_mem_append.2 ⟨hlines, List.forall_mem_singleton.2 hempty⟩
    exact (suffixedInLines_of_unsuffixed hlines).trans suffixedAmong_nil.symm
  | unknown => exact .ok ((suffixedInLines_of_unsuffixed (by simp)).trans suffixedAmong_nil.symm)

end Decl

/-! ### Programs -/

namespace Program

def initialValues (program : Program) : List String := program.flatMap Decl.initialValues

theorem suffixedIn_lines {tier : Tier} (htier : tier.constrained = true) {program : Program}
    (h : ∀ d ∈ program, d.Lexical tier) :
    Ensures (fun lines => suffixedInLines lines = suffixedAmong program.initialValues) (program.lines tier) := by
  induction program with
  | nil => exact .ok ((suffixedInLines_of_unsuffixed (by simp)).trans suffixedAmong_nil.symm)
  | cons d rest ih =>
    obtain ⟨hd, hrest⟩ := List.forall_mem_cons.1 h
    refine .bind fun own hown => .bind fun others hothers => .ok ?_
    rw [suffixedInLines_append, hd.suffixedIn_lines htier own hown, ih hrest others hothers, ← suffixedAmong_append]
    rfl

/-- The suffixed constants in an ES text are the suffixed initial values of the program: each of them is there, and no
literal of a function is. -/
theorem suffixedIn_text {tier : Tier} (htier : tier.constrained = true) {program : Program}
    (hprogram : ∀ d ∈ program, d.Lexical tier) {text : String} (htext : program.text tier = .ok text) :
    suffixedIn text = {value | value ∈ program.initialValues ∧ IsSuffixed value} := by
  rw [text_eq] at htext
  have htexts : Ensures (fun text => suffixedIn text = suffixedAmong program.initialValues)
      ((program.lines tier).map joinLines) := by
    refine (suffixedIn_lines htier hprogram).map fun lines hlines => ?_
    rw [suffixedIn_joinLines, hlines]
  exact htexts text htext

theorem one_suffixed : SpellsConstant "1.0f" ∧ IsSuffixed "1.0f" := by
  let one : FloatConstant := ⟨⟨['1'], rfl⟩, some ⟨['0'], rfl⟩, none, by simp⟩
  exact ⟨⟨one, fun _ => rfl, ['f'], by simp, rfl⟩, one, ['f'], by simp, rfl⟩

/-- The literals of the function lose their suffixes, one of them in front of a member; the initial value keeps its
own. -/
theorem suffixedIn_text_gain :
    let gain : Variable := ⟨"gain", ⟨"float", none⟩, [.const], {}, some "1.0f"⟩
    let color : Expr := .construct ⟨"vec4", none⟩ [
      .unary "-" (.literal (.spelling "2f") ⟨"float", none⟩),
      .swizzle (.literal (.spelling "0.5F") ⟨"float", none⟩) "xx", .name "gain"]
    let program : Program := [.global gain, .function ⟨"main", [], none, [.assign (.name "color") color]⟩]
    let text := "const float gain = 1.0f;\nvoid main() \x7b\n    color = vec4(-2.0, 0.5.xx, gain);\n\x7d\n\n"
    program.text .es2 = .ok text ∧ suffixedIn text = {"1.0f"} := by
  intro gain color program text
  have htext : program.text .es2 = .ok text := by decide
  have hgain : gain.Lexical := by
    refine ⟨by decide, by decide, by simp [gain], ?_⟩
    rintro value ⟨⟩
    exact one_suffixed.1
  have htwo : SpellsConstant "2f" :=
    ⟨⟨⟨['2'], rfl⟩, none, none, by simp⟩, fun _ => rfl, ['f'], by simp, rfl⟩
  have hhalf : SpellsConstant "0.5F" :=
    ⟨⟨⟨['0'], rfl⟩, some ⟨['5'], rfl⟩, none, by simp⟩, fun _ => rfl, ['F'], by simp, rfl⟩
  have hclosed : (Expr.literal (.spelling "0.5F") ⟨"float", none⟩).TakesMember .es2 := by
    rintro text ⟨⟩
    exact .inr ⟨[], by simp, ⟨⟨['0'], rfl⟩, some ⟨['5'], rfl⟩, none, by simp⟩, rfl, rfl⟩
  have hcolor : AllLexical .es2 color.parts := by
    simp only [AllLexical, color, Expr.parts, Expr.allParts, List.cons_append, List.nil_append, List.append_nil,
      List.forall_mem_cons, Expr.Lexical, Value.spelling.injEq, forall_eq']
    exact ⟨by decide, by decide, htwo, ⟨by decide, hclosed⟩, hhalf, by decide, by simp⟩
  have hmain : Function.Lexical .es2 ⟨"main", [], none, [.assign (.name "color") color]⟩ := by
    refine ⟨by decide, by decide, by simp, ?_⟩
    refine List.forall_mem_cons.2 ⟨List.forall_mem_singleton.2 ?_, List.forall_mem_singleton.2 hcolor⟩
    exact (by decide : isWord "color".toList = true)
  have hprogram : ∀ d ∈ program, d.Lexical .es2 :=
    List.forall_mem_cons.2 ⟨hgain, List.forall_mem_singleton.2 hmain⟩
  refine ⟨htext, (suffixedIn_text rfl hprogram htext).trans (Set.eq_singleton_iff_unique_mem.2 ⟨?_, ?_⟩)⟩
  · exact ⟨List.mem_cons_self, one_suffixed.2⟩
  · exact fun value hvalue => List.mem_singleton.1 hvalue.1

/-- An initial value keeps its suffix in the modern ES dialect too. -/
theorem initial_value_keeps_suffix :
    Program.text .es3 [.global ⟨"x", ⟨"float", none⟩, [], {}, some "1.0f"⟩] = .ok "float x = 1.0f;\n" ∧
      "1.0f" ∈ suffixedIn "float x = 1.0f;\n" := by
  refine ⟨by decide, ?_⟩
  have hx : Variable.Lexical ⟨"x", ⟨"float", none⟩, [], {}, some "1.0f"⟩ := by
    refine ⟨by decide, by decide, by simp, ?_⟩
    rintro value ⟨⟩
    exact one_suffixed.1
  have hline : suffixedIn "float x = 1.0f;" = suffixedAmong ["1.0f"] := hx.suffixedIn_declarationWith []
  have htext : suffixedIn ("float x = 1.0f;" ++ "\n") = suffixedAmong ["1.0f"] := by
    rw [suffixedIn_separator (by decide), hline]
  rw [show "float x = 1.0f;\n" = "float x = 1.0f;" ++ "\n" from rfl, htext]
  exact ⟨List.mem_cons_self, one_suffixed.2⟩

end Program

end GlslCompiler

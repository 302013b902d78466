import GlslCompiler.Writer.Decl

/-!
# What is written where

A statement is written from expressions, declarators and operators, its fragments. They stand in its lines in order,
each in a place of its own. The clauses of a loop header take part only as far as they are written: the variable of a
loop has no size there, and a statement that leaves its clause empty has no fragments. `Carries` is for the other
direction: a property that goes over from the fragments to the texts put together from them holds of every clause.

What else there is to know about the parts of expressions and statements, such as which literals are written, is read
off `Expr.parts` and `Stmt.fragments`.
-/

namespace GlslCompiler

/-! ### Texts -/

/-- None of the characters is in the text. -/
def Lacks (chars : List Char) (text : String) : Prop := text.toList.all (fun c => !chars.contains c) = true

instance (chars : List Char) (text : String) : Decidable (Lacks chars text) := inferInstanceAs (Decidable (_ = true))

namespace Lacks

variable {chars : List Char} {s t : String}

theorem not_mem {c : Char} (h : Lacks chars s) (hc : c ∈ chars) : c ∉ s.toList := by
  intro hmem
  have hlacks := List.all_eq_true.1 h c hmem
  simp [hc] at hlacks

theorem of_not_mem (h : ∀ c ∈ chars, c ∉ s.toList) : Lacks chars s := by
  refine List.all_eq_true.2 fun c hc => ?_
  simpa using fun hmem => h c hmem hc

/-- In the form that `takeWhile` and `dropWhile` ask for. -/
theorem bne {c : Char} (h : Lacks chars s) (hc : c ∈ chars) : ∀ d ∈ s.toList, (d != c) = true := by
  intro d hd
  simpa using fun heq : d = c => h.not_mem hc (heq ▸ hd)

theorem subset {chars' : List Char} (h : Lacks chars s) (hsub : chars' ⊆ chars) : Lacks chars' s :=
  of_not_mem fun _ hc => h.not_mem (hsub hc)

theorem append (hs : Lacks chars s) (ht : Lacks chars t) : Lacks chars (s ++ t) := by
  unfold Lacks at *
  rw [String.toList_append, List.all_append, hs, ht]
  rfl

theorem intercalate {separator : String} {texts : List String} (hseparator : Lacks chars separator)
    (h : ∀ text ∈ texts, Lacks chars text) : Lacks chars (separator.intercalate texts) := by
  induction texts with
  | nil => rfl
  | cons first rest ih =>
    obtain ⟨hfirst, hrest⟩ := List.forall_mem_cons.1 h
    cases rest with
    | nil =>
      rw [String.intercalate_singleton]
      exact hfirst
    | cons second rest =>
      rw [String.intercalate_cons_cons]
      exact (hfirst.append hseparator).append (ih hrest)

end Lacks

/-- The size of an array, in brackets. -/
def sizeText : Option Int → String
  | some size => "[" ++ toString size ++ "]"
  | none => ""

theorem declarator_eq (type : GlslType) (name : String) :
    declarator type name = type.base ++ " " ++ name ++ sizeText type.arraySize := by
  unfold declarator
  split
  · rename_i size hsize
    simp only [hsize, sizeText, String.append_assoc]
  · rename_i hsize
    simp only [hsize, sizeText, String.append_empty]

theorem GlslType.text_eq (type : GlslType) : type.text = type.base ++ sizeText type.arraySize := by
  unfold text
  split
  · rename_i size hsize
    simp only [hsize, sizeText, String.append_assoc]
  · rename_i hsize
    simp only [hsize, sizeText, String.append_empty]

/-- What holds of the result, if there is one. -/
def Ensures {ε α : Type} (p : α → Prop) (x : Except ε α) : Prop := ∀ a, x = .ok a → p a

instance {ε α : Type} {p : α → Prop} [DecidablePred p] (x : Except ε α) : Decidable (Ensures p x) :=
  match x with
  | .error _ => isTrue fun _ h => nomatch h
  | .ok a => decidable_of_iff (p a) ⟨fun h _ heq => Except.ok.inj heq ▸ h, fun h => h a rfl⟩

namespace Ensures

variable {ε α β : Type} {p : α → Prop} {q : β → Prop}

theorem ok {a : α} (h : p a) : Ensures p (.ok a : Except ε α) := by
  rintro _ ⟨⟩
  exact h

theorem bind {x : Except ε α} {f : α → Except ε β} (h : ∀ a, x = .ok a → Ensures q (f a)) :
    Ensures q (x >>= f) := by
  intro b hb
  cases x with
  | error error => cases hb
  | ok a => exact h a rfl b hb

theorem map {x : Except ε α} {f : α → β} (h : Ensures p x) (hf : ∀ a, p a → q (f a)) : Ensures q (x.map f) := by
  cases x with
  | error error => rintro _ ⟨⟩
  | ok a => exact .ok (hf a (h a rfl))

end Ensures

/-! ### Items in a text -/

/-- The items stand in the text in this order, each in a place of its own. Between them may be anything. -/
inductive Shows {α : Type} (Written : α → String → Prop) : List α → String → Prop where
  | nothing (text : String) : Shows Written [] text
  | item {a : α} {text : String} (h : Written a text) : Shows Written [a] text
  | append {items others : List α} {s t : String} (hs : Shows Written items s) (ht : Shows Written others t) :
      Shows Written (items ++ others) (s ++ t)

namespace Shows

variable {α β : Type} {Written : α → String → Prop} {Written' : β → String → Prop} {items : List α} {s : String}

theorem before (text : String) (h : Shows Written items s) : Shows Written items (text ++ s) :=
  .append (.nothing text) h

theorem after (h : Shows Written items s) (text : String) : Shows Written items (s ++ text) := by
  have happend := h.append (.nothing text)
  rwa [List.append_nil] at happend

theorem group (h : Shows Written items s) (asked precedence : Int) :
    Shows Written items (GlslCompiler.group asked precedence s) := by
  unfold GlslCompiler.group
  split
  · exact (h.before "(").after ")"
  · exact h

theorem guardSign (h : Shows Written items s) : Shows Written items (GlslCompiler.guardSign s) := by
  unfold GlslCompiler.guardSign
  split
  · exact (h.before "(").after ")"
  · exact (h.before "(").after ")"
  · exact h

/-- What every item shows is shown by the text. -/
theorem flatMap {f : α → List β} (hf : ∀ a text, Written a text → Shows Written' (f a) text)
    (h : Shows Written items s) : Shows Written' (items.flatMap f) s := by
  induction h with
  | nothing text => exact .nothing text
  | item h =>
    rw [List.flatMap_singleton]
    exact hf _ _ h
  | append _ _ ihs iht =>
    rw [List.flatMap_append]
    exact ihs.append iht

end Shows

/-- The items stand in the texts in this order, none of them in two texts. -/
inductive LinesShow {α : Type} (Written : α → String → Prop) : List α → List String → Prop where
  | nil : LinesShow Written [] []
  | cons {items others : List α} {line : String} {lines : List String} (h : Shows Written items line)
      (hrest : LinesShow Written others lines) : LinesShow Written (items ++ others) (line :: lines)

namespace LinesShow

variable {α β : Type} {Written : α → String → Prop} {Written' : β → String → Prop} {items others : List α}
  {xs ys : List String}

theorem single {line : String} (h : Shows Written items line) : LinesShow Written items [line] := by
  have hcons := LinesShow.cons h .nil
  rwa [List.append_nil] at hcons

theorem append (hxs : LinesShow Written items xs) (hys : LinesShow Written others ys) :
    LinesShow Written (items ++ others) (xs ++ ys) := by
  induction hxs with
  | nil => exact hys
  | cons h _ ih =>
    rw [List.append_assoc]
    exact .cons h ih

theorem after (hxs : LinesShow Written items xs) (line : String) : LinesShow Written items (xs ++ [line]) := by
  have happend := hxs.append (.single (.nothing line))
  rwa [List.append_nil] at happend

theorem before (line : String) (hxs : LinesShow Written items xs) : LinesShow Written items (line :: xs) :=
  .cons (.nothing line) hxs

theorem intercalate (separator : String) (h : LinesShow Written items xs) :
    Shows Written items (separator.intercalate xs) := by
  induction h with
  | nil => exact .nothing _
  | @cons items others first rest hfirst hrest ih =>
    cases rest with
    | nil =>
      cases hrest
      rw [String.intercalate_singleton, List.append_nil]
      exact hfirst
    | cons second rest =>
      rw [String.intercalate_cons_cons]
      exact (hfirst.after separator).append ih

theorem map {ι : Type} {item : ι → α} {line : ι → String} (is : List ι)
    (h : ∀ i ∈ is, Shows Written [item i] (line i)) : LinesShow Written (is.map item) (is.map line) := by
  induction is with
  | nil => exact .nil
  | cons i rest ih =>
    obtain ⟨hi, hrest⟩ := List.forall_mem_cons.1 h
    exact .cons hi (ih hrest)

theorem flatMap {f : α → List β} (hf : ∀ a text, Written a text → Shows Written' (f a) text)
    (h : LinesShow Written items xs) : LinesShow Written' (items.flatMap f) xs := by
  induction h with
  | nil => exact .nil
  | cons h _ ih =>
    rw [List.flatMap_append]
    exact .cons (h.flatMap hf) ih

end LinesShow

/-! ### Expressions -/

mutual

/-- The expression itself and the expressions in it. -/
def Expr.parts : Expr → List Expr
  | .literal value type => [.literal value type]
  | .name identifier => [.name identifier]
  | .binary operator left right => .binary operator left right :: (left.parts ++ right.parts)
  | .unary operator operand => .unary operator operand :: operand.parts
  | .call function arguments => .call function arguments :: Expr.allParts arguments
  | .construct type arguments => .construct type arguments :: Expr.allParts arguments
  | .swizzle base components => .swizzle base components :: base.parts
  | .field base member => .field base member :: base.parts
  | .index base position => .index base position :: (base.parts ++ position.parts)
  | .conditional condition whenTrue whenFalse =>
    .conditional condition whenTrue whenFalse :: (condition.parts ++ whenTrue.parts ++ whenFalse.parts)
  | .unknown => [.unknown]

def Expr.allParts : List Expr → List Expr
  | [] => []
  | e :: rest => e.parts ++ Expr.allParts rest

end

/-! ### Statements -/

/-- What a statement is written from. The variable of a loop is a counter. -/
inductive Fragment where
  | expression (e : Expr)
  | declarator (type : GlslType) (name : String)
  | counter (type : GlslType) (name : String)
  | operator (text : String)

namespace Fragment

def text (tier : Tier) : Fragment → Except LiteralError String
  | .expression e => e.text tier
  | .declarator type name => .ok (GlslCompiler.declarator type name)
  | .counter type name => .ok (type.base ++ " " ++ name)
  | .operator text => .ok text

/-- What stands behind a fragment. Behind a declarator its statement ends or an initial value begins. -/
def stops : Fragment → List String
  | .expression _ => [""]
  | .declarator _ _ => [";", " "]
  | .counter _ _ => [";", " "]
  | .operator _ => ["="]

/-- The text is that of the fragment with what may stand behind it. -/
def Written (tier : Tier) (f : Fragment) (whole : String) : Prop :=
  ∃ text, f.text tier = .ok text ∧ ∃ stop ∈ f.stops, whole = text ++ stop

def ofOption : Option Expr → List Fragment
  | some e => [.expression e]
  | none => []

end Fragment

open Fragment (ofOption)

/-- The fragments of the first clause of a loop header. -/
def Stmt.initialFragments : Option Stmt → List Fragment
  | some (.declare v initial) => .counter v.type v.name :: ofOption initial
  | some (.assign target value) => [.expression target, .expression value]
  | _ => []

/-- The fragments of the last clause of a loop header. -/
def Stmt.updateFragments : Option Stmt → List Fragment
  | some (.assign target value) => [.expression target, .expression value]
  | some (.augment target operator value) => [.expression target, .operator operator, .expression value]
  | some (.expression value) => [.expression value]
  | _ => []

mutual

/-- The fragments of a statement, in the order in which they are written. -/
def Stmt.fragments : Stmt → List Fragment
  | .declare v initial => .declarator v.type v.name :: ofOption initial
  | .assign target value => [.expression target, .expression value]
  | .augment target operator value => [.expression target, .operator operator, .expression value]
  | .ret value => ofOption value
  | .branch condition whenTrue whenFalse =>
    .expression condition :: (Stmt.allFragments whenTrue ++ Stmt.allFragments whenFalse)
  | .forLoop initial condition update body =>
    Stmt.initialFragments initial ++ ofOption condition ++ Stmt.updateFragments update ++ Stmt.allFragments body
  | .whileLoop condition body => .expression condition :: Stmt.allFragments body
  | .expression value => [.expression value]
  | .breakLoop => []
  | .continueLoop => []
  | .discard => []
  | .unknown => []

def Stmt.allFragments : List Stmt → List Fragment
  | [] => []
  | s :: rest => s.fragments ++ Stmt.allFragments rest

end

/-- Where the fragments have the property `q`, the clauses that are written from them have the property `p`. -/
structure Carries (tier : Tier) (q : Fragment → Prop) (p : String → Prop) : Prop where
  empty : p ""
  expression : ∀ {e}, q (.expression e) → Ensures p (e.text tier)
  counter : ∀ {type name}, q (.counter type name) → p (type.base ++ " " ++ name)
  assign : ∀ {target value}, p target → p value → p (target ++ " = " ++ value)
  augment : ∀ {target operator value}, q (.operator operator) → p target → p value →
    p (target ++ " " ++ operator ++ "= " ++ value)

namespace Carries

variable {tier : Tier} {q : Fragment → Prop} {p : String → Prop}

theorem assignmentText (h : Carries tier q p) {target value : Expr}
    (hall : ∀ f ∈ [.expression target, .expression value], q f) :
    Ensures p (GlslCompiler.assignmentText tier target value) := by
  obtain ⟨htarget, hall⟩ := List.forall_mem_cons.1 hall
  obtain ⟨hvalue, -⟩ := List.forall_mem_cons.1 hall
  refine .bind fun targetText ht => .bind fun valueText hv => .ok ?_
  exact h.assign (h.expression htarget _ ht) (h.expression hvalue _ hv)

theorem augmentText (h : Carries tier q p) {target value : Expr} {operator : String}
    (hall : ∀ f ∈ [.expression target, .operator operator, .expression value], q f) :
    Ensures p (GlslCompiler.augmentText tier target operator value) := by
  obtain ⟨htarget, hall⟩ := List.forall_mem_cons.1 hall
  obtain ⟨hoperator, hall⟩ := List.forall_mem_cons.1 hall
  obtain ⟨hvalue, -⟩ := List.forall_mem_cons.1 hall
  refine .bind fun targetText ht => .bind fun valueText hv => .ok ?_
  exact h.augment hoperator (h.expression htarget _ ht) (h.expression hvalue _ hv)

theorem optionalText (h : Carries tier q p) {e : Option Expr} (hall : ∀ f ∈ ofOption e, q f) :
    Ensures p (Expr.optionalText tier e) := by
  cases e with
  | none => exact .ok h.empty
  | some e => exact h.expression (List.forall_mem_cons.1 hall).1

theorem initialClause (h : Carries tier q p) {s : Option Stmt} (hall : ∀ f ∈ Stmt.initialFragments s, q f) :
    Ensures p (Stmt.initialClause tier s) := by
  match s with
  | some (.declare v none) => exact .ok (h.counter (List.forall_mem_cons.1 hall).1)
  | some (.declare v (some initial)) =>
    obtain ⟨hcounter, hall⟩ := List.forall_mem_cons.1 hall
    obtain ⟨hinitial, -⟩ := List.forall_mem_cons.1 hall
    refine .bind fun initialText ht => .ok ?_
    exact h.assign (h.counter hcounter) (h.expression hinitial _ ht)
  | some (.assign target value) => exact h.assignmentText hall
  | none | some (.augment _ _ _) | some (.ret _) | some (.branch _ _ _) | some (.forLoop _ _ _ _)
  | some (.whileLoop _ _) | some (.expression _) | some .breakLoop | some .continueLoop | some .discard
  | some .unknown => exact .ok h.empty

theorem updateClause (h : Carries tier q p) {s : Option Stmt} (hall : ∀ f ∈ Stmt.updateFragments s, q f) :
    Ensures p (Stmt.updateClause tier s) := by
  match s with
  | some (.assign target value) => exact h.assignmentText hall
  | some (.augment target operator value) => exact h.augmentText hall
  | some (.expression value) => exact h.expression (List.forall_mem_cons.1 hall).1
  | none | some (.declare _ _) | some (.ret _) | some (.branch _ _ _) | some (.forLoop _ _ _ _)
  | some (.whileLoop _ _) | some .breakLoop | some .continueLoop | some .discard | some .unknown =>
    exact .ok h.empty

end Carries

section Statements

variable {tier : Tier}

namespace Fragment

theorem shows_text {e : Expr} {text : String} (h : e.text tier = .ok text) :
    Shows (Written tier) [.expression e] text :=
  .item ⟨text, h, "", List.mem_singleton_self "", String.append_empty.symm⟩

theorem shows_ended {f : Fragment} {text : String} (h : f.text tier = .ok text) (hstop : ";" ∈ f.stops) :
    Shows (Written tier) [f] (text ++ ";") := .item ⟨text, h, ";", hstop, rfl⟩

theorem shows_given {f : Fragment} {text : String} (h : f.text tier = .ok text) (hstop : " " ∈ f.stops) :
    Shows (Written tier) [f] (text ++ " = ") := by
  have hequals : " = " = " " ++ "= " := rfl
  have hitem : Shows (Written tier) [f] (text ++ " ") := .item ⟨text, h, " ", hstop, rfl⟩
  rw [hequals, ← String.append_assoc]
  exact hitem.after "= "

end Fragment

open Fragment (Written shows_text shows_ended shows_given)

theorem Expr.optionalText_shows (e : Option Expr) :
    Ensures (Shows (Written tier) (ofOption e)) (Expr.optionalText tier e) := by
  cases e with
  | none => exact .ok (.nothing "")
  | some e => exact fun text htext => shows_text htext

theorem assignmentText_shows (target value : Expr) :
    Ensures (Shows (Written tier) [.expression target, .expression value]) (assignmentText tier target value) := by
  refine .bind fun targetText htarget => .bind fun valueText hvalue => .ok ?_
  exact ((shows_text htarget).after " = ").append (shows_text hvalue)

theorem augmentText_shows (target : Expr) (operator : String) (value : Expr) :
    Ensures (Shows (Written tier) [.expression target, .operator operator, .expression value])
      (augmentText tier target operator value) := by
  refine .bind fun targetText htarget => .bind fun valueText hvalue => .ok ?_
  have hoperator : Shows (Written tier) [.operator operator] (operator ++ "=") :=
    .item ⟨operator, rfl, "=", List.mem_singleton_self "=", rfl⟩
  have hequals : "= " = "=" ++ " " := rfl
  have htext : targetText ++ " " ++ operator ++ "= " ++ valueText
      = targetText ++ " " ++ (operator ++ "=") ++ " " ++ valueText := by
    simp only [hequals, String.append_assoc]
  rw [htext]
  exact ((((shows_text htarget).after " ").append hoperator).after " ").append (shows_text hvalue)

/-- A qualified declarator ends in its declarator. -/
theorem Variable.exists_qualifiedDeclarator (v : Variable) :
    ∃ before, v.qualifiedDeclarator = before ++ declarator v.type v.name := by
  unfold qualifiedDeclarator
  dsimp only
  split
  · exact ⟨"", String.empty_append.symm⟩
  · exact ⟨_, rfl⟩

/-- In the header the first clause is followed by a semicolon. -/
theorem Stmt.initialClause_shows (s : Option Stmt) :
    Ensures (fun text => Shows (Written tier) (Stmt.initialFragments s) (text ++ ";")) (Stmt.initialClause tier s) := by
  match s with
  | some (.declare v none) => exact .ok (shows_ended (f := .counter v.type v.name) rfl (by simp [Fragment.stops]))
  | some (.declare v (some value)) =>
    refine .bind fun valueText hvalue => .ok ?_
    have hcounter : Shows (Written tier) [.counter v.type v.name] (v.type.base ++ " " ++ v.name ++ " = ") :=
      shows_given rfl (by simp [Fragment.stops])
    exact (hcounter.append (shows_text hvalue)).after ";"
  | some (.assign target value) =>
    intro text htext
    exact (assignmentText_shows target value text htext).after ";"
  | none | some (.augment _ _ _) | some (.ret _) | some (.branch _ _ _) | some (.forLoop _ _ _ _)
  | some (.whileLoop _ _) | some (.expression _) | some .breakLoop | some .continueLoop | some .discard
  | some .unknown => exact .ok (.nothing _)

theorem Stmt.updateClause_shows (s : Option Stmt) :
    Ensures (Shows (Written tier) (Stmt.updateFragments s)) (Stmt.updateClause tier s) := by
  match s with
  | some (.assign target value) => exact assignmentText_shows target value
  | some (.augment target operator value) => exact augmentText_shows target operator value
  | some (.expression value) => exact fun text htext => shows_text htext
  | none | some (.declare _ _) | some (.ret _) | some (.branch _ _ _) | some (.forLoop _ _ _ _)
  | some (.whileLoop _ _) | some .breakLoop | some .continueLoop | some .discard | some .unknown =>
    exact .ok (.nothing _)

mutual

theorem Stmt.lines_show : ∀ (s : Stmt) (depth : Int),
    Ensures (LinesShow (Written tier) s.fragments) (s.lines tier depth)
  | .declare v none, depth => by
    obtain ⟨before, hbefore⟩ := v.exists_qualifiedDeclarator
    have hended : Shows (Written tier) [.declarator v.type v.name] (declarator v.type v.name ++ ";") :=
      shows_ended rfl (by simp [Fragment.stops])
    refine .ok (.single ?_)
    rw [hbefore, ← String.append_assoc, String.append_assoc]
    exact hended.before _
  | .declare v (some value), depth => by
    obtain ⟨before, hbefore⟩ := v.exists_qualifiedDeclarator
    have hgiven : Shows (Written tier) [.declarator v.type v.name] (declarator v.type v.name ++ " = ") :=
      shows_given rfl (by simp [Fragment.stops])
    refine .bind fun valueText hvalue => .ok (.single ?_)
    have hline : indentation depth ++ v.qualifiedDeclarator ++ " = " ++ valueText ++ ";"
        = indentation depth ++ before ++ (declarator v.type v.name ++ " = ") ++ valueText ++ ";" := by
      simp only [hbefore, String.append_assoc]
    rw [hline]
    exact ((hgiven.before _).append (shows_text hvalue)).after ";"
  | .assign target value, depth => by
    refine .bind fun text htext => .ok (.single ?_)
    exact ((assignmentText_shows target value text htext).before _).after ";"
  | .augment target operator value, depth => by
    refine .bind fun text htext => .ok (.single ?_)
    exact ((augmentText_shows target operator value text htext).before _).after ";"
  | .ret none, depth => .ok (.single (.nothing _))
  | .ret (some value), depth => by
    refine .bind fun text htext => .ok (.single ?_)
    exact ((shows_text htext).before _).after ";"
  | .branch condition whenTrue whenFalse, depth => by
    refine .bind fun conditionText hcondition => .bind fun trueLines htrue => .bind fun falseLines hfalse => .ok ?_
    have hheader : LinesShow (Written tier) [.expression condition]
        [indentation depth ++ "if (" ++ conditionText ++ ") \x7b"] :=
      .single (((shows_text hcondition).before _).after _)
    have hfirst := hheader.append (bodyLines_show whenTrue (depth + 1) trueLines htrue)
    have hsecond : LinesShow (Written tier) (Stmt.allFragments whenFalse)
        (if whenFalse.isEmpty then [] else [indentation depth ++ "\x7d else \x7b"] ++ falseLines) := by
      split
      · rename_i hempty
        rw [List.isEmpty_iff.1 hempty]
        exact .nil
      · exact (bodyLines_show whenFalse (depth + 1) falseLines hfalse).before _
    exact (hfirst.append hsecond).after _
  | .forLoop initial condition update body, depth => by
    refine .bind fun initialText hinitial => .bind fun conditionText hcondition => .bind fun updateText hupdate =>
      .bind fun bodyLines hbody => .ok ?_
    have hsemicolon : "; " = ";" ++ " " := rfl
    have hheader : indentation depth ++ "for (" ++ initialText ++ "; " ++ conditionText ++ "; " ++ updateText
        ++ ") \x7b" = indentation depth ++ "for (" ++ (initialText ++ ";") ++ " " ++ conditionText ++ "; "
        ++ updateText ++ ") \x7b" := by
      simp only [hsemicolon, String.append_assoc]
    have hinitial := ((Stmt.initialClause_shows initial initialText hinitial).before
      (indentation depth ++ "for (")).after " "
    have hcondition := (hinitial.append (Expr.optionalText_shows condition conditionText hcondition)).after "; "
    have hupdate := (hcondition.append (Stmt.updateClause_shows update updateText hupdate)).after ") \x7b"
    rw [hheader]
    exact ((LinesShow.single hupdate).append (bodyLines_show body (depth + 1) bodyLines hbody)).after _
  | .whileLoop condition body, depth => by
    refine .bind fun conditionText hcondition => .bind fun bodyLines hbody => .ok ?_
    have hheader : LinesShow (Written tier) [.expression condition]
        [indentation depth ++ "while (" ++ conditionText ++ ") \x7b"] :=
      .single (((shows_text hcondition).before _).after _)
    exact (hheader.append (bodyLines_show body (depth + 1) bodyLines hbody)).after _
  | .expression value, depth => by
    refine .bind fun text htext => .ok (.single ?_)
    exact ((shows_text htext).before _).after ";"
  | .breakLoop, depth => .ok (.single (.nothing _))
  | .continueLoop, depth => .ok (.single (.nothing _))
  | .discard, depth => .ok (.single (.nothing _))
  | .unknown, depth => .ok .nil

/-- The lines of statements show their fragments. -/
theorem Stmt.bodyLines_show : ∀ (ss : List Stmt) (depth : Int),
    Ensures (LinesShow (Written tier) (Stmt.allFragments ss)) (Stmt.bodyLines tier ss depth)
  | [], depth => .ok .nil
  | s :: rest, depth => by
    refine .bind fun own hown => .bind fun others hothers => .ok ?_
    exact (lines_show s depth own hown).append (bodyLines_show rest depth others hothers)

end

end Statements

/-! ### Programs -/

theorem Program.lines_append {tier : Tier} (front rest : Program) :
    Program.lines tier (front ++ rest) = (do
      let frontLines ← front.lines tier
      let restLines ← rest.lines tier
      return frontLines ++ restLines) := by
  induction front with
  | nil =>
    change rest.lines tier = rest.lines tier >>= pure
    rw [bind_pure]
  | cons d front ih =>
    rw [List.cons_append, Program.lines, ih, Program.lines]
    cases d.lines tier with
    | error error => rfl
    | ok own =>
      cases Program.lines tier front with
      | error error => rfl
      | ok frontLines =>
        cases Program.lines tier rest with
        | error error => rfl
        | ok restLines => exact congrArg Except.ok (List.append_assoc own frontLines restLines).symm

end GlslCompiler

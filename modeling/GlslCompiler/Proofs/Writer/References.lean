import GlslCompiler.Proofs.Writer.Names

/-!
# References in written expressions

An expression selects members from names where it has a member or a swizzle of a name, and its text selects just these.
Its names must be words for this and its operators no part of a name, since a name may be any text; and a literal that
a member is taken of must be a number, since `true.x` selects `x` from the name `true`. `Reads` says this of a text, and
goes over from the parts of a text to the whole.

No expression is taken for a declaration. `Declares` is what a clause has besides: the name that it declares, if any.
-/

namespace GlslCompiler

open Grammar

/-! ### Expressions -/

/-- Characters that no expression is written with. -/
abbrev Undivided (text : String) : Prop := Lacks [';', '\n', '\x7b', '\x7d'] text

/-- The text selects these members, declares no name and can stand in a line. -/
structure Reads (text : String) (references : List Reference) : Prop where
  selects : selections text = references
  single : Single text
  undivided : Undivided text

/-- A text that keeps what stands before it apart from what stands behind it. -/
structure IsJoint (text : String) : Prop where
  gap : isGap text = true
  breaks : breaksWords text.toList = true
  undivided : Undivided text

/-- A character of an operator. It belongs to no name and divides nothing. -/
def isOperatorChar (c : Char) : Bool := !isNameChar c && !" ;\n\x7b\x7d".toList.contains c

def isOperator (text : String) : Bool := !text.toList.isEmpty && text.toList.all isOperatorChar

theorem isOperatorChar_iff {c : Char} :
    isOperatorChar c = true ↔ isNameChar c = false ∧ c ∉ [' ', ';', '\n', '\x7b', '\x7d'] := by
  rw [isOperatorChar, Bool.and_eq_true_iff, Bool.not_eq_true', Bool.not_eq_true', List.contains_eq_mem,
    decide_eq_false_iff_not]
  rfl

theorem IsJoint.operator {operator : String} (h : isOperator operator = true) : IsJoint operator := by
  obtain ⟨hne, hall⟩ := Bool.and_eq_true_iff.1 h
  have hchars := fun c hc => isOperatorChar_iff.1 (List.all_eq_true.1 hall c hc)
  refine ⟨Bool.and_eq_true_iff.2 ⟨hne, List.all_eq_true.2 fun c hc => by rw [(hchars c hc).1]; rfl⟩, ?_, ?_⟩
  · cases hlist : operator.toList with
    | nil => simp [hlist] at hne
    | cons c rest =>
      obtain ⟨hname, hmem⟩ := hchars c (hlist ▸ List.mem_cons_self)
      have hword : isWordChar c = false := (Bool.or_eq_false_iff.1 hname).1
      rw [breaksWords, dropWhile_cons_of_ne fun heq => hmem (by simp [heq])]
      simp [hword]
  · exact .of_not_mem fun c hc hmem => (hchars c hmem).2 (List.mem_cons_of_mem ' ' hc)

theorem IsJoint.spaced {text : String} (h : IsJoint text) : IsJoint (" " ++ text ++ " ") := by
  have hchars : (" " ++ text ++ " ").toList = ' ' :: (text.toList ++ [' ']) := by simp
  refine ⟨?_, ?_, ((by decide : Undivided " ").append h.undivided).append (by decide)⟩
  · rw [isGap, hchars, List.all_cons, List.all_append, (Bool.and_eq_true_iff.1 h.gap).2]
    rfl
  · have hbreaks := h.breaks
    rw [hchars]
    cases hlist : text.toList.dropWhile (· == ' ') with
    | nil => simp [breaksWords, hlist] at hbreaks
    | cons c rest =>
      rw [breaksWords, hlist] at hbreaks
      rw [breaksWords, List.dropWhile_cons_of_pos rfl, List.dropWhile_append, hlist]
      exact hbreaks

namespace Reads

variable {s t : String} {rs ts : List Reference}

theorem empty : Reads "" [] := ⟨rfl, .of_endsWords rfl, rfl⟩

theorem join {joint : String} (hjoint : IsJoint joint) (hs : Reads s rs) (ht : Reads t ts) :
    Reads (s ++ joint ++ t) (rs ++ ts) where
  selects := by rw [selections_gap hjoint.gap, hs.selects, ht.selects]
  single := by
    rw [String.append_assoc]
    refine hs.single.append ?_
    rw [String.toList_append]
    exact endsWords_of_breaksWords hjoint.breaks _
  undivided := (hs.undivided.append hjoint.undivided).append ht.undivided

theorem before {joint : String} (hjoint : IsJoint joint) (hs : Reads s rs) : Reads (s ++ joint) rs := by
  have hjoin := hs.join hjoint empty
  rwa [String.append_empty, List.append_nil] at hjoin

theorem after {joint : String} (hjoint : IsJoint joint) (hs : Reads s rs) : Reads (joint ++ s) rs := by
  have hjoin := empty.join hjoint hs
  rwa [String.empty_append] at hjoin

theorem isJoint_open : IsJoint "(" := ⟨by decide, by decide, by decide⟩

theorem isJoint_close : IsJoint ")" := ⟨by decide, by decide, by decide⟩

theorem parens (hs : Reads s rs) : Reads ("(" ++ s ++ ")") rs := (hs.after isJoint_open).before isJoint_close

theorem group (hs : Reads s rs) (asked precedence : Int) : Reads (GlslCompiler.group asked precedence s) rs := by
  unfold GlslCompiler.group
  split
  · exact hs.parens
  · exact hs

theorem guardSign (hs : Reads s rs) : Reads (GlslCompiler.guardSign s) rs := by
  unfold GlslCompiler.guardSign
  split
  · exact hs.parens
  · exact hs.parens
  · exact hs

theorem word (h : isWord s.toList = true) : Reads s [] := by
  have hchars := isWordChar_of_isWord h
  refine ⟨selections_of_not_mem (point_not_mem_of_isWord h), .of_unspaced fun hmem => ?_,
    .of_not_mem fun c hc hmem => ?_⟩
  · exact absurd (hchars ' ' hmem) (by decide)
  · have hall : ∀ c ∈ [';', '\n', '\x7b', '\x7d'], isWordChar c = false := forall_mem_of_all (by decide)
    exact absurd (hchars c hmem) (by simp [hall c hc])

theorem closed {member : String} (hs : Reads s rs) (hclosed : Closed s) (hmember : isWord member.toList = true) :
    Reads (s ++ "." ++ member) rs where
  selects := by rw [hclosed member hmember, hs.selects]
  single := by
    rw [String.append_assoc]
    refine hs.single.append ?_
    rw [String.toList_append]
    exact endsWords_of_breaksWords (by decide) _
  undivided := (hs.undivided.append (by decide)).append (word hmember).undivided

theorem selection {name member : String} (hname : isWord name.toList = true) (hmember : isWord member.toList = true) :
    Reads (name ++ "." ++ member) [⟨name, member⟩] where
  selects := selections_member hname hmember
  single := by
    rw [String.append_assoc]
    refine (word hname).single.append ?_
    rw [String.toList_append]
    exact endsWords_of_breaksWords (by decide) _
  undivided := ((word hname).undivided.append (by decide)).append (word hmember).undivided

end Reads

/-- A number with or without a sign: no word begins in it. -/
def isNumeral (text : String) : Bool :=
  text.toList.all (fun c => isNameChar c || c == '+' || c == '-')
    && (pieces text.toList).all fun piece => !piece.head?.any isWordStart

theorem selection?_of_head {piece : List Char} (h : piece.head?.any isWordStart = false) : selection? piece = none := by
  unfold selection?
  split
  · rfl
  · cases piece with
    | nil => rfl
    | cons c cs =>
      have hc : isWordStart c = false := h
      refine if_neg ?_
      rw [List.takeWhile_cons]
      split
      · simp [isWord, hc]
      · simp [isWord]

theorem isNumeral_chars {text : String} (h : isNumeral text = true) :
    ∀ c ∈ text.toList, c ∉ [' ', ';', '\n', '\x7b', '\x7d'] := by
  intro c hc hmem
  have hall : ∀ c ∈ [' ', ';', '\n', '\x7b', '\x7d'], (isNameChar c || c == '+' || c == '-') = false :=
    forall_mem_of_all (by decide)
  have hchar := List.all_eq_true.1 (Bool.and_eq_true_iff.1 h).1 c hc
  rw [hall c hmem] at hchar
  cases hchar

theorem isNumeral_pieces {text : String} (h : isNumeral text = true) :
    ∀ piece ∈ pieces text.toList, piece.head?.any isWordStart = false := by
  intro piece hpiece
  have hhead := List.all_eq_true.1 (Bool.and_eq_true_iff.1 h).2 piece hpiece
  simpa using hhead

theorem Reads.numeral {text : String} (h : isNumeral text = true) : Reads text [] where
  selects := List.filterMap_eq_nil_iff.2 fun piece hpiece => selection?_of_head (isNumeral_pieces h piece hpiece)
  single := .of_unspaced fun hmem => isNumeral_chars h ' ' hmem List.mem_cons_self
  undivided := .of_not_mem fun c hc hmem => isNumeral_chars h c hmem (List.mem_cons_of_mem ' ' hc)

theorem closed_numeral {text : String} (h : isNumeral text = true) : Closed text := by
  intro member hmember
  obtain ⟨before, last, hlast⟩ := exists_last text.toList
  have hshort := hlast [] (by simp)
  rw [List.append_nil, List.append_nil] at hshort
  have hpieces := isNumeral_pieces h
  rw [hshort, List.forall_mem_append] at hpieces
  have hhead : (last ++ '.' :: member.toList).head?.any isWordStart = false := by
    cases last with
    | nil => exact (by decide : isWordStart '.' = false)
    | cons c cs => exact hpieces.2 (c :: cs) (List.mem_singleton_self _)
  have hbefore : before.filterMap selection? = [] :=
    List.filterMap_eq_nil_iff.2 fun piece hpiece => selection?_of_head (hpieces.1 piece hpiece)
  rw [(Reads.numeral h).selects, selections, toList_member, hlast _ (isNameChar_member hmember), List.filterMap_append,
    hbefore, List.filterMap_cons_none (selection?_of_head hhead)]
  rfl

/-! ### Plain expressions -/

namespace Expr

/-- The reference that an expression is. A member and a swizzle of a name are written alike. -/
def reference? : Expr → Option Reference
  | .field (.name base) member => some ⟨base, member⟩
  | .swizzle (.name base) components => some ⟨base, components⟩
  | _ => none

/-- The references in an expression, in the order in which they are written. -/
def references (e : Expr) : List Reference := e.parts.filterMap reference?

/-- A literal that a member is taken of is a number. -/
def HasMembers (tier : Tier) : Expr → Prop
  | .literal value type => Ensures (isNumeral · = true) (literalText tier value type.base)
  | _ => True

instance (tier : Tier) (e : Expr) : Decidable (e.HasMembers tier) := by
  unfold HasMembers
  split <;> infer_instance

/-- What the expression is written from, apart from the expressions in it, is of the class that its place asks for:
names are words, operators are no part of a name, and a literal is a word or a number. -/
def Plain (tier : Tier) : Expr → Prop
  | .literal value type =>
    Ensures (fun text => isWord text.toList = true ∨ isNumeral text = true) (literalText tier value type.base)
  | .name identifier => isWord identifier.toList = true
  | .binary operator _ _ => isOperator operator = true
  | .unary operator _ => isOperator operator = true
  | .call function _ => isWord function.toList = true
  | .construct type _ => isWord type.base.toList = true
  | .swizzle base components => isWord components.toList = true ∧ base.HasMembers tier
  | .field base member => isWord member.toList = true ∧ base.HasMembers tier
  | .index _ _ => True
  | .conditional _ _ _ => True
  | .unknown => True

instance (tier : Tier) (e : Expr) : Decidable (e.Plain tier) := by
  unfold Plain
  split <;> infer_instance

end Expr

section Expressions

variable {tier : Tier}

theorem closed_group {text : String} {precedence : Int} (h : 16 ≤ precedence → Closed text) :
    Closed (group Precedence.member precedence text) := by
  unfold group
  split
  · exact closed_gap (by decide) _
  · rename_i hprecedence
    apply h
    have hmember : Precedence.member = 16 := rfl
    omega

theorem closed_group_of_lt {text : String} {precedence : Int} (h : precedence < 16) :
    Closed (group Precedence.member precedence text) := closed_group fun hhigh => absurd h (not_lt.2 hhigh)

theorem operatorPrecedence_lt_of_isOperator {operator : String} (h : isOperator operator = true) :
    operatorPrecedence operator < 16 := by
  refine operatorPrecedence_lt (List.all_eq_true.2 fun c hc => ?_)
  have hname := (isOperatorChar_iff.1 (List.all_eq_true.1 (Bool.and_eq_true_iff.1 h).2 c hc)).1
  obtain ⟨hword, hpoint⟩ := Bool.or_eq_false_iff.1 hname
  rw [isSymbolChar, hword, bne, hpoint]
  rfl

/-- A member of anything but a name selects nothing from a name. -/
theorem Expr.closed : ∀ e : Expr, (∀ p ∈ e.parts, p.Plain tier) → e.HasMembers tier → (∀ name, e ≠ .name name) →
    Ensures (fun text => Closed (group Precedence.member e.precedence text)) (e.text tier)
  | .literal value type, _, hnumeral, _ => fun text htext => closed_group fun _ => closed_numeral (hnumeral text htext)
  | .name identifier, _, _, hname => absurd rfl (hname identifier)
  | .binary operator left right, h, _, _ => by
    have hlow := operatorPrecedence_lt_of_isOperator (List.forall_mem_cons.1 h).1
    exact fun text _ => closed_group_of_lt hlow
  | .unary _ _, _, _, _ => fun text _ => closed_group_of_lt (show Precedence.unary < 16 by decide)
  | .call _ _, _, _, _ => fun text _ => closed_group_of_lt (show Precedence.call < 16 by decide)
  | .construct _ _, _, _, _ => fun text _ => closed_group_of_lt (show Precedence.call < 16 by decide)
  | .conditional _ _ _, _, _, _ => fun text _ => closed_group_of_lt (show Precedence.conditional < 16 by decide)
  | .swizzle base components, h, _, _ => by
    obtain ⟨⟨hword, -⟩, -⟩ := List.forall_mem_cons.1 h
    exact .bind fun text _ => .ok (closed_group fun _ => closed_member _ hword)
  | .field base member, h, _, _ => by
    obtain ⟨⟨hword, -⟩, -⟩ := List.forall_mem_cons.1 h
    exact .bind fun text _ => .ok (closed_group fun _ => closed_member _ hword)
  | .index base position, _, _, _ =>
    .bind fun baseText _ => .bind fun positionText _ => .ok (closed_group fun _ => closed_gap (by decide) _)
  | .unknown, _, _, _ => .ok (closed_group fun _ => closed_numeral (by decide))

/-- The text of a member, from that of what it is taken of. -/
theorem Expr.member_reads {base : Expr} {baseText member : String} (hplain : ∀ p ∈ base.parts, p.Plain tier)
    (hmembers : base.HasMembers tier) (hmember : isWord member.toList = true) (htext : base.text tier = .ok baseText)
    (hreads : Reads baseText base.references) :
    Reads (group Precedence.member base.precedence baseText ++ "." ++ member)
      ((Expr.field base member).reference?.toList ++ base.references) := by
  by_cases hname : ∃ name, base = .name name
  · obtain ⟨name, rfl⟩ := hname
    cases htext
    exact .selection (List.forall_mem_cons.1 hplain).1 hmember
  · have hnone : (Expr.field base member).reference? = none := by
      cases base with
      | name identifier => exact absurd ⟨identifier, rfl⟩ hname
      | _ => rfl
    have hclosed := base.closed hplain hmembers (fun name hbase => hname ⟨name, hbase⟩) baseText htext
    rw [hnone]
    exact (hreads.group _ _).closed hclosed hmember

theorem Reads.toString (n : Int) : Reads (ToString.toString n) [] := by
  have hlacks : Lacks ['.', ' ', ';', '\n', '\x7b', '\x7d'] (ToString.toString n) := toString_lacks (by simp) n
  exact ⟨selections_of_not_mem (hlacks.not_mem (by simp)), .of_unspaced (hlacks.not_mem (by simp)),
    hlacks.subset (by simp)⟩

theorem GlslType.text_reads {type : GlslType} (h : isWord type.base.toList = true) : Reads type.text [] := by
  unfold GlslType.text
  split
  · exact ((Reads.word h).join ⟨by decide, by decide, by decide⟩ (.toString _)).before
      ⟨by decide, by decide, by decide⟩
  · exact .word h

theorem filterMap_cons_eq {α β : Type} (f : α → Option β) (a : α) (rest : List α) :
    (a :: rest).filterMap f = (f a).toList ++ rest.filterMap f := by
  cases h : f a <;> simp [h]

mutual

theorem Expr.text_reads : ∀ e : Expr, (∀ p ∈ e.parts, p.Plain tier) →
    Ensures (fun text => Reads text e.references) (e.text tier)
  | .literal value type, h => fun text htext =>
    ((List.forall_mem_cons.1 h).1 text htext).elim Reads.word Reads.numeral
  | .name identifier, h => .ok (.word (List.forall_mem_cons.1 h).1)
  | .binary operator left right, h => by
    obtain ⟨hoperator, h⟩ := List.forall_mem_cons.1 h
    obtain ⟨hleft, hright⟩ := List.forall_mem_append.1 h
    refine .bind fun leftText hl => .bind fun rightText hr => .ok ?_
    have hl := (text_reads left hleft leftText hl).group (operatorPrecedence operator) left.precedence
    have hr := (text_reads right hright rightText hr).group (operatorPrecedence operator + 1) right.precedence
    have hjoin := hl.join (IsJoint.operator hoperator).spaced hr
    rw [Expr.references, Expr.parts, List.filterMap_cons_none rfl, List.filterMap_append]
    simp only [String.append_assoc] at hjoin ⊢
    exact hjoin
  | .unary operator operand, h => by
    obtain ⟨hoperator, hoperand⟩ := List.forall_mem_cons.1 h
    refine .bind fun text ht => .ok ?_
    exact ((text_reads operand hoperand text ht).group _ _).guardSign.after (.operator hoperator)
  | .call function arguments, h => by
    obtain ⟨hfunction, harguments⟩ := List.forall_mem_cons.1 h
    refine .bind fun texts ht => .ok ?_
    have hlist := texts_read arguments harguments texts ht
    exact ((Reads.word hfunction).join Reads.isJoint_open hlist).before Reads.isJoint_close
  | .construct type arguments, h => by
    obtain ⟨htype, harguments⟩ := List.forall_mem_cons.1 h
    refine .bind fun texts ht => .ok ?_
    have hlist := texts_read arguments harguments texts ht
    exact ((GlslType.text_reads htype).join Reads.isJoint_open hlist).before Reads.isJoint_close
  | .swizzle base components, h => by
    obtain ⟨⟨hword, hmembers⟩, hbase⟩ := List.forall_mem_cons.1 h
    refine .bind fun text ht => .ok ?_
    have hsame : (Expr.swizzle base components).reference? = (Expr.field base components).reference? := by
      cases base <;> rfl
    rw [Expr.references, Expr.parts, filterMap_cons_eq, hsame]
    exact Expr.member_reads hbase hmembers hword ht (text_reads base hbase text ht)
  | .field base member, h => by
    obtain ⟨⟨hword, hmembers⟩, hbase⟩ := List.forall_mem_cons.1 h
    refine .bind fun text ht => .ok ?_
    rw [Expr.references, Expr.parts, filterMap_cons_eq]
    exact Expr.member_reads hbase hmembers hword ht (text_reads base hbase text ht)
  | .index base position, h => by
    obtain ⟨hbase, hposition⟩ := List.forall_mem_append.1 (List.forall_mem_cons.1 h).2
    refine .bind fun baseText hb => .bind fun positionText hp => .ok ?_
    have hb := (text_reads base hbase baseText hb).group Precedence.member base.precedence
    have hp := text_reads position hposition positionText hp
    rw [Expr.references, Expr.parts, List.filterMap_cons_none rfl, List.filterMap_append]
    exact (hb.join ⟨by decide, by decide, by decide⟩ hp).before ⟨by decide, by decide, by decide⟩
  | .conditional condition whenTrue whenFalse, h => by
    obtain ⟨h, hfalse⟩ := List.forall_mem_append.1 (List.forall_mem_cons.1 h).2
    obtain ⟨hcondition, htrue⟩ := List.forall_mem_append.1 h
    refine .bind fun conditionText hc => .bind fun trueText ht => .bind fun falseText hf => .ok ?_
    have hc := (text_reads condition hcondition conditionText hc).group (Precedence.conditional + 1)
      condition.precedence
    have ht := text_reads whenTrue htrue trueText ht
    have hf := (text_reads whenFalse hfalse falseText hf).group Precedence.conditional whenFalse.precedence
    rw [Expr.references, Expr.parts, List.filterMap_cons_none rfl, List.filterMap_append, List.filterMap_append]
    exact (hc.join ⟨by decide, by decide, by decide⟩ ht).join ⟨by decide, by decide, by decide⟩ hf
  | .unknown, _ => .ok .empty

theorem Expr.texts_read : ∀ es : List Expr, (∀ p ∈ Expr.allParts es, p.Plain tier) →
    Ensures (fun texts => Reads (", ".intercalate texts) ((Expr.allParts es).filterMap Expr.reference?))
      (Expr.texts tier es)
  | [], _ => .ok .empty
  | e :: rest, h => by
    obtain ⟨he, hrest⟩ := List.forall_mem_append.1 h
    refine .bind fun text ht => .bind fun texts hts => .ok ?_
    have hfirst := text_reads e he text ht
    have hothers := texts_read rest hrest texts hts
    rw [Expr.allParts, List.filterMap_append]
    cases texts with
    | nil =>
      have hnone : (Expr.allParts rest).filterMap Expr.reference? = [] := hothers.selects.symm
      rw [hnone, List.append_nil, String.intercalate_singleton]
      exact hfirst
    | cons second texts =>
      rw [String.intercalate_cons_cons]
      exact hfirst.join ⟨by decide, by decide, by decide⟩ hothers

end

end Expressions

/-! ### Clauses -/

/-- The text declares the name, or none, selects these members and can stand in a line. -/
structure Declares (text : String) (name : Option String) (references : List Reference) : Prop where
  selects : selections text = references
  names : ∀ rest, endsWords rest = true → declaredName? (text.toList ++ rest) = name
  undivided : Undivided text

theorem Reads.declares {text : String} {rs : List Reference} (h : Reads text rs) : Declares text none rs where
  selects := h.selects
  names rest hrest := by
    have hsingle : Single (text ++ String.ofList rest) := h.single.append (by rwa [String.toList_ofList])
    have hnone := hsingle.declaredName?_eq_none
    rwa [String.toList_append, String.toList_ofList] at hnone
  undivided := h.undivided

/-- What is returned is no declaration, whatever it is. -/
theorem declares_return {text : String} {rs : List Reference} (h : Reads text rs) :
    Declares ("return " ++ text) none rs where
  selects := by
    have hgap : selections ("return" ++ " " ++ text) = _ := selections_gap (by decide) "return" text
    rw [show selections "return" = [] by decide, List.nil_append, h.selects] at hgap
    exact hgap
  names rest _ := by
    refine if_neg fun hreturn => hreturn.2 ?_
    have hchars : ("return " ++ text).toList ++ rest = "return".toList ++ ' ' :: (text.toList ++ rest) := by simp
    rw [hchars, leadingWords_cons (wordlike_of_isWord (by decide))]
    rfl
  undivided := (by decide : Undivided "return ").append h.undivided

theorem sizeText_endsWords (size : Option Int) : endsWords (sizeText size).toList = true := by
  cases size with
  | none => rfl
  | some n =>
    rw [sizeText, String.append_assoc, String.toList_append]
    exact endsWords_of_breaksWords (by decide) _

theorem isWord_lacks {word : String} (h : isWord word.toList = true) :
    Lacks ['.', ';', '\n', '\x7b', '\x7d', ' ', ',', '(', ')', '['] word := by
  have hall : ∀ c ∈ ['.', ';', '\n', '\x7b', '\x7d', ' ', ',', '(', ')', '['], isWordChar c = false :=
    forall_mem_of_all (by decide)
  refine .of_not_mem fun c hc hmem => ?_
  have hword := isWordChar_of_isWord h c hmem
  rw [hall c hc] at hword
  cases hword

theorem isTypeName_qualifier (q : Qualifier) : isTypeName q.text = true := by
  cases q <;> decide

theorem isWord_of_isTypeName {word : String} (h : isTypeName word = true) : isWord word.toList = true :=
  (isTypeName_iff.1 h).1

theorem words_lack {words : List String} {base name : String} (hwords : ∀ word ∈ words, isTypeName word = true)
    (hbase : isTypeName base = true) (hname : isWord name.toList = true) (size : Option Int) :
    Lacks ['.', ';', '\n', '\x7b', '\x7d', ',', ')'] (" ".intercalate (words ++ [base, name]) ++ sizeText size) := by
  refine .append (.intercalate (by decide) ?_) (sizeText_lacks (by simp) size)
  have hlacks : ∀ {word : String}, isWord word.toList = true → Lacks ['.', ';', '\n', '\x7b', '\x7d', ',', ')'] word :=
    fun hword => (isWord_lacks hword).subset (by simp)
  refine List.forall_mem_append.2 ⟨fun word h => hlacks (isWord_of_isTypeName (hwords word h)), ?_⟩
  simpa using And.intro (hlacks (isWord_of_isTypeName hbase)) (hlacks hname)

/-- Words in front of a declared name, and what may stand behind it. -/
theorem declares_words {words : List String} {base name : String} (hwords : ∀ word ∈ words, isTypeName word = true)
    (hbase : isTypeName base = true) (hname : isWord name.toList = true) (size : Option Int) :
    Declares (" ".intercalate (words ++ [base, name]) ++ sizeText size) (some name) [] := by
  have hlacks := words_lack hwords hbase hname size
  refine ⟨selections_of_not_mem (hlacks.not_mem (by simp)), fun rest hrest => ?_, hlacks.subset (by simp)⟩
  rw [String.toList_append, List.append_assoc]
  exact declaredName?_eq_some hwords hbase hname (endsWords_append (sizeText_endsWords size) hrest)

/-- An initial value does not change what is declared. -/
theorem Declares.given {text value : String} {name : Option String} {rs : List Reference} (h : Declares text name [])
    (hvalue : Reads value rs) : Declares (text ++ " = " ++ value) name rs where
  selects := by rw [selections_gap (by decide), h.selects, hvalue.selects, List.nil_append]
  names rest _ := by
    have hchars : (text ++ " = " ++ value).toList ++ rest
        = text.toList ++ (" = ".toList ++ (value.toList ++ rest)) := by
      simp
    rw [hchars]
    exact h.names _ (endsWords_of_breaksWords (by decide) _)
  undivided := (h.undivided.append (by decide)).append hvalue.undivided

end GlslCompiler

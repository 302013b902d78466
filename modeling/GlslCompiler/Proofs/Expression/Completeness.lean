import GlslCompiler.Proofs.Expression.Parser

/-!
# The parser reads every expression

The parser gives what the grammar derives its tree (`parse_eq_some_iff`); in particular the grammar gives a
list of tokens at most one tree.

That nothing is read short or long is a matter of the token after a phrase. `ends n rest` says that the first
of the tokens `rest` continues no phrase of level `n`, and `Reads n` says what each goal of the parser makes of
a phrase of that level with such tokens after it.
-/

namespace GlslCompiler.Grammar

/-- The first token, if there is one, continues no phrase of the level. -/
def ends (n : Nat) : List Token → Bool
  | .leftBracket :: _ => 15 ≤ n
  | .leftParen :: _ => 15 ≤ n
  | .dot :: _ => 15 ≤ n
  | .operator operator :: _ =>
    (15 ≤ n || !isSuffixOperator operator) && (binaryLevel? operator).all (· ≤ n)
      && (3 ≤ n || !isAssignment operator)
  | .question :: _ => 3 ≤ n
  | _ => true

theorem ends_mono {m n : Nat} (hmn : m ≤ n) {rest : List Token} (h : ends m rest = true) :
    ends n rest = true := by
  unfold ends at h ⊢
  split at h
  · exact decide_eq_true (le_trans (of_decide_eq_true h) hmn)
  · exact decide_eq_true (le_trans (of_decide_eq_true h) hmn)
  · exact decide_eq_true (le_trans (of_decide_eq_true h) hmn)
  · rename_i operator _
    simp only [Bool.and_eq_true, Bool.or_eq_true, decide_eq_true_eq] at h ⊢
    obtain ⟨⟨hsuffix, hbinary⟩, hassign⟩ := h
    refine ⟨⟨hsuffix.imp_left (le_trans · hmn), ?_⟩, hassign.imp_left (le_trans · hmn)⟩
    cases hlevel : binaryLevel? operator with
    | none => rfl
    | some k =>
      rw [hlevel] at hbinary
      exact decide_eq_true (le_trans (of_decide_eq_true hbinary) hmn)
  · exact decide_eq_true (le_trans (of_decide_eq_true h) hmn)
  · rfl

/-- A binary operator is neither a suffix nor an assignment. -/
theorem not_suffix_of_binary {operator : String} {n : Nat} (h : binaryLevel? operator = some n) :
    isSuffixOperator operator = false ∧ isAssignment operator = false := by
  have hall : ∀ operator ∈ binaryOperators.flatten,
      isSuffixOperator operator = false ∧ isAssignment operator = false := by decide
  exact hall operator (mem_of_binaryLevel? h)

theorem not_suffix_of_assignment {operator : String} (h : isAssignment operator = true) :
    isSuffixOperator operator = false ∧ binaryLevel? operator = none := by
  have hall : ∀ operator ∈ ["=", "*=", "/=", "%=", "+=", "-=", "<<=", ">>=", "&=", "^=", "|="],
      isSuffixOperator operator = false ∧ binaryLevel? operator = none := by decide
  exact hall operator (List.contains_iff_mem.1 h)

theorem not_boolean_of_type {text : String} (h : isTypeKeyword text = true) : isBoolean text = false := by
  rw [isBoolean, Bool.or_eq_false_iff, beq_eq_false_iff_ne, beq_eq_false_iff_ne]
  constructor
  · rintro rfl
    exact absurd h (by decide)
  · rintro rfl
    exact absurd h (by decide)

theorem not_type_of_not_keyword {text : String} (h : isKeyword text = false) :
    isTypeKeyword text = false ∧ isBoolean text = false := by
  rw [isKeyword, Bool.or_eq_false_iff] at h
  refine ⟨h.1, ?_⟩
  rw [isBoolean, Bool.or_eq_false_iff, beq_eq_false_iff_ne, beq_eq_false_iff_ne]
  constructor
  · rintro rfl
    exact absurd h.2 (by decide)
  · rintro rfl
    exact absurd h.2 (by decide)

namespace Parser

/-! ### Where the tails stop -/

theorem suffixTail_of_ends {n : Nat} (hn : n < 15) {rest : List Token} (h : ends n rest = true) (t : Tree) :
    read (.suffixTail t) rest = some (t, rest) := by
  rw [read_eq]
  unfold step
  dsimp only
  split
  · simp [ends] at h
    omega
  · simp [ends] at h
    omega
  · simp [ends] at h
    omega
  · simp [ends] at h
    omega
  · rename_i operator rest
    have hsuffix : isSuffixOperator operator = false := by
      simp only [ends, Bool.and_eq_true, Bool.or_eq_true, decide_eq_true_eq, Bool.not_eq_true'] at h
      exact h.1.1.resolve_left (by omega)
    rw [hsuffix]
    rfl
  · rfl

theorem binaryTail_of_ends {m n : Nat} (hn : n < m) {rest : List Token} (h : ends n rest = true) (t : Tree) :
    read (.binaryTail m t) rest = some (t, rest) := by
  rw [read_eq]
  unfold step
  dsimp only
  split
  · rename_i operator rest
    cases hlevel : binaryLevel? operator with
    | none => rfl
    | some k =>
      simp only [ends, hlevel, Option.all_some, Bool.and_eq_true, decide_eq_true_eq] at h
      have hlow : ¬ m ≤ k := by omega
      simp only [hlow, if_false]
  · rfl

theorem conditionalTail_of_ends {n : Nat} (hn : n < 3) {rest : List Token} (h : ends n rest = true) (t : Tree) :
    read (.conditionalTail t) rest = some (t, rest) := by
  rw [read_eq, step, binaryTail_of_ends hn h]
  simp only [Option.bind_eq_bind, Option.bind_some]
  split
  · simp [ends] at h
    omega
  · rfl

theorem conditionalTail_of_assignment {operator : String} (h : isAssignment operator = true) (t : Tree)
    (rest : List Token) :
    read (.conditionalTail t) (.operator operator :: rest) = some (t, .operator operator :: rest) := by
  simp [read_eq (.conditionalTail t), read_eq (.binaryTail 3 t), step, (not_suffix_of_assignment h).2]

/-! ### Phrases of a level -/

/-- How the functions of the parser read a phrase of a level, with tokens after it that do not continue it.
Each field follows from the one before. -/
structure Reads (n : Nat) (ts : List Token) (t : Tree) : Prop where
  asSuffix : 15 ≤ n → ∀ rest, read .unary (ts ++ rest) = read (.suffixTail t) rest
  asUnary : 14 ≤ n → ∀ rest, ends 14 rest = true → read .unary (ts ++ rest) = some (t, rest)
  asBinary : 3 ≤ n → ∀ rest, ends (min n 14) rest = true → ∀ m ≤ n,
    ((read .unary (ts ++ rest)).bind fun p => read (.binaryTail m p.1) p.2) = read (.binaryTail m t) rest
  asConditional : 2 ≤ n → ∀ rest, ends 2 rest = true →
    ((read .unary (ts ++ rest)).bind fun p => read (.conditionalTail p.1) p.2) = some (t, rest)
  asAssignment : 1 ≤ n → ∀ rest, ends 2 rest = true → read .assignment (ts ++ rest) = some (t, rest)
  asExpression : ∀ rest, ends 2 rest = true → read .expression (ts ++ rest) = read (.sequenceTail t) rest

namespace Reads

variable {n : Nat} {ts : List Token} {t : Tree}

theorem ofExpression (h : ∀ rest, ends 2 rest = true → read .expression (ts ++ rest) = read (.sequenceTail t) rest) :
    Reads 0 ts t where
  asSuffix hn := by omega
  asUnary hn := by omega
  asBinary hn := by omega
  asConditional hn := by omega
  asAssignment hn := by omega
  asExpression := h

theorem ofAssignment (h : ∀ rest, ends 2 rest = true → read .assignment (ts ++ rest) = some (t, rest)) :
    Reads 1 ts t where
  asSuffix hn := by omega
  asUnary hn := by omega
  asBinary hn := by omega
  asConditional hn := by omega
  asAssignment _ := h
  asExpression rest hrest := by
    rw [read_eq, step, h rest hrest]
    rfl

theorem ofConditional (h : ∀ rest, ends 2 rest = true →
      ((read .unary (ts ++ rest)).bind fun p => read (.conditionalTail p.1) p.2) = some (t, rest)) :
    Reads 2 ts t := by
  have hassign : Reads 1 ts t := by
    refine ofAssignment fun rest hrest => ?_
    have hread := h rest hrest
    obtain ⟨⟨u, after⟩, hunary, htail⟩ := Option.bind_eq_some_iff.1 hread
    rw [read_eq, step, hunary]
    simp only [Option.bind_eq_bind, Option.bind_some]
    split
    · rename_i operator value
      split
      · -- An assignment operator would have stopped the conditional at once, and then follow the phrase.
        rename_i hoperator
        exfalso
        rw [conditionalTail_of_assignment hoperator] at htail
        obtain ⟨rfl, rfl⟩ := Prod.mk.inj (Option.some.inj htail)
        simp [ends, hoperator] at hrest
      · exact htail
    · exact htail
  exact
    { asSuffix := fun hn => by omega
      asUnary := fun hn => by omega
      asBinary := fun hn => by omega
      asConditional := fun _ => h
      asAssignment := fun _ => hassign.asAssignment le_rfl
      asExpression := hassign.asExpression }

theorem ofBinary (hlow : 3 ≤ n) (hhigh : n ≤ 13)
    (h : ∀ rest, ends n rest = true → ∀ m ≤ n,
      ((read .unary (ts ++ rest)).bind fun p => read (.binaryTail m p.1) p.2) = read (.binaryTail m t) rest) :
    Reads n ts t := by
  have hcond : Reads 2 ts t := by
    refine ofConditional fun rest hrest => ?_
    have hread := h rest (ends_mono (by omega) hrest) 3 hlow
    rw [← conditionalTail_of_ends (by omega) hrest, read_eq (.conditionalTail t), step, ← hread,
      Option.bind_eq_bind, Option.bind_assoc]
    simp only [read_eq (.conditionalTail _), step, Option.bind_eq_bind]
  have hmin : min n 14 = n := by omega
  exact
    { asSuffix := fun hn => by omega
      asUnary := fun hn => by omega
      asBinary := fun _ => hmin.symm ▸ h
      asConditional := fun _ => hcond.asConditional le_rfl
      asAssignment := fun _ => hcond.asAssignment (by omega)
      asExpression := hcond.asExpression }

theorem ofUnary (h : ∀ rest, ends 14 rest = true → read .unary (ts ++ rest) = some (t, rest)) : Reads 14 ts t := by
  have hbind : ∀ rest, ends 14 rest = true → ∀ m,
      ((read .unary (ts ++ rest)).bind fun p => read (.binaryTail m p.1) p.2) = read (.binaryTail m t) rest := by
    intro rest hrest m
    rw [h rest hrest, Option.bind_some]
  have hbinary : Reads 13 ts t :=
    ofBinary (by omega) le_rfl fun rest hrest m _ => hbind rest (ends_mono (by omega) hrest) m
  exact
    { asSuffix := fun hn => by omega
      asUnary := fun _ => h
      asBinary := fun _ rest hrest m _ => hbind rest hrest m
      asConditional := fun _ => hbinary.asConditional (by omega)
      asAssignment := fun _ => hbinary.asAssignment (by omega)
      asExpression := hbinary.asExpression }

theorem ofSuffix (hn : 15 ≤ n) (h : ∀ rest, read .unary (ts ++ rest) = read (.suffixTail t) rest) : Reads n ts t := by
  have hunary : Reads 14 ts t := by
    refine ofUnary fun rest hrest => ?_
    rw [h, suffixTail_of_ends (by omega) hrest]
  have hmin : min n 14 = 14 := by omega
  exact
    { asSuffix := fun _ => h
      asUnary := fun _ => hunary.asUnary le_rfl
      asBinary := fun _ rest hrest m _ => by
        rw [hunary.asUnary le_rfl rest (hmin ▸ hrest), Option.bind_some]
      asConditional := fun _ => hunary.asConditional (by omega)
      asAssignment := fun _ => hunary.asAssignment (by omega)
      asExpression := hunary.asExpression }

theorem lift (h : Reads (n + 1) ts t) : Reads n ts t where
  asSuffix hn := h.asSuffix (by omega)
  asUnary hn := h.asUnary (by omega)
  asBinary hn rest hrest m hm := h.asBinary (by omega) rest (ends_mono (by omega) hrest) m (by omega)
  asConditional hn := h.asConditional (by omega)
  asAssignment hn := h.asAssignment (by omega)
  asExpression := h.asExpression

theorem ofName {text : String} (h : isKeyword text = false) : Reads 16 [.word text] (.name text) := by
  obtain ⟨htype, hboolean⟩ := not_type_of_not_keyword h
  refine ofSuffix (by omega) fun rest => ?_
  simp [read_eq .unary, read_eq .primary, step, h, hboolean, htype]

theorem group (h : Reads 0 ts t) : Reads 16 (Token.leftParen :: ts ++ [Token.rightParen]) t := by
  refine ofSuffix (by omega) fun rest => ?_
  have hinner := h.asExpression (.rightParen :: rest) rfl
  have hstop : read (.sequenceTail t) (.rightParen :: rest) = some (t, .rightParen :: rest) := by
    rfl
  simp [read_eq .unary, read_eq .primary, step, hinner, hstop]

theorem index {us : List Token} {u : Tree} (hbase : Reads 15 ts t) (hposition : Reads 0 us u) :
    Reads 15 (ts ++ Token.leftBracket :: us ++ [Token.rightBracket]) (.index t u) := by
  refine ofSuffix le_rfl fun rest => ?_
  have hinner := hposition.asExpression (.rightBracket :: rest) rfl
  have hstop : read (.sequenceTail u) (.rightBracket :: rest) = some (u, .rightBracket :: rest) := by
    rfl
  have hread := hbase.asSuffix le_rfl (Token.leftBracket :: (us ++ Token.rightBracket :: rest))
  simp only [List.append_assoc, List.cons_append, List.nil_append, hread]
  simp [read_eq (.suffixTail t), step, hinner, hstop]

theorem member {text : String} (hbase : Reads 15 ts t) (htext : isKeyword text = false) :
    Reads 15 (ts ++ [Token.dot, Token.word text]) (.member t text) := by
  refine ofSuffix le_rfl fun rest => ?_
  have hread := hbase.asSuffix le_rfl (.dot :: .word text :: rest)
  simp only [List.append_assoc, List.cons_append, List.nil_append, hread]
  rw [read_eq, step, htext]
  rfl

theorem suffix {operator : String} (hbase : Reads 15 ts t) (hoperator : isSuffixOperator operator = true) :
    Reads 15 (ts ++ [Token.operator operator]) (.suffix operator t) := by
  refine ofSuffix le_rfl fun rest => ?_
  have hread := hbase.asSuffix le_rfl (.operator operator :: rest)
  simp only [List.append_assoc, List.cons_append, List.nil_append, hread]
  rw [read_eq, step, if_pos hoperator]

theorem unaryOperator {operator : String} (hoperator : isPrefixOperator operator = true) (h : Reads 14 ts t) :
    Reads 14 (.operator operator :: ts) (.unary operator t) := by
  refine ofUnary fun rest hrest => ?_
  have hread := h.asUnary le_rfl rest hrest
  rw [List.cons_append, read_eq, step, if_pos hoperator, hread]
  rfl

theorem binary {ls rs : List Token} {l r : Tree} {operator : String} (hlevel : binaryLevel? operator = some n)
    (hleft : Reads n ls l) (hright : Reads (n + 1) rs r) :
    Reads n (ls ++ Token.operator operator :: rs) (.binary operator l r) := by
  obtain ⟨hlow, hhigh⟩ := binaryLevel?_bounds hlevel
  refine ofBinary hlow hhigh fun rest hrest m hm => ?_
  -- The operator ends the left operand, since it does not bind more tightly than the operand does.
  have hoperator : ends (min n 14) (Token.operator operator :: (rs ++ rest)) = true := by
    simp [ends, hlevel, not_suffix_of_binary hlevel, show min n 14 = n by omega]
  have hread := hleft.asBinary hlow (Token.operator operator :: (rs ++ rest)) hoperator m hm
  have hrightRead := hright.asBinary (by omega) rest (ends_mono (by omega) hrest) (n + 1) le_rfl
  rw [binaryTail_of_ends (by omega) hrest] at hrightRead
  obtain ⟨⟨u, after⟩, hunary, htail⟩ := Option.bind_eq_some_iff.1 hrightRead
  simp only [List.append_assoc, List.cons_append, hread]
  rw [read_eq, step]
  simp [hlevel, hm, hunary, htail]

theorem conditionalOperator {cs us : List Token} {c u : Tree} (hcondition : Reads 3 cs c) (htrue : Reads 0 ts t)
    (hfalse : Reads 1 us u) :
    Reads 2 (cs ++ Token.question :: ts ++ Token.colon :: us) (.conditional c t u) := by
  refine ofConditional fun rest hrest => ?_
  have hread := hcondition.asBinary le_rfl (Token.question :: (ts ++ Token.colon :: (us ++ rest))) rfl 3 le_rfl
  have hstop : read (.binaryTail 3 c) (Token.question :: (ts ++ Token.colon :: (us ++ rest)))
      = some (c, Token.question :: (ts ++ Token.colon :: (us ++ rest))) := by
    rfl
  rw [hstop] at hread
  obtain ⟨⟨v, after⟩, hunary, htail⟩ := Option.bind_eq_some_iff.1 hread
  have htrueRead := htrue.asExpression (Token.colon :: (us ++ rest)) rfl
  have htrueStop : read (.sequenceTail t) (Token.colon :: (us ++ rest)) = some (t, Token.colon :: (us ++ rest)) := by
    rfl
  have hfalseRead := hfalse.asAssignment le_rfl rest hrest
  simp only [List.append_assoc, List.cons_append, hunary, Option.bind_some]
  simp [read_eq (.conditionalTail v), step, htail, htrueRead, htrueStop, hfalseRead]

theorem assign {rs : List Token} {r : Tree} {operator : String} (hoperator : isAssignment operator = true)
    (htarget : Reads 14 ts t) (hvalue : Reads 1 rs r) :
    Reads 1 (ts ++ Token.operator operator :: rs) (.assign operator t r) := by
  refine ofAssignment fun rest hrest => ?_
  have hends : ends 14 (Token.operator operator :: (rs ++ rest)) = true := by
    simp [ends, not_suffix_of_assignment hoperator]
  have htargetRead := htarget.asUnary le_rfl (Token.operator operator :: (rs ++ rest)) hends
  have hvalueRead := hvalue.asAssignment le_rfl rest hrest
  simp only [List.append_assoc, List.cons_append]
  rw [read_eq, step, htargetRead]
  simp [hoperator, hvalueRead]

theorem sequence {ls rs : List Token} {l r : Tree} (hleft : Reads 0 ls l) (hright : Reads 1 rs r) :
    Reads 0 (ls ++ Token.comma :: rs) (.sequence l r) := by
  refine ofExpression fun rest hrest => ?_
  have hread := hleft.asExpression (Token.comma :: (rs ++ rest)) rfl
  have hrightRead := hright.asAssignment le_rfl rest hrest
  simp only [List.append_assoc, List.cons_append, hread]
  rw [read_eq, step, hrightRead]
  rfl

end Reads

/-- What the parser makes of a phrase. The tokens of a call that is still open leave the parser among its
arguments. -/
def ReadsPhrase : Phrase → List Token → Tree → Prop
  | .level n, ts, t => Reads n ts t
  | .type, ts, t => ∀ rest,
      read .unary (ts ++ rest) = (read (.typeTail t) rest).bind fun p => read (.suffixTail p.1) p.2
  | .header, ts, t => ∃ callee, t = .call callee [] ∧ ∀ rest,
      read .unary (ts ++ rest) = (read (.arguments callee) rest).bind fun p => read (.suffixTail p.1) p.2
  | .arguments, ts, t => ∃ callee args, t = .call callee args ∧ ∀ rest, ends 2 rest = true →
      read .unary (ts ++ rest) = (read (.argumentsTail callee args) rest).bind fun p => read (.suffixTail p.1) p.2

theorem arguments_of_assignment {ts rest : List Token} {u : Tree} (h : read .assignment ts = some (u, rest))
    (callee : Tree) : read (.arguments callee) ts = read (.argumentsTail callee [u]) rest := by
  rw [read_eq]
  unfold step
  dsimp only
  split
  · rename_i rest
    have hnone : read .assignment (.rightParen :: rest) = none := rfl
    rw [hnone] at h
    cases h
  · rw [h]
    rfl

theorem readsPhrase_of_derives {p : Phrase} {ts : List Token} {t : Tree} (h : Derives p ts t) :
    ReadsPhrase p ts t := by
  induction h with
  | number text =>
    refine Reads.ofSuffix (by omega) fun rest => ?_
    simp [read_eq .unary, read_eq .primary, step]
  | boolean h =>
    refine Reads.ofSuffix (by omega) fun rest => ?_
    simp [read_eq .unary, read_eq .primary, step, h]
  | name h => exact Reads.ofName h
  | group _ ih => exact ih.group
  | index _ _ ihBase ihPosition => exact ihBase.index ihPosition
  | member _ h ih => exact ih.member h
  | suffix _ h ih => exact ih.suffix h
  | @type text h =>
    intro rest
    have hboolean : isBoolean text = false := not_boolean_of_type h
    simp [read_eq .unary, read_eq .primary, step, h, hboolean]
  | @arrayType ts us t u _ _ ihType ihSize =>
    intro rest
    have hsize := ihSize.asConditional le_rfl (.rightBracket :: rest) rfl
    obtain ⟨⟨v, after⟩, hunary, htail⟩ := Option.bind_eq_some_iff.1 hsize
    have hread := ihType (Token.leftBracket :: (us ++ Token.rightBracket :: rest))
    simp only [List.append_assoc, List.cons_append, List.nil_append, hread]
    rw [read_eq (.typeTail t), step]
    simp [hunary, htail]
  | @header ts t _ ih =>
    refine ⟨t, rfl, fun rest => ?_⟩
    have hread := ih.asSuffix le_rfl (.leftParen :: rest)
    simp only [List.append_assoc, List.cons_append, List.nil_append, hread]
    rw [read_eq (.suffixTail t), step]
    rfl
  | @typeHeader ts t _ ih =>
    refine ⟨t, rfl, fun rest => ?_⟩
    have hread := ih (.leftParen :: rest)
    simp only [List.append_assoc, List.cons_append, List.nil_append, hread]
    rw [read_eq (.typeTail t), step]
  | @firstArgument ts us t u _ _ ihHeader ihArgument =>
    obtain ⟨callee, he, hread⟩ := ihHeader
    obtain ⟨rfl, -⟩ := Tree.call.inj he
    refine ⟨t, [u], rfl, fun rest hrest => ?_⟩
    have hargument := ihArgument.asAssignment le_rfl rest hrest
    rw [List.append_assoc, hread, arguments_of_assignment hargument]
  | @nextArgument ts us t u args _ _ ihBefore ihArgument =>
    obtain ⟨callee, args', he, hread⟩ := ihBefore
    obtain ⟨rfl, rfl⟩ := Tree.call.inj he
    refine ⟨t, args ++ [u], rfl, fun rest hrest => ?_⟩
    have hargument := ihArgument.asAssignment le_rfl rest hrest
    rw [List.append_assoc, List.cons_append, hread _ rfl, read_eq (.argumentsTail t args), step, hargument]
    rfl
  | emptyCall _ ih =>
    obtain ⟨callee, rfl, hread⟩ := ih
    refine Reads.ofSuffix le_rfl fun rest => ?_
    rw [List.append_assoc, List.singleton_append, hread, read_eq (.arguments callee), step]
    rfl
  | call _ ih =>
    obtain ⟨callee, args, rfl, hread⟩ := ih
    refine Reads.ofSuffix le_rfl fun rest => ?_
    rw [List.append_assoc, List.singleton_append, hread _ rfl, read_eq (.argumentsTail callee args), step]
    rfl
  | unary h _ ih => exact ih.unaryOperator h
  | binary h _ _ ihLeft ihRight => exact Reads.binary h ihLeft ihRight
  | conditional _ _ _ ihCondition ihTrue ihFalse => exact ihCondition.conditionalOperator ihTrue ihFalse
  | assign h _ _ ihTarget ihValue => exact Reads.assign h ihTarget ihValue
  | sequence _ _ ihLeft ihRight => exact ihLeft.sequence ihRight
  | lift _ _ ih => exact ih.lift

end Parser

/-- The parser accepts exactly the expressions of the grammar. -/
theorem parse_eq_some_iff {ts : List Token} {t : Tree} : parse ts = some t ↔ Derives (.level 0) ts t := by
  refine ⟨derives_of_parse, fun h => ?_⟩
  have hreads : Parser.Reads 0 ts t := Parser.readsPhrase_of_derives h
  have hread := hreads.asExpression [] rfl
  rw [List.append_nil, show Parser.read (.sequenceTail t) [] = some (t, []) from rfl] at hread
  rw [parse, hread]

/-- A list of tokens is an expression in one way only. -/
theorem Derives.unique {ts : List Token} {t u : Tree} (ht : Derives (.level 0) ts t)
    (hu : Derives (.level 0) ts u) : t = u := by
  rw [← parse_eq_some_iff] at ht hu
  exact Option.some.inj (ht.symm.trans hu)

end GlslCompiler.Grammar

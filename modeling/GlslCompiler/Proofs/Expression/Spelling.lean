import GlslCompiler.Proofs.Expression.Grammar

/-!
# Texts of expressions

`Spells n stops cs t` says that the characters `cs` are read as an expression of level `n` with the tree `t`
wherever one of the characters `stops` or nothing follows. The lemmas here put such texts together as the
language does, one for each form of expression. They keep track of the first character too: an operator in
front of a text must not join with it.
-/

namespace GlslCompiler.Grammar

def isIdentifier (text : String) : Bool := isWord text.toList && !isKeyword text

/-- A constant without a sign: one number or one of the words `true` and `false`. -/
def isConstant (cs : List Char) : Bool := number.rmatch cs || isBoolean (String.ofList cs)

/-- The text is read as an expression of the level, and does not begin with an equals sign. -/
structure Spells (n : Nat) (stops cs : List Char) (t : Tree) : Prop where
  reads : ∃ ts, Lexes stops cs ts ∧ Derives (.level n) ts t
  head : ∃ c rest, cs = c :: rest ∧ c ≠ '='

/-! ### Tokens of known texts -/

theorem isWord_of_isIdentifier {text : String} (h : isIdentifier text = true) : isWord text.toList = true := by
  rw [isIdentifier, Bool.and_eq_true] at h
  exact h.1

theorem token?_of_isWord {cs : List Char} (h : isWord cs = true) : token? cs = some (.word (String.ofList cs)) := by
  rw [token?, if_pos h]

theorem token?_word {text : String} (h : isWord text.toList = true) :
    token? text.toList = some (.word text) := by
  rw [token?_of_isWord h, String.ofList_toList]

theorem token?_number {cs : List Char} (h : number.rmatch cs = true) :
    token? cs = some (.number (String.ofList cs)) := by
  obtain ⟨c, rest, rfl, hc⟩ := number_head h
  have hword : isWordStart c = false := by
    rcases hc with hc | ⟨rfl, -⟩
    · refine Bool.eq_false_iff.2 fun hstart => ?_
      rw [isDigit_of_isWordStart hstart] at hc
      exact absurd hc (by decide)
    · decide
  rw [token?, if_neg (by simp [isWord, hword]), if_pos h]

theorem token?_binary {operator : String} {n : Nat} (h : binaryLevel? operator = some n) :
    token? operator.toList = some (.operator operator) := by
  have hmem : operator ∈ binaryOperators.flatten := mem_of_binaryLevel? h
  have hall : ∀ operator ∈ binaryOperators.flatten, token? operator.toList = some (.operator operator) := by
    decide
  exact hall operator hmem

theorem token?_prefixOperator {operator : String} (h : isPrefixOperator operator = true) :
    token? operator.toList = some (.operator operator) := by
  have hall : ∀ operator ∈ ["++", "--", "+", "-", "!", "~"],
      token? operator.toList = some (.operator operator) := by decide
  exact hall operator (List.contains_iff_mem.1 h)

/-- A prefix operator joins only with a sign or an equals sign. -/
theorem prefix_apart {operator : String} {c : Char} (h : isPrefixOperator operator = true)
    (hc : c ∉ ['+', '-', '=']) : Apart operator.toList c := by
  have hall : ∀ operator ∈ ["++", "--", "+", "-", "!", "~"],
      beginsSymbol operator.toList = true ∧ successors operator.toList ⊆ ['+', '-', '='] := by decide
  obtain ⟨hbegins, hsuccessors⟩ := hall operator (List.contains_iff_mem.1 h)
  exact symbol_apart hbegins fun hmem => hc (hsuccessors hmem)

theorem isWord_cons {cs : List Char} (h : isWord cs = true) :
    ∃ c rest, cs = c :: rest ∧ isWordStart c = true := by
  cases cs with
  | nil => exact absurd h (by decide)
  | cons c rest =>
    rw [isWord, Bool.and_eq_true] at h
    exact ⟨c, rest, rfl, h.1⟩

theorem isWordChar_of_isWord {cs : List Char} (h : isWord cs = true) : ∀ c ∈ cs, isWordChar c = true := by
  obtain ⟨c, rest, rfl, hc⟩ := isWord_cons h
  rw [isWord, Bool.and_eq_true, List.all_eq_true] at h
  exact List.forall_mem_cons.2 ⟨by rw [isWordChar, hc, Bool.true_or], h.2⟩

theorem word_lexes {text : String} (h : isWord text.toList = true) :
    Lexes ('.' :: closers) text.toList [.word text] := by
  obtain ⟨c, rest, he, -⟩ := isWord_cons h
  refine Lexes.single (token?_word h) fun d hd => ?_
  rcases List.mem_cons.1 hd with rfl | hd
  · exact word_apart_dot h
  · exact apart_of_closer (by simp [he]) hd

theorem word_head {cs : List Char} (h : isWord cs = true) : ∃ c rest, cs = c :: rest ∧ c ≠ '=' := by
  obtain ⟨c, rest, he, hc⟩ := isWord_cons h
  refine ⟨c, rest, he, ?_⟩
  rintro rfl
  exact absurd hc (by decide)

/-- A text between two brackets ends in any place. -/
theorem enclosed_lexes {opening closing : Char} {first last : Token} {cs : List Char} {ts : List Token}
    (hopening : opening ∈ ['(', ')', '[', ']', ',']) (hclosing : closing ∈ ['(', ')', '[', ']', ','])
    (hfirst : token? [opening] = some first) (hlast : token? [closing] = some last) (h : Lexes closers cs ts)
    (hne : cs ≠ []) (stops : List Char) : Lexes stops (opening :: (cs ++ [closing])) (first :: (ts ++ [last])) := by
  obtain ⟨c, rest, rfl⟩ := List.exists_cons_of_ne_nil hne
  have hclose : Lexes stops [closing] [last] := Lexes.single hlast fun d _ => punctuation_apart hclosing d
  have hcloser : ['(', ')', '[', ']', ','] ⊆ closers := by decide
  have hinner := h.append hclose ⟨closing, [], rfl, hcloser hclosing⟩
  exact Lexes.cons hfirst hinner ⟨c, rest ++ [closing], rfl, punctuation_apart hopening c⟩

private theorem not_sign {p : Char → Bool} {c : Char} (hsigns : ∀ c ∈ ['+', '-', '='], p c = false)
    (h : p c = true) : c ∉ ['+', '-', '='] := by
  intro hc
  rw [hsigns c hc] at h
  exact absurd h (by decide)

/-- A constant is one token, and a sign in front of it stays apart. -/
theorem constant_token {cs : List Char} (h : isConstant cs = true) :
    ∃ token, token? cs = some token ∧ Derives (.level 16) [token] (.literal (String.ofList cs)) ∧
      ∃ c rest, cs = c :: rest ∧ c ∉ ['+', '-', '='] := by
  rw [isConstant, Bool.or_eq_true] at h
  rcases h with h | h
  · obtain ⟨c, rest, rfl, hc⟩ := number_head h
    have hsign : c ∉ ['+', '-', '='] := by
      rcases hc with hc | ⟨rfl, -⟩
      · exact not_sign (forall_mem_of_all (by decide)) hc
      · decide
    exact ⟨.number (String.ofList (c :: rest)), token?_number h, .number _, c, rest, rfl, hsign⟩
  · have hword : ∀ text ∈ ["true", "false"], isWord text.toList = true := by decide
    have hmem : String.ofList cs ∈ ["true", "false"] := by
      simpa [isBoolean] using h
    have hcs : isWord cs = true := by simpa using hword _ hmem
    obtain ⟨c, rest, rfl, hc⟩ := isWord_cons hcs
    exact ⟨.word (String.ofList (c :: rest)), token?_of_isWord hcs, .boolean h, c, rest, rfl,
      not_sign (forall_mem_of_all (by decide)) hc⟩

namespace Spells

variable {m n : Nat} {stops stops' cs ds es : List Char} {t u v : Tree}

theorem weaken (h : Spells n stops cs t) (hmn : m ≤ n) (hn : n ≤ 16) : Spells m stops cs t := by
  obtain ⟨⟨ts, hlexes, hderives⟩, hhead⟩ := h
  exact ⟨⟨ts, hlexes, hderives.weaken hmn hn⟩, hhead⟩

theorem mono (h : Spells n stops cs t) (hstops : stops' ⊆ stops) : Spells n stops' cs t := by
  obtain ⟨⟨ts, hlexes, hderives⟩, hhead⟩ := h
  exact ⟨⟨ts, hlexes.mono hstops, hderives⟩, hhead⟩

theorem name {text : String} (h : isIdentifier text = true) :
    Spells 16 ('.' :: closers) text.toList (.name text) := by
  rw [isIdentifier, Bool.and_eq_true, Bool.not_eq_true'] at h
  obtain ⟨hword, hkeyword⟩ := h
  exact ⟨⟨[.word text], word_lexes hword, .name hkeyword⟩, word_head hword⟩

theorem constant (h : isConstant cs = true) : Spells 16 closers cs (.literal (String.ofList cs)) := by
  obtain ⟨token, htoken, hderives, c, rest, rfl, hc⟩ := constant_token h
  refine ⟨⟨[token], Lexes.single htoken ?_, hderives⟩, c, rest, rfl, ?_⟩
  · exact fun d hd => apart_of_closer (List.cons_ne_nil c rest) hd
  · rintro rfl
    exact absurd hc (by decide)

theorem parens (h : Spells 0 closers cs t) (stops : List Char) :
    Spells 16 stops ('(' :: cs ++ [')']) t := by
  obtain ⟨⟨ts, hlexes, hderives⟩, c, rest, rfl, -⟩ := h
  have hall := enclosed_lexes (by decide) (by decide) (show token? ['('] = some .leftParen by decide)
    (show token? [')'] = some .rightParen by decide) hlexes (List.cons_ne_nil c rest) stops
  exact ⟨⟨_, hall, .group hderives⟩, '(', _, rfl, by decide⟩

theorem binary {operator : String} (hoperator : binaryLevel? operator = some n) (hleft : Spells n closers cs t)
    (hright : Spells (n + 1) closers ds u) :
    Spells n closers (cs ++ ' ' :: (operator.toList ++ ' ' :: ds)) (.binary operator t u) := by
  obtain ⟨⟨ts, hlexes, hderives⟩, c, rest, rfl, hc⟩ := hleft
  obtain ⟨⟨us, hlexes', hderives'⟩, -⟩ := hright
  have htoken := token?_binary hoperator
  have hne : operator.toList ≠ [] := by
    intro he
    rw [he, token?_nil] at htoken
    exact absurd htoken (by simp)
  have htail := Lexes.cons htoken hlexes'.blank ⟨' ', ds, rfl, apart_of_closer hne (by decide)⟩
  have hall := hlexes.append htail.blank ⟨' ', _, rfl, by decide⟩
  exact ⟨⟨_, hall, hderives.binary hoperator hderives'⟩, c, _, rfl, hc⟩

theorem unary_of_apart {operator : String} (hoperator : isPrefixOperator operator = true) (h : Spells 14 closers cs t)
    (hapart : ∀ c ∈ cs.head?, Apart operator.toList c) :
    Spells 14 closers (operator.toList ++ cs) (.unary operator t) := by
  obtain ⟨⟨ts, hlexes, hderives⟩, c, rest, rfl, hc⟩ := h
  have hall := Lexes.cons (token?_prefixOperator hoperator) hlexes ⟨c, rest, rfl, hapart c rfl⟩
  have hfirst : ∀ operator ∈ ["++", "--", "+", "-", "!", "~"],
      operator.toList ≠ [] ∧ operator.toList.head? ≠ some '=' := by decide
  obtain ⟨hne, hhead⟩ := hfirst operator (List.contains_iff_mem.1 hoperator)
  obtain ⟨d, more, hmore⟩ := List.exists_cons_of_ne_nil hne
  refine ⟨⟨_, hall, hderives.unary hoperator⟩, d, more ++ c :: rest, by rw [hmore]; rfl, ?_⟩
  rintro rfl
  exact hhead (by rw [hmore]; rfl)

theorem unary {operator : String} (hoperator : isPrefixOperator operator = true) (h : Spells 14 closers cs t)
    (hsign : ∀ c ∈ cs.head?, c ≠ '+' ∧ c ≠ '-') :
    Spells 14 closers (operator.toList ++ cs) (.unary operator t) := by
  refine h.unary_of_apart hoperator fun c hc => prefix_apart hoperator ?_
  obtain ⟨hplus, hminus⟩ := hsign c hc
  obtain ⟨d, rest, rfl, hequals⟩ := h.head
  cases hc
  simp [hplus, hminus, hequals]

theorem member {text : String} (h : Spells 15 ('.' :: closers) cs t) (htext : isIdentifier text = true) :
    Spells 15 ('.' :: closers) (cs ++ '.' :: text.toList) (.member t text) := by
  obtain ⟨⟨ts, hlexes, hderives⟩, c, rest, rfl, hc⟩ := h
  rw [isIdentifier, Bool.and_eq_true, Bool.not_eq_true'] at htext
  obtain ⟨hword, hkeyword⟩ := htext
  obtain ⟨d, more, he, hd⟩ := isWord_cons hword
  have hdot := Lexes.cons (show token? ['.'] = some .dot by decide) (word_lexes hword) ⟨d, more, he, dot_apart hd⟩
  have hall := hlexes.append hdot ⟨'.', _, rfl, by decide⟩
  exact ⟨⟨_, hall, hderives.member hkeyword⟩, c, _, rfl, hc⟩

theorem index (hbase : Spells 15 ('.' :: closers) cs t) (hposition : Spells 0 closers ds u)
    (stops : List Char) : Spells 15 stops (cs ++ '[' :: (ds ++ [']'])) (.index t u) := by
  obtain ⟨⟨ts, hlexes, hderives⟩, c, rest, rfl, hc⟩ := hbase
  obtain ⟨⟨us, hlexes', hderives'⟩, d, more, rfl, -⟩ := hposition
  have hposition := enclosed_lexes (by decide) (by decide) (show token? ['['] = some .leftBracket by decide)
    (show token? [']'] = some .rightBracket by decide) hlexes' (List.cons_ne_nil d more) stops
  have hall := hlexes.append hposition ⟨'[', _, rfl, by decide⟩
  refine ⟨⟨_, hall, ?_⟩, c, _, rfl, hc⟩
  simpa using hderives.index hderives'

theorem conditional (hcondition : Spells 3 closers cs t) (htrue : Spells 0 closers ds u)
    (hfalse : Spells 1 closers es v) :
    Spells 2 closers (cs ++ ' ' :: '?' :: ' ' :: (ds ++ ' ' :: ':' :: ' ' :: es)) (.conditional t u v) := by
  obtain ⟨⟨ts, hlexes, hderives⟩, c, rest, rfl, hc⟩ := hcondition
  obtain ⟨⟨us, hlexes', hderives'⟩, -⟩ := htrue
  obtain ⟨⟨vs, hlexes'', hderives''⟩, -⟩ := hfalse
  have hcolon := Lexes.cons (show token? [':'] = some .colon by decide) hlexes''.blank
    ⟨' ', es, rfl, apart_of_closer (by simp) (by decide)⟩
  have hbranches := hlexes'.append hcolon.blank ⟨' ', _, rfl, by decide⟩
  have hquestion := Lexes.cons (show token? ['?'] = some .question by decide) hbranches.blank
    ⟨' ', _, rfl, apart_of_closer (by simp) (by decide)⟩
  have hall := hlexes.append hquestion.blank ⟨' ', _, rfl, by decide⟩
  refine ⟨⟨_, hall, ?_⟩, c, _, rfl, hc⟩
  simpa using hderives.conditional hderives' hderives''

end Spells

/-! ### Calls -/

/-- The text is read as what a call has before its opening parenthesis. -/
structure SpellsCallee (cs : List Char) (callee : Tree) : Prop where
  reads : ∃ ts, Lexes closers cs ts ∧ Derives .header (ts ++ [.leftParen]) (.call callee [])
  head : ∃ c rest, cs = c :: rest ∧ c ≠ '='

theorem intercalate_cons_eq {α : Type} (separator first : List α) (more : List (List α)) :
    separator.intercalate (first :: more) = first ++ more.flatMap (separator ++ ·) := by
  induction more generalizing first with
  | nil => simp
  | cons next more ih => rw [List.intercalate_cons_cons, ih, List.flatMap_cons, List.append_assoc, List.append_assoc]

private theorem moreArguments_head (css : List (List Char)) :
    ∃ c rest, css.flatMap ([',', ' '] ++ ·) ++ [')'] = c :: rest ∧ c ∈ closers := by
  cases css with
  | nil => exact ⟨')', [], rfl, by decide⟩
  | cons ds css => exact ⟨',', _, rfl, by decide⟩

private theorem moreArguments_read {css : List (List Char)} {us : List Tree}
    (h : List.Forall₂ (Spells 1 closers) css us) (stops : List Char) :
    ∃ ts, Lexes stops (css.flatMap ([',', ' '] ++ ·) ++ [')']) ts ∧
      ∀ before callee done, Derives .arguments before (.call callee done) →
        Derives (.level 15) (before ++ ts) (.call callee (done ++ us)) := by
  induction h with
  | nil =>
    refine ⟨[.rightParen], Lexes.single (by decide) fun d _ => punctuation_apart (by decide) d, ?_⟩
    intro before callee done hbefore
    rw [List.append_nil]
    exact hbefore.call
  | @cons cs u css us hfirst _ ih =>
    obtain ⟨⟨ts, hlexes, hderives⟩, -⟩ := hfirst
    obtain ⟨more, hmore, hrest⟩ := ih
    have htail := hlexes.append hmore (moreArguments_head css)
    have hcomma := Lexes.cons (show token? [','] = some .comma by decide) htail.blank
      ⟨' ', _, rfl, apart_of_closer (by simp) (by decide)⟩
    refine ⟨.comma :: (ts ++ more), ?_, ?_⟩
    · simpa using hcomma
    · intro before callee done hbefore
      simpa using hrest _ _ _ (hbefore.nextArgument hderives)

/-- A callee and texts of arguments make a call. -/
theorem Spells.call {cs : List Char} {css : List (List Char)} {callee : Tree} {us : List Tree}
    (hcallee : SpellsCallee cs callee) (harguments : List.Forall₂ (Spells 1 closers) css us)
    (stops : List Char) :
    Spells 15 stops (cs ++ '(' :: ([',', ' '].intercalate css ++ [')'])) (.call callee us) := by
  obtain ⟨⟨hs, hheader, hderives⟩, c, rest, rfl, hc⟩ := hcallee
  suffices hinner : ∃ ts, Lexes stops ([',', ' '].intercalate css ++ [')']) ts ∧
      Derives (.level 15) (hs ++ .leftParen :: ts) (.call callee us) by
    obtain ⟨ts, hlexes, hcall⟩ := hinner
    have hne : ∃ d more, [',', ' '].intercalate css ++ [')'] = d :: more :=
      List.exists_cons_of_ne_nil (by simp)
    obtain ⟨d, more, he⟩ := hne
    have hopen := Lexes.cons (show token? ['('] = some .leftParen by decide) hlexes
      ⟨d, more, he, punctuation_apart (by decide) d⟩
    exact ⟨⟨_, hheader.append hopen ⟨'(', _, rfl, by decide⟩, hcall⟩, c, _, rfl, hc⟩
  cases harguments with
  | nil =>
    refine ⟨[.rightParen], Lexes.single (by decide) fun d _ => punctuation_apart (by decide) d, ?_⟩
    simpa using hderives.emptyCall
  | @cons ds u css us hfirst hmore =>
    obtain ⟨⟨ts, hlexes, hargument⟩, -⟩ := hfirst
    obtain ⟨more, hmoreLexes, hrest⟩ := moreArguments_read hmore stops
    refine ⟨ts ++ more, ?_, ?_⟩
    · rw [intercalate_cons_eq, List.append_assoc]
      exact hlexes.append hmoreLexes (moreArguments_head css)
    · simpa using hrest _ _ _ (hderives.firstArgument hargument)

namespace SpellsCallee

theorem of_spells {cs : List Char} {t : Tree} (h : Spells 15 closers cs t) : SpellsCallee cs t := by
  obtain ⟨⟨ts, hlexes, hderives⟩, hhead⟩ := h
  exact ⟨⟨ts, hlexes, hderives.header⟩, hhead⟩

theorem isWord_of_isTypeKeyword {text : String} (h : isTypeKeyword text = true) :
    isWord text.toList = true := by
  have hall : ∀ text ∈ scalarTypes ++ vectorTypes ++ matrixTypes ++ resourceTypes ++ shadowTypes,
      isWord text.toList = true := by decide +kernel
  exact hall text (List.contains_iff_mem.1 h)

theorem type {text : String} (h : isIdentifier text = true ∨ isTypeKeyword text = true) :
    SpellsCallee text.toList (.name text) := by
  rcases h with h | h
  · exact of_spells (((Spells.name h).weaken (by omega) le_rfl).mono (by simp [closers]))
  · have hword := isWord_of_isTypeKeyword h
    exact ⟨⟨_, (word_lexes hword).mono (List.subset_cons_self _ _), (Derives.type h).typeHeader⟩, word_head hword⟩

theorem arrayType {text size : String} (h : isIdentifier text = true ∨ isTypeKeyword text = true)
    (hsize : number.rmatch size.toList = true) :
    SpellsCallee (text.toList ++ '[' :: (size.toList ++ [']'])) (.index (.name text) (.literal size)) := by
  have hconstant : Spells 16 closers size.toList (.literal size) := by
    have hspells : Spells 16 closers size.toList (.literal (String.ofList size.toList)) :=
      Spells.constant (by rw [isConstant, hsize, Bool.true_or])
    rwa [String.ofList_toList] at hspells
  rcases h with h | h
  · exact of_spells (((Spells.name h).weaken (by omega) le_rfl).index (hconstant.weaken (by omega) le_rfl) _)
  · have hword := isWord_of_isTypeKeyword h
    obtain ⟨c, rest, he, hc⟩ := word_head hword
    obtain ⟨⟨ts, hsizeLexes, hderives⟩, d, more, hd, -⟩ := hconstant
    have hbrackets := enclosed_lexes (by decide) (by decide) (show token? ['['] = some .leftBracket by decide)
      (show token? [']'] = some .rightBracket by decide) hsizeLexes (by simp [hd]) closers
    have hall := (word_lexes hword).append hbrackets ⟨'[', _, rfl, by decide⟩
    have htype := (Derives.type h).arrayType (hderives.weaken (m := 2) (by omega) le_rfl)
    exact ⟨⟨_, hall, by simpa using htype.typeHeader⟩, c, _, by rw [he]; rfl, hc⟩

end SpellsCallee

end GlslCompiler.Grammar

import GlslCompiler.Proofs.Expression.Inversion
import GlslCompiler.Proofs.Expression.Numbers

/-!
# Tokens of a text and of its parts

The tokens of an expression's text are those of its parts with the operator between them, whatever texts the parts
are. At a blank, a bracket or a comma this is so because no token reaches over one. A prefix operator may join with
what it stands before, and a number may reach over the point before a member: these two seams have lemmas of their
own, which say that a text with the right tree has no such token.
-/

namespace GlslCompiler.Grammar

/-! ### Blanks and punctuation -/

theorem tokensAfter_blank (cs : List Char) : tokensAfter 0 (' ' :: cs) = tokensAfter 0 cs := by
  obtain ⟨-, hread⟩ | ⟨token, n, -, -, htoken, -⟩ := tokensAfter_cons ' ' cs
  · exact hread
  · exact absurd (not_blank_of_token? htoken) (by decide)

theorem tokensAfter_punctuation {p : Char} {token : Token} (hp : p ∈ ['(', ')', '[', ']', ','])
    (htoken : token? [p] = some token) (cs ds : List Char) :
    tokensAfter 0 (cs ++ p :: ds) = tokensAfter 0 cs ++ token :: tokensAfter 0 ds := by
  have hdelimiters : ['(', ')', '[', ']', ','] ⊆ delimiters := by decide
  rw [tokensAfter_delimiter (hdelimiters hp)]
  exact congrArg _ (tokensAfter_token htoken fun c _ => punctuation_apart hp c)

theorem tokensAfter_comma (cs ds : List Char) :
    tokensAfter 0 (cs ++ ',' :: ' ' :: ds) = tokensAfter 0 cs ++ Token.comma :: tokensAfter 0 ds := by
  rw [tokensAfter_punctuation (by decide) (show token? [','] = some .comma by decide), tokensAfter_blank]

theorem tokensAfter_parens (cs : List Char) :
    tokensAfter 0 ('(' :: cs ++ [')']) = Token.leftParen :: tokensAfter 0 cs ++ [Token.rightParen] := by
  rw [tokensAfter_punctuation (by decide) (show token? [')'] = some .rightParen by decide)]
  exact congrArg (· ++ _) (tokensAfter_punctuation (by decide) (show token? ['('] = some .leftParen by decide) [] cs)

/-- An operator between blanks. -/
theorem tokensAfter_spaced {w : List Char} {token : Token} (hw : token? w = some token) (cs ds : List Char) :
    tokensAfter 0 (cs ++ ' ' :: (w ++ ' ' :: ds)) = tokensAfter 0 cs ++ token :: tokensAfter 0 ds := by
  have hne : w ≠ [] := by
    rintro rfl
    rw [token?_nil] at hw
    cases hw
  have hapart : ∀ c ∈ (' ' :: ds).head?, Apart w c := by
    intro c hc
    cases hc
    exact apart_of_closer hne (by decide)
  rw [tokensAfter_delimiter (by decide), tokensAfter_blank, tokensAfter_token hw hapart, tokensAfter_blank]

theorem tokensAfter_index (cs ds : List Char) :
    tokensAfter 0 (cs ++ '[' :: (ds ++ [']'])) =
      tokensAfter 0 cs ++ Token.leftBracket :: tokensAfter 0 ds ++ [Token.rightBracket] := by
  rw [tokensAfter_punctuation (by decide) (show token? ['['] = some .leftBracket by decide),
    tokensAfter_punctuation (by decide) (show token? [']'] = some .rightBracket by decide), List.append_assoc]
  rfl

theorem tokensAfter_conditional (cs ds us : List Char) :
    tokensAfter 0 (cs ++ ' ' :: '?' :: ' ' :: (ds ++ ' ' :: ':' :: ' ' :: us)) =
      tokensAfter 0 cs ++ Token.question :: tokensAfter 0 ds ++ Token.colon :: tokensAfter 0 us := by
  have hquestion := tokensAfter_spaced (show token? ['?'] = some .question by decide) cs (ds ++ ' ' :: ':' :: ' ' :: us)
  have hcolon := tokensAfter_spaced (show token? [':'] = some .colon by decide) ds us
  calc tokensAfter 0 (cs ++ ' ' :: '?' :: ' ' :: (ds ++ ' ' :: ':' :: ' ' :: us))
    _ = tokensAfter 0 cs ++ Token.question :: tokensAfter 0 (ds ++ ' ' :: ':' :: ' ' :: us) := hquestion
    _ = tokensAfter 0 cs ++ Token.question :: (tokensAfter 0 ds ++ Token.colon :: tokensAfter 0 us) :=
      congrArg (fun ts => tokensAfter 0 cs ++ Token.question :: ts) hcolon
    _ = tokensAfter 0 cs ++ Token.question :: tokensAfter 0 ds ++ Token.colon :: tokensAfter 0 us := by simp

/-! ### Parentheses -/

def charParen? (c : Char) : Option Bool :=
  if c = '(' then some true else if c = ')' then some false else none

theorem charParen?_eq_none {c : Char} (h : c ∉ ['(', ')']) : charParen? c = none := by
  simp only [List.mem_cons, List.not_mem_nil, or_false, not_or] at h
  rw [charParen?, if_neg h.1, if_neg h.2]

theorem plain_of_isWord {cs : List Char} (h : isWord cs = true) : ∀ c ∈ cs, c ∉ ['(', ')'] := by
  have hchars : ∀ c ∈ ['(', ')'], isWordChar c = false := forall_mem_of_all (by decide)
  intro c hc hparen
  have hword := isWordChar_of_isWord h c hc
  rw [hchars c hparen] at hword
  cases hword

theorem plain_of_number {cs : List Char} (h : number.rmatch cs = true) : ∀ c ∈ cs, c ∉ ['(', ')'] := by
  have hletters : ∀ c ∈ ['(', ')'], c ∉ letters number := forall_mem_of_all (by decide)
  rw [RegularExpression.rmatch_iff_matches'] at h
  exact fun c hc hparen => hletters c hparen (mem_letters_of_matches number h c hc)

theorem parens_of_plain {cs : List Char} (h : ∀ c ∈ cs, c ∉ ['(', ')']) : cs.filterMap charParen? = [] :=
  List.filterMap_eq_nil_iff.2 fun c hc => charParen?_eq_none (h c hc)

theorem parens_of_token? {w : List Char} {token : Token} (h : token? w = some token) :
    w.filterMap charParen? = token.paren?.toList := by
  rw [token?] at h
  split at h
  · rename_i hword
    cases h
    exact parens_of_plain (plain_of_isWord hword)
  · split at h
    · rename_i hnumber
      cases h
      exact parens_of_plain (plain_of_number hnumber)
    · have hsymbols : ∀ s ∈ symbols, s.1.toList.filterMap charParen? = s.2.paren?.toList := by decide
      have hsymbol := hsymbols _ (mem_symbols_of_lookup h)
      rwa [String.toList_ofList] at hsymbol

/-- The parentheses of a text are tokens, and are not part of any other. -/
theorem parens_tokensAfter (cs : List Char) : parens (tokensAfter 0 cs) = cs.filterMap charParen? := by
  induction cs using tokensAfter_induct with
  | nil => rfl
  | skip c cs _ hread ih =>
    -- A parenthesis is always read.
    have hc : c ∉ ['(', ')'] := by
      intro hc
      have htokens : ∀ p ∈ ['(', ')'], p ∈ ['(', ')', '[', ']', ','] ∧ ∃ token, token? [p] = some token := by
        simp [show token? ['('] = some .leftParen by decide, show token? [')'] = some .rightParen by decide]
      obtain ⟨hpunctuation, token, htoken⟩ := htokens c hc
      have hparen := tokensAfter_punctuation hpunctuation htoken [] cs
      exact List.cons_ne_self _ _ (hparen.symm.trans hread)
    rw [hread, ih, List.filterMap_cons, charParen?_eq_none hc]
  | read c cs token k _ _ htoken hread ih =>
    have hcs : c :: cs = c :: cs.take k ++ cs.drop k := by rw [List.cons_append, List.take_append_drop]
    rw [hread, hcs, List.filterMap_append, parens_of_token? htoken, ← ih, parens, List.filterMap_cons]
    cases token.paren? <;> rfl

/-! ### Prefix operators -/

theorem tokensAfter_prefixOperator {operator : String} (hoperator : isPrefixOperator operator = true) {cs : List Char}
    (h : ∀ c ∈ cs.head?, c ∉ successors operator.toList) :
    tokensAfter 0 (operator.toList ++ cs) = Token.operator operator :: tokensAfter 0 cs := by
  have hall : ∀ operator ∈ ["++", "--", "+", "-", "!", "~"], beginsSymbol operator.toList = true := by decide
  have hbegins := hall operator (List.contains_iff_mem.1 hoperator)
  exact tokensAfter_token (token?_prefixOperator hoperator) fun c hc => symbol_apart hbegins (h c hc)

/-- A prefix operator before a character that it joins with is read as a longer operator. -/
theorem tokensAfter_joined {operator : String} (hoperator : isPrefixOperator operator = true) {c : Char}
    (hc : c ∈ successors operator.toList) (cs : List Char) :
    ∃ joined, joined ≠ operator ∧
      tokensAfter 0 (operator.toList ++ c :: cs) = Token.operator joined :: tokensAfter 0 cs := by
  have hall : ∀ operator ∈ ["++", "--", "+", "-", "!", "~"], ∀ c ∈ successors operator.toList,
      String.ofList (operator.toList ++ [c]) ≠ operator ∧
      token? (operator.toList ++ [c]) = some (Token.operator (String.ofList (operator.toList ++ [c]))) ∧
      beginsSymbol (operator.toList ++ [c]) = true ∧ successors (operator.toList ++ [c]) = [] := by
    have hchecked : (["++", "--", "+", "-", "!", "~"].all fun operator => (successors operator.toList).all fun c =>
        decide (String.ofList (operator.toList ++ [c]) ≠ operator ∧
          token? (operator.toList ++ [c]) = some (Token.operator (String.ofList (operator.toList ++ [c]))) ∧
          beginsSymbol (operator.toList ++ [c]) = true ∧ successors (operator.toList ++ [c]) = [])) = true := by
      decide
    simpa using hchecked
  obtain ⟨hne, htoken, hbegins, hnone⟩ := hall operator (List.contains_iff_mem.1 hoperator) c hc
  refine ⟨_, hne, ?_⟩
  rw [List.append_cons]
  exact tokensAfter_token htoken fun d _ => symbol_apart hbegins (by simp [hnone])

/-- Read as a prefix operator on an operand, the operator does not join with the operand. -/
theorem Derives.of_prefixOperator {operator : String} (hoperator : isPrefixOperator operator = true)
    {cs : List Char} {m : Tree}
    (h : Derives (.level 0) (tokensAfter 0 (operator.toList ++ cs)) (.unary operator m)) :
    (∀ c ∈ cs.head?, c ∉ successors operator.toList) ∧ Derives (.level 14) (tokensAfter 0 cs) m := by
  have happart : ∀ c ∈ cs.head?, c ∉ successors operator.toList := by
    intro c hc hjoins
    obtain ⟨rest, rfl⟩ := List.head?_eq_some_iff.1 hc
    obtain ⟨joined, hne, hread⟩ := tokensAfter_joined hoperator hjoins rest
    rw [hread] at h
    exact hne h.of_unary.1
  rw [tokensAfter_prefixOperator hoperator happart] at h
  exact ⟨happart, h.of_unary.2⟩

/-! ### Members -/

/-- What is read at the beginning of a text is read there as well if the text ends behind it. -/
theorem longest?_of_append {cs rest : List Char} (h : ∀ read ∈ longest? (cs ++ rest), read.2 ≤ cs.length) :
    longest? cs = longest? (cs ++ rest) := by
  have hwithin : ∀ n, (∀ read ∈ longestWithin (cs ++ rest) (cs.length + n), read.2 ≤ cs.length) →
      longestWithin cs cs.length = longestWithin (cs ++ rest) (cs.length + n) := by
    intro n
    induction n with
    | zero => exact fun _ => (longestWithin_append_of_le cs rest le_rfl).symm
    | succ n ih =>
      intro h
      rw [← Nat.add_assoc, longestWithin] at h ⊢
      cases htoken : token? ((cs ++ rest).take (cs.length + n + 1)) with
      | none =>
        rw [htoken] at h
        exact ih h
      | some token =>
        rw [htoken] at h
        have hle : cs.length + n + 1 ≤ cs.length := h _ rfl
        omega
  rw [longest?, longest?, List.length_append] at *
  exact hwithin _ h

theorem number_of_point {c : Char} {front behind : List Char} {token : Token}
    (h : token? (c :: front ++ '.' :: behind) = some token) : ∃ text, token = .number text := by
  rw [token?, if_neg (by rw [isWord_eq_false (List.cons_ne_nil c front) (by decide)]; decide)] at h
  split at h
  · cases h
    exact ⟨_, rfl⟩
  · have hsymbols : ∀ s ∈ symbols, '.' ∉ s.1.toList.tail := by decide
    have htail := hsymbols _ (mem_symbols_of_lookup h)
    rw [String.toList_ofList] at htail
    exact absurd (by simp) htail

/-- Words and numbers are all that is read in a text of their characters. -/
theorem plain_of_wordChars {cs : List Char} (h : ∀ c ∈ cs, isWordChar c = true) :
    ∀ token ∈ tokensAfter 0 cs, token.paren? = none ∧ token ≠ .dot := by
  induction cs using tokensAfter_induct with
  | nil => exact fun token htoken => absurd htoken List.not_mem_nil
  | skip c cs _ hread ih =>
    rw [hread]
    exact ih (List.forall_mem_cons.1 h).2
  | read c cs token k _ _ htoken hread ih =>
    obtain ⟨hc, hcs⟩ := List.forall_mem_cons.1 h
    rw [hread]
    refine List.forall_mem_cons.2 ⟨?_, ih fun d hd => hcs d (List.mem_of_mem_drop hd)⟩
    rw [token?] at htoken
    split at htoken
    · cases htoken
      exact ⟨rfl, by simp⟩
    · split at htoken
      · cases htoken
        exact ⟨rfl, by simp⟩
      · have hsymbols : ∀ s ∈ symbols, (s.1.toList.head?.all fun c => !isWordChar c) = true := by decide
        have hhead := hsymbols _ (mem_symbols_of_lookup htoken)
        rw [String.toList_ofList] at hhead
        simp [hc] at hhead

/-- The tokens of a text with a member behind it, unless a number reaches over the point. -/
theorem tokensAfter_member {w : List Char} (hw : isWord w = true) (cs : List Char) :
    tokensAfter 0 (cs ++ '.' :: w) = tokensAfter 0 cs ++ [Token.dot, Token.word (String.ofList w)] ∨
    ∃ front text rest, tokensAfter 0 (cs ++ '.' :: w) = front ++ Token.number text :: rest ∧
      ∀ token ∈ rest, token.paren? = none ∧ token ≠ .dot := by
  induction hn : cs.length using Nat.strong_induction_on generalizing cs with
  | _ n ih =>
    cases cs with
    | nil =>
      obtain ⟨c, rest, rfl, hc⟩ := isWord_cons hw
      have hdot : tokensAfter 0 (['.'] ++ c :: rest) = Token.dot :: tokensAfter 0 (c :: rest) := by
        refine tokensAfter_token (by decide) fun d hd => ?_
        cases hd
        exact dot_apart hc
      have hword := tokensAfter_token (token?_of_isWord hw)
        (show ∀ d ∈ ([] : List Char).head?, Apart (c :: rest) d by simp)
      rw [List.append_nil] at hword
      refine .inl ?_
      rw [List.nil_append]
      exact hdot.trans (congrArg _ hword)
    | cons c cs =>
      obtain ⟨hnone, hread⟩ | ⟨token, k, hk, hsome, htoken, hread⟩ := tokensAfter_cons c (cs ++ '.' :: w)
      · have hsame : longest? (c :: cs) = longest? (c :: (cs ++ '.' :: w)) := by
          refine longest?_of_append fun read hmem => ?_
          rw [List.cons_append, hnone] at hmem
          cases hmem
        have hskip : tokensAfter 0 (c :: cs) = tokensAfter 0 cs := by rw [tokensAfter, hsame, hnone]
        rw [List.cons_append, hread, hskip]
        exact ih cs.length (by simp [← hn]) cs rfl
      · rw [List.cons_append, hread]
        rcases le_or_gt k cs.length with hshort | hlong
        · have hsame : longest? (c :: cs) = longest? (c :: (cs ++ '.' :: w)) := by
            refine longest?_of_append fun read hmem => ?_
            rw [List.cons_append, hsome] at hmem
            cases hmem
            exact Nat.succ_le_succ hshort
          have hfirst : tokensAfter 0 (c :: cs) = token :: tokensAfter 0 (cs.drop k) := by
            rw [tokensAfter, hsame, hsome, ← tokensAfter_eq_drop]
            rfl
          have hlength : (cs.drop k).length < n := by
            rw [← hn, List.length_drop, List.length_cons]
            omega
          rw [List.drop_append_of_le_length hshort, hfirst]
          rcases ih _ hlength (cs.drop k) rfl with hparts | ⟨front, text, rest, hparts, hplain⟩
          · exact .inl (by rw [hparts, List.cons_append])
          · exact .inr ⟨token :: front, text, rest, by rw [hparts, List.cons_append], hplain⟩
        · -- The token reaches over the point.
          obtain ⟨j, rfl⟩ := Nat.exists_eq_add_of_lt hlong
          rw [Nat.add_assoc, List.take_length_add_append, List.take_succ_cons, ← List.cons_append] at htoken
          obtain ⟨text, rfl⟩ := number_of_point htoken
          refine .inr ⟨[], text, _, rfl, plain_of_wordChars fun d hd => ?_⟩
          rw [Nat.add_assoc, List.drop_length_add_append, List.drop_succ_cons] at hd
          exact isWordChar_of_isWord hw d (List.mem_of_mem_drop hd)

/-- Read as a member of a base, a text is the text of the base with the member behind it. -/
theorem Derives.of_member {text : String} (htext : isWord text.toList = true) {cs : List Char} {m : Tree}
    (h : Derives (.level 0) (tokensAfter 0 (cs ++ '.' :: text.toList)) (.member m text)) :
    Derives (.level 15) (tokensAfter 0 cs) m := by
  rcases tokensAfter_member htext cs with hread | ⟨front, number, rest, hread, hplain⟩
  · rw [hread, List.append_cons] at h
    obtain ⟨bs, hts, hbase⟩ := (h.bare (unenclosed_concat (by simp) _)).of_member
    rw [← List.append_cons] at hts
    obtain ⟨rfl, -⟩ := List.append_inj' hts rfl
    exact hbase
  · rw [hread] at h
    have hopen : Unenclosed (front ++ Token.number number :: rest) := by
      rcases List.eq_nil_or_concat rest with rfl | ⟨rest, last, rfl⟩
      · exact unenclosed_concat (by simp) front
      · rw [List.concat_eq_append, ← List.cons_append, ← List.append_assoc]
        refine unenclosed_concat ?_ _
        rintro rfl
        cases (hplain .rightParen (by simp)).1
    -- The number would have to stand before the point of the member.
    obtain ⟨bs, hts, -⟩ := (h.bare hopen).of_member
    rcases List.append_eq_append_iff.1 hts with ⟨more, -, hmore⟩ | ⟨more, -, hmore⟩
    · cases more with
      | nil => cases hmore
      | cons z more =>
        obtain ⟨-, rfl⟩ := List.cons.inj hmore
        exact absurd rfl (hplain .dot (by simp)).2
    · have hmem : Token.number number ∈ [Token.dot, Token.word text] := by simp [hmore]
      simp at hmem

/-! ### Calls -/

theorem tokensAfter_of_lexes {stops cs : List Char} {ts : List Token} (h : Lexes stops cs ts) :
    tokensAfter 0 cs = ts := by
  have hread := h [] (by simp)
  rw [List.append_nil] at hread
  exact tokensAfter_of_lexAfter (by simpa [lexAfter] using hread)

theorem Spells.derives {n : Nat} {stops cs : List Char} {t : Tree} (h : Spells n stops cs t) :
    Derives (.level n) (tokensAfter 0 cs) t := by
  obtain ⟨⟨ts, hlexes, hderives⟩, -⟩ := h
  rwa [tokensAfter_of_lexes hlexes]

/-- The tokens before the next argument, whatever follows. -/
theorem beforeArgument_of_spells {callee : Tree} {cs : List Char} {css : List (List Char)} {args us : List Tree}
    {front : List Token} (hcs : ∀ ds, tokensAfter 0 (cs ++ ds) = front ++ tokensAfter 0 ds)
    (hfront : BeforeArgument callee args front) (h : List.Forall₂ (Spells 1 closers) css us) :
    ∃ front', BeforeArgument callee (args ++ us) front' ∧
      ∀ ds, tokensAfter 0 (cs ++ (css.flatMap (· ++ [',', ' ']) ++ ds)) = front' ++ tokensAfter 0 ds := by
  induction h generalizing cs args front with
  | nil => exact ⟨front, by rwa [List.append_nil], hcs⟩
  | @cons as u css us ha _ ih =>
    have hnext : ∀ ds, tokensAfter 0 (cs ++ (as ++ [',', ' ']) ++ ds) =
        front ++ tokensAfter 0 as ++ [Token.comma] ++ tokensAfter 0 ds := by
      intro ds
      rw [List.append_assoc, hcs, List.append_assoc]
      show front ++ tokensAfter 0 (as ++ ',' :: ' ' :: ds) = _
      rw [tokensAfter_comma, ← List.append_assoc, List.append_cons]
    obtain ⟨front', hfront', hread⟩ := ih hnext (hfront.push ha.derives)
    refine ⟨front', by rwa [List.append_cons], fun ds => ?_⟩
    rw [List.flatMap_cons, List.append_assoc (as ++ [',', ' ']), ← List.append_assoc cs]
    exact hread ds

theorem tokensAfter_moreArguments (cs : List Char) (css : List (List Char)) :
    tokensAfter 0 (cs ++ (css.flatMap ([',', ' '] ++ ·) ++ [')'])) =
      tokensAfter 0 cs ++ (css.map (tokensAfter 0)).flatMap (Token.comma :: ·) ++ [Token.rightParen] := by
  induction css generalizing cs with
  | nil =>
    rw [List.map_nil, List.flatMap_nil, List.flatMap_nil, List.append_nil]
    exact tokensAfter_punctuation (by decide) (by decide) cs []
  | cons as css ih =>
    rw [List.flatMap_cons, List.map_cons, List.flatMap_cons, List.append_assoc, List.append_assoc]
    show tokensAfter 0 (cs ++ ',' :: ' ' :: (as ++ _)) = _
    rw [tokensAfter_comma, ih]
    simp

/-- Read as a call, a text with known arguments around one part has an argument in that part. -/
theorem Derives.of_argument {callee m : Tree} {cs ms : List Char} {css dss : List (List Char)} {us vs : List Tree}
    (hcallee : SpellsCallee cs callee) (hpath : callee.isCallee = true) (hplain : ∀ c ∈ cs, c ∉ ['(', ')'])
    (hbefore : List.Forall₂ (Spells 1 closers) css us) (hafter : List.Forall₂ (Spells 1 closers) dss vs)
    (h : Derives (.level 0) (tokensAfter 0 (cs ++ ['('] ++ (css.flatMap (· ++ [',', ' ']) ++
      (ms ++ (dss.flatMap ([',', ' '] ++ ·) ++ [')']))))) (.call callee (us ++ m :: vs))) :
    Derives (.level 1) (tokensAfter 0 ms) m := by
  obtain ⟨⟨hs, hlexes, hheader⟩, -⟩ := hcallee
  have hread : ∀ ds, tokensAfter 0 (cs ++ ['('] ++ ds) = hs ++ [Token.leftParen] ++ tokensAfter 0 ds := by
    intro ds
    rw [← tokensAfter_of_lexes hlexes, ← List.append_cons, ← List.append_cons]
    exact tokensAfter_punctuation (by decide) (by decide) cs ds
  have hnone : ∀ token ∈ hs, token.paren? = none := by
    rw [← List.filterMap_eq_nil_iff, ← tokensAfter_of_lexes hlexes]
    exact (parens_tokensAfter cs).trans (parens_of_plain hplain)
  obtain ⟨front, hfront, hfrontRead⟩ := beforeArgument_of_spells hread (.first hnone hheader) hbefore
  have hmore : List.Forall₂ (Derives (.level 1)) (dss.map (tokensAfter 0)) vs := by
    rw [List.forall₂_map_left_iff]
    exact hafter.imp fun _ _ => Spells.derives
  rw [hfrontRead, tokensAfter_moreArguments, ← List.append_assoc, ← List.append_assoc] at h
  exact hfront.argument hpath hmore h

end GlslCompiler.Grammar

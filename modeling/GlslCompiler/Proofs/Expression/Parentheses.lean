import GlslCompiler.Proofs.Expression.Operands

/-!
# Parentheses that can be left out

A pair of parentheses around an operand is needed if the text without it is no longer read as the same expression.
Every pair that is written is needed but for two kinds: a call or a constructor that has a member or a subscript, and
an operand behind a prefix operator that begins with a sign, unless the operator is that same sign. The main result
says so for the pairs at any depth.

That a pair is needed is shown from the outside in. If the text without the pair were read as the expression, then
what stands in the place of each operand on the way down would be read as that operand, and at last the operand itself
would be read, without parentheses, on a level of the grammar that is above its own. That a pair is not needed is
shown by building the text of the whole around the operand that is left bare.
-/

namespace GlslCompiler

open Grammar

def Expr.isCall : Expr → Bool
  | .call _ _ => true
  | .construct _ _ => true
  | _ => false

/-- Expressions with an operator that binds less tightly than a call. -/
def Expr.isOperation : Expr → Bool
  | .binary _ _ _ => true
  | .unary _ _ => true
  | .conditional _ _ _ => true
  | _ => false

/-- Whether the parentheses around an operand can be left out: it is a call, or the operator in front does not join
with the sign that it begins with. -/
def Place.spares : Place → Expr → String → Bool
  | .operand _, x, _ => x.isCall
  | .prefixed operator, x, inner => decide (Precedence.unary ≤ x.precedence) && operator.toList != inner.toList.take 1

/-- What a place can be in a well spelled expression. -/
def Place.Fits (x : Expr) : Place → Prop
  | .operand asked => asked ≤ 14 ∨ asked = Precedence.member ∧ x.isLiteral = false
  | .prefixed operator => isPrefixOperator operator = true

namespace Expr

/-- The operand `x`, which is somewhere in the expression and has the text `inner`, is put in parentheses by its
place. The text of the expression goes on before and behind them. -/
inductive Parenthesised (tier : Tier) : Expr → Place → Expr → String → String → String → Prop where
  | here {e x : Expr} {place : Place} {before inner after : String} (operand : HasOperand tier e before place x after)
      (written : x.text tier = .ok inner) (enclosed : place.encloses x inner = true) :
      Parenthesised tier e place x before inner after
  | inside {e y x : Expr} {outer place : Place} {before front inner back after text : String}
      (operand : HasOperand tier e before outer y after) (written : y.text tier = .ok text)
      (deeper : Parenthesised tier y place x front inner back) :
      Parenthesised tier e place x (before ++ (outer.opening y text ++ front)) inner
        (back ++ outer.closing y text ++ after)

variable {tier : Tier} {e x : Expr} {before inner after text : String} {place : Place}

theorem Parenthesised.text_eq (h : Parenthesised tier e place x before inner after) :
    e.text tier = .ok (before ++ "(" ++ inner ++ ")" ++ after) := by
  induction h with
  | here operand written enclosed =>
    rw [operand.text_eq written, Place.opening, Place.closing, if_pos enclosed, if_pos enclosed]
    simp only [String.append_assoc]
  | inside operand written _ ih =>
    rw [operand.text_eq written]
    obtain rfl := Except.ok.inj (written.symm.trans ih)
    simp only [String.append_assoc]

/-! ### Operands of well spelled expressions -/

theorem HasOperand.wellSpelled (h : HasOperand tier e before place x after) (he : WellSpelled tier e) :
    WellSpelled tier x := by
  cases he with
  | literal | name => cases h
  | binary _ hl hr =>
    cases h with
    | left => exact hl
    | right => exact hr
  | unary _ ho =>
    cases h
    exact ho
  | call _ ha | construct _ _ ha =>
    cases h
    exact ha x (by simp)
  | swizzle _ _ hb | field _ _ hb =>
    cases h
    exact hb
  | index _ hb hp =>
    cases h with
    | indexed => exact hb
    | position => exact hp
  | conditional hc ht hf =>
    cases h with
    | condition => exact hc
    | whenTrue => exact ht
    | whenFalse => exact hf

theorem HasOperand.fits (h : HasOperand tier e before place x after) (he : WellSpelled tier e) : place.Fits x := by
  cases he with
  | literal | name => cases h
  | binary hoperator =>
    obtain ⟨n, hn⟩ := Option.isSome_iff_exists.1 hoperator
    have hbounds := binaryLevel?_bounds hn
    have hasked := operatorPrecedence_eq hn
    cases h
    all_goals exact .inl (by omega)
  | unary hoperator =>
    cases h
    exact hoperator
  | call | construct =>
    cases h
    exact .inl (by omega)
  | swizzle _ hliteral | field _ hliteral =>
    cases h
    exact .inr ⟨rfl, hliteral⟩
  | index hliteral =>
    cases h with
    | indexed => exact .inr ⟨rfl, hliteral⟩
    | position => exact .inl (by omega)
  | conditional =>
    cases h
    all_goals exact .inl (by decide)

/-! ### Pairs that are needed -/

/-- What is put in parentheses for its precedence is a call or has an operator. -/
theorem WellSpelled.isCall_or_isOperation (hx : WellSpelled tier x) (h : x.precedence < Precedence.member) :
    x.isCall = true ∨ x.isOperation = true := by
  cases hx with
  | literal | name => exact absurd (show Precedence.atom < Precedence.member from h) (by decide)
  | swizzle | field | index => exact absurd (show Precedence.member < Precedence.member from h) (by decide)
  | call | construct => exact .inl rfl
  | _ => exact .inr rfl

/-- The level of an operation is its precedence. -/
theorem WellSpelled.level_eq (hx : WellSpelled tier x) (h : x.isOperation = true) :
    (x.level : Int) = x.precedence ∧ x.level ≤ 14 := by
  cases hx with
  | @binary operator left right hoperator =>
    obtain ⟨n, hn⟩ := Option.isSome_iff_exists.1 hoperator
    have hbounds := binaryLevel?_bounds hn
    rw [level, hn, Option.getD_some]
    exact ⟨(operatorPrecedence_eq hn).symm, by omega⟩
  | unary => exact ⟨rfl, le_rfl⟩
  | conditional => exact ⟨rfl, show 2 ≤ 14 by omega⟩
  | _ => cases h

/-- The text of an operation is read on no level above the operation's own. -/
theorem WellSpelled.level_of_derives (hx : WellSpelled tier x) (h : x.isOperation = true)
    (written : x.text tier = .ok text) {k : Nat}
    (hread : Derives (.level k) (tokensAfter 0 text.toList) (x.tree tier)) :
    k ≤ x.level := by
  have hwhole := (hx.spells written).derives
  cases hx with
  | @binary operator left right hoperator hl hr =>
    obtain ⟨n, hn⟩ := Option.isSome_iff_exists.1 hoperator
    have hbounds := binaryLevel?_bounds hn
    obtain ⟨leftText, hleftText, hleft⟩ := hl.spelled.operand hl (show 0 < n by omega) (by omega)
    obtain ⟨rightText, hrightText, -⟩ := hr.spelled
    rw [Expr.text, hleftText, hrightText] at written
    cases written
    rw [Expr.tree, operatorPrecedence_eq hn] at hread
    have hparts : Derives (.level k) (tokensAfter 0 (group n left.precedence leftText).toList ++
        Token.operator operator :: tokensAfter 0 (group (n + 1) right.precedence rightText).toList)
        (.binary operator (left.tree tier) (right.tree tier)) := by
      rw [← tokensAfter_spaced (token?_binary hn)]
      simpa using hread
    have hopen := hparts.bare (unenclosed_of_left hleft.derives.ne_nil (by simp) hleft.derives.nests)
    obtain ⟨k', ls, rs, hle, hk, -⟩ := hopen.of_binary
    rwa [level, hk, Option.getD_some]
  | @unary operator operand hoperator ho =>
    obtain ⟨operandText, hoperandText, -⟩ := ho.spelled
    rw [Expr.text, hoperandText] at written
    cases written
    rw [Expr.tree, String.toList_append] at hread hwhole
    obtain ⟨hapart, -⟩ := Derives.of_prefixOperator hoperator (hwhole.weaken (Nat.zero_le 14) (by omega))
    rw [tokensAfter_prefixOperator hoperator hapart] at hread
    obtain ⟨ts, hle, -⟩ := (hread.bare (unenclosed_cons (by simp) _)).of_unary
    exact hle
  | @conditional condition whenTrue whenFalse hc ht hf =>
    obtain ⟨conditionText, hconditionText, hcondition⟩ := hc.spelled.operand hc (show 0 < 3 by omega) (by omega)
    obtain ⟨trueText, htrueText, -⟩ := ht.spelled
    obtain ⟨falseText, hfalseText, -⟩ := hf.spelled
    rw [Expr.text, hconditionText, htrueText, hfalseText] at written
    cases written
    rw [Expr.tree] at hread
    have hparts : Derives (.level k) (tokensAfter 0 (group 3 condition.precedence conditionText).toList ++
        Token.question :: tokensAfter 0 trueText.toList ++
        Token.colon :: tokensAfter 0 (group 2 whenFalse.precedence falseText).toList)
        (.conditional (condition.tree tier) (whenTrue.tree tier) (whenFalse.tree tier)) := by
      rw [← tokensAfter_conditional]
      simpa [Precedence.conditional] using hread
    obtain ⟨cs, ls, rs, hle, -⟩ := (hparts.bare (unenclosed_conditional hcondition.derives)).of_conditional
    exact hle
  | _ => cases h

theorem precedence_of_isCall (x : Expr) (h : x.isCall = true) : x.precedence = Precedence.call := by
  cases x with
  | call | construct => rfl
  | _ => cases h

theorem beginsWithSign_iff : beginsWithSign text = true ↔ ∃ c ∈ ['+', '-'], text.toList.head? = some c := by
  rw [beginsWithSign, Option.any_eq_true]
  simp [and_comm]

/-- Left bare, an operand that has parentheses of no spare kind is not read as itself in its place. -/
theorem HasOperand.not_derives (h : HasOperand tier e before place x after) (he : WellSpelled tier e)
    (written : x.text tier = .ok inner) (enclosed : place.encloses x inner = true)
    (needed : place.spares x inner = false) :
    ¬ Derives (.level 0) (tokensAfter 0 (before ++ inner ++ after).toList) (e.tree tier) := by
  intro hread
  have hx := h.wellSpelled he
  have hplace := h.derives he hread
  have hfits := h.fits he
  -- An operation would be read above its level.
  have htight : x.isOperation = true → (place.level : Int) ≤ x.precedence ∧ x.precedence ≤ 14 := by
    intro hoperation
    obtain ⟨hlevel, hle⟩ := hx.level_eq hoperation
    have hread := hx.level_of_derives hoperation written hplace
    omega
  cases place with
  | operand asked =>
    obtain ⟨-, hasked⟩ := of_decide_eq_true enclosed
    have hmember : asked ≤ Precedence.member := by
      rcases hfits with hle | ⟨heq, -⟩
      · exact hle.trans (by decide)
      · exact heq.le
    rcases hx.isCall_or_isOperation (hasked.trans_le hmember) with hcall | hoperation
    · exact absurd (hcall.symm.trans needed) (by decide)
    · obtain ⟨hlevel, hle⟩ := htight hoperation
      rw [Place.level] at hlevel
      omega
  | prefixed operator =>
    by_cases hlow : x.precedence < Precedence.unary
    · rcases hx.isCall_or_isOperation (hlow.trans (by decide)) with hcall | hoperation
      · exact absurd (x.precedence_of_isCall hcall ▸ hlow) (by decide)
      · exact absurd hlow (not_lt.2 (htight hoperation).1)
    -- The sign joins with the operator.
    · have hsign : beginsWithSign inner = true := by simpa [Place.encloses, hlow] using enclosed
      obtain ⟨c, hc, hhead⟩ := beginsWithSign_iff.1 hsign
      obtain ⟨rest, hrest⟩ := List.head?_eq_some_iff.1 hhead
      have hoperator : operator.toList = [c] := by
        simpa [Place.spares, not_lt.1 hlow, hrest] using needed
      have hjoins : ∀ c ∈ ['+', '-'], c ∈ successors [c] := forall_mem_of_all (by decide)
      cases h
      rw [Expr.tree, String.append_empty, String.toList_append] at hread
      obtain ⟨hapart, -⟩ := Derives.of_prefixOperator hfits hread
      refine hapart c hhead ?_
      rw [hoperator]
      exact hjoins c hc

/-- The parentheses in the text of an expression are nested. -/
theorem WellSpelled.nests (he : WellSpelled tier e) (written : e.text tier = .ok text) :
    Nests 0 (text.toList.filterMap charParen?) := by
  rw [← parens_tokensAfter]
  exact (he.spells written).derives.nests

theorem Parenthesised.wellSpelled (h : Parenthesised tier e place x before inner after) (he : WellSpelled tier e) :
    WellSpelled tier x ∧ x.text tier = .ok inner := by
  induction h with
  | here operand written => exact ⟨operand.wellSpelled he, written⟩
  | inside operand _ _ ih => exact ih (operand.wellSpelled he)

/-- Without a pair the other parentheses are still nested. -/
theorem Parenthesised.nests (h : Parenthesised tier e place x before inner after) (he : WellSpelled tier e) :
    Nests 0 ((before ++ inner ++ after).toList.filterMap charParen?) := by
  obtain ⟨hx, written⟩ := h.wellSpelled he
  have hwhole := he.nests h.text_eq
  have hdropped : Nests 0 (before.toList.filterMap charParen? ++
      (inner.toList.filterMap charParen? ++ after.toList.filterMap charParen?)) :=
    Nests.drop_pair (by simpa [charParen?] using hwhole) (hx.nests written)
  simpa using hdropped

/-- What a place encloses in parentheses, or does not, is read as it is without them. -/
theorem derives_bare {y : Expr} {t : Tree} {n : Nat} (hn : n ≤ 16) {middle : String}
    (hnests : Nests 0 (middle.toList.filterMap charParen?))
    (h : Derives (.level n) (tokensAfter 0 (place.opening y text ++ middle ++ place.closing y text).toList) t) :
    Derives (.level 0) (tokensAfter 0 middle.toList) t := by
  unfold Place.opening Place.closing at h
  split at h
  · have hparens : ("(" ++ middle ++ ")").toList = '(' :: middle.toList ++ [')'] := by simp
    rw [hparens, tokensAfter_parens] at h
    rw [← parens_tokensAfter] at hnests
    exact h.enclosed hnests
  · rw [String.empty_append, String.append_empty] at h
    exact h.weaken (Nat.zero_le n) hn

theorem Parenthesised.not_derives (h : Parenthesised tier e place x before inner after) (he : WellSpelled tier e)
    (needed : place.spares x inner = false) :
    ¬ Derives (.level 0) (tokensAfter 0 (before ++ inner ++ after).toList) (e.tree tier) := by
  induction h with
  | here operand written enclosed => exact operand.not_derives he written enclosed needed
  | @inside e y x outer place before front inner back after text operand written deeper ih =>
    intro hread
    have hy := operand.wellSpelled he
    have hplace : Derives (.level outer.level) (tokensAfter 0
        (outer.opening y text ++ (front ++ inner ++ back) ++ outer.closing y text).toList) (y.tree tier) :=
      operand.derives he (by simpa [String.append_assoc] using hread)
    exact ih hy needed (derives_bare outer.level_le (deeper.nests hy) hplace)

/-! ### Pairs that are not needed -/

theorem WellSpelled.takes_parens (hx : WellSpelled tier x) (hfits : place.Fits x)
    (h : Spells x.level x.stops text.toList (x.tree tier)) : place.Takes tier x ("(" ++ text ++ ")") := by
  have hparens : ∀ stops, Spells 16 stops ("(" ++ text ++ ")").toList (x.tree tier) := by
    intro stops
    simpa using ((h.mono x.closers_subset_stops).weaken (Nat.zero_le _) hx.level_bounds.2).parens stops
  cases place with
  | operand asked => exact (hparens _).weaken (Place.operand asked).level_le le_rfl
  | prefixed operator =>
    refine ⟨(hparens closers).weaken (by omega) le_rfl, fun c hc => ?_⟩
    have hhead : c = '(' := by simpa [eq_comm] using hc
    subst hhead
    exact prefix_apart hfits (by decide)

/-- A text can stand where the operand stands bare, if it begins with no sign that the operand does not begin with. -/
theorem WellSpelled.takes_bare (hx : WellSpelled tier x) (hfits : place.Fits x) {middle : String}
    (enclosed : place.encloses x text = false) (hsign : beginsWithSign middle = true → beginsWithSign text = true)
    (h : Spells x.level x.stops middle.toList (x.tree tier)) : place.Takes tier x middle := by
  have hbounds := hx.level_bounds
  cases place with
  | operand asked =>
    have hasked : ¬ (0 < asked ∧ x.precedence < asked) := of_decide_eq_false enclosed
    rcases hfits with hle | ⟨rfl, hliteral⟩
    · have hlevel : (Place.operand asked).level ≤ x.level := by
        rw [Place.level]
        by_cases hpos : 0 < asked
        · have hbelow : asked.toNat ≤ x.level := hx.le_level (by omega) (by omega)
          omega
        · omega
      rw [Place.Takes, if_neg (by rw [Precedence.member]; omega)]
      exact (h.mono x.closers_subset_stops).weaken hlevel hbounds.2
    · have hbase := hx.spells_base hliteral h
      rwa [group, if_neg hasked] at hbase
  | prefixed operator =>
    obtain ⟨hlow, hplain⟩ : ¬ x.precedence < Precedence.unary ∧ beginsWithSign text = false := by
      simpa [Place.encloses] using enclosed
    have hlevel : 14 ≤ x.level := hx.le_level le_rfl (not_lt.1 hlow)
    refine ⟨(h.mono x.closers_subset_stops).weaken hlevel hbounds.2, fun c hc => prefix_apart hfits ?_⟩
    have hequals : c ≠ '=' := by
      obtain ⟨d, rest, hd, hne⟩ := h.head
      rw [hd] at hc
      cases hc
      exact hne
    have hsigns : c ∉ ['+', '-'] := by
      intro hmem
      rw [hsign (beginsWithSign_iff.2 ⟨c, hmem, hc⟩)] at hplain
      cases hplain
    simpa [hequals] using hsigns

/-- A prefix operator joins with no sign but itself. -/
theorem sign_apart {operator : String} {sign : Char} (hoperator : isPrefixOperator operator = true)
    (hsign : sign ∈ ['+', '-'])
    (h : operator.toList ≠ [sign]) : Apart operator.toList sign := by
  have hall : ∀ sign ∈ ['+', '-'], ∀ operator ∈ ["++", "--", "+", "-", "!", "~"],
      beginsSymbol operator.toList = true ∧ (operator.toList ≠ [sign] → sign ∉ successors operator.toList) :=
    forall_mem_of_all (by decide)
  obtain ⟨hbegins, hsuccessors⟩ := hall sign hsign operator (List.contains_iff_mem.1 hoperator)
  exact symbol_apart hbegins (hsuccessors h)

theorem WellSpelled.takes_spared (hx : WellSpelled tier x) (hfits : place.Fits x) (written : x.text tier = .ok inner)
    (enclosed : place.encloses x inner = true) (hspares : place.spares x inner = true) : place.Takes tier x inner := by
  have h := hx.spells written
  cases place with
  | operand asked =>
    obtain ⟨-, hasked⟩ := of_decide_eq_true enclosed
    -- Only a base asks for more than the precedence of a call.
    cases hx with
    | call | construct =>
      rcases hfits with hle | ⟨rfl, -⟩
      · exact absurd (show Precedence.call < 14 from hasked.trans_le hle) (by decide)
      · exact h
    | _ => cases hspares
  | prefixed operator =>
    obtain ⟨hhigh, hdiffers⟩ : Precedence.unary ≤ x.precedence ∧ operator.toList ≠ inner.toList.take 1 := by
      simpa [Place.spares] using hspares
    have hsign : beginsWithSign inner = true := by simpa [Place.encloses, not_lt.2 hhigh] using enclosed
    obtain ⟨sign, hmem, hhead⟩ := beginsWithSign_iff.1 hsign
    obtain ⟨rest, hrest⟩ := List.head?_eq_some_iff.1 hhead
    have hlevel : 14 ≤ x.level := hx.le_level le_rfl hhigh
    refine ⟨(h.mono x.closers_subset_stops).weaken hlevel hx.level_bounds.2, fun c hc => ?_⟩
    obtain rfl := Option.some.inj (hhead.symm.trans hc)
    refine sign_apart hfits hmem ?_
    simpa [hrest] using hdiffers

theorem beginsWithSign_append {front : String} (h : front ≠ "") (rest : String) :
    beginsWithSign (front ++ rest) = beginsWithSign front := by
  obtain ⟨c, cs, hfront⟩ := List.exists_cons_of_ne_nil (mt String.toList_eq_nil_iff.1 h)
  simp [beginsWithSign, hfront]

theorem not_beginsWithSign_word {word : String} (h : isWord word.toList = true) (rest : String) :
    beginsWithSign (word ++ rest) = false := by
  have hsigns : ∀ c ∈ ['+', '-'], isWordStart c = false := forall_mem_of_all (by decide)
  obtain ⟨c, cs, hword, hc⟩ := isWord_cons h
  refine Bool.eq_false_iff.2 fun hsign => ?_
  obtain ⟨sign, hmem, hhead⟩ := beginsWithSign_iff.1 hsign
  rw [String.toList_append, hword] at hhead
  obtain rfl := Option.some.inj hhead
  rw [hsigns c hmem] at hc
  cases hc

/-- The text of a call begins with a word. -/
theorem WellSpelled.call_begins (hx : WellSpelled tier x) (hcall : x.isCall = true) (written : x.text tier = .ok inner)
    (rest : String) : beginsWithSign (inner ++ rest) = false := by
  cases hx with
  | call hfunction ha =>
    obtain ⟨texts, htexts, -⟩ := Spelled.arguments (fun a hmem => (ha a hmem).spelled) ha
    rw [Expr.text, htexts] at written
    cases written
    simp only [String.append_assoc]
    exact not_beginsWithSign_word (isWord_of_isIdentifier hfunction) _
  | construct htype hsize ha =>
    obtain ⟨texts, htexts, -⟩ := Spelled.arguments (fun a hmem => (ha a hmem).spelled) ha
    rw [Expr.text, htexts] at written
    cases written
    have hword := htype.elim isWord_of_isIdentifier SpellsCallee.isWord_of_isTypeKeyword
    unfold GlslType.text
    split
    all_goals
      simp only [String.append_assoc]
      exact not_beginsWithSign_word hword _
  | _ => cases hcall

theorem Parenthesised.before_ne (h : Parenthesised tier e place x before inner after) (he : WellSpelled tier e)
    {operator : String} (hplace : place = .prefixed operator) : before ≠ "" := by
  induction h with
  | here operand written enclosed =>
    subst hplace
    cases operand
    cases he with
    | unary hoperator =>
      rintro rfl
      cases hoperator
  | inside operand _ _ ih =>
    have hfront := ih (operand.wellSpelled he) hplace
    simp [hfront]

theorem Parenthesised.beginsWithSign_of_bare (h : Parenthesised tier e place x before inner after)
    (he : WellSpelled tier e)
    (hspares : place.spares x inner = true) (hsign : beginsWithSign (before ++ inner ++ after) = true) :
    beginsWithSign (before ++ "(" ++ inner ++ ")" ++ after) = true := by
  by_cases hbefore : before = ""
  -- Nothing stands before the operand, so it is no operand of a prefix operator but a call.
  · obtain ⟨hx, written⟩ := h.wellSpelled he
    subst hbefore
    cases place with
    | operand asked =>
      rw [String.empty_append, hx.call_begins hspares written] at hsign
      cases hsign
    | prefixed operator => exact absurd rfl (h.before_ne he rfl)
  · simp only [String.append_assoc] at hsign ⊢
    rw [beginsWithSign_append hbefore] at hsign ⊢
    exact hsign

theorem Parenthesised.spells (h : Parenthesised tier e place x before inner after) (he : WellSpelled tier e)
    (hspares : place.spares x inner = true) :
    Spells e.level e.stops (before ++ inner ++ after).toList (e.tree tier) := by
  induction h with
  | here operand written enclosed =>
    exact operand.spells he ((operand.wellSpelled he).takes_spared (operand.fits he) written enclosed hspares)
  | @inside e y x outer place before front inner back after text operand written deeper ih =>
    have hy := operand.wellSpelled he
    have hfits := operand.fits he
    have hmiddle := ih hy hspares
    have htakes : outer.Takes tier y (outer.opening y text ++ (front ++ inner ++ back) ++ outer.closing y text) := by
      unfold Place.opening Place.closing
      split
      · exact hy.takes_parens hfits hmiddle
      · rename_i hbare
        rw [String.empty_append, String.append_empty]
        refine hy.takes_bare hfits (Bool.eq_false_iff.2 hbare) (fun hsign => ?_) hmiddle
        obtain rfl := Except.ok.inj (written.symm.trans deeper.text_eq)
        exact deeper.beginsWithSign_of_bare hy hspares hsign
    simpa [String.append_assoc] using operand.spells he htakes

theorem Parenthesised.parse_bare (h : Parenthesised tier e place x before inner after) (he : WellSpelled tier e)
    (hspares : place.spares x inner = true) :
    ∃ tokens, lex (before ++ inner ++ after) = some tokens ∧ parse tokens = some (e.tree tier) := by
  have hspells := (h.spells he hspares).weaken (Nat.zero_le _) he.level_bounds.2
  obtain ⟨⟨tokens, hlexes, hderives⟩, -⟩ := hspells
  exact ⟨tokens, lex_eq_of_lexes hlexes, parse_eq_some_iff.2 hderives⟩

/-- A pair of parentheses around an operand is in the text, and without it the text is read as the same expression
just if the place of the operand spares it. -/
theorem drop_parentheses_iff (he : WellSpelled tier e) (h : Parenthesised tier e place x before inner after) :
    e.text tier = .ok (before ++ "(" ++ inner ++ ")" ++ after) ∧
      ((∃ tokens, lex (before ++ inner ++ after) = some tokens ∧ parse tokens = some (e.tree tier)) ↔
        place.spares x inner = true) := by
  refine ⟨h.text_eq, ?_, h.parse_bare he⟩
  rintro ⟨tokens, hlex, hparse⟩
  by_contra hneeded
  refine h.not_derives he (Bool.eq_false_iff.2 hneeded) ?_
  rw [tokensAfter_of_lexAfter hlex]
  exact parse_eq_some_iff.1 hparse

theorem drop_parentheses_iff_sum :
    let sum := Expr.binary "+" (.name "a") (.name "b")
    let e := Expr.unary "-" (.swizzle sum "x")
    WellSpelled .es2 e ∧ Parenthesised .es2 e (.operand Precedence.member) sum "-" "a + b" ".x" ∧
      e.text .es2 = .ok "-(a + b).x" ∧
      ¬ ∃ tokens, lex "-a + b.x" = some tokens ∧ parse tokens = some (e.tree .es2) := by
  intro sum e
  have hsum : WellSpelled .es2 sum := .binary (by decide) (.name (by decide)) (.name (by decide))
  have he : WellSpelled .es2 e := .unary (by decide) (.swizzle (by decide) rfl hsum)
  have hpair : Parenthesised .es2 e (.operand Precedence.member) sum "-" "a + b" ".x" :=
    .inside (.prefixed "-" (.swizzle sum "x")) (show (Expr.swizzle sum "x").text .es2 = .ok "(a + b).x" by rfl)
      (.here (.swizzled sum "x") (by rfl) (by decide))
  obtain ⟨htext, hiff⟩ := drop_parentheses_iff he hpair
  exact ⟨he, hpair, htext, fun hread => absurd (hiff.1 hread) (by decide)⟩

/-- A call with a member has parentheses that it does not need. -/
theorem call_parentheses_spared :
    let call := Expr.call "f" [.name "x"]
    let e := Expr.swizzle call "xyz"
    WellSpelled .desktop e ∧ Parenthesised .desktop e (.operand Precedence.member) call "" "f(x)" ".xyz" ∧
      e.text .desktop = .ok "(f(x)).xyz" ∧
      ∃ tokens, lex "f(x).xyz" = some tokens ∧ parse tokens = some (e.tree .desktop) := by
  intro call e
  have hx : WellSpelled .desktop (.name "x") := .name (by decide)
  have hcall : WellSpelled .desktop call := .call (by decide) (by simpa using hx)
  have he : WellSpelled .desktop e := .swizzle (by decide) rfl hcall
  have hpair : Parenthesised .desktop e (.operand Precedence.member) call "" "f(x)" ".xyz" :=
    .here (.swizzled call "xyz") (by rfl) (by decide)
  exact ⟨he, hpair, hpair.text_eq, hpair.parse_bare he rfl⟩

end Expr

end GlslCompiler

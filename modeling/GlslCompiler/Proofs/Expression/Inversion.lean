import GlslCompiler.Proofs.Expression.Grammar

/-!
# Phrases taken apart

Where the tokens of an expression are known but for one operand, the operand is a phrase of the level that its place
has in the grammar. The lemmas at the end say so, one for each place.

Parentheses are what makes this more than a case analysis: a derivation may put them around any part. Two facts hold
them off. Apart from parentheses a phrase has as many tokens as its tree says, `Tree.weight`, so that two ways of
taking a list of tokens apart agree. And parentheses are nested in every phrase, so that the first and the last token
belong together just if what stands between them is nested too.
-/

namespace GlslCompiler.Grammar

/-! ### Nesting -/

/-- Whether a token is a parenthesis, and then whether it opens. -/
def Token.paren? : Token → Option Bool
  | .leftParen => some true
  | .rightParen => some false
  | _ => none

def parens (ts : List Token) : List Bool := ts.filterMap Token.paren?

/-- The depth behind parentheses that begin at a depth; `none` where one is closed that was not opened. -/
def nesting : Nat → List Bool → Option Nat
  | n, [] => some n
  | n, true :: ps => nesting (n + 1) ps
  | 0, false :: _ => none
  | n + 1, false :: ps => nesting n ps

/-- The parentheses leave `n` open, and close none that was open before. -/
def Nests (n : Nat) (ps : List Bool) : Prop := ∀ k, nesting k ps = some (k + n)

theorem nesting_append (n : Nat) (ps qs : List Bool) :
    nesting n (ps ++ qs) = (nesting n ps).bind fun m => nesting m qs := by
  induction ps generalizing n with
  | nil => rfl
  | cons p ps ih =>
    match n, p with
    | n, true => exact ih (n + 1)
    | 0, false => rfl
    | n + 1, false => exact ih n

theorem nesting_add {n m : Nat} {ps : List Bool} (h : nesting n ps = some m) (k : Nat) :
    nesting (n + k) ps = some (m + k) := by
  induction ps generalizing n with
  | nil =>
    cases h
    rfl
  | cons p ps ih =>
    match n, p with
    | n, true =>
      rw [nesting, Nat.add_right_comm]
      exact ih h
    | 0, false => cases h
    | n + 1, false =>
      rw [Nat.add_right_comm, nesting]
      exact ih h

namespace Nests

variable {a b : Nat} {ps qs rs : List Bool}

theorem nil : Nests 0 [] := fun _ => rfl

theorem opening : Nests 1 [true] := fun _ => rfl

theorem append (hps : Nests a ps) (hqs : Nests b qs) : Nests (a + b) (ps ++ qs) := by
  intro k
  rw [nesting_append, hps k, Option.bind_some, hqs, Nat.add_assoc]

theorem closing (h : Nests (a + 1) ps) : Nests a (ps ++ [false]) := by
  intro k
  rw [nesting_append, h k]
  rfl

/-- What begins like nested parentheses closes nothing that it has not opened. -/
theorem exists_of_append (h : Nests a (ps ++ qs)) (k : Nat) :
    ∃ m, nesting k ps = some m ∧ nesting m qs = some (k + a) := by
  have hk := h k
  rw [nesting_append] at hk
  exact Option.bind_eq_some_iff.1 hk

theorem not_closing_before (hps : Nests 0 (true :: ps)) (hinner : Nests 0 (ps ++ qs)) : False := by
  obtain ⟨m, hm, -⟩ := hinner.exists_of_append 0
  have hzero : nesting 1 ps = some 0 := hps 0
  rw [nesting_add hm 1] at hzero
  cases hzero

theorem not_opening_behind (hqs : Nests 0 (qs ++ [false])) (hinner : Nests 0 (ps ++ qs)) : False := by
  obtain ⟨m, -, hm⟩ := hinner.exists_of_append 0
  obtain ⟨k, hk, hclose⟩ := hqs.exists_of_append 0
  have hzero := nesting_add hk m
  rw [Nat.zero_add, hm] at hzero
  have hone : 1 ≤ k := by
    cases k with
    | zero => cases hclose
    | succ k => omega
  have hsum := Option.some.inj hzero
  omega

/-- A pair can be left out if what it encloses is nested. -/
theorem drop_pair (h : Nests 0 (ps ++ true :: (qs ++ false :: rs))) (hqs : Nests 0 qs) :
    Nests 0 (ps ++ (qs ++ rs)) := by
  intro k
  obtain ⟨m, hm, hrest⟩ := h.exists_of_append k
  rw [nesting, nesting_append, hqs (m + 1)] at hrest
  rw [nesting_append, hm, Option.bind_some, nesting_append, hqs m]
  exact hrest

end Nests

theorem parens_append (ts us : List Token) : parens (ts ++ us) = parens ts ++ parens us := List.filterMap_append

theorem Nests.plain {token : Token} (h : token.paren? = none) : Nests 0 (parens [token]) := by
  rw [parens, List.filterMap_cons, h]
  exact Nests.nil

theorem Nests.cons_plain {a : Nat} {token : Token} {ts : List Token} (htoken : token.paren? = none)
    (h : Nests a (parens ts)) : Nests a (parens (token :: ts)) := by
  rwa [parens, List.filterMap_cons, htoken]

theorem Nests.concat_plain {a : Nat} {token : Token} {ts : List Token} (htoken : token.paren? = none)
    (h : Nests a (parens ts)) : Nests a (parens (ts ++ [token])) := by
  rw [parens_append]
  exact h.append (plain htoken)

/-- How many parentheses a phrase leaves open. -/
def Phrase.opened : Phrase → Nat
  | .header => 1
  | .arguments => 1
  | _ => 0

theorem Derives.nests {p : Phrase} {ts : List Token} {t : Tree} (h : Derives p ts t) : Nests p.opened (parens ts) := by
  -- Two phrases with a token between them that is no parenthesis.
  have hjoin : ∀ {a : Nat} {token : Token} {ts us : List Token}, token.paren? = none → Nests a (parens ts) →
      Nests 0 (parens us) → Nests a (parens (ts ++ token :: us)) := by
    intro a token ts us htoken hts hus
    rw [parens_append]
    exact hts.append (hus.cons_plain htoken)
  induction h with
  | number | boolean | name | type => exact Nests.nil
  | group _ ih =>
    rw [List.cons_append, parens, List.filterMap_cons, List.filterMap_append]
    exact (Nests.opening.append ih).closing
  | index _ _ base position => exact (hjoin rfl base position).concat_plain rfl
  | member _ _ base => exact hjoin rfl base (Nests.plain rfl)
  | suffix _ _ base => exact base.concat_plain rfl
  | arrayType _ _ type size => exact (hjoin rfl type size).concat_plain rfl
  | header _ ih =>
    rw [parens_append]
    exact ih.append Nests.opening
  | typeHeader _ ih =>
    rw [parens_append]
    exact ih.append Nests.opening
  | firstArgument _ _ header argument =>
    rw [parens_append]
    exact header.append argument
  | nextArgument _ _ before argument => exact hjoin rfl before argument
  | emptyCall _ ih =>
    rw [parens_append]
    exact ih.closing
  | call _ ih =>
    rw [parens_append]
    exact ih.closing
  | unary _ _ operand => exact operand.cons_plain rfl
  | binary _ _ _ left right => exact hjoin rfl left right
  | conditional _ _ _ condition whenTrue whenFalse => exact hjoin rfl (hjoin rfl condition whenTrue) whenFalse
  | assign _ _ _ target value => exact hjoin rfl target value
  | sequence _ _ left right => exact hjoin rfl left right
  | lift _ _ ih => exact ih

/-! ### Weights -/

/-- The number of tokens without the parentheses. -/
def weight (ts : List Token) : Nat := ts.countP fun token => token.paren?.isNone

mutual

/-- The number of tokens in every phrase with the tree, without the parentheses. -/
def Tree.weight : Tree → Nat
  | .literal _ => 1
  | .name _ => 1
  | .unary _ operand => operand.weight + 1
  | .suffix _ operand => operand.weight + 1
  | .binary _ left right => left.weight + right.weight + 1
  | .conditional condition whenTrue whenFalse => condition.weight + whenTrue.weight + whenFalse.weight + 2
  | .assign _ target value => target.weight + value.weight + 1
  | .sequence left right => left.weight + right.weight + 1
  -- One comma less than there are arguments.
  | .call callee arguments => callee.weight + (Tree.weights arguments - 1)
  | .member base _ => base.weight + 2
  | .index base position => base.weight + position.weight + 2

/-- The weights of arguments with a comma for each. -/
def Tree.weights : List Tree → Nat
  | [] => 0
  | t :: rest => t.weight + 1 + Tree.weights rest

end

theorem weight_append (ts us : List Token) : weight (ts ++ us) = weight ts + weight us := List.countP_append

theorem weight_cons {token : Token} (h : token.paren? = none) (ts : List Token) :
    weight (token :: ts) = weight ts + 1 := by
  rw [weight, List.countP_cons_of_pos (by rw [h]; rfl), weight]

theorem weight_plain {token : Token} (h : token.paren? = none) : weight [token] = 1 := weight_cons h []

theorem Tree.weights_append (ts us : List Tree) : Tree.weights (ts ++ us) = Tree.weights ts + Tree.weights us := by
  induction ts with
  | nil => rw [List.nil_append, Tree.weights, Nat.zero_add]
  | cons t ts ih =>
    rw [List.cons_append, Tree.weights, Tree.weights, ih]
    omega

theorem Derives.ne_nil {p : Phrase} {ts : List Token} {t : Tree} (h : Derives p ts t) : ts ≠ [] := by
  induction h with
  | firstArgument _ _ header => simp [header]
  | lift _ _ ih => exact ih
  | _ => simp

theorem Derives.arguments_ne_nil {ts : List Token} {t : Tree} {args : List Tree}
    (h : Derives .arguments ts (.call t args)) : args ≠ [] := by
  cases h with
  | firstArgument => simp
  | nextArgument => simp

theorem Derives.weight {p : Phrase} {ts : List Token} {t : Tree} (h : Derives p ts t) :
    Grammar.weight ts = t.weight := by
  have hjoin : ∀ {token : Token} (ts us : List Token), token.paren? = none →
      Grammar.weight (ts ++ token :: us) = Grammar.weight ts + Grammar.weight us + 1 := by
    intro token ts us htoken
    rw [weight_append, weight_cons htoken, Nat.add_assoc]
  have hclose : ∀ ts : List Token, Grammar.weight (ts ++ [Token.rightParen]) = Grammar.weight ts := (weight_append · _)
  have hopen : ∀ ts : List Token, Grammar.weight (ts ++ [Token.leftParen]) = Grammar.weight ts := (weight_append · _)
  induction h with
  | number | boolean | name | type => rw [Tree.weight, weight_plain rfl]
  | group _ ih =>
    rw [hclose, ← ih]
    rfl
  | index _ _ base position | arrayType _ _ base position =>
    rw [Tree.weight, weight_append, weight_plain rfl, hjoin _ _ rfl, base, position]
  | member _ _ base => rw [Tree.weight, hjoin _ _ rfl, weight_plain rfl, base]
  | suffix _ _ base => rw [Tree.weight, weight_append, weight_plain rfl, base]
  | header _ ih | typeHeader _ ih => rw [Tree.weight, Tree.weights, hopen, ih, Nat.zero_sub, Nat.add_zero]
  | firstArgument _ _ header argument =>
    rw [weight_append, header, argument]
    simp only [Tree.weight, Tree.weights]
    omega
  | @nextArgument _ _ _ _ args before _ ihBefore argument =>
    obtain ⟨first, rest, rfl⟩ := List.exists_cons_of_ne_nil before.arguments_ne_nil
    rw [hjoin _ _ rfl, ihBefore, argument]
    simp only [Tree.weight, Tree.weights, Tree.weights_append]
    omega
  | emptyCall _ ih | call _ ih => rw [hclose, ih]
  | unary _ _ operand => rw [Tree.weight, weight_cons rfl, operand]
  | binary _ _ _ left right => rw [Tree.weight, hjoin _ _ rfl, left, right]
  | conditional _ _ _ condition whenTrue whenFalse =>
    rw [Tree.weight, hjoin _ _ rfl, hjoin _ _ rfl, condition, whenTrue, whenFalse]
    omega
  | assign _ _ _ target value => rw [Tree.weight, hjoin _ _ rfl, target, value]
  | sequence _ _ left right => rw [Tree.weight, hjoin _ _ rfl, left, right]
  | lift _ _ ih => exact ih

/-- Two ways of taking tokens apart agree if what stands before the two divisions has the same weight. -/
theorem split_eq {ls rs ls' rs' : List Token} {x y : Token} (hx : x.paren? = none) (hy : y.paren? = none)
    (h : ls ++ x :: rs = ls' ++ y :: rs') (hweight : weight ls = weight ls') : ls = ls' ∧ rs = rs' := by
  rcases List.append_eq_append_iff.1 h with ⟨more, rfl, hmore⟩ | ⟨more, rfl, hmore⟩
  · cases more with
    | nil => exact ⟨(List.append_nil ls).symm, (List.cons.inj hmore).2⟩
    | cons z more =>
      obtain ⟨rfl, -⟩ := List.cons.inj hmore
      rw [weight_append, weight_cons hx] at hweight
      omega
  · cases more with
    | nil => exact ⟨List.append_nil ls', (List.cons.inj hmore).2.symm⟩
    | cons z more =>
      obtain ⟨rfl, -⟩ := List.cons.inj hmore
      rw [weight_append, weight_cons hy] at hweight
      omega

theorem split_eq_behind {ls rs ls' rs' : List Token} {x y : Token} (hx : x.paren? = none) (hy : y.paren? = none)
    (h : ls ++ x :: rs = ls' ++ y :: rs') (hweight : weight rs = weight rs') : ls = ls' ∧ rs = rs' := by
  refine split_eq hx hy h ?_
  have htotal := congrArg weight h
  rw [weight_append, weight_append, weight_cons hx, weight_cons hy] at htotal
  omega

/-! ### Phrases without parentheses around them -/

/-- Tokens that are not a nested text in parentheses. -/
def Unenclosed (ts : List Token) : Prop :=
  ∀ us, Nests 0 (parens us) → ts ≠ Token.leftParen :: us ++ [Token.rightParen]

theorem unenclosed_cons {token : Token} (h : token ≠ .leftParen) (ts : List Token) : Unenclosed (token :: ts) := by
  intro us _ he
  exact h (List.cons.inj he).1

theorem unenclosed_concat {token : Token} (h : token ≠ .rightParen) (ts : List Token) : Unenclosed (ts ++ [token]) := by
  intro us _ he
  exact h (List.singleton_inj.1 (List.append_inj' he rfl).2)

/-- Parentheses around two parts are the first token of the one and the last token of the other. -/
theorem append_eq_enclosed {ls rs us : List Token} (hls : ls ≠ []) (hrs : rs ≠ [])
    (h : ls ++ rs = Token.leftParen :: us ++ [Token.rightParen]) :
    ∃ ls' rs', ls = Token.leftParen :: ls' ∧ rs = rs' ++ [Token.rightParen] ∧ us = ls' ++ rs' := by
  obtain ⟨first, ls, rfl⟩ := List.exists_cons_of_ne_nil hls
  obtain ⟨rs, last, rfl⟩ := (List.eq_nil_or_concat rs).resolve_left hrs
  rw [List.concat_eq_append, List.cons_append, List.cons_append, ← List.append_assoc] at h
  obtain ⟨rfl, htail⟩ := List.cons.inj h
  obtain ⟨rfl, hlast⟩ := List.append_inj' htail rfl
  obtain rfl := List.singleton_inj.1 hlast
  exact ⟨ls, rs, rfl, List.concat_eq_append, rfl⟩

theorem unenclosed_of_left {ls rs : List Token} (hls : ls ≠ []) (hrs : rs ≠ []) (h : Nests 0 (parens ls)) :
    Unenclosed (ls ++ rs) := by
  intro us hus he
  obtain ⟨ls, rs, rfl, rfl, rfl⟩ := append_eq_enclosed hls hrs he
  rw [parens_append] at hus
  exact Nests.not_closing_before h hus

theorem unenclosed_of_right {ls rs : List Token} (hls : ls ≠ []) (hrs : rs ≠ []) (h : Nests 0 (parens rs)) :
    Unenclosed (ls ++ rs) := by
  intro us hus he
  obtain ⟨ls, rs, rfl, rfl, rfl⟩ := append_eq_enclosed hls hrs he
  rw [parens_append] at hus h
  exact Nests.not_opening_behind h hus

/-- A derivation of a level by one of the rules that build the tree. -/
inductive Bare : Nat → List Token → Tree → Prop where
  | number {n : Nat} (text : String) : Bare n [Token.number text] (.literal text)
  | boolean {n : Nat} {text : String} : Bare n [Token.word text] (.literal text)
  | name {n : Nat} {text : String} : Bare n [Token.word text] (.name text)
  | index {n : Nat} {ts us : List Token} {t u : Tree} (hn : n ≤ 15) (base : Derives (.level 15) ts t)
      (position : Derives (.level 0) us u) : Bare n (ts ++ Token.leftBracket :: us ++ [Token.rightBracket]) (.index t u)
  | member {n : Nat} {ts : List Token} {t : Tree} {text : String} (hn : n ≤ 15) (base : Derives (.level 15) ts t) :
      Bare n (ts ++ [Token.dot, Token.word text]) (.member t text)
  | suffix {n : Nat} {ts : List Token} {t : Tree} {operator : String} (hn : n ≤ 15) (base : Derives (.level 15) ts t) :
      Bare n (ts ++ [Token.operator operator]) (.suffix operator t)
  | emptyCall {n : Nat} {ts : List Token} {t : Tree} (hn : n ≤ 15) (h : Derives .header ts t) :
      Bare n (ts ++ [Token.rightParen]) t
  | call {n : Nat} {ts : List Token} {t : Tree} (hn : n ≤ 15) (h : Derives .arguments ts t) :
      Bare n (ts ++ [Token.rightParen]) t
  | unary {n : Nat} {ts : List Token} {t : Tree} {operator : String} (hn : n ≤ 14)
      (operand : Derives (.level 14) ts t) :
      Bare n (Token.operator operator :: ts) (.unary operator t)
  | binary {n k : Nat} {ls rs : List Token} {l r : Tree} {operator : String} (hn : n ≤ k)
      (h : binaryLevel? operator = some k) (left : Derives (.level k) ls l) (right : Derives (.level (k + 1)) rs r) :
      Bare n (ls ++ Token.operator operator :: rs) (.binary operator l r)
  | conditional {n : Nat} {cs ts us : List Token} {c t u : Tree} (hn : n ≤ 2) (condition : Derives (.level 3) cs c)
      (whenTrue : Derives (.level 0) ts t) (whenFalse : Derives (.level 1) us u) :
      Bare n (cs ++ Token.question :: ts ++ Token.colon :: us) (.conditional c t u)
  | assign {n : Nat} {ls rs : List Token} {l r : Tree} {operator : String} (hn : n ≤ 1)
      (target : Derives (.level 14) ls l) :
      Bare n (ls ++ Token.operator operator :: rs) (.assign operator l r)
  | sequence {n : Nat} {ls rs : List Token} {l r : Tree} (hn : n = 0) (left : Derives (.level 0) ls l) :
      Bare n (ls ++ Token.comma :: rs) (.sequence l r)

theorem Bare.lift {n : Nat} {ts : List Token} {t : Tree} (h : Bare (n + 1) ts t) : Bare n ts t := by
  cases h with
  | number => exact .number _
  | boolean => exact .boolean
  | name => exact .name
  | index hn base position => exact .index (by omega) base position
  | member hn base => exact .member (by omega) base
  | suffix hn base => exact .suffix (by omega) base
  | emptyCall hn h => exact .emptyCall (by omega) h
  | call hn h => exact .call (by omega) h
  | unary hn operand => exact .unary (by omega) operand
  | binary hn h left right => exact .binary (by omega) h left right
  | conditional hn condition whenTrue whenFalse => exact .conditional (by omega) condition whenTrue whenFalse
  | assign hn target => exact .assign (by omega) target
  | sequence hn => omega

/-- A phrase of a level is built as its tree says, or it stands in parentheses. -/
theorem Derives.bare_or_group {n : Nat} {ts : List Token} {t : Tree} (h : Derives (.level n) ts t) :
    Bare n ts t ∨ ∃ us, ts = Token.leftParen :: us ++ [Token.rightParen] ∧ Derives (.level 0) us t := by
  generalize hp : Phrase.level n = p at h
  induction h generalizing n with
  | number text => exact .inl (.number text)
  | boolean => exact .inl .boolean
  | name => exact .inl .name
  | group h => exact .inr ⟨_, rfl, h⟩
  | index base position =>
    cases hp
    exact .inl (.index le_rfl base position)
  | member base =>
    cases hp
    exact .inl (.member le_rfl base)
  | suffix base =>
    cases hp
    exact .inl (.suffix le_rfl base)
  | type | arrayType | header | typeHeader | firstArgument | nextArgument => cases hp
  | emptyCall h =>
    cases hp
    exact .inl (.emptyCall le_rfl h)
  | call h =>
    cases hp
    exact .inl (.call le_rfl h)
  | unary _ operand =>
    cases hp
    exact .inl (.unary le_rfl operand)
  | binary h left right =>
    cases hp
    exact .inl (.binary le_rfl h left right)
  | conditional condition whenTrue whenFalse =>
    cases hp
    exact .inl (.conditional le_rfl condition whenTrue whenFalse)
  | assign _ target =>
    cases hp
    exact .inl (.assign le_rfl target)
  | sequence left =>
    cases hp
    exact .inl (.sequence rfl left)
  | lift hn h ih =>
    cases hp
    exact (ih rfl).imp Bare.lift id

theorem Derives.bare {n : Nat} {ts : List Token} {t : Tree} (h : Derives (.level n) ts t) (hts : Unenclosed ts) :
    Bare n ts t := by
  rcases h.bare_or_group with hbare | ⟨us, rfl, hus⟩
  · exact hbare
  · exact absurd rfl (hts us hus.nests)

/-- A call that is not closed begins with its callee. -/
theorem Derives.callee {p : Phrase} {ts : List Token} {t : Tree} (h : Derives p ts t) (hp : p.opened = 1) :
    ∃ hs rest, ts = hs ++ rest ∧ hs ≠ [] ∧ Nests 0 (parens hs) := by
  induction h with
  | header callee => exact ⟨_, _, rfl, callee.ne_nil, callee.nests⟩
  | typeHeader type => exact ⟨_, _, rfl, type.ne_nil, type.nests⟩
  | firstArgument _ _ ih | nextArgument _ _ ih =>
    obtain ⟨hs, rest, rfl, hne, hnests⟩ := ih rfl
    exact ⟨hs, _, List.append_assoc .., hne, hnests⟩
  | _ => cases hp

theorem Bare.unenclosed {n : Nat} {ts : List Token} {t : Tree} (h : Bare n ts t) : Unenclosed ts := by
  have hcall : ∀ {p : Phrase} {ts : List Token}, Derives p ts t → p.opened = 1 →
      Unenclosed (ts ++ [Token.rightParen]) := by
    intro p ts h hp
    obtain ⟨hs, rest, rfl, hne, hnests⟩ := h.callee hp
    rw [List.append_assoc]
    exact unenclosed_of_left hne (by simp) hnests
  cases h with
  | number | boolean | name | unary => exact unenclosed_cons (by simp) _
  | index | suffix => exact unenclosed_concat (by simp) _
  | member =>
    rw [List.append_cons]
    exact unenclosed_concat (by simp) _
  | emptyCall _ h => exact hcall h rfl
  | call _ h => exact hcall h rfl
  | binary _ _ left => exact unenclosed_of_left left.ne_nil (by simp) left.nests
  | conditional _ condition =>
    rw [List.append_assoc]
    exact unenclosed_of_left condition.ne_nil (by simp) condition.nests
  | assign _ target => exact unenclosed_of_left target.ne_nil (by simp) target.nests
  | sequence _ left => exact unenclosed_of_left left.ne_nil (by simp) left.nests

/-- What stands in parentheses is read as what they enclose. -/
theorem Derives.enclosed {n : Nat} {us : List Token} {t : Tree} (hus : Nests 0 (parens us))
    (h : Derives (.level n) (Token.leftParen :: us ++ [Token.rightParen]) t) : Derives (.level 0) us t := by
  rcases h.bare_or_group with hbare | ⟨vs, he, hvs⟩
  · exact absurd rfl (hbare.unenclosed us hus)
  · obtain rfl := (List.append_inj' (List.cons.inj he).2 rfl).1
    exact hvs

namespace Bare

variable {n : Nat} {ts : List Token} {l r : Tree} {operator text : String}

theorem of_name (h : Bare n ts (.name text)) : ts = [Token.word text] := by
  cases h with
  | name => rfl
  | emptyCall _ h | call _ h => cases h

theorem of_unary (h : Bare n ts (.unary operator l)) :
    ∃ us, n ≤ 14 ∧ ts = Token.operator operator :: us ∧ Derives (.level 14) us l := by
  cases h with
  | unary hn operand => exact ⟨_, hn, rfl, operand⟩
  | emptyCall _ h | call _ h => cases h

theorem of_binary (h : Bare n ts (.binary operator l r)) :
    ∃ k ls rs, n ≤ k ∧ binaryLevel? operator = some k ∧ ts = ls ++ Token.operator operator :: rs ∧
      Derives (.level k) ls l ∧ Derives (.level (k + 1)) rs r := by
  cases h with
  | binary hn hk left right => exact ⟨_, _, _, hn, hk, rfl, left, right⟩
  | emptyCall _ h | call _ h => cases h

theorem of_conditional {c : Tree} (h : Bare n ts (.conditional c l r)) :
    ∃ cs ls rs, n ≤ 2 ∧ ts = cs ++ Token.question :: ls ++ Token.colon :: rs ∧
      Derives (.level 3) cs c ∧ Derives (.level 0) ls l ∧ Derives (.level 1) rs r := by
  cases h with
  | conditional hn condition whenTrue whenFalse => exact ⟨_, _, _, hn, rfl, condition, whenTrue, whenFalse⟩
  | emptyCall _ h | call _ h => cases h

theorem of_index (h : Bare n ts (.index l r)) :
    ∃ bs ps, n ≤ 15 ∧ ts = bs ++ Token.leftBracket :: ps ++ [Token.rightBracket] ∧
      Derives (.level 15) bs l ∧ Derives (.level 0) ps r := by
  cases h with
  | index hn base position => exact ⟨_, _, hn, rfl, base, position⟩
  | emptyCall _ h | call _ h => cases h

theorem of_member (h : Bare n ts (.member l text)) :
    ∃ bs, ts = bs ++ [Token.dot, Token.word text] ∧ Derives (.level 15) bs l := by
  cases h with
  | member _ base => exact ⟨_, rfl, base⟩
  | emptyCall _ h | call _ h => cases h

theorem of_call {args : List Tree} (h : Bare n ts (.call l args)) (hargs : args ≠ []) :
    ∃ us, ts = us ++ [Token.rightParen] ∧ Derives .arguments us (.call l args) := by
  cases h with
  | call _ h => exact ⟨_, rfl, h⟩
  | emptyCall _ h =>
    cases h
    all_goals exact absurd rfl hargs

end Bare

/-! ### Operands -/

section

variable {n : Nat} {ms : List Token} {m t u : Tree} {operator : String}

/-- An expression in a place of any level is a conditional or one of the levels above, if the tree is no assignment. -/
theorem Derives.conditional_level {ts : List Token} (h : Derives (.level n) ts t) (hn : n ≤ 2)
    (hassign : ∀ o l r, t ≠ .assign o l r) (hsequence : ∀ l r, t ≠ .sequence l r) : Derives (.level 2) ts t := by
  generalize hp : Phrase.level n = p at h
  induction h generalizing n with
  | conditional condition whenTrue whenFalse => exact .conditional condition whenTrue whenFalse
  | assign => exact absurd rfl (hassign _ _ _)
  | sequence => exact absurd rfl (hsequence _ _)
  | binary hoperator =>
    cases hp
    have hbounds := binaryLevel?_bounds hoperator
    omega
  | @lift ts t k hk h ih =>
    cases hp
    by_cases htwo : k = 2
    · subst htwo
      exact .lift hk h
    · exact ih (by omega) hassign hsequence rfl
  | type | arrayType | header | typeHeader | firstArgument | nextArgument => cases hp
  | _ =>
    cases hp
    omega

theorem Derives.of_unary {first : String} (h : Derives (.level 0) (Token.operator first :: ms) (.unary operator m)) :
    first = operator ∧ Derives (.level 14) ms m := by
  obtain ⟨ts, -, hts, operand⟩ := (h.bare (unenclosed_cons (by simp) ms)).of_unary
  obtain ⟨hfirst, rfl⟩ := List.cons.inj hts
  exact ⟨Token.operator.inj hfirst, operand⟩

theorem Derives.of_binary_left {k : Nat} {rs : List Token} (hoperator : binaryLevel? operator = some k)
    (hright : Derives (.level n) rs t)
    (h : Derives (.level 0) (ms ++ Token.operator operator :: rs) (.binary operator m t)) :
    Derives (.level k) ms m := by
  have hopen : Unenclosed (ms ++ Token.operator operator :: rs) := by
    rw [List.append_cons]
    exact unenclosed_of_right (by simp) hright.ne_nil hright.nests
  obtain ⟨k', ls, rs', -, hk, hts, left, right⟩ := (h.bare hopen).of_binary
  obtain ⟨rfl, -⟩ := split_eq_behind rfl rfl hts (hright.weight.trans right.weight.symm)
  obtain rfl := Option.some.inj (hoperator.symm.trans hk)
  exact left

theorem Derives.of_binary_right {k : Nat} {ls : List Token} (hoperator : binaryLevel? operator = some k)
    (hleft : Derives (.level n) ls t)
    (h : Derives (.level 0) (ls ++ Token.operator operator :: ms) (.binary operator t m)) :
    Derives (.level (k + 1)) ms m := by
  have hopen := unenclosed_of_left hleft.ne_nil (List.cons_ne_nil (.operator operator) ms) hleft.nests
  obtain ⟨k', ls', rs, -, hk, hts, left, right⟩ := (h.bare hopen).of_binary
  obtain ⟨-, rfl⟩ := split_eq rfl rfl hts (hleft.weight.trans left.weight.symm)
  obtain rfl := Option.some.inj (hoperator.symm.trans hk)
  exact right

theorem Derives.of_condition {ts us : List Token} (htrue : Derives (.level 0) ts t) (hfalse : Derives (.level n) us u)
    (h : Derives (.level 0) (ms ++ Token.question :: ts ++ Token.colon :: us) (.conditional m t u)) :
    Derives (.level 3) ms m := by
  have hopen : Unenclosed (ms ++ Token.question :: ts ++ Token.colon :: us) := by
    rw [List.append_cons]
    exact unenclosed_of_right (by simp) hfalse.ne_nil hfalse.nests
  obtain ⟨cs, ts', us', -, hts, condition, whenTrue, whenFalse⟩ := (h.bare hopen).of_conditional
  obtain ⟨hfront, -⟩ := split_eq_behind rfl rfl hts (hfalse.weight.trans whenFalse.weight.symm)
  obtain ⟨rfl, -⟩ := split_eq_behind rfl rfl hfront (htrue.weight.trans whenTrue.weight.symm)
  exact condition

/-- Nothing encloses a conditional whose condition is a phrase. -/
theorem unenclosed_conditional {cs ts us : List Token} (h : Derives (.level n) cs t) :
    Unenclosed (cs ++ Token.question :: ts ++ Token.colon :: us) := by
  rw [List.append_assoc]
  exact unenclosed_of_left h.ne_nil (by simp) h.nests

theorem Derives.of_whenTrue {k : Nat} {cs us : List Token} (hcondition : Derives (.level k) cs t)
    (hfalse : Derives (.level n) us u)
    (h : Derives (.level 0) (cs ++ Token.question :: ms ++ Token.colon :: us) (.conditional t m u)) :
    Derives (.level 0) ms m := by
  obtain ⟨cs', ts, us', -, hts, condition, whenTrue, whenFalse⟩ :=
    (h.bare (unenclosed_conditional hcondition)).of_conditional
  obtain ⟨hfront, -⟩ := split_eq_behind rfl rfl hts (hfalse.weight.trans whenFalse.weight.symm)
  obtain ⟨-, rfl⟩ := split_eq rfl rfl hfront (hcondition.weight.trans condition.weight.symm)
  exact whenTrue

theorem Derives.of_whenFalse {cs ts : List Token} (hcondition : Derives (.level n) cs t)
    (htrue : Derives (.level 0) ts u)
    (h : Derives (.level 0) (cs ++ Token.question :: ts ++ Token.colon :: ms) (.conditional t u m)) :
    Derives (.level 1) ms m := by
  obtain ⟨cs', ts', us, -, hts, condition, whenTrue, whenFalse⟩ :=
    (h.bare (unenclosed_conditional hcondition)).of_conditional
  rw [List.append_assoc, List.append_assoc] at hts
  obtain ⟨-, hbranches⟩ := split_eq rfl rfl hts (hcondition.weight.trans condition.weight.symm)
  obtain ⟨-, rfl⟩ := split_eq rfl rfl hbranches (htrue.weight.trans whenTrue.weight.symm)
  exact whenFalse

theorem Derives.of_index_base {ps : List Token} (hposition : Derives (.level 0) ps t)
    (h : Derives (.level 0) (ms ++ Token.leftBracket :: ps ++ [Token.rightBracket]) (.index m t)) :
    Derives (.level 15) ms m := by
  obtain ⟨bs, ps', -, hts, base, position⟩ := (h.bare (unenclosed_concat (by simp) _)).of_index
  obtain ⟨hfront, -⟩ := List.append_inj' hts rfl
  obtain ⟨rfl, -⟩ := split_eq_behind rfl rfl hfront (hposition.weight.trans position.weight.symm)
  exact base

theorem Derives.of_position {bs : List Token} (hbase : Derives (.level n) bs t)
    (h : Derives (.level 0) (bs ++ Token.leftBracket :: ms ++ [Token.rightBracket]) (.index t m)) :
    Derives (.level 0) ms m := by
  obtain ⟨bs', ps, -, hts, base, position⟩ := (h.bare (unenclosed_concat (by simp) _)).of_index
  obtain ⟨hfront, -⟩ := List.append_inj' hts rfl
  obtain ⟨-, rfl⟩ := split_eq rfl rfl hfront (hbase.weight.trans base.weight.symm)
  exact position

end

/-! ### Arguments -/

section

variable {n : Nat} {xs ms : List Token} {callee m : Tree} {args : List Tree}

theorem Derives.arguments_init {as : List Token} {a : Tree} (ha : Derives (.level n) as a) (hargs : args ≠ [])
    (h : Derives .arguments (xs ++ Token.comma :: as) (.call callee (args ++ [a]))) :
    Derives .arguments xs (.call callee args) := by
  generalize hts : xs ++ Token.comma :: as = ts at h
  generalize hall : args ++ [a] = all at h
  cases h with
  | firstArgument =>
    obtain ⟨rfl, -⟩ := List.append_inj' (show args ++ [a] = [] ++ [_] from hall) rfl
    exact absurd rfl hargs
  | nextArgument before argument =>
    obtain ⟨rfl, hlast⟩ := List.append_inj' hall rfl
    obtain rfl := List.singleton_inj.1 hlast
    obtain ⟨rfl, -⟩ := split_eq_behind rfl rfl hts (ha.weight.trans argument.weight.symm)
    exact before

/-- Arguments behind the first ones can be left out. -/
theorem Derives.arguments_take {ass : List (List Token)} {more : List Tree}
    (hmore : List.Forall₂ (Derives (.level 1)) ass more) (hargs : args ≠ [])
    (h : Derives .arguments (xs ++ ass.flatMap (Token.comma :: ·)) (.call callee (args ++ more))) :
    Derives .arguments xs (.call callee args) := by
  induction hmore generalizing xs args with
  | nil => simpa using h
  | @cons as a ass more ha _ ih =>
    rw [List.flatMap_cons, ← List.append_assoc, List.append_cons args] at h
    exact Derives.arguments_init ha hargs (ih (by simp) h)

theorem Derives.header_eq {ts : List Token} (h : Derives .header ts m) :
    ∃ hs, ts = hs ++ [Token.leftParen] ∧ hs ≠ [] := by
  cases h with
  | header h | typeHeader h => exact ⟨_, rfl, h.ne_nil⟩

theorem Derives.callee_ne_nil {hs : List Token} (h : Derives .header (hs ++ [Token.leftParen]) m) : hs ≠ [] := by
  obtain ⟨hs', he, hne⟩ := h.header_eq
  rwa [(List.append_inj' he rfl).1]

/-- A name or a type with a size, which is what stands before the parenthesis of a call. -/
def Tree.isCallee : Tree → Bool
  | .name _ => true
  | .index _ _ => true
  | _ => false

/-- The tokens of a callee that has no parentheses around it end with none. -/
theorem Derives.callee_last {first : Token} {rest : List Token} (hfirst : first ≠ .leftParen)
    (h : Derives .header (first :: rest ++ [Token.leftParen]) (.call callee [])) (hcallee : callee.isCallee = true) :
    ∃ front last, first :: rest = front ++ [last] ∧ last.paren? = none := by
  generalize hts : first :: rest ++ [Token.leftParen] = ts at h
  cases h with
  | header h =>
    obtain ⟨rfl, -⟩ := List.append_inj' hts rfl
    have hbare := h.bare (unenclosed_cons hfirst rest)
    cases callee with
    | name text => exact ⟨[], _, hbare.of_name, rfl⟩
    | index base position =>
      obtain ⟨bs, ps, -, hts, -, -⟩ := hbare.of_index
      exact ⟨_, _, hts, rfl⟩
    | _ => cases hcallee
  | typeHeader h =>
    obtain ⟨rfl, -⟩ := List.append_inj' hts rfl
    generalize hts : first :: rest = ts at h
    cases h with
    | type => exact ⟨[], _, rfl, rfl⟩
    | arrayType => exact ⟨_, _, rfl, rfl⟩

/-- Where the callee has no parentheses, it ends at the first one. -/
theorem Derives.callee_eq {hs hs' us : List Token} (hplain : ∀ token ∈ hs, token.paren? = none)
    (hcallee : callee.isCallee = true) (h : Derives .header (hs ++ [Token.leftParen]) (.call callee []))
    (h' : Derives .header (hs' ++ [Token.leftParen]) (.call callee []))
    (he : hs ++ Token.leftParen :: ms = hs' ++ Token.leftParen :: us) : ms = us := by
  rcases List.append_eq_append_iff.1 he with ⟨more, rfl, hmore⟩ | ⟨more, rfl, hmore⟩
  · cases more with
    | nil => exact (List.cons.inj hmore).2
    | cons z more =>
      obtain ⟨rfl, -⟩ := List.cons.inj hmore
      -- The longer callee would end with a token that weighs something, and the shorter one weighs as much without it.
      obtain ⟨first, rest, rfl⟩ := List.exists_cons_of_ne_nil h.callee_ne_nil
      have hfirst : first ≠ .leftParen := by
        rintro rfl
        cases hplain _ List.mem_cons_self
      obtain ⟨front, last, hlast, hweight⟩ := Derives.callee_last hfirst h' hcallee
      obtain ⟨init, last', hinit⟩ := (List.eq_nil_or_concat (Token.leftParen :: more)).resolve_left (by simp)
      rw [List.concat_eq_append] at hinit
      have hends : first :: rest ++ init ++ [last'] = front ++ [last] := by
        rw [List.append_assoc, ← hinit]
        exact hlast
      obtain rfl := List.singleton_inj.1 (List.append_inj' hends rfl).2
      have htotal := h.weight.trans h'.weight.symm
      rw [hinit, weight_append, weight_append, weight_append, weight_append, weight_plain hweight] at htotal
      omega
  · cases more with
    | nil => exact (List.cons.inj hmore).2.symm
    | cons z more =>
      obtain ⟨rfl, -⟩ := List.cons.inj hmore
      cases hplain .leftParen (by simp)

/-- What stands in a call before an argument: the callee and its parenthesis, or the arguments before and a comma. -/
inductive BeforeArgument (callee : Tree) : List Tree → List Token → Prop where
  | first {hs : List Token} (hplain : ∀ token ∈ hs, token.paren? = none)
      (header : Derives .header (hs ++ [Token.leftParen]) (.call callee [])) :
      BeforeArgument callee [] (hs ++ [Token.leftParen])
  | next {xs : List Token} {args : List Tree} (before : Derives .arguments xs (.call callee args)) :
      BeforeArgument callee args (xs ++ [Token.comma])

/-- An argument and a comma more. -/
theorem BeforeArgument.push {front us : List Token} {u : Tree} (h : BeforeArgument callee args front)
    (hu : Derives (.level 1) us u) : BeforeArgument callee (args ++ [u]) (front ++ us ++ [Token.comma]) := by
  cases h with
  | first _ header => exact .next (header.firstArgument hu)
  | @next xs _ before =>
    rw [← List.append_cons xs .comma us]
    exact .next (before.nextArgument hu)

theorem BeforeArgument.unenclosed {front : List Token} (h : BeforeArgument callee args front) (rest : List Token) :
    Unenclosed (front ++ rest) := by
  cases h with
  | first hplain header =>
    obtain ⟨first, hs, rfl⟩ := List.exists_cons_of_ne_nil header.callee_ne_nil
    refine unenclosed_cons ?_ _
    rintro rfl
    cases hplain _ List.mem_cons_self
  | next before =>
    obtain ⟨hs, more, rfl, hne, hnests⟩ := before.callee rfl
    rw [List.append_assoc, List.append_assoc]
    exact unenclosed_of_left hne (by simp) hnests

theorem BeforeArgument.last {front : List Token} (hfront : BeforeArgument callee args front)
    (hcallee : callee.isCallee = true)
    (h : Derives .arguments (front ++ ms) (.call callee (args ++ [m]))) : Derives (.level 1) ms m := by
  generalize hts : front ++ ms = ts at h
  generalize hall : args ++ [m] = all at h
  cases hfront with
  | first hplain header =>
    cases h with
    | firstArgument header' argument =>
      obtain rfl := List.singleton_inj.1 hall
      obtain ⟨hs', rfl, -⟩ := header'.header_eq
      rw [← List.append_cons, ← List.append_cons] at hts
      obtain rfl := Derives.callee_eq hplain hcallee header header' hts
      exact argument
    | nextArgument before =>
      obtain ⟨rfl, -⟩ := List.append_inj' hall rfl
      exact absurd rfl before.arguments_ne_nil
  | next before =>
    cases h with
    | firstArgument =>
      obtain ⟨rfl, -⟩ := List.append_inj' (show args ++ [m] = [] ++ [_] from hall) rfl
      exact absurd rfl before.arguments_ne_nil
    | nextArgument before' argument =>
      obtain ⟨rfl, hm⟩ := List.append_inj' hall rfl
      obtain rfl := List.singleton_inj.1 hm
      rw [← List.append_cons] at hts
      obtain ⟨-, rfl⟩ := split_eq rfl rfl hts (before.weight.trans before'.weight.symm)
      exact argument

theorem BeforeArgument.argument {front : List Token} {ass : List (List Token)} {more : List Tree}
    (hfront : BeforeArgument callee args front) (hcallee : callee.isCallee = true)
    (hmore : List.Forall₂ (Derives (.level 1)) ass more)
    (h : Derives (.level 0) (front ++ ms ++ ass.flatMap (Token.comma :: ·) ++ [Token.rightParen])
      (.call callee (args ++ m :: more))) :
    Derives (.level 1) ms m := by
  have hopen : Unenclosed (front ++ ms ++ ass.flatMap (Token.comma :: ·) ++ [Token.rightParen]) := by
    rw [List.append_assoc, List.append_assoc]
    exact hfront.unenclosed _
  obtain ⟨us, hts, harguments⟩ := (h.bare hopen).of_call (by simp)
  obtain ⟨rfl, -⟩ := List.append_inj' hts rfl
  rw [List.append_cons] at harguments
  exact hfront.last hcallee (Derives.arguments_take hmore (by simp) harguments)

end

end GlslCompiler.Grammar

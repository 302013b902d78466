import GlslCompiler.Proofs.Expression.Completeness
import GlslCompiler.Proofs.Expression.Spelling
import GlslCompiler.Writer.Expr

/-!
# Written expressions keep their structure

The text of an expression, split into tokens by longest match and parsed by the grammar of the language, gives
the expression back. What comes back is a tree of the grammar: `Expr.tree` is the expression without its
types, a signed constant being an operator on a constant without a sign. The expressions in question are those
of `WellSpelled`: known operators, identifiers as names, constants of one token, and no constant with a member
or a subscript.

The proof is an induction over the expression. The text of a part stands in a position that asks for a
precedence, and the parentheses that `group` puts there are just what makes the part a phrase of the level
that the position has in the grammar.
-/

namespace GlslCompiler

open Grammar

namespace Grammar

/-- The tree of a constant that may have a sign. -/
def signedTree (text : String) : Tree :=
  match text.toList with
  | '-' :: rest => .unary "-" (.literal (String.ofList rest))
  | '+' :: rest => .unary "+" (.literal (String.ofList rest))
  | _ => .literal text

/-- One numeric or boolean token, with or without a sign. -/
def isSignedConstant (text : String) : Bool :=
  match text.toList with
  | '-' :: rest => isConstant rest
  | '+' :: rest => isConstant rest
  | cs => isConstant cs

end Grammar

def GlslType.tree (type : GlslType) : Tree :=
  match type.arraySize with
  | some size => .index (.name type.base) (.literal (toString size))
  | none => .name type.base

mutual

/-- An expression as the grammar shows it. -/
def Expr.tree (tier : Tier) : Expr → Tree
  | .literal value type =>
    match literalText tier value type.base with
    | .ok text => signedTree text
    | .error _ => .literal ""
  | .name identifier => .name identifier
  | .binary operator left right => .binary operator (left.tree tier) (right.tree tier)
  | .unary operator operand => .unary operator (operand.tree tier)
  | .call function arguments => .call (.name function) (Expr.trees tier arguments)
  | .construct type arguments => .call type.tree (Expr.trees tier arguments)
  | .swizzle base components => .member (base.tree tier) components
  | .field base member => .member (base.tree tier) member
  | .index base position => .index (base.tree tier) (position.tree tier)
  | .conditional condition whenTrue whenFalse =>
    .conditional (condition.tree tier) (whenTrue.tree tier) (whenFalse.tree tier)
  | .unknown => .literal ""

def Expr.trees (tier : Tier) : List Expr → List Tree
  | [] => []
  | e :: rest => e.tree tier :: Expr.trees tier rest

end

def Expr.isLiteral : Expr → Bool
  | .literal _ _ => true
  | _ => false

/-- Expressions whose parts are spelled as the language has them. -/
inductive Expr.WellSpelled (tier : Tier) : Expr → Prop where
  | literal {value : Value} {type : GlslType} {text : String} (written : literalText tier value type.base = .ok text)
      (h : isSignedConstant text = true) : WellSpelled tier (.literal value type)
  | name {identifier : String} (h : isIdentifier identifier = true) : WellSpelled tier (.name identifier)
  | binary {operator : String} {left right : Expr} (h : (binaryLevel? operator).isSome)
      (hleft : WellSpelled tier left) (hright : WellSpelled tier right) :
      WellSpelled tier (.binary operator left right)
  | unary {operator : String} {operand : Expr} (h : isPrefixOperator operator = true)
      (hoperand : WellSpelled tier operand) : WellSpelled tier (.unary operator operand)
  | call {function : String} {arguments : List Expr} (h : isIdentifier function = true)
      (harguments : ∀ a ∈ arguments, WellSpelled tier a) : WellSpelled tier (.call function arguments)
  | construct {type : GlslType} {arguments : List Expr}
      (h : isIdentifier type.base = true ∨ isTypeKeyword type.base = true) (hsize : ∀ n ∈ type.arraySize, 0 ≤ n)
      (harguments : ∀ a ∈ arguments, WellSpelled tier a) : WellSpelled tier (.construct type arguments)
  | swizzle {base : Expr} {components : String} (h : isIdentifier components = true)
      (hliteral : base.isLiteral = false) (hbase : WellSpelled tier base) :
      WellSpelled tier (.swizzle base components)
  | field {base : Expr} {member : String} (h : isIdentifier member = true)
      (hliteral : base.isLiteral = false) (hbase : WellSpelled tier base) : WellSpelled tier (.field base member)
  | index {base position : Expr} (hliteral : base.isLiteral = false) (hbase : WellSpelled tier base)
      (hposition : WellSpelled tier position) : WellSpelled tier (.index base position)
  | conditional {condition whenTrue whenFalse : Expr} (hcondition : WellSpelled tier condition)
      (htrue : WellSpelled tier whenTrue) (hfalse : WellSpelled tier whenFalse) :
      WellSpelled tier (.conditional condition whenTrue whenFalse)

namespace Expr

/-- The level at which an expression stands in the grammar without parentheses. A constant may have a sign. -/
def level : Expr → Nat
  | .binary operator _ _ => (binaryLevel? operator).getD 0
  | .conditional _ _ _ => 2
  | .unary _ _ => 14
  | .literal _ _ => 14
  | .name _ => 16
  | .unknown => 0
  | _ => 15

/-- The characters before which the text of an expression ends. -/
def stops (e : Expr) : List Char := if 15 ≤ e.level then '.' :: closers else closers

/-- The text of an expression is there and is read as its tree. -/
def Spelled (tier : Tier) (e : Expr) : Prop :=
  ∃ text, e.text tier = .ok text ∧ Spells e.level e.stops text.toList (e.tree tier)

/-! ### Positions -/

theorem closers_subset_stops (e : Expr) : closers ⊆ e.stops := by
  unfold stops
  split
  · exact List.subset_cons_self _ _
  · exact List.Subset.refl _

theorem operatorPrecedence_eq {operator : String} {n : Nat} (h : binaryLevel? operator = some n) :
    operatorPrecedence operator = n := by
  have hall : ∀ operator ∈ binaryOperators.flatten,
      binaryLevel? operator = some (operatorPrecedence operator).toNat ∧ 0 ≤ operatorPrecedence operator := by
    decide
  obtain ⟨hlevel, hpos⟩ := hall operator (mem_of_binaryLevel? h)
  have hn := Option.some.inj (h.symm.trans hlevel)
  omega

/-- Outside the positions of a base, an expression that is not put in parentheses has the level asked for. -/
theorem WellSpelled.le_level {tier : Tier} {e : Expr} (he : WellSpelled tier e) {k : Nat} (hk : k ≤ 14)
    (h : (k : Int) ≤ e.precedence) : k ≤ e.level := by
  cases he with
  | literal => exact hk
  | name => exact hk.trans (show 14 ≤ 16 by omega)
  | @binary operator left right hoperator =>
    obtain ⟨n, hn⟩ := Option.isSome_iff_exists.1 hoperator
    have hprecedence : (k : Int) ≤ operatorPrecedence operator := h
    rw [operatorPrecedence_eq hn] at hprecedence
    rw [level, hn, Option.getD_some]
    omega
  | unary => exact hk
  | conditional =>
    have hprecedence : (k : Int) ≤ 2 := h
    exact show k ≤ 2 by omega
  | _ => exact hk.trans (show 14 ≤ 15 by omega)

theorem WellSpelled.level_bounds {tier : Tier} {e : Expr} (he : WellSpelled tier e) :
    2 ≤ e.level ∧ e.level ≤ 16 := by
  cases he with
  | @binary operator left right hoperator =>
    obtain ⟨n, hn⟩ := Option.isSome_iff_exists.1 hoperator
    have hbounds := binaryLevel?_bounds hn
    rw [level, hn, Option.getD_some]
    omega
  | _ => simp [level]

theorem WellSpelled.base_level {tier : Tier} {e : Expr} (he : WellSpelled tier e) (hliteral : e.isLiteral = false)
    (h : 16 ≤ e.precedence) : 15 ≤ e.level := by
  cases he with
  | literal => exact absurd hliteral (by simp [isLiteral])
  | @binary operator left right hoperator =>
    obtain ⟨n, hn⟩ := Option.isSome_iff_exists.1 hoperator
    have hbounds := binaryLevel?_bounds hn
    have hprecedence : 16 ≤ operatorPrecedence operator := h
    rw [operatorPrecedence_eq hn] at hprecedence
    omega
  | unary => exact absurd (show 16 ≤ Precedence.unary from h) (by decide)
  | conditional => exact absurd (show 16 ≤ Precedence.conditional from h) (by decide)
  | _ => simp [level]

end Expr

namespace Grammar

open Number in
theorem number_of_digits {cs : List Char} (hne : cs ≠ []) (h : ∀ c ∈ cs, c.isDigit = true) :
    number.rmatch cs = true := by
  obtain ⟨c, rest, rfl⟩ := List.exists_cons_of_ne_nil hne
  obtain ⟨hc, hrest⟩ := List.forall_mem_cons.1 h
  have htail : [] ∈ decimalTail.matches' := (RegularExpression.rmatch_iff_matches' _ _).1 (by decide)
  have hall : c :: rest ∈ (digit * (.star digit * decimalTail)).matches' :=
    ⟨[c], mem_digit hc, rest, ⟨rest, mem_star_digit.2 hrest, [], htail, List.append_nil rest⟩, rfl⟩
  exact (RegularExpression.rmatch_iff_matches' _ _).2 (Or.inl (Or.inl hall))

theorem number_toString {n : Int} (h : 0 ≤ n) : number.rmatch (toString n).toList = true := by
  obtain ⟨m, rfl⟩ := Int.eq_ofNat_of_zero_le h
  have htext : (toString (m : Int)).toList = Nat.toDigits 10 m := by
    change (toString m).toList = _
    rw [Nat.toString_eq_ofList_toDigits, String.toList_ofList]
  rw [htext]
  exact number_of_digits Nat.toDigits_ne_nil fun c hc => Nat.isDigit_of_mem_toDigits (by omega) le_rfl hc

theorem SpellsCallee.of_type {type : GlslType} (h : isIdentifier type.base = true ∨ isTypeKeyword type.base = true)
    (hsize : ∀ n ∈ type.arraySize, 0 ≤ n) : SpellsCallee type.text.toList type.tree := by
  unfold GlslType.text GlslType.tree
  cases he : type.arraySize with
  | none => exact SpellsCallee.type h
  | some size => simpa using SpellsCallee.arrayType h (number_toString (hsize size he))

theorem Spells.group {k n : Nat} {stops : List Char} {asked precedence : Int} {text : String} {t : Tree}
    (h : Spells n stops text.toList t) (hn : n ≤ 16) (hk : k ≤ 16) (hstops : closers ⊆ stops)
    (hlevel : asked ≤ 0 ∨ asked ≤ precedence → k ≤ n) :
    Spells k stops (GlslCompiler.group asked precedence text).toList t := by
  unfold GlslCompiler.group
  split
  · have hparens := ((h.mono hstops).weaken (Nat.zero_le n) hn).parens stops
    simpa using hparens.weaken hk le_rfl
  · rename_i hasked
    exact h.weaken (hlevel (by omega)) hn

theorem Spells.guardSign {text : String} {t : Tree} (h : Spells 14 closers text.toList t) :
    Spells 14 closers (GlslCompiler.guardSign text).toList t ∧
      ∀ c ∈ (GlslCompiler.guardSign text).toList.head?, c ≠ '+' ∧ c ≠ '-' := by
  have hparens := ((h.weaken (Nat.zero_le 14) (by omega)).parens closers).weaken (m := 14) (by omega) le_rfl
  unfold GlslCompiler.guardSign
  split
  · exact ⟨by simpa using hparens, by simp⟩
  · exact ⟨by simpa using hparens, by simp⟩
  · rename_i hminus hplus
    refine ⟨h, fun c hc => ?_⟩
    obtain ⟨rest, he⟩ := List.head?_eq_some_iff.1 hc
    constructor
    · rintro rfl
      exact hplus rest he
    · rintro rfl
      exact hminus rest he

theorem Spells.signed {text : String} (h : isSignedConstant text = true) :
    Spells 14 closers text.toList (signedTree text) := by
  have hsigned : ∀ sign ∈ ["-", "+"], ∀ rest, isConstant rest = true →
      Spells 14 closers (sign.toList ++ rest) (.unary sign (.literal (String.ofList rest))) := by
    intro sign hsign rest hrest
    have hall : ∀ sign ∈ ["-", "+"], isPrefixOperator sign = true := by decide
    obtain ⟨-, -, -, c, more, rfl, hc⟩ := constant_token hrest
    refine Spells.unary (hall sign hsign) ((Spells.constant hrest).weaken (by omega) le_rfl) fun d hd => ?_
    cases hd
    simp only [List.mem_cons, List.not_mem_nil, or_false, not_or] at hc
    exact ⟨hc.1, hc.2.1⟩
  unfold isSignedConstant at h
  unfold signedTree
  split at h
  · rename_i rest he
    rw [he]
    exact hsigned "-" (by decide) rest h
  · rename_i rest he
    rw [he]
    exact hsigned "+" (by decide) rest h
  · rename_i cs hminus hplus
    have hconstant := (Spells.constant h).weaken (m := 14) (by omega) le_rfl
    rwa [String.ofList_toList] at hconstant

end Grammar

namespace Expr

variable {tier : Tier} {e : Expr}

/-! ### An expression in its position -/

/-- A text for an operand in a position of the levels below the suffixes. -/
theorem WellSpelled.spells_operand (he : WellSpelled tier e) {text : String}
    (h : Spells e.level e.stops text.toList (e.tree tier)) {k : Nat} (hpos : 0 < k) (hk : k ≤ 14) :
    Spells k closers (group k e.precedence text).toList (e.tree tier) := by
  refine (h.mono e.closers_subset_stops).group he.level_bounds.2 (by omega) (List.Subset.refl _) fun hasked => ?_
  rcases hasked with hasked | hasked
  · omega
  · exact he.le_level hk hasked

theorem Spelled.operand (h : Spelled tier e) (he : WellSpelled tier e) {k : Nat} (hpos : 0 < k) (hk : k ≤ 14) :
    ∃ text, e.text tier = .ok text ∧ Spells k closers (group k e.precedence text).toList (e.tree tier) := by
  obtain ⟨text, htext, hspells⟩ := h
  exact ⟨text, htext, he.spells_operand hspells hpos hk⟩

/-- A text for an expression with a member or a subscript. -/
theorem WellSpelled.spells_base (he : WellSpelled tier e) (hliteral : e.isLiteral = false) {text : String}
    (hspells : Spells e.level e.stops text.toList (e.tree tier)) :
    Spells 15 ('.' :: closers) (group Precedence.member e.precedence text).toList (e.tree tier) := by
  -- Without parentheses the text may also end before the point of a member; with them it ends anywhere.
  by_cases hlevel : 15 ≤ e.level
  · rw [stops, if_pos hlevel] at hspells
    exact hspells.group he.level_bounds.2 (by omega) (List.subset_cons_self _ _) fun _ => hlevel
  · have hprecedence : ¬ Precedence.member ≤ e.precedence := fun hasked => hlevel (he.base_level hliteral hasked)
    have hparens := ((hspells.mono e.closers_subset_stops).weaken (Nat.zero_le _) he.level_bounds.2).parens
      ('.' :: closers)
    rw [group, if_pos ⟨by decide, not_le.1 hprecedence⟩]
    simpa using hparens.weaken (m := 15) (by omega) le_rfl

theorem Spelled.base (h : Spelled tier e) (he : WellSpelled tier e) (hliteral : e.isLiteral = false) :
    ∃ text, e.text tier = .ok text ∧
      Spells 15 ('.' :: closers) (group Precedence.member e.precedence text).toList (e.tree tier) := by
  obtain ⟨text, htext, hspells⟩ := h
  exact ⟨text, htext, he.spells_base hliteral hspells⟩

/-- An expression between brackets, or between two commas. -/
theorem Spelled.whole (h : Spelled tier e) (he : WellSpelled tier e) {k : Nat} (hk : k ≤ 2) :
    ∃ text, e.text tier = .ok text ∧ Spells k closers text.toList (e.tree tier) := by
  obtain ⟨text, htext, hspells⟩ := h
  have hbounds := he.level_bounds
  exact ⟨text, htext, (hspells.mono e.closers_subset_stops).weaken (by omega) hbounds.2⟩

theorem Spelled.arguments {arguments : List Expr} (h : ∀ a ∈ arguments, Spelled tier a)
    (harguments : ∀ a ∈ arguments, WellSpelled tier a) :
    ∃ texts, Expr.texts tier arguments = .ok texts ∧
      List.Forall₂ (Spells 1 closers) (texts.map String.toList) (Expr.trees tier arguments) := by
  induction arguments with
  | nil => exact ⟨[], by rw [Expr.texts], by rw [Expr.trees]; exact .nil⟩
  | cons a rest ih =>
    obtain ⟨text, htext, hspells⟩ := (h a List.mem_cons_self).whole (harguments a List.mem_cons_self)
      (show 1 ≤ 2 by omega)
    obtain ⟨texts, htexts, hrest⟩ := ih (fun b hb => h b (List.mem_cons_of_mem a hb))
      fun b hb => harguments b (List.mem_cons_of_mem a hb)
    refine ⟨text :: texts, ?_, ?_⟩
    · rw [Expr.texts, htext, htexts]
      rfl
    · rw [Expr.trees]
      exact .cons hspells hrest

/-! ### The induction -/

theorem Spelled.binary {operator : String} {left right : Expr} {n : Nat} (hoperator : binaryLevel? operator = some n)
    (hl : WellSpelled tier left) (hr : WellSpelled tier right)
    (hleft : Spelled tier left) (hright : Spelled tier right) : Spelled tier (.binary operator left right) := by
  have hbounds := binaryLevel?_bounds hoperator
  obtain ⟨leftText, hleftText, hleftSpells⟩ := hleft.operand hl (k := n) (by omega) (by omega)
  obtain ⟨rightText, hrightText, hrightSpells⟩ := hright.operand hr (k := n + 1) (by omega) (by omega)
  have hspells := Spells.binary hoperator hleftSpells hrightSpells
  have hlevel : (Expr.binary operator left right).level = n := by rw [level, hoperator, Option.getD_some]
  refine ⟨_, by rw [Expr.text, hleftText, hrightText]; rfl, ?_⟩
  rw [stops, hlevel, if_neg (by omega), operatorPrecedence_eq hoperator, Expr.tree]
  simpa using hspells

theorem Spelled.unary {operator : String} {operand : Expr} (hoperator : isPrefixOperator operator = true)
    (ho : WellSpelled tier operand) (hoperand : Spelled tier operand) : Spelled tier (.unary operator operand) := by
  obtain ⟨text, htext, hspells⟩ := hoperand.operand ho (k := 14) (by omega) le_rfl
  obtain ⟨hguarded, hsign⟩ := hspells.guardSign
  refine ⟨_, by rw [Expr.text, htext]; rfl, ?_⟩
  rw [Expr.tree, String.toList_append]
  exact Spells.unary hoperator hguarded hsign

theorem Spelled.call {callee : String} {tree : Tree} {arguments : List Expr}
    (hcallee : SpellsCallee callee.toList tree) (ha : ∀ a ∈ arguments, WellSpelled tier a)
    (harguments : ∀ a ∈ arguments, Spelled tier a) :
    ∃ texts, Expr.texts tier arguments = .ok texts ∧
      Spells 15 ('.' :: closers) (callee ++ "(" ++ ", ".intercalate texts ++ ")").toList
        (.call tree (Expr.trees tier arguments)) := by
  obtain ⟨texts, htexts, hspells⟩ := Spelled.arguments harguments ha
  refine ⟨texts, htexts, ?_⟩
  simpa [String.toList_intercalate] using Spells.call hcallee hspells ('.' :: closers)

theorem Spelled.member {base : Expr} {member : String} (hmember : isIdentifier member = true)
    (hliteral : base.isLiteral = false) (hb : WellSpelled tier base) (hbase : Spelled tier base) :
    ∃ text, base.text tier = .ok text ∧
      Spells 15 ('.' :: closers) (group Precedence.member base.precedence text ++ "." ++ member).toList
        (.member (base.tree tier) member) := by
  obtain ⟨text, htext, hspells⟩ := hbase.base hb hliteral
  refine ⟨text, htext, ?_⟩
  simpa using Spells.member hspells hmember

theorem Spelled.index {base position : Expr} (hliteral : base.isLiteral = false)
    (hb : WellSpelled tier base) (hp : WellSpelled tier position)
    (hbase : Spelled tier base) (hposition : Spelled tier position) : Spelled tier (.index base position) := by
  obtain ⟨baseText, hbaseText, hbaseSpells⟩ := hbase.base hb hliteral
  obtain ⟨positionText, hpositionText, hpositionSpells⟩ := hposition.whole hp (Nat.zero_le 2)
  refine ⟨_, by rw [Expr.text, hbaseText, hpositionText]; rfl, ?_⟩
  rw [Expr.tree]
  change Spells 15 ('.' :: closers) _ _
  simpa using Spells.index hbaseSpells hpositionSpells ('.' :: closers)

theorem Spelled.conditional {condition whenTrue whenFalse : Expr} (hc : WellSpelled tier condition)
    (ht : WellSpelled tier whenTrue) (hf : WellSpelled tier whenFalse) (hcondition : Spelled tier condition)
    (htrue : Spelled tier whenTrue) (hfalse : Spelled tier whenFalse) :
    Spelled tier (.conditional condition whenTrue whenFalse) := by
  obtain ⟨conditionText, hconditionText, hconditionSpells⟩ := hcondition.operand hc (k := 3) (by omega) (by omega)
  obtain ⟨trueText, htrueText, htrueSpells⟩ := htrue.whole ht (Nat.zero_le 2)
  obtain ⟨falseText, hfalseText, hfalseSpells⟩ := hfalse.operand hf (k := 2) (by omega) (by omega)
  have hspells := Spells.conditional hconditionSpells htrueSpells (hfalseSpells.weaken (by omega) (by omega))
  refine ⟨_, by rw [Expr.text, hconditionText, htrueText, hfalseText]; rfl, ?_⟩
  rw [Expr.tree]
  change Spells 2 closers _ _
  simpa [Precedence.conditional] using hspells

theorem WellSpelled.spelled (he : WellSpelled tier e) : Spelled tier e := by
  induction he with
  | @literal value type text written h =>
    refine ⟨text, by rw [Expr.text, written], ?_⟩
    rw [Expr.tree, written]
    exact Spells.signed h
  | @name identifier h =>
    refine ⟨identifier, by rw [Expr.text], ?_⟩
    rw [Expr.tree]
    exact Spells.name h
  | binary h hl hr hleft hright =>
    obtain ⟨n, hn⟩ := Option.isSome_iff_exists.1 h
    exact Spelled.binary hn hl hr hleft hright
  | unary h ho hoperand => exact Spelled.unary h ho hoperand
  | call h ha harguments =>
    obtain ⟨texts, htexts, hspells⟩ := Spelled.call (SpellsCallee.type (.inl h)) ha harguments
    exact ⟨_, by rw [Expr.text, htexts]; rfl, by rw [Expr.tree]; exact hspells⟩
  | construct h hsize ha harguments =>
    obtain ⟨texts, htexts, hspells⟩ := Spelled.call (SpellsCallee.of_type h hsize) ha harguments
    exact ⟨_, by rw [Expr.text, htexts]; rfl, by rw [Expr.tree]; exact hspells⟩
  | swizzle h hliteral hb hbase =>
    obtain ⟨text, htext, hspells⟩ := Spelled.member h hliteral hb hbase
    exact ⟨_, by rw [Expr.text, htext]; rfl, by rw [Expr.tree]; exact hspells⟩
  | field h hliteral hb hbase =>
    obtain ⟨text, htext, hspells⟩ := Spelled.member h hliteral hb hbase
    exact ⟨_, by rw [Expr.text, htext]; rfl, by rw [Expr.tree]; exact hspells⟩
  | index hliteral hb hp hbase hposition => exact Spelled.index hliteral hb hp hbase hposition
  | conditional hc ht hf hcondition htrue hfalse => exact Spelled.conditional hc ht hf hcondition htrue hfalse

/-- The text of an expression is written in full, and is read back as the expression. -/
theorem parse_lex_textAt (he : WellSpelled tier e) (asked : Int) :
    ∃ text tokens, e.textAt tier asked = .ok text ∧ lex text = some tokens ∧ parse tokens = some (e.tree tier) := by
  obtain ⟨text, htext, hspells⟩ := he.spelled
  have hwhole : Spells 0 closers (group asked e.precedence text).toList (e.tree tier) :=
    (hspells.mono e.closers_subset_stops).group he.level_bounds.2 (by omega) (List.Subset.refl _)
      fun _ => Nat.zero_le _
  obtain ⟨⟨tokens, hlexes, hderives⟩, -⟩ := hwhole
  exact ⟨_, tokens, by rw [textAt, htext]; rfl, lex_eq_of_lexes hlexes, parse_eq_some_iff.2 hderives⟩

theorem parse_lex_textAt_signs :
    let negated := Expr.unary "-" (.unary "-" (.literal (.scalar (.int (-2))) ⟨"int", none⟩))
    let e := Expr.index (.construct ⟨"vec2", some 2⟩ [.name "a", .binary "-" (.name "a") negated])
      (.conditional (.name "c") (.name "i") (.literal (.scalar (.bool true)) ⟨"bool", none⟩))
    WellSpelled .es2 e ∧
      ∃ text tokens, e.textAt .es2 0 = .ok text ∧ lex text = some tokens ∧ parse tokens = some (e.tree .es2) := by
  intro negated e
  have hliteral : WellSpelled .es2 (.literal (.scalar (.int (-2))) ⟨"int", none⟩) :=
    .literal (show literalText .es2 _ "int" = .ok "-2" by decide) (by decide)
  have hnegated : WellSpelled .es2 negated := .unary (by decide) (.unary (by decide) hliteral)
  have harguments : ∀ a ∈ [.name "a", .binary "-" (.name "a") negated], WellSpelled .es2 a := by
    have hname : WellSpelled .es2 (.name "a") := .name (by decide)
    simpa using ⟨hname, .binary (by decide) hname hnegated⟩
  have hbool : WellSpelled .es2 (.literal (.scalar (.bool true)) ⟨"bool", none⟩) :=
    .literal (show literalText .es2 _ "bool" = .ok "true" by decide) (by decide)
  have he : WellSpelled .es2 e :=
    .index rfl (.construct (.inr (by decide)) (by simp) harguments)
      (.conditional (.name (by decide)) (.name (by decide)) hbool)
  exact ⟨he, parse_lex_textAt he 0⟩

end Expr

end GlslCompiler

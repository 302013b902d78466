import GlslCompiler.Proofs.Expression.Emission
import GlslCompiler.Proofs.Expression.Reading

/-!
# Operands and their places

The text of an expression is the text of any one of its operands, in parentheses or not, with fixed texts before and
behind it. `Expr.HasOperand` lists the places that an operand can have. Of each place two things are shown, about
whatever text is put there in place of the operand's own: a text that the place takes makes a text of the whole
expression, and if the whole is read as the expression then what stands in the place is read as the operand, on the
level of the place.
-/

namespace GlslCompiler

open Grammar

/-- What a place in an expression does about parentheses: it asks for a precedence, or it stands behind a prefix
operator. -/
inductive Place where
  | operand (asked : Int)
  | prefixed (operator : String)

def beginsWithSign (text : String) : Bool := text.toList.head?.any fun c => c == '+' || c == '-'

theorem group_zero (precedence : Int) (text : String) : group 0 precedence text = text := by
  rw [group, if_neg (by omega)]

namespace Place

/-- Whether an operand with the text is put in parentheses. -/
def encloses : Place → Expr → String → Bool
  | .operand asked, x, _ => decide (0 < asked ∧ x.precedence < asked)
  | .prefixed _, x, text => decide (x.precedence < Precedence.unary) || beginsWithSign text

def opening (place : Place) (x : Expr) (text : String) : String := if place.encloses x text then "(" else ""

def closing (place : Place) (x : Expr) (text : String) : String := if place.encloses x text then ")" else ""

theorem written_operand (asked : Int) (x : Expr) (text : String) :
    (operand asked).opening x text ++ text ++ (operand asked).closing x text = group asked x.precedence text := by
  unfold opening closing encloses group
  by_cases h : 0 < asked ∧ x.precedence < asked
  · simp [h]
  · simp [h]

theorem guardSign_eq (text : String) : guardSign text = if beginsWithSign text then "(" ++ text ++ ")" else text := by
  unfold guardSign beginsWithSign
  split
  · rename_i h
    simp [h]
  · rename_i h
    simp [h]
  · rename_i hminus hplus
    rw [if_neg]
    cases h : text.toList with
    | nil => simp
    | cons c rest =>
      have hc : c ≠ '+' ∧ c ≠ '-' := ⟨fun hc => hplus rest (hc ▸ h), fun hc => hminus rest (hc ▸ h)⟩
      simp [hc]

theorem written_prefixed (operator : String) (x : Expr) (text : String) :
    (prefixed operator).opening x text ++ text ++ (prefixed operator).closing x text =
      guardSign (group Precedence.unary x.precedence text) := by
  rw [guardSign_eq]
  unfold opening closing encloses group
  by_cases h : x.precedence < Precedence.unary
  · have hsign : beginsWithSign ("(" ++ text ++ ")") = false := by simp [beginsWithSign]
    simp [h, hsign, show 0 < Precedence.unary by decide]
  · by_cases hsign : beginsWithSign text = true
    · simp [h, hsign]
    · simp [h, hsign]

/-- The level of the grammar that a place has. Where any expression may stand it is that of the conditional, below which
there are only assignments. -/
def level : Place → Nat
  | .operand asked => max 2 (min asked.toNat 15)
  | .prefixed _ => 14

theorem level_le (place : Place) : place.level ≤ 16 := by
  cases place with
  | operand asked =>
    rw [level]
    omega
  | prefixed => exact show 14 ≤ 16 by omega

/-- The text can stand in the place as the operand. -/
def Takes (tier : Tier) : Place → Expr → String → Prop
  | .operand asked, x, text =>
    Spells (operand asked).level (if asked = Precedence.member then '.' :: closers else closers) text.toList
      (x.tree tier)
  | .prefixed operator, x, text =>
    Spells 14 closers text.toList (x.tree tier) ∧ ∀ c ∈ text.toList.head?, Apart operator.toList c

section

variable {tier : Tier} {x : Expr} {text : String}

theorem Takes.spells {asked : Int} {n : Nat} (h : (operand asked).Takes tier x text) (hasked : asked = n) (hlow : 2 ≤ n)
    (hhigh : n ≤ 14) : Spells n closers text.toList (x.tree tier) := by
  have hlevel : (operand asked).level = n := by
    rw [level]
    omega
  rw [Takes, hlevel, if_neg (by rw [Precedence.member]; omega)] at h
  exact h

theorem Takes.whole (h : (operand 0).Takes tier x text) {k : Nat} (hk : k ≤ 2) :
    Spells k closers text.toList
    (x.tree tier) :=
  Spells.weaken (show Spells 2 closers text.toList (x.tree tier) from h) hk (by omega)

theorem Takes.base (h : (operand Precedence.member).Takes tier x text) :
    Spells 15 ('.' :: closers) text.toList (x.tree tier) := h

end

end Place

namespace Expr

/-- The expression has the operand in the place, with the texts before and behind it. -/
inductive HasOperand (tier : Tier) : Expr → String → Place → Expr → String → Prop where
  | left {operator : String} {left right : Expr} {text : String} (written : right.text tier = .ok text) :
      HasOperand tier (.binary operator left right) "" (.operand (operatorPrecedence operator)) left
        (" " ++ operator ++ " " ++ group (operatorPrecedence operator + 1) right.precedence text)
  | right {operator : String} {left right : Expr} {text : String} (written : left.text tier = .ok text) :
      HasOperand tier (.binary operator left right)
        (group (operatorPrecedence operator) left.precedence text ++ " " ++ operator ++ " ")
        (.operand (operatorPrecedence operator + 1)) right ""
  | prefixed (operator : String) (operand : Expr) :
      HasOperand tier (.unary operator operand) operator (.prefixed operator) operand ""
  | argument (function : String) {before after : List Expr} (x : Expr) {texts more : List String}
      (writtenBefore : Expr.texts tier before = .ok texts) (writtenAfter : Expr.texts tier after = .ok more) :
      HasOperand tier (.call function (before ++ x :: after)) (function ++ "(" ++ String.join (texts.map (· ++ ", ")))
        (.operand 0) x (String.join (more.map (", " ++ ·)) ++ ")")
  | component (type : GlslType) {before after : List Expr} (x : Expr) {texts more : List String}
      (writtenBefore : Expr.texts tier before = .ok texts) (writtenAfter : Expr.texts tier after = .ok more) :
      HasOperand tier (.construct type (before ++ x :: after)) (type.text ++ "(" ++ String.join (texts.map (· ++ ", ")))
        (.operand 0) x (String.join (more.map (", " ++ ·)) ++ ")")
  | swizzled (base : Expr) (components : String) :
      HasOperand tier (.swizzle base components) "" (.operand Precedence.member) base ("." ++ components)
  | structured (base : Expr) (member : String) :
      HasOperand tier (.field base member) "" (.operand Precedence.member) base ("." ++ member)
  | indexed (base : Expr) {position : Expr} {text : String} (written : position.text tier = .ok text) :
      HasOperand tier (.index base position) "" (.operand Precedence.member) base ("[" ++ text ++ "]")
  | position {base : Expr} (position : Expr) {text : String} (written : base.text tier = .ok text) :
      HasOperand tier (.index base position) (group Precedence.member base.precedence text ++ "[") (.operand 0)
        position "]"
  | condition (condition : Expr) {whenTrue whenFalse : Expr} {trueText falseText : String}
      (writtenTrue : whenTrue.text tier = .ok trueText) (writtenFalse : whenFalse.text tier = .ok falseText) :
      HasOperand tier (.conditional condition whenTrue whenFalse) "" (.operand (Precedence.conditional + 1)) condition
        (" ? " ++ trueText ++ " : " ++ group Precedence.conditional whenFalse.precedence falseText)
  | whenTrue {condition : Expr} (whenTrue : Expr) {whenFalse : Expr} {text falseText : String}
      (writtenCondition : condition.text tier = .ok text) (writtenFalse : whenFalse.text tier = .ok falseText) :
      HasOperand tier (.conditional condition whenTrue whenFalse)
        (group (Precedence.conditional + 1) condition.precedence text ++ " ? ") (.operand 0) whenTrue
        (" : " ++ group Precedence.conditional whenFalse.precedence falseText)
  | whenFalse {condition whenTrue : Expr} (whenFalse : Expr) {text trueText : String}
      (writtenCondition : condition.text tier = .ok text) (writtenTrue : whenTrue.text tier = .ok trueText) :
      HasOperand tier (.conditional condition whenTrue whenFalse)
        (group (Precedence.conditional + 1) condition.precedence text ++ " ? " ++ trueText ++ " : ")
        (.operand Precedence.conditional) whenFalse ""

variable {tier : Tier} {e x : Expr} {before after : String} {place : Place}

/-! ### The text of the whole -/

theorem texts_eq_ok_iff {es : List Expr} {texts : List String} :
    Expr.texts tier es = .ok texts ↔ List.Forall₂ (fun e text => e.text tier = .ok text) es texts := by
  induction es generalizing texts with
  | nil =>
    rw [Expr.texts, List.forall₂_nil_left_iff]
    exact ⟨fun h => (Except.ok.inj h).symm, fun h => h ▸ rfl⟩
  | cons e rest ih =>
    rw [Expr.texts, List.forall₂_cons_left_iff]
    constructor
    · intro h
      cases htext : e.text tier with
      | error => rw [htext] at h; cases h
      | ok text =>
        cases hrest : Expr.texts tier rest with
        | error => rw [htext, hrest] at h; cases h
        | ok more =>
          rw [htext, hrest] at h
          exact ⟨text, more, rfl, ih.1 hrest, (Except.ok.inj h).symm⟩
    · rintro ⟨text, more, htext, hmore, rfl⟩
      rw [htext, ih.2 hmore]
      rfl

theorem texts_around {es rest : List Expr} {texts more : List String} {text : String}
    (hbefore : Expr.texts tier es = .ok texts) (written : x.text tier = .ok text)
    (hafter : Expr.texts tier rest = .ok more) :
    Expr.texts tier (es ++ x :: rest) = .ok (texts ++ text :: more) := by
  rw [texts_eq_ok_iff] at *
  exact List.rel_append hbefore (.cons written hafter)

theorem intercalate_around (texts more : List String) (text : String) :
    ", ".intercalate (texts ++ text :: more) =
      String.join (texts.map (· ++ ", ")) ++ text ++ String.join (more.map (", " ++ ·)) := by
  induction texts with
  | nil =>
    rw [List.nil_append, List.map_nil, String.join_nil, String.empty_append]
    induction more generalizing text with
    | nil => simp
    | cons next more ih =>
      rw [String.intercalate_cons_cons, ih, List.map_cons, String.join_cons, String.append_assoc, String.append_assoc]
  | cons first texts ih =>
    rw [List.map_cons, String.join_cons, List.cons_append, String.intercalate_cons_of_ne_nil (by simp), ih,
      String.append_assoc, String.append_assoc, String.append_assoc, String.append_assoc, String.append_assoc]

theorem call_text_around (callee : String) (texts more : List String) (text : String) :
    callee ++ "(" ++ ", ".intercalate (texts ++ text :: more) ++ ")" =
      callee ++ "(" ++ String.join (texts.map (· ++ ", ")) ++ text ++ (String.join (more.map (", " ++ ·)) ++ ")") := by
  rw [intercalate_around]
  simp only [String.append_assoc]

theorem HasOperand.text_eq (h : HasOperand tier e before place x after) {text : String}
    (written : x.text tier = .ok text) :
    e.text tier = .ok (before ++ (place.opening x text ++ text ++ place.closing x text) ++ after) := by
  cases h with
  | left hright =>
    rw [Place.written_operand, Expr.text, written, hright, String.empty_append, String.append_assoc]
    simp only [String.append_assoc]
    rfl
  | right hleft =>
    rw [Place.written_operand, Expr.text, written, hleft, String.append_empty]
    rfl
  | prefixed =>
    rw [Place.written_prefixed, Expr.text, written, String.append_empty]
    rfl
  | argument _ _ hbefore hafter =>
    rw [Place.written_operand, group_zero, Expr.text, texts_around hbefore written hafter, ← call_text_around]
    rfl
  | component _ _ hbefore hafter =>
    rw [Place.written_operand, group_zero, Expr.text, texts_around hbefore written hafter, ← call_text_around]
    rfl
  | swizzled | structured =>
    rw [Place.written_operand, Expr.text, written, String.empty_append, ← String.append_assoc]
    rfl
  | indexed _ hposition =>
    rw [Place.written_operand, Expr.text, written, hposition, String.empty_append]
    simp only [String.append_assoc]
    rfl
  | position _ hbase =>
    rw [Place.written_operand, Expr.text, written, hbase, group_zero]
    rfl
  | condition _ htrue hfalse =>
    rw [Place.written_operand, Expr.text, written, htrue, hfalse, String.empty_append]
    simp only [String.append_assoc]
    rfl
  | whenTrue _ hcondition hfalse =>
    rw [Place.written_operand, Expr.text, written, hcondition, hfalse, group_zero]
    simp only [String.append_assoc]
    rfl
  | whenFalse _ hcondition htrue =>
    rw [Place.written_operand, Expr.text, written, hcondition, htrue, String.append_empty]
    rfl

/-! ### Texts put in a place -/

theorem WellSpelled.spells (he : WellSpelled tier e) {text : String} (written : e.text tier = .ok text) :
    Spells e.level e.stops text.toList (e.tree tier) := by
  obtain ⟨text', htext, hspells⟩ := he.spelled
  obtain rfl := Except.ok.inj (written.symm.trans htext)
  exact hspells

theorem WellSpelled.spells_written (he : WellSpelled tier e) {text : String} (written : e.text tier = .ok text)
    {k : Nat} (hpos : 0 < k) (hk : k ≤ 14) : Spells k closers (group k e.precedence text).toList (e.tree tier) :=
  he.spells_operand (he.spells written) hpos hk

theorem WellSpelled.spells_whole (he : WellSpelled tier e) {text : String} (written : e.text tier = .ok text) {k : Nat}
    (hk : k ≤ 2) : Spells k closers text.toList (e.tree tier) := by
  have hbounds := he.level_bounds
  exact ((he.spells written).mono e.closers_subset_stops).weaken (by omega) hbounds.2

theorem WellSpelled.spells_arguments {arguments : List Expr} (h : ∀ a ∈ arguments, WellSpelled tier a)
    {texts : List String}
    (written : Expr.texts tier arguments = .ok texts) :
    List.Forall₂ (Spells 1 closers) (texts.map String.toList) (Expr.trees tier arguments) := by
  obtain ⟨texts', htexts, hspells⟩ := Spelled.arguments (fun a ha => (h a ha).spelled) h
  obtain rfl := Except.ok.inj (written.symm.trans htexts)
  exact hspells

theorem spells_binary {operator : String} {left right : Expr} {n : Nat} (hn : binaryLevel? operator = some n)
    {cs : List Char}
    (h : Spells n closers cs (.binary operator (left.tree tier) (right.tree tier))) :
    Spells (Expr.binary operator left right).level (Expr.binary operator left right).stops cs
      ((Expr.binary operator left right).tree tier) := by
  have hbounds := binaryLevel?_bounds hn
  have hlevel : (Expr.binary operator left right).level = n := by rw [level, hn, Option.getD_some]
  rw [stops, hlevel, if_neg (by omega), Expr.tree]
  exact h

theorem trees_around (front rest : List Expr) (x : Expr) :
    Expr.trees tier (front ++ x :: rest) = Expr.trees tier front ++ x.tree tier :: Expr.trees tier rest := by
  induction front with
  | nil => rw [List.nil_append, Expr.trees, Expr.trees, List.nil_append]
  | cons a front ih => rw [List.cons_append, Expr.trees, Expr.trees, ih, List.cons_append]

/-- A text as one of the arguments of a call. -/
theorem spells_argument {callee : String} {tree : Tree} (hcallee : SpellsCallee callee.toList tree)
    {front rest : List Expr}
    (ha : ∀ a ∈ front ++ x :: rest, WellSpelled tier a) {texts more : List String}
    (writtenBefore : Expr.texts tier front = .ok texts) (writtenAfter : Expr.texts tier rest = .ok more) {text : String}
    (ht : Spells 1 closers text.toList (x.tree tier)) :
    Spells 15 ('.' :: closers) (callee ++ "(" ++ String.join (texts.map (· ++ ", ")) ++ text ++
      (String.join (more.map (", " ++ ·)) ++ ")")).toList (.call tree (Expr.trees tier (front ++ x :: rest))) := by
  have hfront := WellSpelled.spells_arguments (fun a hmem => ha a (List.mem_append_left _ hmem)) writtenBefore
  have hrest := WellSpelled.spells_arguments (fun a hmem => ha a (by simp [hmem])) writtenAfter
  have hall := Spells.call hcallee (List.rel_append hfront (.cons ht hrest)) ('.' :: closers)
  rw [← call_text_around, trees_around]
  simpa [String.toList_intercalate] using hall

/-- A text that the place takes makes, with what stands around the place, a text of the whole. -/
theorem HasOperand.spells (h : HasOperand tier e before place x after) (he : WellSpelled tier e) {text : String}
    (ht : place.Takes tier x text) : Spells e.level e.stops (before ++ text ++ after).toList (e.tree tier) := by
  cases he with
  | literal | name => cases h
  | @binary operator left right hoperator hl hr =>
    obtain ⟨n, hn⟩ := Option.isSome_iff_exists.1 hoperator
    have hbounds := binaryLevel?_bounds hn
    have hasked := operatorPrecedence_eq hn
    refine spells_binary hn ?_
    cases h with
    | left written =>
      have hright := hr.spells_written written (show 0 < n + 1 by omega) (by omega)
      have hall := Spells.binary hn (ht.spells hasked (by omega) (by omega)) hright
      rw [hasked]
      simpa using hall
    | right written =>
      have hleft := hl.spells_written written (show 0 < n by omega) (by omega)
      have hall := Spells.binary hn hleft (ht.spells (by rw [hasked]; rfl) (by omega) (by omega))
      rw [hasked]
      simpa using hall
  | unary hoperator =>
    cases h
    rw [Expr.tree, String.append_empty, String.toList_append]
    exact ht.1.unary_of_apart hoperator ht.2
  | call hfunction ha =>
    cases h with
    | argument _ _ writtenBefore writtenAfter =>
      rw [Expr.tree]
      exact spells_argument (SpellsCallee.type (.inl hfunction)) ha writtenBefore writtenAfter (ht.whole (by omega))
  | construct htype hsize ha =>
    cases h with
    | component _ _ writtenBefore writtenAfter =>
      rw [Expr.tree]
      exact spells_argument (SpellsCallee.of_type htype hsize) ha writtenBefore writtenAfter (ht.whole (by omega))
  | swizzle hmember | field hmember =>
    cases h
    rw [Expr.tree, String.empty_append]
    change Spells 15 ('.' :: closers) _ _
    simpa using ht.base.member hmember
  | index hliteral hb hp =>
    rw [Expr.tree]
    change Spells 15 ('.' :: closers) _ _
    cases h with
    | indexed _ written =>
      simpa using ht.base.index (hp.spells_whole written (Nat.zero_le 2)) ('.' :: closers)
    | position _ written =>
      have hbase := hb.spells_base hliteral (hb.spells written)
      simpa using hbase.index (ht.whole (Nat.zero_le 2)) ('.' :: closers)
  | conditional hc htrue hfalse =>
    rw [Expr.tree]
    change Spells 2 closers _ _
    cases h with
    | condition _ writtenTrue writtenFalse =>
      have hfront := ht.spells (show Precedence.conditional + 1 = (3 : Nat) by decide) (by omega) (by omega)
      have hbehind := hfalse.spells_written writtenFalse (show 0 < 2 by omega) (by omega)
      have hall := Spells.conditional hfront (htrue.spells_whole writtenTrue (Nat.zero_le 2))
        (hbehind.weaken (by omega) (by omega))
      simpa [Precedence.conditional] using hall
    | whenTrue _ writtenCondition writtenFalse =>
      have hfront := hc.spells_written writtenCondition (show 0 < 3 by omega) (by omega)
      have hbehind := hfalse.spells_written writtenFalse (show 0 < 2 by omega) (by omega)
      have hall := Spells.conditional hfront (ht.whole (Nat.zero_le 2)) (hbehind.weaken (by omega) (by omega))
      simpa [Precedence.conditional] using hall
    | whenFalse _ writtenCondition writtenTrue =>
      have hfront := hc.spells_written writtenCondition (show 0 < 3 by omega) (by omega)
      have hbehind := ht.spells (show Precedence.conditional = (2 : Nat) by decide) le_rfl (by omega)
      have hall := Spells.conditional hfront (htrue.spells_whole writtenTrue (Nat.zero_le 2))
        (hbehind.weaken (by omega) (by omega))
      simpa [Precedence.conditional] using hall

/-! ### Texts read in a place -/

theorem tree_not_assignment (x : Expr) :
    (∀ o l r, x.tree tier ≠ .assign o l r) ∧ ∀ l r, x.tree tier ≠ .sequence l r := by
  have hsigned : ∀ text, (∀ o l r, signedTree text ≠ .assign o l r) ∧ ∀ l r, signedTree text ≠ .sequence l r := by
    intro text
    unfold signedTree
    split
    all_goals simp
  cases x with
  | literal value type =>
    rw [Expr.tree]
    split
    · exact hsigned _
    · simp
  | _ => simp [Expr.tree]

theorem derives_whole {n : Nat} {ts : List Token} (h : Derives (.level n) ts (x.tree tier)) (hn : n ≤ 2) :
    Derives (.level 2) ts (x.tree tier) :=
  h.conditional_level hn (tree_not_assignment x).1 (tree_not_assignment x).2

/-- There is no parenthesis in the text of a type. -/
theorem plain_type {type : GlslType} (h : isIdentifier type.base = true ∨ isTypeKeyword type.base = true)
    (hsize : ∀ n ∈ type.arraySize, 0 ≤ n) : ∀ c ∈ type.text.toList, c ∉ ['(', ')'] := by
  have hbase := plain_of_isWord (h.elim isWord_of_isIdentifier SpellsCallee.isWord_of_isTypeKeyword)
  unfold GlslType.text
  split
  · rename_i size he
    have hsize := plain_of_number (number_toString (hsize size he))
    have hbrackets : ∀ c ∈ ['[', ']'], c ∉ ['(', ')'] := forall_mem_of_all (by decide)
    intro c hc
    simp only [String.toList_append, List.mem_append] at hc
    rcases hc with ((hc | hc) | hc) | hc
    · exact hbase c hc
    · exact hbrackets c (List.mem_cons.2 (.inl (List.mem_singleton.1 hc)))
    · exact hsize c hc
    · exact hbrackets c (List.mem_cons_of_mem _ hc)
  · exact hbase

theorem isCallee_type (type : GlslType) : type.tree.isCallee = true := by
  unfold GlslType.tree
  split
  all_goals rfl

theorem derives_argument {callee : String} {tree : Tree} (hcallee : SpellsCallee callee.toList tree)
    (hpath : tree.isCallee = true) (hplain : ∀ c ∈ callee.toList, c ∉ ['(', ')']) {front rest : List Expr}
    (ha : ∀ a ∈ front ++ x :: rest, WellSpelled tier a) {texts more : List String}
    (writtenBefore : Expr.texts tier front = .ok texts) (writtenAfter : Expr.texts tier rest = .ok more) {text : String}
    (h : Derives (.level 0) (tokensAfter 0 (callee ++ "(" ++ String.join (texts.map (· ++ ", ")) ++ text ++
      (String.join (more.map (", " ++ ·)) ++ ")")).toList) (.call tree (Expr.trees tier (front ++ x :: rest)))) :
    Derives (.level 2) (tokensAfter 0 text.toList) (x.tree tier) := by
  have hfront := WellSpelled.spells_arguments (fun a hmem => ha a (List.mem_append_left _ hmem)) writtenBefore
  have hrest := WellSpelled.spells_arguments (fun a hmem => ha a (by simp [hmem])) writtenAfter
  refine derives_whole (Derives.of_argument hcallee hpath hplain hfront hrest ?_) (show 1 ≤ 2 by omega)
  rw [trees_around] at h
  simpa [String.toList_join, List.flatMap_map] using h

/-- If the whole is read as the expression, what stands in the place of an operand is read as the operand. -/
theorem HasOperand.derives (h : HasOperand tier e before place x after) (he : WellSpelled tier e) {text : String}
    (hread : Derives (.level 0) (tokensAfter 0 (before ++ text ++ after).toList) (e.tree tier)) :
    Derives (.level place.level) (tokensAfter 0 text.toList) (x.tree tier) := by
  cases he with
  | literal | name => cases h
  | @binary operator left right hoperator hl hr =>
    obtain ⟨n, hn⟩ := Option.isSome_iff_exists.1 hoperator
    have hbounds := binaryLevel?_bounds hn
    have hasked := operatorPrecedence_eq hn
    rw [Expr.tree] at hread
    cases h with
    | left written =>
      have hright := hr.spells_written written (show 0 < n + 1 by omega) (by omega)
      have hlevel : (Place.operand (operatorPrecedence operator)).level = n := by
        rw [Place.level, hasked]
        omega
      rw [hlevel]
      refine Derives.of_binary_left hn hright.derives ?_
      rw [← tokensAfter_spaced (token?_binary hn)]
      rw [hasked] at hread
      simpa using hread
    | right written =>
      have hleft := hl.spells_written written (show 0 < n by omega) (by omega)
      have hlevel : (Place.operand (operatorPrecedence operator + 1)).level = n + 1 := by
        rw [Place.level, hasked]
        omega
      rw [hlevel]
      refine Derives.of_binary_right hn hleft.derives ?_
      rw [← tokensAfter_spaced (token?_binary hn)]
      rw [hasked] at hread
      simpa using hread
  | unary hoperator =>
    cases h
    rw [Expr.tree, String.append_empty, String.toList_append] at hread
    exact (Derives.of_prefixOperator hoperator hread).2
  | call hfunction ha =>
    cases h with
    | argument _ _ writtenBefore writtenAfter =>
      rw [Expr.tree] at hread
      exact derives_argument (SpellsCallee.type (.inl hfunction)) rfl
        (plain_of_isWord (isWord_of_isIdentifier hfunction)) ha writtenBefore writtenAfter hread
  | construct htype hsize ha =>
    cases h with
    | component _ _ writtenBefore writtenAfter =>
      rw [Expr.tree] at hread
      exact derives_argument (SpellsCallee.of_type htype hsize) (isCallee_type _) (plain_type htype hsize) ha
        writtenBefore writtenAfter hread
  | swizzle hmember | field hmember =>
    cases h
    rw [Expr.tree, String.empty_append] at hread
    exact Derives.of_member (isWord_of_isIdentifier hmember) (by simpa using hread)
  | index hliteral hb hp =>
    rw [Expr.tree] at hread
    cases h with
    | indexed _ written =>
      refine Derives.of_index_base (hp.spells_whole written (Nat.zero_le 2)).derives ?_
      rw [← tokensAfter_index]
      simpa using hread
    | position _ written =>
      have hbase := (hb.spells_base hliteral (hb.spells written)).derives
      refine derives_whole (Derives.of_position hbase ?_) (Nat.zero_le 2)
      rw [← tokensAfter_index]
      simpa using hread
  | conditional hc htrue hfalse =>
    rw [Expr.tree] at hread
    cases h with
    | condition _ writtenTrue writtenFalse =>
      have hbehind := hfalse.spells_written writtenFalse (show 0 < 2 by omega) (by omega)
      refine Derives.of_condition (htrue.spells_whole writtenTrue (Nat.zero_le 2)).derives hbehind.derives ?_
      rw [← tokensAfter_conditional]
      simpa [Precedence.conditional] using hread
    | whenTrue _ writtenCondition writtenFalse =>
      have hfront := hc.spells_written writtenCondition (show 0 < 3 by omega) (by omega)
      have hbehind := hfalse.spells_written writtenFalse (show 0 < 2 by omega) (by omega)
      refine derives_whole (Derives.of_whenTrue hfront.derives hbehind.derives ?_) (Nat.zero_le 2)
      rw [← tokensAfter_conditional]
      simpa [Precedence.conditional] using hread
    | whenFalse _ writtenCondition writtenTrue =>
      have hfront := hc.spells_written writtenCondition (show 0 < 3 by omega) (by omega)
      have hmiddle := htrue.spells_whole writtenTrue (Nat.zero_le 2)
      refine derives_whole (Derives.of_whenFalse hfront.derives hmiddle.derives ?_) (show 1 ≤ 2 by omega)
      rw [← tokensAfter_conditional]
      simpa [Precedence.conditional] using hread

end Expr

end GlslCompiler

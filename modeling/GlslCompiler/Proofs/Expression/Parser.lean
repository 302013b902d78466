import GlslCompiler.Proofs.Expression.Grammar

/-!
# Parsing expressions

A parser for the expression grammar by recursive descent. Left recursion is unrolled into tails: a tail is
given the tree read so far and reads on as long as the next token continues it.

The parser is one function of a goal and the tokens that are left. `step` says what each goal reads, with the
goals on the way left to a reader; `readWithin n` nests it `n` deep, and `read` takes the depth from the
number of tokens, which is always enough: reading is a fixed point of `step` (`read_eq`), so that the depth is
never seen again. What is read is what the grammar derives (`readWithin_meets`).
-/

namespace GlslCompiler.Grammar

namespace Parser

/-- What is to be read next. -/
inductive Goal where
  | expression
  | sequenceTail (t : Tree)
  | assignment
  | conditionalTail (t : Tree)
  | binaryTail (level : Nat) (t : Tree)
  | unary
  | suffixTail (t : Tree)
  | primary
  | typeTail (t : Tree)
  | arguments (callee : Tree)
  | argumentsTail (callee : Tree) (args : List Tree)

/-- A reader gives the tree it has read and the tokens after it. -/
abbrev Reader := Goal → List Token → Option (Tree × List Token)

/-- What a goal reads, the goals on the way being read by `read`. -/
def step (read : Reader) (goal : Goal) (ts : List Token) : Option (Tree × List Token) :=
  match goal with
  | .expression => do
    let (t, rest) ← read .assignment ts
    read (.sequenceTail t) rest
  | .sequenceTail t =>
    match ts with
    | .comma :: rest => do
      let (u, rest) ← read .assignment rest
      read (.sequenceTail (.sequence t u)) rest
    | _ => some (t, ts)
  | .assignment => do
    let (t, rest) ← read .unary ts
    match rest with
    | .operator operator :: value =>
      if isAssignment operator then do
        let (u, rest) ← read .assignment value
        some (.assign operator t u, rest)
      else read (.conditionalTail t) rest
    | _ => read (.conditionalTail t) rest
  | .conditionalTail t => do
    let (c, rest) ← read (.binaryTail 3 t) ts
    match rest with
    | .question :: rest => do
      match ← read .expression rest with
      | (a, .colon :: rest) => do
        let (b, rest) ← read .assignment rest
        some (.conditional c a b, rest)
      | _ => none
    | _ => some (c, rest)
  | .binaryTail level t =>
    match ts with
    | .operator operator :: rest =>
      match binaryLevel? operator with
      | some n =>
        if level ≤ n then do
          let (u, rest) ← read .unary rest
          let (u, rest) ← read (.binaryTail (n + 1) u) rest
          read (.binaryTail level (.binary operator t u)) rest
        else some (t, ts)
      | none => some (t, ts)
    | _ => some (t, ts)
  | .unary =>
    match ts with
    | .operator operator :: rest =>
      if isPrefixOperator operator then do
        let (t, rest) ← read .unary rest
        some (.unary operator t, rest)
      else none
    | _ => do
      let (t, rest) ← read .primary ts
      read (.suffixTail t) rest
  | .suffixTail t =>
    match ts with
    | .leftBracket :: rest => do
      match ← read .expression rest with
      | (u, .rightBracket :: rest) => read (.suffixTail (.index t u)) rest
      | _ => none
    | .leftParen :: rest => do
      let (t, rest) ← read (.arguments t) rest
      read (.suffixTail t) rest
    | .dot :: .word text :: rest =>
      if isKeyword text then none else read (.suffixTail (.member t text)) rest
    | .dot :: _ => none
    | .operator operator :: rest =>
      if isSuffixOperator operator then read (.suffixTail (.suffix operator t)) rest else some (t, ts)
    | _ => some (t, ts)
  | .primary =>
    match ts with
    | .number text :: rest => some (.literal text, rest)
    | .word text :: rest =>
      if isBoolean text then some (.literal text, rest)
      else if isTypeKeyword text then read (.typeTail (.name text)) rest
      else if isKeyword text then none
      else some (.name text, rest)
    | .leftParen :: rest => do
      match ← read .expression rest with
      | (t, .rightParen :: rest) => some (t, rest)
      | _ => none
    | _ => none
  | .typeTail t =>
    match ts with
    | .leftBracket :: rest => do
      let (u, rest) ← read .unary rest
      match ← read (.conditionalTail u) rest with
      | (u, .rightBracket :: rest) => read (.typeTail (.index t u)) rest
      | _ => none
    | .leftParen :: rest => read (.arguments t) rest
    | _ => none
  | .arguments callee =>
    match ts with
    | .rightParen :: rest => some (.call callee [], rest)
    | _ => do
      let (u, rest) ← read .assignment ts
      read (.argumentsTail callee [u]) rest
  | .argumentsTail callee args =>
    match ts with
    | .rightParen :: rest => some (.call callee args, rest)
    | .comma :: rest => do
      let (u, rest) ← read .assignment rest
      read (.argumentsTail callee (args ++ [u])) rest
    | _ => none

def readWithin : Nat → Reader
  | 0 => fun _ _ => none
  | n + 1 => step (readWithin n)

/-! ### What is read is what the grammar derives -/

/-- How many tokens are read at least. -/
def Goal.least : Goal → Nat
  | .expression | .assignment | .unary | .primary | .arguments _ | .argumentsTail _ _ => 1
  | .sequenceTail _ | .conditionalTail _ | .binaryTail _ _ | .suffixTail _ | .typeTail _ => 0

/-- A binary operator that comes first has a level below `n`. -/
def OperatorBelow (n : Nat) (ts : List Token) : Prop :=
  ∀ operator rest k, ts = .operator operator :: rest → binaryLevel? operator = some k → k < n

namespace OperatorBelow

theorem above {n : Nat} (hn : 13 < n) (ts : List Token) : OperatorBelow n ts := by
  intro operator rest k _ hlevel
  have hbounds := binaryLevel?_bounds hlevel
  omega

theorem of_level {operator : String} {k n : Nat} (hlevel : binaryLevel? operator = some k) (hk : k < n)
    (rest : List Token) : OperatorBelow n (.operator operator :: rest) := by
  intro operator' rest' j he hj
  obtain ⟨hoperator, -⟩ := List.cons.inj he
  rw [← Token.operator.inj hoperator, hlevel] at hj
  rwa [← Option.some.inj hj]

theorem of_none {operator : String} (hlevel : binaryLevel? operator = none) (n : Nat) (rest : List Token) :
    OperatorBelow n (.operator operator :: rest) := by
  intro operator' rest' j he hj
  obtain ⟨hoperator, -⟩ := List.cons.inj he
  rw [← Token.operator.inj hoperator, hlevel] at hj
  cases hj

end OperatorBelow

/-- What the tokens that were read make, as a phrase. A tail completes the phrase of the tree it was given. -/
def Goal.Makes (goal : Goal) (used : List Token) (t : Tree) (rest : List Token) : Prop :=
  match goal with
  | .expression => Derives (.level 0) used t
  | .sequenceTail s => ∀ before, Derives (.level 0) before s → Derives (.level 0) (before ++ used) t
  | .assignment => Derives (.level 1) used t
  | .conditionalTail s => ∀ before, Derives (.level 14) before s → Derives (.level 2) (before ++ used) t
  | .binaryTail m s => ∀ before n, m ≤ n → n ≤ 14 → Derives (.level n) before s →
      OperatorBelow (n + 1) (used ++ rest) → Derives (.level m) (before ++ used) t ∧ OperatorBelow m rest
  | .unary => Derives (.level 14) used t
  | .suffixTail s => ∀ before, Derives (.level 15) before s → Derives (.level 15) (before ++ used) t
  | .primary => Derives (.level 15) used t
  | .typeTail s => ∀ before, Derives .type before s → Derives (.level 15) (before ++ used) t
  | .arguments callee => ∀ before, Derives .header before (.call callee []) →
      Derives (.level 15) (before ++ used) t
  | .argumentsTail callee args => ∀ before, Derives .arguments before (.call callee args) →
      Derives (.level 15) (before ++ used) t

/-- A result for a goal is what the goal asks for. -/
def Goal.Meets (goal : Goal) (ts : List Token) (r : Tree × List Token) : Prop :=
  ∃ used, ts = used ++ r.2 ∧ goal.least ≤ used.length ∧ goal.Makes used r.1 r.2

section Step

variable {read : Reader} {ts : List Token} {r : Tree × List Token}
  (ih : ∀ {goal ts r}, read goal ts = some r → Goal.Meets goal ts r)

include ih

theorem expression_meets (h : step read .expression ts = some r) : Goal.expression.Meets ts r := by
  obtain ⟨⟨t, rest⟩, hfirst, htail⟩ := Option.bind_eq_some_iff.1 h
  obtain ⟨used, rfl, hused, hderives⟩ := ih hfirst
  obtain ⟨more, rfl, -, hmore⟩ := ih htail
  exact ⟨used ++ more, by simp, hused.trans (by simp), hmore used (hderives.lift (by omega))⟩

theorem sequenceTail_meets {t : Tree} (h : step read (.sequenceTail t) ts = some r) :
    (Goal.sequenceTail t).Meets ts r := by
  unfold step at h
  dsimp only at h
  split at h
  · obtain ⟨⟨u, rest⟩, hnext, htail⟩ := Option.bind_eq_some_iff.1 h
    obtain ⟨used, rfl, -, hderives⟩ := ih hnext
    obtain ⟨more, rfl, -, hmore⟩ := ih htail
    refine ⟨.comma :: used ++ more, by simp, Nat.zero_le _, fun before hbefore => ?_⟩
    simpa using hmore _ (hbefore.sequence hderives)
  · cases h
    exact ⟨[], rfl, le_rfl, fun before hbefore => by rwa [List.append_nil]⟩

theorem assignment_meets (h : step read .assignment ts = some r) : Goal.assignment.Meets ts r := by
  obtain ⟨⟨t, rest⟩, hfirst, htail⟩ := Option.bind_eq_some_iff.1 h
  obtain ⟨used, rfl, hused, hderives⟩ := ih hfirst
  have hconditional : read (.conditionalTail t) rest = some r → Goal.assignment.Meets (used ++ rest) r := by
    intro hread
    obtain ⟨more, rfl, -, hmore⟩ := ih hread
    exact ⟨used ++ more, by simp, hused.trans (by simp), (hmore used hderives).lift (by omega)⟩
  dsimp only at htail
  split at htail
  · split at htail
    · rename_i operator value hoperator
      obtain ⟨⟨u, rest⟩, hvalue, hresult⟩ := Option.bind_eq_some_iff.1 htail
      cases hresult
      obtain ⟨more, rfl, -, hmore⟩ := ih hvalue
      exact ⟨used ++ .operator operator :: more, by simp, hused.trans (by simp),
        hderives.assign hoperator hmore⟩
    · exact hconditional htail
  · exact hconditional htail

theorem conditionalTail_meets {t : Tree} (h : step read (.conditionalTail t) ts = some r) :
    (Goal.conditionalTail t).Meets ts r := by
  obtain ⟨⟨c, rest⟩, hfirst, htail⟩ := Option.bind_eq_some_iff.1 h
  obtain ⟨used, rfl, -, hmakes⟩ := ih hfirst
  have hcondition : ∀ before, Derives (.level 14) before t → Derives (.level 3) (before ++ used) c :=
    fun before hbefore => (hmakes before 14 (by omega) le_rfl hbefore (.above (by omega) _)).1
  dsimp only at htail
  split at htail
  · obtain ⟨⟨a, rest⟩, htrue, hcolon⟩ := Option.bind_eq_some_iff.1 htail
    obtain ⟨more, rfl, -, hwhenTrue⟩ := ih htrue
    split at hcolon
    · rename_i he
      obtain ⟨rfl, rfl⟩ := Prod.mk.inj he
      obtain ⟨⟨b, rest⟩, hfalse, hresult⟩ := Option.bind_eq_some_iff.1 hcolon
      cases hresult
      obtain ⟨last, rfl, -, hwhenFalse⟩ := ih hfalse
      refine ⟨used ++ .question :: more ++ .colon :: last, by simp, Nat.zero_le _, fun before hbefore => ?_⟩
      simpa using (hcondition before hbefore).conditional hwhenTrue hwhenFalse
    · cases hcolon
  · cases htail
    exact ⟨used, rfl, Nat.zero_le _, fun before hbefore => (hcondition before hbefore).lift (by omega)⟩

theorem binaryTail_meets {m : Nat} {t : Tree} (h : step read (.binaryTail m t) ts = some r) :
    (Goal.binaryTail m t).Meets ts r := by
  have hdone : OperatorBelow m ts → (Goal.binaryTail m t).Meets ts (t, ts) := by
    refine fun hbelow => ⟨[], rfl, le_rfl, fun before n hmn hn hbefore _ => ⟨?_, hbelow⟩⟩
    rw [List.append_nil]
    exact hbefore.weaken hmn (by omega)
  unfold step at h
  dsimp only at h
  split at h
  · rename_i operator rest
    split at h
    · rename_i k hlevel
      obtain ⟨-, hhigh⟩ := binaryLevel?_bounds hlevel
      split at h
      · rename_i hmk
        obtain ⟨⟨u, after⟩, hoperand, hright⟩ := Option.bind_eq_some_iff.1 h
        obtain ⟨used, rfl, -, hunary⟩ := ih hoperand
        obtain ⟨⟨v, after'⟩, hoperand', htail⟩ := Option.bind_eq_some_iff.1 hright
        obtain ⟨more, rfl, -, hmore⟩ := ih hoperand'
        obtain ⟨last, rfl, -, hlast⟩ := ih htail
        refine ⟨.operator operator :: used ++ more ++ last, by simp, Nat.zero_le _,
          fun before n hmn hn hbefore hbelow => ?_⟩
        have hkn : k < n + 1 := hbelow operator _ k rfl hlevel
        -- The right operand takes every operator that binds more tightly, so what is left continues at `k`.
        obtain ⟨hderives, hnext⟩ := hmore used 14 (by omega) le_rfl hunary (.above (by omega) _)
        have hleft : Derives (.level k) before t := hbefore.weaken (by omega) (by omega)
        simpa using hlast _ k hmk (by omega) (hleft.binary hlevel hderives) hnext
      · rename_i hmk
        cases h
        exact hdone (.of_level hlevel (by omega) rest)
    · rename_i hlevel
      cases h
      exact hdone (.of_none hlevel m rest)
  · rename_i hno
    cases h
    exact hdone fun operator rest j he _ => absurd he (hno operator rest)

theorem unary_meets (h : step read .unary ts = some r) : Goal.unary.Meets ts r := by
  unfold step at h
  dsimp only at h
  split at h
  · split at h
    · rename_i operator rest hoperator
      obtain ⟨⟨t, rest⟩, hoperand, hresult⟩ := Option.bind_eq_some_iff.1 h
      cases hresult
      obtain ⟨used, rfl, -, hderives⟩ := ih hoperand
      exact ⟨.operator operator :: used, rfl, by simp [Goal.least], hderives.unary hoperator⟩
    · cases h
  · obtain ⟨⟨t, rest⟩, hfirst, htail⟩ := Option.bind_eq_some_iff.1 h
    obtain ⟨used, rfl, hused, hderives⟩ := ih hfirst
    obtain ⟨more, rfl, -, hmore⟩ := ih htail
    exact ⟨used ++ more, by simp, hused.trans (by simp), (hmore used hderives).lift (by omega)⟩

theorem suffixTail_meets {t : Tree} (h : step read (.suffixTail t) ts = some r) :
    (Goal.suffixTail t).Meets ts r := by
  have hdone : (Goal.suffixTail t).Meets ts (t, ts) :=
    ⟨[], rfl, le_rfl, fun before hbefore => by rwa [List.append_nil]⟩
  -- The tail goes on from the tree of the phrase with one more suffix.
  have hnext : ∀ (used : List Token) {rest : List Token} {u : Tree}, read (.suffixTail u) rest = some r →
      ts = used ++ rest → (∀ before, Derives (.level 15) before t → Derives (.level 15) (before ++ used) u) →
      (Goal.suffixTail t).Meets ts r := by
    rintro used rest u hread rfl hu
    obtain ⟨more, rfl, -, hmore⟩ := ih hread
    refine ⟨used ++ more, by simp, Nat.zero_le _, fun before hbefore => ?_⟩
    rw [← List.append_assoc]
    exact hmore _ (hu before hbefore)
  unfold step at h
  dsimp only at h
  split at h
  · obtain ⟨⟨u, rest⟩, hposition, htail⟩ := Option.bind_eq_some_iff.1 h
    obtain ⟨used, rfl, -, hderives⟩ := ih hposition
    split at htail
    · rename_i he
      obtain ⟨rfl, rfl⟩ := Prod.mk.inj he
      refine hnext (.leftBracket :: used ++ [.rightBracket]) htail (by simp) fun before hbefore => ?_
      simpa using hbefore.index hderives
    · cases htail
  · obtain ⟨⟨u, rest⟩, hcall, htail⟩ := Option.bind_eq_some_iff.1 h
    obtain ⟨used, rfl, -, hmakes⟩ := ih hcall
    refine hnext (.leftParen :: used) htail rfl fun before hbefore => ?_
    simpa using hmakes _ hbefore.header
  · rename_i text rest
    split at h
    · cases h
    · rename_i htext
      exact hnext [.dot, .word text] h rfl fun before hbefore =>
        hbefore.member (Bool.eq_false_iff.2 htext)
  · cases h
  · rename_i operator rest
    split at h
    · rename_i hoperator
      exact hnext [.operator operator] h rfl fun before hbefore => hbefore.suffix hoperator
    · cases h
      exact hdone
  · cases h
    exact hdone

theorem primary_meets (h : step read .primary ts = some r) : Goal.primary.Meets ts r := by
  have hone : ∀ {token : Token} {t : Tree} {rest : List Token}, Derives (.level 16) [token] t →
      Goal.primary.Meets (token :: rest) (t, rest) :=
    fun hderives => ⟨[_], rfl, le_rfl, hderives.lift (by omega)⟩
  unfold step at h
  dsimp only at h
  split at h
  · cases h
    exact hone (.number _)
  · split at h
    · rename_i hboolean
      cases h
      exact hone (.boolean hboolean)
    · split at h
      · rename_i htype
        obtain ⟨used, rfl, -, hmakes⟩ := ih h
        exact ⟨_ :: used, rfl, by simp [Goal.least], hmakes _ (.type htype)⟩
      · split at h
        · cases h
        · rename_i hkeyword
          cases h
          exact hone (.name (Bool.eq_false_iff.2 hkeyword))
  · obtain ⟨⟨t, rest⟩, hinner, hresult⟩ := Option.bind_eq_some_iff.1 h
    obtain ⟨used, rfl, -, hderives⟩ := ih hinner
    split at hresult
    · rename_i he
      obtain ⟨rfl, rfl⟩ := Prod.mk.inj he
      cases hresult
      exact ⟨.leftParen :: used ++ [.rightParen], by simp, by simp [Goal.least],
        .lift (by omega) (.group hderives)⟩
    · cases hresult
  · cases h

theorem typeTail_meets {t : Tree} (h : step read (.typeTail t) ts = some r) : (Goal.typeTail t).Meets ts r := by
  unfold step at h
  dsimp only at h
  split at h
  · obtain ⟨⟨u, rest⟩, hfirst, htail⟩ := Option.bind_eq_some_iff.1 h
    obtain ⟨used, rfl, -, hunary⟩ := ih hfirst
    obtain ⟨⟨v, rest'⟩, hsize, hclose⟩ := Option.bind_eq_some_iff.1 htail
    obtain ⟨more, rfl, -, hmore⟩ := ih hsize
    split at hclose
    · rename_i he
      obtain ⟨rfl, rfl⟩ := Prod.mk.inj he
      obtain ⟨last, rfl, -, hlast⟩ := ih hclose
      refine ⟨.leftBracket :: used ++ more ++ .rightBracket :: last, by simp, Nat.zero_le _,
        fun before hbefore => ?_⟩
      simpa using hlast _ (hbefore.arrayType (hmore used hunary))
    · cases hclose
  · obtain ⟨used, rfl, -, hmakes⟩ := ih h
    refine ⟨.leftParen :: used, rfl, Nat.zero_le _, fun before hbefore => ?_⟩
    simpa using hmakes _ hbefore.typeHeader
  · cases h

theorem arguments_meets {callee : Tree} (h : step read (.arguments callee) ts = some r) :
    (Goal.arguments callee).Meets ts r := by
  unfold step at h
  dsimp only at h
  split at h
  · cases h
    exact ⟨[.rightParen], rfl, le_rfl, fun before hbefore => hbefore.emptyCall⟩
  · obtain ⟨⟨u, rest⟩, hfirst, htail⟩ := Option.bind_eq_some_iff.1 h
    obtain ⟨used, rfl, hused, hderives⟩ := ih hfirst
    obtain ⟨more, rfl, -, hmore⟩ := ih htail
    refine ⟨used ++ more, by simp, hused.trans (by simp), fun before hbefore => ?_⟩
    simpa using hmore _ (hbefore.firstArgument hderives)

theorem argumentsTail_meets {callee : Tree} {args : List Tree}
    (h : step read (.argumentsTail callee args) ts = some r) : (Goal.argumentsTail callee args).Meets ts r := by
  unfold step at h
  dsimp only at h
  split at h
  · cases h
    exact ⟨[.rightParen], rfl, le_rfl, fun before hbefore => hbefore.call⟩
  · obtain ⟨⟨u, rest⟩, hnext, htail⟩ := Option.bind_eq_some_iff.1 h
    obtain ⟨used, rfl, -, hderives⟩ := ih hnext
    obtain ⟨more, rfl, -, hmore⟩ := ih htail
    refine ⟨.comma :: used ++ more, by simp, by simp [Goal.least], fun before hbefore => ?_⟩
    simpa using hmore _ (hbefore.nextArgument hderives)
  · cases h

theorem step_meets {goal : Goal} (h : step read goal ts = some r) : goal.Meets ts r := by
  cases goal with
  | expression => exact expression_meets ih h
  | sequenceTail t => exact sequenceTail_meets ih h
  | assignment => exact assignment_meets ih h
  | conditionalTail t => exact conditionalTail_meets ih h
  | binaryTail level t => exact binaryTail_meets ih h
  | unary => exact unary_meets ih h
  | suffixTail t => exact suffixTail_meets ih h
  | primary => exact primary_meets ih h
  | typeTail t => exact typeTail_meets ih h
  | arguments callee => exact arguments_meets ih h
  | argumentsTail callee args => exact argumentsTail_meets ih h

end Step

theorem readWithin_meets (n : Nat) {goal : Goal} {ts : List Token} {r : Tree × List Token}
    (h : readWithin n goal ts = some r) : goal.Meets ts r := by
  induction n generalizing goal ts r with
  | zero => cases h
  | succ n ih => exact step_meets ih h

/-! ### The depth that suffices -/

namespace Goal

/-- A goal that reads another one from the same tokens has the higher rank. -/
def rank : Goal → Nat
  | .arguments _ => 4
  | .expression => 3
  | .assignment => 2
  | .unary | .conditionalTail _ => 1
  | .sequenceTail _ | .binaryTail _ _ | .suffixTail _ | .primary | .typeTail _ | .argumentsTail _ _ => 0

/-- One token fewer outweighs any difference in rank. -/
def weight (goal : Goal) (ts : List Token) : Nat := 5 * ts.length + goal.rank

theorem weight_lt_of_rank {next goal : Goal} (h : next.rank < goal.rank) (ts : List Token) :
    next.weight ts < goal.weight ts :=
  Nat.add_lt_add_left h _

theorem weight_lt_of_length {rest ts : List Token} (h : rest.length < ts.length) (next goal : Goal) :
    next.weight rest < goal.weight ts := by
  have hrank : next.rank ≤ 4 := by
    unfold rank
    split <;> omega
  unfold weight
  omega

end Goal

/-- Reading leaves fewer tokens, by as many as the goal reads at least. -/
theorem length_of_readWithin {n : Nat} {goal : Goal} {ts : List Token} {r : Tree × List Token}
    (h : readWithin n goal ts = some r) : r.2.length + goal.least ≤ ts.length := by
  obtain ⟨used, rfl, hused, -⟩ := readWithin_meets n h
  rw [List.length_append]
  omega

theorem bind_congr_of_eq {α β : Type} {a b : Option α} {k l : α → Option β} (hab : a = b)
    (h : ∀ x, a = some x → k x = l x) : a.bind k = b.bind l := by
  rw [← hab]
  exact Option.bind_congr h

/-- A step depends on its reader only for goals of lower rank and for fewer tokens. -/
theorem step_congr {f g : Reader} (hf : ∀ {goal ts r}, f goal ts = some r → r.2.length + goal.least ≤ ts.length)
    {goal : Goal} {ts : List Token} (hsame : ∀ next : Goal, next.rank < goal.rank → f next ts = g next ts)
    (hless : ∀ next rest, rest.length < ts.length → f next rest = g next rest) :
    step f goal ts = step g goal ts := by
  -- A goal that is read first has the tokens of the step and a lower rank; any later one has what that goal left.
  cases goal with
  | expression =>
    refine bind_congr_of_eq (hsame .assignment (by decide)) fun p hp => ?_
    exact hless _ _ (hf hp)
  | sequenceTail t =>
    unfold step
    dsimp only
    split
    · refine bind_congr_of_eq (hless _ _ (Nat.lt_succ_self _)) fun p hp => ?_
      exact hless _ _ (Nat.lt_succ_of_lt (hf hp))
    · rfl
  | assignment =>
    refine bind_congr_of_eq (hsame .unary (by decide)) fun p hp => ?_
    dsimp only
    split
    · split
      · rename_i he _
        refine bind_congr_of_eq (hless _ _ ?_) fun q _ => rfl
        have hlt : p.2.length < ts.length := hf hp
        rw [he] at hlt
        exact Nat.lt_of_succ_lt hlt
      · exact hless _ _ (hf hp)
    · exact hless _ _ (hf hp)
  | conditionalTail t =>
    refine bind_congr_of_eq (hsame (.binaryTail 3 t) Nat.zero_lt_one) fun p hp => ?_
    have hle : p.2.length ≤ ts.length := hf hp
    dsimp only
    split
    · rename_i rest he
      rw [he] at hle
      refine bind_congr_of_eq (hless _ _ hle) fun q hq => ?_
      have hlt : q.2.length < rest.length := hf hq
      split
      · refine bind_congr_of_eq (hless _ _ ?_) fun _ _ => rfl
        simp only [List.length_cons] at hle hlt
        omega
      · rfl
    · rfl
  | binaryTail level t =>
    unfold step
    dsimp only
    split
    · split
      · split
        · refine bind_congr_of_eq (hless _ _ (Nat.lt_succ_self _)) fun p hp => ?_
          have hlt := Nat.lt_succ_of_lt (hf hp)
          refine bind_congr_of_eq (hless _ _ hlt) fun q hq => ?_
          exact hless _ _ (lt_of_le_of_lt (hf hq) hlt)
        · rfl
      · rfl
    · rfl
  | unary =>
    unfold step
    dsimp only
    split
    · split
      · exact bind_congr_of_eq (hless _ _ (Nat.lt_succ_self _)) fun _ _ => rfl
      · rfl
    · refine bind_congr_of_eq (hsame .primary (by decide)) fun p hp => ?_
      exact hless _ _ (hf hp)
  | suffixTail t =>
    unfold step
    dsimp only
    split
    · refine bind_congr_of_eq (hless _ _ (Nat.lt_succ_self _)) fun p hp => ?_
      have hlt := Nat.lt_succ_of_lt (hf hp)
      split
      · exact hless _ _ (Nat.lt_of_succ_lt hlt)
      · rfl
    · refine bind_congr_of_eq (hless _ _ (Nat.lt_succ_self _)) fun p hp => ?_
      exact hless _ _ (Nat.lt_succ_of_lt (hf hp))
    · split
      · rfl
      · exact hless _ _ (Nat.lt_succ_of_lt (Nat.lt_succ_self _))
    · rfl
    · split
      · exact hless _ _ (Nat.lt_succ_self _)
      · rfl
    · rfl
  | primary =>
    unfold step
    dsimp only
    split
    · rfl
    · split
      · rfl
      · split
        · exact hless _ _ (Nat.lt_succ_self _)
        · rfl
    · exact bind_congr_of_eq (hless _ _ (Nat.lt_succ_self _)) fun _ _ => rfl
    · rfl
  | typeTail t =>
    unfold step
    dsimp only
    split
    · refine bind_congr_of_eq (hless _ _ (Nat.lt_succ_self _)) fun p hp => ?_
      have hlt := Nat.lt_succ_of_lt (hf hp)
      refine bind_congr_of_eq (hless _ _ hlt) fun q hq => ?_
      have hlt' := lt_of_le_of_lt (hf hq) hlt
      split
      · exact hless _ _ (Nat.lt_of_succ_lt hlt')
      · rfl
    · exact hless _ _ (Nat.lt_succ_self _)
    · rfl
  | arguments callee =>
    unfold step
    dsimp only
    split
    · rfl
    · refine bind_congr_of_eq (hsame .assignment (by simp [Goal.rank])) fun p hp => ?_
      exact hless _ _ (hf hp)
  | argumentsTail callee args =>
    unfold step
    dsimp only
    split
    · rfl
    · refine bind_congr_of_eq (hless _ _ (Nat.lt_succ_self _)) fun p hp => ?_
      exact hless _ _ (Nat.lt_succ_of_lt (hf hp))
    · rfl

def read (goal : Goal) (ts : List Token) : Option (Tree × List Token) :=
  readWithin (goal.weight ts + 1) goal ts

theorem readWithin_eq_read {n : Nat} {goal : Goal} {ts : List Token} (h : goal.weight ts < n) :
    readWithin n goal ts = read goal ts := by
  induction n using Nat.strong_induction_on generalizing goal ts with
  | _ n ih =>
    obtain ⟨m, rfl⟩ : ∃ m, n = m + 1 := ⟨n - 1, by omega⟩
    -- The step of `read` is as deep as the weight, which is at most `m`: the induction serves both depths.
    have hagree : ∀ next rest, Goal.weight next rest < goal.weight ts →
        readWithin m next rest = readWithin (goal.weight ts) next rest := by
      intro next rest hnext
      rw [ih m (by omega) (by omega), ih (goal.weight ts) h hnext]
    exact step_congr length_of_readWithin (fun next hnext => hagree next ts (Goal.weight_lt_of_rank hnext ts))
      fun next rest hrest => hagree next rest (Goal.weight_lt_of_length hrest next goal)

theorem read_eq (goal : Goal) (ts : List Token) : read goal ts = step read goal ts :=
  step_congr length_of_readWithin (fun _ hnext => readWithin_eq_read (Goal.weight_lt_of_rank hnext ts))
    fun next _ hrest => readWithin_eq_read (Goal.weight_lt_of_length hrest next goal)

end Parser

/-- The tree of a list of tokens that is an expression as a whole. -/
def parse (ts : List Token) : Option Tree :=
  match Parser.read .expression ts with
  | some (t, []) => some t
  | _ => none

theorem derives_of_parse {ts : List Token} {t : Tree} (h : parse ts = some t) : Derives (.level 0) ts t := by
  unfold parse at h
  split at h
  · rename_i u hread
    cases h
    obtain ⟨used, rfl, -, hderives⟩ := Parser.readWithin_meets _ hread
    rwa [List.append_nil]
  · cases h

end GlslCompiler.Grammar

import GlslCompiler.Proofs.Number.Overflow
import GlslCompiler.Proofs.Writer.Fragments

/-!
# How writing fails

Writing a program fails because of a literal or not at all. The literals that are written stand in an order: that of
the declarations, of the statements and of the parts of an expression. A clause of a loop header that its statement
leaves empty has none, whatever the statement holds. Where literals fail, the error is that of the first.

`Follows` says this of one computation and the literals that it writes. It goes over from the parts of a text to the
whole, so the theorem is an induction over the syntax with one step for each form.
-/

namespace GlslCompiler

/-- A literal as an expression has it. -/
structure Literal where
  value : Value
  type : GlslType

/-- The literals that have no text, each with its error. -/
inductive Literal.Fails : Literal → LiteralError → Prop where
  | missingFloat {type : GlslType} (htype : type.base = "float") : Fails ⟨.scalar .missing, type⟩ .missingFloat
  | floatOverflow {type : GlslType} {n : Int} {r : Nat} (htype : type.base = "float") (hround : RoundsTo n.natAbs r)
      (hlarge : 2 ^ 1024 ≤ r) : Fails ⟨.scalar (.int n), type⟩ .floatOverflow
  | missingInteger {type : GlslType} (htype : type.base ∈ ["int", "uint"]) :
      Fails ⟨.scalar .missing, type⟩ .missingInteger
  | infinityToInteger {type : GlslType} {negative : Bool} (htype : type.base ∈ ["int", "uint"]) :
      Fails ⟨.scalar (.float (.infinite negative)), type⟩ .infinityToInteger
  | nanToInteger {type : GlslType} (htype : type.base ∈ ["int", "uint"]) :
      Fails ⟨.scalar (.float .nan), type⟩ .nanToInteger

/-! ### Single literals -/

theorem Scalar.toDouble_int_eq_error_iff {n : Int} {e : LiteralError} :
    (Scalar.int n).toDouble = .error e ↔ e = .floatOverflow ∧ ∃ sign, Double.ofInt n = .infinite sign := by
  unfold toDouble
  dsimp only
  split
  · rename_i sign hsign
    simp [hsign, eq_comm]
  · rename_i hfinite
    refine iff_of_false (by simp) ?_
    rintro ⟨-, sign, hsign⟩
    exact hfinite sign hsign

theorem map_eq_error_iff {α β : Type} {x : Except LiteralError α} {f : α → β} {e : LiteralError} :
    x.map f = .error e ↔ x = .error e := by
  cases x <;> simp [Except.map]

theorem literalText_float (tier : Tier) (value : Scalar) :
    literalText tier (.scalar value) "float" = value.toDouble.map floatText := rfl

theorem literalText_integer (tier : Tier) (value : Scalar) {base : String} (h : base ∈ ["int", "uint"]) :
    literalText tier (.scalar value) base = value.toInteger.map toString := by
  rcases List.mem_pair.1 h with rfl | rfl <;> rfl

theorem literalText_other (tier : Tier) (value : Scalar) {base : String} (hfloat : base ≠ "float")
    (hinteger : base ∉ ["int", "uint"]) : ∃ text, literalText tier (.scalar value) base = .ok text := by
  rw [List.mem_pair] at hinteger
  unfold literalText
  dsimp only
  rw [if_neg hfloat, if_neg hinteger]
  split
  · exact ⟨_, rfl⟩
  · exact ⟨_, rfl⟩

/-- A literal has no text in any dialect just if it is one of those listed. -/
theorem literalText_eq_error_iff (tier : Tier) (l : Literal) (e : LiteralError) :
    literalText tier l.value l.type.base = .error e ↔ l.Fails e := by
  obtain ⟨value, type⟩ := l
  dsimp only
  constructor
  · intro h
    cases value with
    | spelling text => cases h
    | scalar value =>
      by_cases hfloat : type.base = "float"
      · rw [hfloat, literalText_float, map_eq_error_iff] at h
        cases value with
        | int n =>
          obtain ⟨rfl, hinfinite⟩ := Scalar.toDouble_int_eq_error_iff.1 h
          obtain ⟨r, hround, hlarge⟩ := (Double.ofInt_infinite_iff n).1 hinfinite
          exact .floatOverflow hfloat hround hlarge
        | float x => cases h
        | bool b => cases h
        | missing =>
          cases h
          exact .missingFloat hfloat
      · by_cases hinteger : type.base ∈ ["int", "uint"]
        · rw [literalText_integer tier value hinteger, map_eq_error_iff] at h
          match value with
          | .int n => cases h
          | .float .nan =>
            cases h
            exact .nanToInteger hinteger
          | .float (.infinite negative) =>
            cases h
            exact .infinityToInteger hinteger
          | .float (.finite negative significand exponent) => cases h
          | .bool b => cases h
          | .missing =>
            cases h
            exact .missingInteger hinteger
        · obtain ⟨text, htext⟩ := literalText_other tier value hfloat hinteger
          rw [htext] at h
          cases h
  · intro h
    cases h with
    | missingFloat htype =>
      rw [htype]
      rfl
    | floatOverflow htype hround hlarge =>
      rw [htype, literalText_float, map_eq_error_iff, Scalar.toDouble_int_eq_error_iff]
      exact ⟨rfl, (Double.ofInt_infinite_iff _).2 ⟨_, hround, hlarge⟩⟩
    | missingInteger htype =>
      rw [literalText_integer tier _ htype]
      rfl
    | infinityToInteger htype =>
      rw [literalText_integer tier _ htype]
      rfl
    | nanToInteger htype =>
      rw [literalText_integer tier _ htype]
      rfl

theorem Literal.Fails.unique {l : Literal} {e e' : LiteralError} (h : l.Fails e) (h' : l.Fails e') : e = e' := by
  rw [← literalText_eq_error_iff .desktop] at h h'
  exact Except.error.inj (h.symm.trans h')

/-! ### The literals that are written -/

def Expr.literal? : Expr → Option Literal
  | .literal value type => some ⟨value, type⟩
  | _ => none

/-- The literals of an expression, in the order in which they are written. -/
def Expr.literals (e : Expr) : List Literal := e.parts.filterMap Expr.literal?

def Fragment.literals : Fragment → List Literal
  | .expression e => e.literals
  | _ => []

/-- The literals of a declaration: only the body of a function has any. A clause of a loop header has those of what is
written in it. -/
def Decl.literals : Decl → List Literal
  | .function f => (Stmt.allFragments f.body).flatMap Fragment.literals
  | _ => []

def Program.literals (program : Program) : List Literal := program.flatMap Decl.literals

/-! ### The first failure -/

/-- The error is that of the first literal that fails. -/
inductive FirstFails : List Literal → LiteralError → Prop where
  | here {l : Literal} {ls : List Literal} {e : LiteralError} (h : l.Fails e) : FirstFails (l :: ls) e
  | later {l : Literal} {ls : List Literal} {e : LiteralError} (h : ∀ e', ¬ l.Fails e') (hrest : FirstFails ls e) :
      FirstFails (l :: ls) e

namespace FirstFails

variable {ls ms : List Literal} {e e' : LiteralError}

theorem unique (h : FirstFails ls e) (h' : FirstFails ls e') : e = e' := by
  induction h with
  | here h =>
    cases h' with
    | here h' => exact h.unique h'
    | later hnone => exact absurd h (hnone _)
  | later hnone _ ih =>
    cases h' with
    | here h' => exact absurd h' (hnone _)
    | later _ hrest => exact ih hrest

theorem append_right (h : FirstFails ls e) (ms : List Literal) : FirstFails (ls ++ ms) e := by
  induction h with
  | here h => exact .here h
  | later hnone _ ih => exact .later hnone ih

theorem append_left (hnone : ∀ l ∈ ls, ∀ e', ¬ l.Fails e') (h : FirstFails ms e) : FirstFails (ls ++ ms) e := by
  induction ls with
  | nil => exact h
  | cons l rest ih =>
    obtain ⟨hl, hrest⟩ := List.forall_mem_cons.1 hnone
    exact .later hl (ih hrest)

theorem exists_mem (h : FirstFails ls e) : ∃ l ∈ ls, l.Fails e := by
  induction h with
  | here h => exact ⟨_, List.mem_cons_self, h⟩
  | later _ _ ih =>
    obtain ⟨l, hl, h⟩ := ih
    exact ⟨l, List.mem_cons_of_mem _ hl, h⟩

end FirstFails

/-- The computation has a result and none of the literals fails, or it ends as the first that fails. -/
def Follows {α : Type} (ls : List Literal) (x : Except LiteralError α) : Prop :=
  (∃ a, x = .ok a ∧ ∀ l ∈ ls, ∀ e, ¬ l.Fails e) ∨ ∃ e, x = .error e ∧ FirstFails ls e

namespace Follows

variable {α β : Type} {ls ms : List Literal} {x : Except LiteralError α}

theorem ok (a : α) : Follows [] (.ok a : Except LiteralError α) := by
  refine .inl ⟨a, rfl, ?_⟩
  intro l hl
  cases hl

theorem map (h : Follows ls x) (f : α → β) : Follows ls (x.map f) := by
  rcases h with ⟨a, rfl, hnone⟩ | ⟨e, rfl, hfirst⟩
  · exact .inl ⟨f a, rfl, hnone⟩
  · exact .inr ⟨e, rfl, hfirst⟩

/-- A last part of the text is put into the whole. -/
theorem last (h : Follows ls x) (f : α → β) : Follows ls (x >>= fun a => .ok (f a)) := by
  apply h.map

theorem bind {f : α → Except LiteralError β} (h : Follows ls x) (hf : ∀ a, Follows ms (f a)) :
    Follows (ls ++ ms) (x >>= f) := by
  rcases h with ⟨a, rfl, hnone⟩ | ⟨e, rfl, hfirst⟩
  · show Follows (ls ++ ms) (f a)
    rcases hf a with ⟨b, hb, hnone'⟩ | ⟨e, he, hfirst⟩
    · refine .inl ⟨b, hb, ?_⟩
      intro l hl
      rcases List.mem_append.1 hl with hl | hl
      · exact hnone l hl
      · exact hnone' l hl
    · exact .inr ⟨e, he, hfirst.append_left hnone⟩
  · exact .inr ⟨e, rfl, hfirst.append_right ms⟩

theorem literal (tier : Tier) (value : Value) (type : GlslType) :
    Follows [⟨value, type⟩] (literalText tier value type.base) := by
  have hfails := literalText_eq_error_iff tier ⟨value, type⟩
  dsimp only at hfails
  cases h : literalText tier value type.base with
  | ok text =>
    refine .inl ⟨text, rfl, ?_⟩
    intro l hl e hl'
    rw [List.mem_singleton.1 hl, ← hfails, h] at hl'
    cases hl'
  | error e => exact .inr ⟨e, rfl, .here ((hfails e).1 h)⟩

theorem error_iff (h : Follows ls x) (e : LiteralError) : x = .error e ↔ FirstFails ls e := by
  rcases h with ⟨a, rfl, hnone⟩ | ⟨e', rfl, hfirst⟩
  · refine iff_of_false (by simp) ?_
    intro hfirst
    obtain ⟨l, hl, hfails⟩ := hfirst.exists_mem
    exact hnone l hl e hfails
  · constructor
    · intro he
      rwa [← Except.error.inj he]
    · intro he
      rw [hfirst.unique he]

theorem ok_iff (h : Follows ls x) : (∃ a, x = .ok a) ↔ ∀ l ∈ ls, ∀ e, ¬ l.Fails e := by
  rcases h with ⟨a, rfl, hnone⟩ | ⟨e, rfl, hfirst⟩
  · exact iff_of_true ⟨a, rfl⟩ hnone
  · refine iff_of_false (by simp) ?_
    intro hnone
    obtain ⟨l, hl, hfails⟩ := hfirst.exists_mem
    exact hnone l hl e hfails

end Follows

/-! ### Writing, form by form -/

section Writing

variable (tier : Tier)

mutual

theorem Expr.text_follows : ∀ e : Expr, Follows e.literals (e.text tier)
  | .literal value type => .literal tier value type
  | .name identifier => .ok identifier
  | .binary operator left right => by
    rw [Expr.literals, Expr.parts, List.filterMap_cons_none rfl, List.filterMap_append]
    exact .bind (text_follows left) fun _ => .last (text_follows right) _
  | .unary _ operand => .last (text_follows operand) _
  | .call _ arguments => .last (texts_follow arguments) _
  | .construct _ arguments => .last (texts_follow arguments) _
  | .swizzle base _ => .last (text_follows base) _
  | .field base _ => .last (text_follows base) _
  | .index base position => by
    rw [Expr.literals, Expr.parts, List.filterMap_cons_none rfl, List.filterMap_append]
    exact .bind (text_follows base) fun _ => .last (text_follows position) _
  | .conditional condition whenTrue whenFalse => by
    rw [Expr.literals, Expr.parts, List.filterMap_cons_none rfl, List.filterMap_append, List.filterMap_append,
      List.append_assoc]
    exact .bind (text_follows condition) fun _ => .bind (text_follows whenTrue) fun _ =>
      .last (text_follows whenFalse) _
  | .unknown => .ok ""

theorem Expr.texts_follow : ∀ es : List Expr,
    Follows ((Expr.allParts es).filterMap Expr.literal?) (Expr.texts tier es)
  | [] => .ok []
  | e :: rest => by
    rw [Expr.allParts, List.filterMap_append]
    exact .bind (text_follows e) fun _ => .last (texts_follow rest) _

end

/-- The computation writes the fragments, so that it ends as the first of their literals that fails. -/
abbrev Writes {α : Type} (fragments : List Fragment) (x : Except LiteralError α) : Prop :=
  Follows (fragments.flatMap Fragment.literals) x

theorem Writes.bind {α β : Type} {fragments others : List Fragment} {x : Except LiteralError α}
    {f : α → Except LiteralError β} (h : Writes fragments x) (hf : ∀ a, Writes others (f a)) :
    Writes (fragments ++ others) (x >>= f) := by
  rw [Writes, List.flatMap_append]
  exact Follows.bind h hf

theorem Expr.text_writes (e : Expr) : Writes [.expression e] (e.text tier) := by
  rw [Writes, List.flatMap_singleton]
  exact e.text_follows tier

theorem Expr.optionalText_writes (e : Option Expr) : Writes (Fragment.ofOption e) (Expr.optionalText tier e) := by
  cases e with
  | none => exact .ok ""
  | some e => exact e.text_writes tier

theorem assignmentText_writes (target value : Expr) :
    Writes [.expression target, .expression value] (assignmentText tier target value) :=
  Writes.bind (target.text_writes tier) fun _ => .last (value.text_writes tier) _

theorem augmentText_writes (target : Expr) (operator : String) (value : Expr) :
    Writes [.expression target, .operator operator, .expression value] (augmentText tier target operator value) :=
  Writes.bind (target.text_writes tier) fun _ => .last (value.text_writes tier) _

theorem Stmt.initialClause_writes (s : Option Stmt) :
    Writes (Stmt.initialFragments s) (Stmt.initialClause tier s) := by
  match s with
  | some (.declare v (some initial)) => exact .last (initial.text_writes tier) _
  | some (.assign target value) => exact assignmentText_writes tier target value
  | some (.declare _ none) | none | some (.augment _ _ _) | some (.ret _) | some (.branch _ _ _)
  | some (.forLoop _ _ _ _) | some (.whileLoop _ _) | some (.expression _) | some .breakLoop | some .continueLoop
  | some .discard | some .unknown => exact .ok _

theorem Stmt.updateClause_writes (s : Option Stmt) : Writes (Stmt.updateFragments s) (Stmt.updateClause tier s) := by
  match s with
  | some (.assign target value) => exact assignmentText_writes tier target value
  | some (.augment target operator value) => exact augmentText_writes tier target operator value
  | some (.expression value) => exact value.text_writes tier
  | none | some (.declare _ _) | some (.ret _) | some (.branch _ _ _) | some (.forLoop _ _ _ _)
  | some (.whileLoop _ _) | some .breakLoop | some .continueLoop | some .discard | some .unknown => exact .ok _

mutual

theorem Stmt.lines_write : ∀ (s : Stmt) (depth : Int), Writes s.fragments (s.lines tier depth)
  | .declare _ (some initial), _ => .last (initial.text_writes tier) _
  | .declare _ none, _ => .ok _
  | .assign target value, _ => .last (assignmentText_writes tier target value) _
  | .augment target operator value, _ => .last (augmentText_writes tier target operator value) _
  | .ret (some value), _ => .last (value.text_writes tier) _
  | .ret none, _ => .ok _
  | .branch condition whenTrue whenFalse, depth =>
    Writes.bind (condition.text_writes tier) fun _ => Writes.bind (bodyLines_write whenTrue (depth + 1)) fun _ =>
      .last (bodyLines_write whenFalse (depth + 1)) _
  | .forLoop initial condition update body, depth => by
    rw [Stmt.fragments, List.append_assoc, List.append_assoc]
    exact Writes.bind (Stmt.initialClause_writes tier initial) fun _ =>
      Writes.bind (Expr.optionalText_writes tier condition) fun _ =>
        Writes.bind (Stmt.updateClause_writes tier update) fun _ => .last (bodyLines_write body (depth + 1)) _
  | .whileLoop condition body, depth =>
    Writes.bind (condition.text_writes tier) fun _ => .last (bodyLines_write body (depth + 1)) _
  | .expression value, _ => .last (value.text_writes tier) _
  | .breakLoop, _ => .ok _
  | .continueLoop, _ => .ok _
  | .discard, _ => .ok _
  | .unknown, _ => .ok _

theorem Stmt.bodyLines_write : ∀ (body : List Stmt) (depth : Int),
    Writes (Stmt.allFragments body) (Stmt.bodyLines tier body depth)
  | [], _ => .ok []
  | s :: rest, depth => Writes.bind (lines_write s depth) fun _ => .last (bodyLines_write rest depth) _

end

theorem Decl.lines_follow (d : Decl) : Follows d.literals (d.lines tier) := by
  cases d with
  | function f => exact .map (.last (Stmt.bodyLines_write tier f.body 1) _) _
  | struct | block | global | unknown => exact .ok _

theorem Program.lines_follow (program : Program) : Follows program.literals (program.lines tier) := by
  induction program with
  | nil => exact .ok []
  | cons d rest ih => exact .bind (d.lines_follow tier) fun _ => .last ih _

/-- A program has no text just if one of its written literals has none, the error being that of the first such literal;
which literals have no text does not depend on the dialect. -/
theorem Program.text_fails (program : Program) :
    (∀ e, program.text tier = .error e ↔ FirstFails program.literals e) ∧
    ((∃ e, program.text tier = .error e) ↔ ∃ l ∈ program.literals, ∃ e, l.Fails e) ∧
    ((∃ text, program.text tier = .ok text) ↔ ∀ l ∈ program.literals, ∀ e, ¬ l.Fails e) ∧
    ∀ (l : Literal) (e : LiteralError), literalText tier l.value l.type.base = .error e ↔ l.Fails e := by
  have hfollows : Follows program.literals (program.text tier) := .last (program.lines_follow tier) _
  have hok := hfollows.ok_iff
  refine ⟨hfollows.error_iff, ?_, hok, literalText_eq_error_iff tier⟩
  have hsplit : (∃ e, program.text tier = .error e) ↔ ¬ ∃ text, program.text tier = .ok text := by
    cases program.text tier <;> simp
  rw [hsplit, hok]
  push Not
  exact Iff.rfl

end Writing

/-- A loop that begins with an expression does not write it, and goes on to the literal of its condition. -/
example :
    (Stmt.forLoop (some (.expression (.literal (.scalar .missing) ⟨"int", none⟩)))
      (some (.literal (.scalar (.float .nan)) ⟨"uint", none⟩)) none []).lines .es3 0 = .error .nanToInteger := rfl

end GlslCompiler

import Mathlib.Data.List.Forall2
import GlslCompiler.Proofs.Writer.Fragments

/-!
# What the dialects have in common

The writer consults the dialect in two places only: a literal kept from the source may lose its suffix, and a
uniform block may be written as one uniform for each member. Everything else, also how expressions are put in
parentheses, is decided on texts, and the texts are the same once the spellings are. So the modern ES dialect
writes a program as the desktop does with its spellings trimmed beforehand, and the legacy dialect writes it as the
modern one does but for the blocks.
-/

namespace GlslCompiler

/-! ### Spellings -/

/-- A value with another spelling. A value that was evaluated has none. -/
def Value.respell (f : String → String) : Value → Value
  | .spelling text => .spelling (f text)
  | .scalar value => .scalar value

mutual

/-- An expression with the spellings of all its literals replaced. -/
def Expr.respell (f : String → String) : Expr → Expr
  | .literal value type => .literal (value.respell f) type
  | .name identifier => .name identifier
  | .binary operator left right => .binary operator (left.respell f) (right.respell f)
  | .unary operator operand => .unary operator (operand.respell f)
  | .call function arguments => .call function (Expr.respellAll f arguments)
  | .construct type arguments => .construct type (Expr.respellAll f arguments)
  | .swizzle base components => .swizzle (base.respell f) components
  | .field base member => .field (base.respell f) member
  | .index base position => .index (base.respell f) (position.respell f)
  | .conditional condition whenTrue whenFalse =>
    .conditional (condition.respell f) (whenTrue.respell f) (whenFalse.respell f)
  | .unknown => .unknown

def Expr.respellAll (f : String → String) : List Expr → List Expr
  | [] => []
  | e :: rest => e.respell f :: Expr.respellAll f rest

end

mutual

/-- A statement with the spellings of all its literals replaced. -/
def Stmt.respell (f : String → String) : Stmt → Stmt
  | .declare var initial => .declare var (initial.map (Expr.respell f))
  | .assign target value => .assign (target.respell f) (value.respell f)
  | .augment target operator value => .augment (target.respell f) operator (value.respell f)
  | .ret value => .ret (value.map (Expr.respell f))
  | .branch condition whenTrue whenFalse =>
    .branch (condition.respell f) (Stmt.respellAll f whenTrue) (Stmt.respellAll f whenFalse)
  | .forLoop initial condition update body =>
    .forLoop (Stmt.respellOption f initial) (condition.map (Expr.respell f)) (Stmt.respellOption f update)
      (Stmt.respellAll f body)
  | .whileLoop condition body => .whileLoop (condition.respell f) (Stmt.respellAll f body)
  | .expression value => .expression (value.respell f)
  | .breakLoop => .breakLoop
  | .continueLoop => .continueLoop
  | .discard => .discard
  | .unknown => .unknown

def Stmt.respellAll (f : String → String) : List Stmt → List Stmt
  | [] => []
  | s :: rest => s.respell f :: Stmt.respellAll f rest

def Stmt.respellOption (f : String → String) : Option Stmt → Option Stmt
  | some s => some (s.respell f)
  | none => none

end

def Function.respell (f : String → String) (function : Function) : Function :=
  { function with body := Stmt.respellAll f function.body }

/-- Only functions hold literals. -/
def Decl.respell (f : String → String) : Decl → Decl
  | .function declaration => .function (declaration.respell f)
  | other => other

def Program.respell (f : String → String) (program : Program) : Program := program.map (Decl.respell f)

/-! ### Writing a respelled program -/

theorem Expr.precedence_respell (f : String → String) (e : Expr) : (e.respell f).precedence = e.precedence := by
  cases e <;> rfl

theorem Stmt.isEmpty_respellAll (f : String → String) (ss : List Stmt) :
    (Stmt.respellAll f ss).isEmpty = ss.isEmpty := by
  cases ss <;> rfl

/-- One dialect writes the respelled literals as another writes the literals. -/
def RespellsTo (f : String → String) (tier tier' : Tier) : Prop :=
  ∀ value base, literalText tier' (value.respell f) base = literalText tier value base

section Respelling

variable {f : String → String} {tier tier' : Tier}

mutual

theorem Expr.text_respell (h : RespellsTo f tier tier') : ∀ e : Expr, (e.respell f).text tier' = e.text tier
  | .literal value type => h value type.base
  | .name identifier => rfl
  | .binary operator left right => by
    simp only [Expr.respell, Expr.text, Expr.precedence_respell, text_respell h left, text_respell h right]
  | .unary operator operand => by
    simp only [Expr.respell, Expr.text, Expr.precedence_respell, text_respell h operand]
  | .call function arguments => by simp only [Expr.respell, Expr.text, texts_respell h arguments]
  | .construct type arguments => by simp only [Expr.respell, Expr.text, texts_respell h arguments]
  | .swizzle base components => by
    simp only [Expr.respell, Expr.text, Expr.precedence_respell, text_respell h base]
  | .field base member => by simp only [Expr.respell, Expr.text, Expr.precedence_respell, text_respell h base]
  | .index base position => by
    simp only [Expr.respell, Expr.text, Expr.precedence_respell, text_respell h base, text_respell h position]
  | .conditional condition whenTrue whenFalse => by
    simp only [Expr.respell, Expr.text, Expr.precedence_respell, text_respell h condition, text_respell h whenTrue,
      text_respell h whenFalse]
  | .unknown => rfl

theorem Expr.texts_respell (h : RespellsTo f tier tier') : ∀ es : List Expr,
    Expr.texts tier' (Expr.respellAll f es) = Expr.texts tier es
  | [] => rfl
  | e :: rest => by simp only [Expr.respellAll, Expr.texts, text_respell h e, texts_respell h rest]

end

theorem Expr.optionalText_respell (h : RespellsTo f tier tier') (e : Option Expr) :
    Expr.optionalText tier' (e.map (Expr.respell f)) = Expr.optionalText tier e := by
  cases e with
  | none => rfl
  | some e => exact Expr.text_respell h e

theorem assignmentText_respell (h : RespellsTo f tier tier') (target value : Expr) :
    assignmentText tier' (target.respell f) (value.respell f) = assignmentText tier target value := by
  simp only [assignmentText, Expr.text_respell h]

theorem augmentText_respell (h : RespellsTo f tier tier') (target : Expr) (operator : String) (value : Expr) :
    augmentText tier' (target.respell f) operator (value.respell f) = augmentText tier target operator value := by
  simp only [augmentText, Expr.text_respell h]

/-- A clause shows one statement and nothing below it. -/
theorem Stmt.initialClause_respell (h : RespellsTo f tier tier') (s : Option Stmt) :
    Stmt.initialClause tier' (Stmt.respellOption f s) = Stmt.initialClause tier s := by
  match s with
  | none => rfl
  | some (.declare var (some initial)) =>
    simp only [Stmt.respellOption, Stmt.respell, Option.map_some, Stmt.initialClause, Expr.text_respell h]
  | some (.declare var none) => rfl
  | some (.assign target value) => exact assignmentText_respell h target value
  | some (.augment _ _ _) | some (.ret _) | some (.branch _ _ _) | some (.forLoop _ _ _ _) | some (.whileLoop _ _)
  | some (.expression _) | some .breakLoop | some .continueLoop | some .discard | some .unknown => rfl

theorem Stmt.updateClause_respell (h : RespellsTo f tier tier') (s : Option Stmt) :
    Stmt.updateClause tier' (Stmt.respellOption f s) = Stmt.updateClause tier s := by
  match s with
  | none => rfl
  | some (.assign target value) => exact assignmentText_respell h target value
  | some (.augment target operator value) => exact augmentText_respell h target operator value
  | some (.expression value) => exact Expr.text_respell h value
  | some (.declare _ _) | some (.ret _) | some (.branch _ _ _) | some (.forLoop _ _ _ _) | some (.whileLoop _ _)
  | some .breakLoop | some .continueLoop | some .discard | some .unknown => rfl

mutual

theorem Stmt.lines_respell (h : RespellsTo f tier tier') : ∀ (s : Stmt) (depth : Int),
    (s.respell f).lines tier' depth = s.lines tier depth
  | .declare var none, depth => rfl
  | .declare var (some initial), depth => by
    simp only [Stmt.respell, Option.map_some, Stmt.lines, Expr.text_respell h]
  | .assign target value, depth => by simp only [Stmt.respell, Stmt.lines, assignmentText_respell h]
  | .augment target operator value, depth => by simp only [Stmt.respell, Stmt.lines, augmentText_respell h]
  | .ret none, depth => rfl
  | .ret (some value), depth => by simp only [Stmt.respell, Option.map_some, Stmt.lines, Expr.text_respell h]
  | .branch condition whenTrue whenFalse, depth => by
    simp only [Stmt.respell, Stmt.lines, Expr.text_respell h, bodyLines_respell h whenTrue,
      bodyLines_respell h whenFalse, Stmt.isEmpty_respellAll]
  | .forLoop initial condition update body, depth => by
    simp only [Stmt.respell, Stmt.lines, Stmt.initialClause_respell h, Expr.optionalText_respell h,
      Stmt.updateClause_respell h, bodyLines_respell h body]
  | .whileLoop condition body, depth => by
    simp only [Stmt.respell, Stmt.lines, Expr.text_respell h, bodyLines_respell h body]
  | .expression value, depth => by simp only [Stmt.respell, Stmt.lines, Expr.text_respell h]
  | .breakLoop, depth => rfl
  | .continueLoop, depth => rfl
  | .discard, depth => rfl
  | .unknown, depth => rfl

theorem Stmt.bodyLines_respell (h : RespellsTo f tier tier') : ∀ (ss : List Stmt) (depth : Int),
    Stmt.bodyLines tier' (Stmt.respellAll f ss) depth = Stmt.bodyLines tier ss depth
  | [], depth => rfl
  | s :: rest, depth => by
    simp only [Stmt.respellAll, Stmt.bodyLines, lines_respell h s, bodyLines_respell h rest]

end

theorem Function.lines_respell (h : RespellsTo f tier tier') (function : Function) :
    (function.respell f).lines tier' = function.lines tier := by
  unfold Function.lines Function.respell Function.returnName
  dsimp only
  rw [Stmt.bodyLines_respell h]

theorem Decl.lines_respell (h : RespellsTo f tier tier') (hblocks : tier'.hasUniformBlocks = tier.hasUniformBlocks)
    (d : Decl) : (d.respell f).lines tier' = d.lines tier := by
  cases d with
  | block b =>
    unfold Decl.respell Decl.lines UniformBlock.lines
    rw [hblocks]
  | function function => rw [Decl.respell, Decl.lines, Decl.lines, Function.lines_respell h]
  | struct | global | unknown => rfl

theorem Program.lines_respell (h : RespellsTo f tier tier')
    (hblocks : tier'.hasUniformBlocks = tier.hasUniformBlocks) (program : Program) :
    (program.respell f).lines tier' = program.lines tier := by
  induction program with
  | nil => rfl
  | cons d rest ih =>
    rw [Program.respell] at ih ⊢
    rw [List.map_cons, Program.lines, Program.lines, ih, Decl.lines_respell h hblocks]

end Respelling

/-- The ES family writes a spelling as the desktop writes the trimmed one. -/
theorem respellsTo_trim {tier tier' : Tier} (hes : tier.constrained = true) (hdesktop : tier'.constrained = false) :
    RespellsTo FloatSuffix.trim tier tier' := by
  intro value base
  cases value with
  | spelling text => simp [Value.respell, literalText, Tier.trimsFloatSuffix, hes, hdesktop]
  | scalar value => rfl

/-! ### Flattened blocks -/

/-- The initial value of a variable, behind an equals sign. -/
def Variable.valueText (v : Variable) : String :=
  match v.initialValue with
  | some value => " = " ++ value
  | none => ""

/-- The declarator of a declaration, spelled out behind the words in front of it. -/
theorem intercalate_declarator (words : List String) (type : GlslType) (name : String) :
    " ".intercalate (words ++ [declarator type name])
      = " ".intercalate (words ++ [type.base, name]) ++ sizeText type.arraySize := by
  rw [declarator_eq]
  cases words with
  | nil => rw [List.nil_append, List.nil_append, String.intercalate_singleton, String.intercalate_cons_cons,
      String.intercalate_singleton]
  | cons first rest =>
    rw [String.intercalate_append_of_ne_nil (by simp) (by simp),
      String.intercalate_append_of_ne_nil (by simp) (by simp), String.intercalate_singleton,
      String.intercalate_cons_cons, String.intercalate_singleton]
    simp only [String.append_assoc]

theorem Variable.declarationWith_eq (v : Variable) (qualifiers : List Qualifier) : v.declarationWith qualifiers
    = (if v.layout.isEmpty then "" else v.layout.text ++ " ")
      ++ " ".intercalate (qualifiers.map Qualifier.text ++ [v.type.base, v.name]) ++ sizeText v.type.arraySize
      ++ v.valueText ++ ";" := by
  have hparts : " ".intercalate ((if v.layout.isEmpty then [] else [v.layout.text])
      ++ qualifiers.map Qualifier.text ++ [v.type.base, v.name])
      = (if v.layout.isEmpty then "" else v.layout.text ++ " ")
        ++ " ".intercalate (qualifiers.map Qualifier.text ++ [v.type.base, v.name]) := by
    split
    · rw [List.nil_append, String.empty_append]
    · rw [List.append_assoc, List.singleton_append, String.intercalate_cons_of_ne_nil (by simp)]
  unfold declarationWith valueText
  dsimp only
  rw [intercalate_declarator, hparts]
  cases v.initialValue <;> simp [String.append_assoc]

/-- The line of a member that is a uniform of its own. -/
def Variable.uniformLine (v : Variable) : String :=
  (if v.layout.isEmpty then "" else v.layout.text ++ " ") ++ "uniform " ++ v.type.base ++ " " ++ v.name
    ++ sizeText v.type.arraySize ++ v.valueText ++ ";"

theorem Variable.declarationWith_uniform (v : Variable) : v.declarationWith [.uniform] = v.uniformLine := by
  have hwords : " ".intercalate ([Qualifier.uniform].map Qualifier.text ++ [v.type.base, v.name])
      = "uniform " ++ v.type.base ++ " " ++ v.name := by
    have huniform : "uniform " = Qualifier.text .uniform ++ " " := rfl
    rw [huniform]
    simp [String.intercalate_cons_cons, String.append_assoc]
  rw [declarationWith_eq, hwords, uniformLine]
  simp only [String.append_assoc]

theorem UniformBlock.lines_legacy (b : UniformBlock) : b.lines .es2 = b.members.map Variable.uniformLine := by
  change b.members.map (Variable.declarationWith [.uniform]) = _
  exact List.map_congr_left fun v _ => v.declarationWith_uniform

/-- The section of a declaration where blocks are flattened, from its section where they are not. -/
def Decl.flattenSection : Decl → List String → List String
  | .block b, _ => b.members.map Variable.uniformLine ++ [""]
  | _, own => own

/-- Both ES dialects write functions alike. -/
theorem Function.lines_legacy (function : Function) : function.lines .es2 = function.lines .es3 := by
  have hlegacy : RespellsTo FloatSuffix.trim .es2 .desktop := respellsTo_trim rfl rfl
  have hmodern : RespellsTo FloatSuffix.trim .es3 .desktop := respellsTo_trim rfl rfl
  exact (Function.lines_respell hlegacy function).symm.trans (Function.lines_respell hmodern function)

theorem Decl.lines_legacy (d : Decl) : d.lines .es2 = (d.lines .es3).map d.flattenSection := by
  cases d with
  | block b =>
    rw [Decl.lines, b.lines_legacy]
    rfl
  | function function =>
    rw [Decl.lines, Decl.lines, function.lines_legacy]
    cases function.lines .es3 <;> rfl
  | struct | global | unknown => rfl

namespace Program

/-- The lines of each declaration, in order. -/
def sections (tier : Tier) (program : Program) : Except LiteralError (List (List String)) :=
  program.mapM (Decl.lines tier)

theorem sections_cons (tier : Tier) (d : Decl) (rest : Program) :
    sections tier (d :: rest) = (do
      let own ← d.lines tier
      let others ← sections tier rest
      return own :: others) := by
  unfold sections
  rw [List.mapM_cons]

/-- Each section is written from the declaration in its place. -/
theorem forall₂_of_sections {tier : Tier} {program : Program} {sections : List (List String)}
    (h : program.sections tier = .ok sections) :
    List.Forall₂ (fun d own => d.lines tier = .ok own) program sections := by
  induction program generalizing sections with
  | nil =>
    cases h
    exact .nil
  | cons d rest ih =>
    rw [sections_cons] at h
    cases hown : d.lines tier with
    | error error =>
      rw [hown] at h
      cases h
    | ok own =>
      cases hothers : Program.sections tier rest with
      | error error =>
        rw [hown, hothers] at h
        cases h
      | ok others =>
        rw [hown, hothers] at h
        cases h
        exact .cons hown (ih hothers)

theorem lines_eq_sections (tier : Tier) (program : Program) :
    program.lines tier = (program.sections tier).map List.flatten := by
  induction program with
  | nil => rfl
  | cons d rest ih =>
    rw [lines, ih, sections_cons]
    cases d.lines tier with
    | error error => rfl
    | ok own => cases sections tier rest <;> rfl

theorem sections_legacy (program : Program) :
    program.sections .es2 = (program.sections .es3).map (List.zipWith Decl.flattenSection program) := by
  induction program with
  | nil => rfl
  | cons d rest ih =>
    rw [sections_cons, sections_cons, d.lines_legacy, ih]
    cases d.lines .es3 with
    | error error => rfl
    | ok own => cases sections .es3 rest <;> rfl

/-- Lines as they stand in a text. -/
def joinLines (lines : List String) : String := String.join (lines.map (· ++ "\n"))

theorem joinLines_cons (line : String) (rest : List String) :
    joinLines (line :: rest) = line ++ "\n" ++ joinLines rest := by
  rw [joinLines, List.map_cons, String.join_cons, joinLines]

theorem text_eq (tier : Tier) (program : Program) : program.text tier = (program.lines tier).map joinLines := by
  unfold text
  cases program.lines tier <;> rfl

/-- The modern ES dialect writes what the desktop writes once the spellings are trimmed; the legacy dialect writes
the sections of the modern one, those of blocks replaced. An error on one side is the same error on the other. -/
theorem text_dialects (program : Program) :
    ((∀ s base, literalText .es3 (.spelling s) base = .ok (FloatSuffix.trim s)) ∧
      ∀ modern, program.text .es3 = (program.respell FloatSuffix.trim).text ⟨false, modern⟩) ∧
    program.text .es3 = (program.sections .es3).map (fun own => joinLines own.flatten) ∧
    program.text .es2 = (program.sections .es3).map
      (fun own => joinLines (List.zipWith Decl.flattenSection program own).flatten) := by
  refine ⟨⟨fun _ _ => rfl, ?_⟩, ?_, ?_⟩
  · intro modern
    have htrim : RespellsTo FloatSuffix.trim .es3 ⟨false, modern⟩ := respellsTo_trim rfl rfl
    rw [text_eq, text_eq, lines_respell htrim rfl]
  · rw [text_eq, lines_eq_sections]
    cases program.sections .es3 <;> rfl
  · rw [text_eq, lines_eq_sections, sections_legacy]
    cases program.sections .es3 <;> rfl

end Program

/-! ### Dialects that spell alike -/

theorem Value.respell_id (value : Value) : value.respell id = value := by
  cases value <;> rfl

mutual

theorem Expr.respell_id : ∀ e : Expr, e.respell id = e
  | .literal value type => by rw [Expr.respell, value.respell_id]
  | .name identifier => rfl
  | .binary operator left right => by rw [Expr.respell, respell_id left, respell_id right]
  | .unary operator operand => by rw [Expr.respell, respell_id operand]
  | .call function arguments => by rw [Expr.respell, respellAll_id arguments]
  | .construct type arguments => by rw [Expr.respell, respellAll_id arguments]
  | .swizzle base components => by rw [Expr.respell, respell_id base]
  | .field base member => by rw [Expr.respell, respell_id base]
  | .index base position => by rw [Expr.respell, respell_id base, respell_id position]
  | .conditional condition whenTrue whenFalse => by
    rw [Expr.respell, respell_id condition, respell_id whenTrue, respell_id whenFalse]
  | .unknown => rfl

theorem Expr.respellAll_id : ∀ es : List Expr, Expr.respellAll id es = es
  | [] => rfl
  | e :: rest => by rw [Expr.respellAll, respell_id e, respellAll_id rest]

end

theorem Expr.map_respell_id (e : Option Expr) : e.map (Expr.respell id) = e := by
  cases e with
  | none => rfl
  | some e => exact congrArg some e.respell_id

mutual

theorem Stmt.respell_id : ∀ s : Stmt, s.respell id = s
  | .declare var initial => by rw [Stmt.respell, Expr.map_respell_id]
  | .assign target value => by rw [Stmt.respell, target.respell_id, value.respell_id]
  | .augment target operator value => by rw [Stmt.respell, target.respell_id, value.respell_id]
  | .ret value => by rw [Stmt.respell, Expr.map_respell_id]
  | .branch condition whenTrue whenFalse => by
    rw [Stmt.respell, condition.respell_id, respellAll_id whenTrue, respellAll_id whenFalse]
  | .forLoop initial condition update body => by
    rw [Stmt.respell, respellOption_id initial, Expr.map_respell_id, respellOption_id update, respellAll_id body]
  | .whileLoop condition body => by rw [Stmt.respell, condition.respell_id, respellAll_id body]
  | .expression value => by rw [Stmt.respell, value.respell_id]
  | .breakLoop | .continueLoop | .discard | .unknown => rfl

theorem Stmt.respellAll_id : ∀ ss : List Stmt, Stmt.respellAll id ss = ss
  | [] => rfl
  | s :: rest => by rw [Stmt.respellAll, respell_id s, respellAll_id rest]

theorem Stmt.respellOption_id : ∀ s : Option Stmt, Stmt.respellOption id s = s
  | none => rfl
  | some s => by rw [Stmt.respellOption, respell_id s]

end

theorem Program.respell_id (program : Program) : program.respell id = program := by
  have hdecl : ∀ d : Decl, d.respell id = d := by
    intro d
    cases d with
    | function function => rw [Decl.respell, Function.respell, Stmt.respellAll_id]
    | struct | block | global | unknown => rfl
  rw [Program.respell, List.map_congr_left fun d _ => hdecl d, List.map_id']

/-- A program has one text in all dialects that treat suffixes and blocks alike. -/
theorem Program.text_congr {tier tier' : Tier} (htrims : tier.trimsFloatSuffix = tier'.trimsFloatSuffix)
    (hblocks : tier.hasUniformBlocks = tier'.hasUniformBlocks) (program : Program) :
    program.text tier = program.text tier' := by
  have hspells : RespellsTo id tier tier' := by
    intro value base
    rw [value.respell_id]
    unfold literalText
    rw [htrims]
  rw [Program.text_eq, Program.text_eq, ← Program.lines_respell hspells hblocks.symm, program.respell_id]

end GlslCompiler

import GlslCompiler.Proofs.Writer.Fragments

/-!
# The clauses of a loop header

The statements in the header of a loop are written a second time, by rules of their own. For the last clause the
two agree: it is what the statement says on a line of its own. The first clause shows less. Of a declaration it has
the base type, the name and the initial value, but neither the qualifiers nor the size of an array, and a statement
other than a declaration or a plain assignment leaves it empty.
-/

namespace GlslCompiler

/-- A variable with what the first clause of a loop header shows of it. -/
def Variable.bare (v : Variable) : Variable := { v with type := ⟨v.type.base, none⟩, qualifiers := [] }

namespace Stmt

/-- The statements that may begin a loop. -/
def isInitial : Option Stmt → Bool
  | none => true
  | some (.declare _ _) => true
  | some (.assign _ _) => true
  | some (.augment _ _ _) => true
  | some (.expression _) => true
  | some _ => false

/-- The statements that may stand last in the header of a loop. -/
def isUpdate : Option Stmt → Bool
  | none => true
  | some (.assign _ _) => true
  | some (.augment _ _ _) => true
  | some (.expression _) => true
  | some _ => false

/-- With a semicolon the text is the line of the statement; without a statement it is empty. -/
def Says (tier : Tier) : Option Stmt → String → Prop
  | none, text => text = ""
  | some s, text => s.lines tier 0 = .ok [text ++ ";"]

/-- What is left of a statement in the first clause of a loop header. -/
def shown : Option Stmt → Option Stmt
  | some (.declare v initial) => some (.declare v.bare initial)
  | some (.assign target value) => some (.assign target value)
  | _ => none

/-- Nothing of the statement is missing in the first clause of a loop header. -/
def Kept (tier : Tier) : Option Stmt → Prop
  | none => True
  | some (.declare v _) => v.qualifiers = [] ∧ v.type.arraySize = none
  | some (.assign _ _) => True
  | some (.expression value) => value.text tier = .ok ""
  | some _ => False

end Stmt

theorem length_declarator (type : GlslType) (name : String) :
    (declarator type name).length = type.base.length + 1 + name.length
      + (type.arraySize.elim 0 fun size => (toString size).length + 2) := by
  have hspace : " ".length = 1 := rfl
  have hopening : "[".length = 1 := rfl
  have hclosing : "]".length = 1 := rfl
  unfold declarator
  cases type.arraySize with
  | none => simp [hspace]
  | some size =>
    simp only [String.length_append, hspace, hopening, hclosing, Option.elim_some]
    omega

/-- Qualifiers and sizes make a declarator longer, so that it cannot be taken for the bare one. -/
theorem Variable.qualifiedDeclarator_eq_bare_iff (v : Variable) :
    v.qualifiedDeclarator = v.bare.qualifiedDeclarator ↔ v.qualifiers = [] ∧ v.type.arraySize = none := by
  have hbare : v.bare.qualifiedDeclarator.length = v.type.base.length + 1 + v.name.length :=
    length_declarator v.bare.type v.name
  constructor
  · intro h
    have hlength := congrArg String.length h
    rw [hbare, qualifiedDeclarator] at hlength
    split at hlength
    · rename_i hqualifiers
      rw [length_declarator] at hlength
      refine ⟨List.isEmpty_iff.1 hqualifiers, ?_⟩
      cases hsize : v.type.arraySize with
      | none => rfl
      | some size =>
        rw [hsize, Option.elim_some] at hlength
        omega
    · simp only [String.length_append, length_declarator] at hlength
      have hspace : " ".length = 1 := rfl
      omega
  · rintro ⟨hqualifiers, hsize⟩
    simp [qualifiedDeclarator, bare, declarator, hqualifiers, hsize]

namespace Stmt

variable {tier : Tier}

/-- The last clause says what its statement says. -/
theorem says_updateClause {update : Option Stmt} {text : String} (h : isUpdate update)
    (htext : updateClause tier update = .ok text) : Says tier update text := by
  match update with
  | none =>
    cases htext
    rfl
  | some (.assign target value) =>
    change assignmentText tier target value = .ok text at htext
    rw [Says, Stmt.lines, htext]
    rfl
  | some (.augment target operator value) =>
    change augmentText tier target operator value = .ok text at htext
    rw [Says, Stmt.lines, htext]
    rfl
  | some (.expression value) =>
    change value.text tier = .ok text at htext
    rw [Says, Stmt.lines, htext]
    rfl

/-- The first clause says what the shown part of its statement says. -/
theorem says_initialClause {initial : Option Stmt} {text : String} (h : initialClause tier initial = .ok text) :
    Says tier (shown initial) text := by
  match initial with
  | some (.declare v none) =>
    cases h
    rfl
  | some (.declare v (some value)) =>
    cases hvalue : value.text tier with
    | error error =>
      rw [initialClause, hvalue] at h
      cases h
    | ok valueText =>
      rw [initialClause, hvalue] at h
      cases h
      rw [shown, Says, Stmt.lines, hvalue]
      rfl
  | some (.assign target value) =>
    change assignmentText tier target value = .ok text at h
    rw [shown, Says, Stmt.lines, h]
    rfl
  | none | some (.augment _ _ _) | some (.ret _) | some (.branch _ _ _) | some (.forLoop _ _ _ _)
  | some (.whileLoop _ _) | some (.expression _) | some .breakLoop | some .continueLoop | some .discard
  | some .unknown =>
    cases h
    rfl

/-- A statement whose own line is known is said by one text only. -/
theorem says_iff {s : Stmt} {own text : String} (h : s.lines tier 0 = .ok [own ++ ";"]) :
    Says tier (some s) text ↔ own = text := by
  rw [Says, h]
  simp

theorem augmentText_ne_empty {target value : Expr} {operator : String} :
    Ensures (· ≠ "") (augmentText tier target operator value) := by
  refine .bind fun targetText _ => .bind fun valueText _ => .ok fun h => ?_
  have hlength := congrArg String.length h
  have hequals : "= ".length = 2 := rfl
  simp only [String.length_append, String.length_empty, hequals] at hlength
  omega

theorem says_initial_iff {initial : Option Stmt} {text : String} (h : isInitial initial)
    (htext : initialClause tier initial = .ok text) : Says tier initial text ↔ Kept tier initial := by
  match initial with
  | none =>
    cases htext
    exact iff_of_true rfl trivial
  | some (.declare v none) =>
    cases htext
    have hline : (Stmt.declare v none).lines tier 0 = .ok [v.qualifiedDeclarator ++ ";"] := rfl
    rw [says_iff hline]
    exact v.qualifiedDeclarator_eq_bare_iff
  | some (.declare v (some value)) =>
    cases hvalue : value.text tier with
    | error error =>
      rw [initialClause, hvalue] at htext
      cases htext
    | ok valueText =>
      rw [initialClause, hvalue] at htext
      cases htext
      have hline : (Stmt.declare v (some value)).lines tier 0
          = .ok [v.qualifiedDeclarator ++ " = " ++ valueText ++ ";"] := by
        rw [Stmt.lines, hvalue]
        rfl
      rw [says_iff hline, Kept, ← v.qualifiedDeclarator_eq_bare_iff]
      simp [Variable.bare, Variable.qualifiedDeclarator, declarator]
  | some (.assign target value) => exact iff_of_true (says_updateClause rfl htext) trivial
  | some (.augment target operator value) =>
    cases htext
    refine iff_of_false (fun hsays => ?_) id
    cases htext : augmentText tier target operator value with
    | error error =>
      rw [Says, Stmt.lines, htext] at hsays
      cases hsays
    | ok own =>
      have hline : (Stmt.augment target operator value).lines tier 0 = .ok [own ++ ";"] := by
        rw [Stmt.lines, htext]
        rfl
      rw [says_iff hline] at hsays
      exact augmentText_ne_empty own htext hsays
  | some (.expression value) =>
    cases htext
    rw [Kept]
    cases hvalue : value.text tier with
    | error error =>
      rw [Says, Stmt.lines, hvalue]
      exact iff_of_false (fun h => by cases h) (fun h => by cases h)
    | ok own =>
      have hline : (Stmt.expression value).lines tier 0 = .ok [own ++ ";"] := by
        rw [Stmt.lines, hvalue]
        rfl
      rw [says_iff hline, Except.ok.injEq]

/-- The header of a loop has its clauses in order. The last one says what its statement says; the first says what is
shown of its statement, which is all of it just where nothing is left out. -/
theorem forLoop_header {initial update : Option Stmt} (hinitial : isInitial initial) (hupdate : isUpdate update)
    (condition : Option Expr) (body : List Stmt) (depth : Int) :
    ∀ lines, (Stmt.forLoop initial condition update body).lines tier depth = .ok lines →
      ∃ first conditionText last rest,
        lines = (indentation depth ++ "for (" ++ first ++ "; " ++ conditionText ++ "; " ++ last ++ ") \x7b") :: rest ∧
        initialClause tier initial = .ok first ∧ updateClause tier update = .ok last ∧
        Says tier update last ∧ Says tier (shown initial) first ∧ (Says tier initial first ↔ Kept tier initial) := by
  refine Ensures.bind fun first hfirst => .bind fun conditionText _ => .bind fun last hlast =>
    .bind fun bodyLines _ => .ok ?_
  exact ⟨first, conditionText, last, _, rfl, hfirst, hlast, says_updateClause hupdate hlast,
    says_initialClause hfirst, says_initial_iff hinitial hfirst⟩

/-- A counted loop: its counter has neither a qualifier nor a size, so that both clauses say all. -/
theorem forLoop_header_counter :
    let initial : Stmt := .declare ⟨"i", ⟨"int", none⟩, [], {}, none⟩ (some (.literal (.scalar (.int 0)) ⟨"int", none⟩))
    let update : Stmt := .augment (.name "i") "+" (.literal (.scalar (.int 1)) ⟨"int", none⟩)
    (Stmt.forLoop (some initial) none (some update) []).lines .es3 1
      = .ok ["    for (int i = 0; ; i += 1) \x7b", "    \x7d"] ∧
    Says .es3 (some initial) "int i = 0" ∧ Says .es3 (some update) "i += 1" := by
  intro initial update
  have hlines : (Stmt.forLoop (some initial) none (some update) []).lines .es3 1
      = .ok ["    for (int i = 0; ; i += 1) \x7b", "    \x7d"] := rfl
  have hbegins : isInitial (some initial) := rfl
  have hrepeats : isUpdate (some update) := rfl
  obtain ⟨first, _, last, _, -, hfirst, hlast, hsaid, -, hkept⟩ := forLoop_header hbegins hrepeats none [] 1 _ hlines
  obtain rfl : "int i = 0" = first := Except.ok.inj hfirst
  obtain rfl : "i += 1" = last := Except.ok.inj hlast
  exact ⟨hlines, hkept.2 ⟨rfl, rfl⟩, hsaid⟩

/-- A loop over a constant array has neither the qualifier nor the size in its header, and a call that begins a loop
is not in its header at all. -/
theorem forLoop_header_loses :
    let weights : Stmt := .declare ⟨"w", ⟨"float", some 2⟩, [.const], {}, none⟩ none
    let next : Stmt := .expression (.call "next" [])
    (Stmt.forLoop (some weights) none none [.forLoop (some next) none none []]).lines .desktop 0
      = .ok ["for (float w; ; ) \x7b", "    for (; ; ) \x7b", "    \x7d", "\x7d"] ∧
    Says .desktop (some weights) "const float w[2]" ∧ ¬ Says .desktop (some weights) "float w" ∧
    Says .desktop (some next) "next()" ∧ ¬ Says .desktop (some next) "" := by
  intro weights next
  have hweights : weights.lines .desktop 0 = .ok ["const float w[2]" ++ ";"] := rfl
  have hnext : next.lines .desktop 0 = .ok ["next()" ++ ";"] := rfl
  rw [says_iff hweights, says_iff hweights, says_iff hnext, says_iff hnext]
  exact ⟨rfl, rfl, by decide, rfl, by decide⟩

end Stmt

end GlslCompiler

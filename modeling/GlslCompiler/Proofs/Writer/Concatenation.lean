import Mathlib.Data.List.Forall2
import GlslCompiler.Proofs.Writer.Dialects
import GlslCompiler.Proofs.Writer.Fragments

/-!
# Texts of programs put together

The text of a program is the texts of its declarations, one behind the other, so two programs put together are written
as the one and then the other. This rests on how lines become a text: a line feed between each two of them and a last
one if there are any is the same as a line feed behind each, so it makes no difference where the lines are cut. No line
and an empty line are then different things: a declaration of no known kind has no line and adds nothing, while a block
without members where blocks are flattened still has the empty line that follows every block.
-/

namespace GlslCompiler

namespace Program

/-- Lines with a line feed between each two of them and, if there are any, one at the end. -/
def separateLines (lines : List String) : String := if lines.isEmpty then "" else "\n".intercalate lines ++ "\n"

theorem joinLines_append (front rest : List String) :
    joinLines (front ++ rest) = joinLines front ++ joinLines rest := by
  rw [joinLines, List.map_append, String.join_append, joinLines, joinLines]

theorem joinLines_eq_separateLines (lines : List String) : joinLines lines = separateLines lines := by
  induction lines with
  | nil => rfl
  | cons line rest ih =>
    rw [joinLines_cons, ih]
    -- The last line takes the line feed at the end, any other the one that separates it from the next.
    cases rest with
    | nil => simp [separateLines]
    | cons next rest => simp [separateLines, String.intercalate_cons_cons, String.append_assoc]

theorem joinLines_eq_empty_iff {lines : List String} : joinLines lines = "" ↔ lines = [] := by
  cases lines with
  | nil => exact iff_of_true rfl rfl
  | cons line rest => simp [joinLines_cons]

theorem joinLines_eq_newline_iff {lines : List String} : joinLines lines = "\n" ↔ lines = [""] := by
  constructor
  · intro h
    cases lines with
    | nil => exact absurd h (by decide)
    | cons line rest =>
      have hlength := congrArg String.length h
      simp only [joinLines_cons, String.length_append] at hlength
      have hline : line = "" := String.length_eq_zero_iff.1 (by omega)
      have hrest : joinLines rest = "" := String.length_eq_zero_iff.1 (by omega)
      rw [hline, joinLines_eq_empty_iff.1 hrest]
  · rintro rfl
    rfl

end Program

/-! ### Declarations of no line and of an empty one -/

theorem UniformBlock.lines_eq_nil_iff {tier : Tier} {b : UniformBlock} :
    b.lines tier = [] ↔ tier.isLegacy = true ∧ b.members = [] := by
  have hlegacy : tier.hasUniformBlocks = !tier.isLegacy := by
    simp [Tier.hasUniformBlocks, Tier.isLegacy]
  unfold lines
  cases htier : tier.isLegacy <;> simp [hlegacy, htier]

theorem Variable.declaration_ne_empty (v : Variable) : v.declaration ≠ "" := by
  unfold declaration declarationWith
  dsimp only
  split <;> simp

namespace Decl

variable {tier : Tier} {d : Decl}

/-- Only a declaration of no known kind has no line. -/
theorem lines_eq_nil_iff : d.lines tier = .ok [] ↔ d = .unknown := by
  cases d with
  | unknown => exact iff_of_true rfl rfl
  | function f =>
    refine iff_of_false ?_ (by simp)
    rw [lines]
    cases f.lines tier <;> simp [Except.map]
  | struct | block | global => simp [lines]

/-- Only a flattened block without members has no line but the one that follows it. -/
theorem lines_eq_blank_iff :
    d.lines tier = .ok [""] ↔ ∃ b, d = .block b ∧ tier.isLegacy = true ∧ b.members = [] := by
  cases d with
  | block b => simp [lines, UniformBlock.lines_eq_nil_iff]
  | struct s => simp [lines, Struct.lines]
  | global v => simp [lines, v.declaration_ne_empty]
  | function f =>
    refine iff_of_false ?_ (by simp)
    rw [lines, Function.lines]
    cases Stmt.bodyLines tier f.body 1 <;> simp [Except.map, bind, Except.bind, pure, Except.pure]
  | unknown => simp [lines]

end Decl

/-! ### Texts -/

namespace Program

variable {tier : Tier}

theorem text_append (front rest : Program) :
    text tier (front ++ rest) = (do
      let frontText ← front.text tier
      let restText ← rest.text tier
      return frontText ++ restText) := by
  rw [text_eq, lines_append, text_eq, text_eq]
  cases front.lines tier with
  | error error => rfl
  | ok frontLines =>
    cases rest.lines tier with
    | error error => rfl
    | ok restLines => exact congrArg Except.ok (joinLines_append frontLines restLines)

theorem text_append_eq_ok_iff {front rest : Program} {whole : String} :
    text tier (front ++ rest) = .ok whole ↔
      ∃ frontText restText, front.text tier = .ok frontText ∧ rest.text tier = .ok restText ∧
        whole = frontText ++ restText := by
  rw [text_append]
  cases front.text tier with
  | error error => simp [bind, Except.bind]
  | ok frontText => cases rest.text tier <;> simp [bind, Except.bind, pure, Except.pure, eq_comm]

theorem text_singleton_eq_ok_iff {d : Decl} {own : String} :
    text tier [d] = .ok own ↔ ∃ lines, d.lines tier = .ok lines ∧ joinLines lines = own := by
  rw [text_eq, lines, lines]
  cases d.lines tier <;> simp [bind, Except.bind, pure, Except.pure, Except.map]

theorem text_singleton_eq_empty_iff {d : Decl} : text tier [d] = .ok "" ↔ d = .unknown := by
  simp only [text_singleton_eq_ok_iff, joinLines_eq_empty_iff, exists_eq_right, Decl.lines_eq_nil_iff]

theorem text_singleton_eq_newline_iff {d : Decl} :
    text tier [d] = .ok "\n" ↔ ∃ b, d = .block b ∧ tier.isLegacy = true ∧ b.members = [] := by
  simp only [text_singleton_eq_ok_iff, joinLines_eq_newline_iff, exists_eq_right, Decl.lines_eq_blank_iff]

/-- A text is made of the texts that the declarations have alone. -/
theorem text_eq_ok_iff {program : Program} {whole : String} :
    program.text tier = .ok whole ↔
      ∃ texts, List.Forall₂ (fun d own => text tier [d] = .ok own) program texts ∧ whole = String.join texts := by
  induction program generalizing whole with
  | nil =>
    change Except.ok "" = Except.ok whole ↔ _
    simp [eq_comm]
  | cons d rest ih =>
    rw [← List.singleton_append, text_append_eq_ok_iff]
    simp only [ih]
    constructor
    · rintro ⟨own, _, hown, ⟨texts, htexts, rfl⟩, rfl⟩
      exact ⟨own :: texts, .cons hown htexts, String.join_cons.symm⟩
    · rintro ⟨_, _ | ⟨hown, htexts⟩, rfl⟩
      exact ⟨_, _, hown, ⟨_, htexts, rfl⟩, String.join_cons⟩

theorem text_eq_empty_iff {program : Program} : program.text tier = .ok "" ↔ ∀ d ∈ program, d = .unknown := by
  induction program with
  | nil => simp [text, lines]
  | cons d rest ih =>
    rw [← List.singleton_append, text_append_eq_ok_iff, List.singleton_append, List.forall_mem_cons, ← ih,
      ← text_singleton_eq_empty_iff]
    constructor
    · rintro ⟨own, others, hown, hothers, hwhole⟩
      obtain ⟨rfl, rfl⟩ := String.append_eq_empty_iff.1 hwhole.symm
      exact ⟨hown, hothers⟩
    · rintro ⟨hown, hothers⟩
      exact ⟨"", "", hown, hothers, rfl⟩

/-- The writer's rule: the lines of all declarations are gathered, then separated. -/
theorem text_eq_separateLines (program : Program) :
    program.text tier = (program.sections tier).map fun own => separateLines own.flatten := by
  rw [text_eq, lines_eq_sections]
  cases program.sections tier with
  | error error => rfl
  | ok own => exact congrArg Except.ok (joinLines_eq_separateLines own.flatten)

theorem text_ends {program : Program} {whole : String} (h : program.text tier = .ok whole) (hwhole : whole ≠ "") :
    ∃ body, whole = body ++ "\n" := by
  rw [text_eq_separateLines] at h
  cases hsections : program.sections tier with
  | error error =>
    rw [hsections] at h
    cases h
  | ok own =>
    rw [hsections] at h
    cases h
    dsimp only [separateLines] at hwhole ⊢
    split at hwhole
    · exact absurd rfl hwhole
    · rename_i hlines
      exact ⟨_, if_neg hlines⟩

/-- Programs put together are written one after the other, and a program is written as its declarations are alone, each
once and in order, or not at all if one of them is not. A declaration of no known kind, and no other, adds nothing; a
flattened block without members, and nothing else, adds an empty line alone. A text that is not empty ends with a line
feed, and it is what the lines of all declarations together come to. -/
theorem text_concatenates (tier : Tier) :
    (text tier [] = .ok "" ∧
      ∀ front rest : Program, text tier (front ++ rest) = do
        let frontText ← front.text tier
        let restText ← rest.text tier
        return frontText ++ restText) ∧
    (∀ (program : Program) (whole : String), program.text tier = .ok whole ↔
      ∃ texts, List.Forall₂ (fun d own => text tier [d] = .ok own) program texts ∧ whole = String.join texts) ∧
    (∀ d : Decl, (text tier [d] = .ok "" ↔ d = .unknown) ∧
      (text tier [d] = .ok "\n" ↔ ∃ b, d = .block b ∧ tier.isLegacy = true ∧ b.members = [])) ∧
    (∀ program : Program, (program.text tier = .ok "" ↔ ∀ d ∈ program, d = .unknown) ∧
      ∀ whole, program.text tier = .ok whole → whole ≠ "" → ∃ body, whole = body ++ "\n") ∧
    ∀ program : Program, program.text tier = (program.sections tier).map fun own => separateLines own.flatten := by
  refine ⟨⟨rfl, text_append⟩, fun program whole => text_eq_ok_iff, ?_, ?_, text_eq_separateLines⟩
  · intro d
    exact ⟨text_singleton_eq_empty_iff, text_singleton_eq_newline_iff⟩
  · intro program
    exact ⟨text_eq_empty_iff, fun whole => text_ends⟩

/-- No line and an empty line, between a struct and a variable. -/
example :
    text .es2 [.struct ⟨"Ray", []⟩, .unknown, .block ⟨"Empty", [], {}, some "e"⟩,
        .global ⟨"x", ⟨"int", none⟩, [], {}, none⟩]
      = .ok "struct Ray \x7b\n\x7d;\n\n\nint x;\n" := rfl

end Program

end GlslCompiler

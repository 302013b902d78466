import Mathlib.Data.List.Nodup
import GlslCompiler.Proofs.Writer.Sections

/-!
# Blocks without their blocks

Where a dialect has no blocks, each member of a block is written as a uniform of its own. The line of a member keeps
the layout and the initial value that the member has, which uniforms of that dialect cannot have; the qualifiers of the
member and all that belongs to the block are dropped.

A function reaches a member of a block with an instance name through that name, as in `camera.view`. Every dialect
writes such a reference as it stands. Where blocks are written as blocks the lines of the block declare the instance
name. Where they are flattened they declare only the members, so a reference through the instance name denotes nothing
unless something else has that name; and the lines of two blocks may declare two uniforms of one name.
-/

namespace GlslCompiler

/-! ### Resolution -/

/-- Every member that is selected from one of the names is selected from a variable: a local one that can be named
there, or one of the program. -/
def Resolves (names : List String) (sections : List (List String)) : Prop :=
  ∀ use ∈ sections.flatMap sectionUses, use.reference.base ∈ names →
    use.reference.base ∈ use.scope ∨ use.reference.base ∈ sections.flatMap sectionNames

instance (names : List String) (sections : List (List String)) : Decidable (Resolves names sections) :=
  inferInstanceAs (Decidable (∀ use ∈ _, _ → _))

namespace Program

/-- The names in a program are words. -/
def Plain (tier : Tier) (program : Program) : Prop := ∀ d ∈ program, d.Plain tier

instance (tier : Tier) (program : Program) : Decidable (program.Plain tier) :=
  inferInstanceAs (Decidable (∀ d ∈ program, d.Plain tier))

def uses (program : Program) : List Use := program.flatMap Decl.uses

def instances (program : Program) : List String := program.blocks.filterMap UniformBlock.instance?

def globals (program : Program) : List Variable := program.filterMap Decl.global?

/-- A program whose references select members of the blocks they name, and whose names are unambiguous. -/
structure WellReferenced (program : Program) : Prop where
  selects : ∀ use ∈ program.uses, ∀ b ∈ program.blocks, b.instance? = some use.reference.base →
    use.reference.member ∈ b.memberNames
  instances : program.instances.Nodup
  members : ∀ b ∈ program.blocks, b.memberNames.Nodup

/-- The names that the lines of blocks declare. -/
def namesOfBlocks (program : Program) (sections : List (List String)) : List String :=
  (program.zip sections).flatMap fun (d, own) => if d.block?.isSome then sectionNames own else []

/-- A section declares what its declaration declares, and refers to what it refers to. -/
abbrev SectionOf (tier : Tier) (d : Decl) (own : List String) : Prop :=
  sectionNames own = d.names tier ∧ sectionUses own = d.uses

variable {tier : Tier} {program : Program} {sections : List (List String)}

theorem forall₂_sectionOf (hplain : program.Plain tier) (h : program.sections tier = .ok sections) :
    List.Forall₂ (SectionOf tier) program sections := by
  have hlines := forall₂_of_sections h
  clear h
  induction hlines with
  | nil => exact .nil
  | cons hown hothers ih =>
    obtain ⟨hd, hrest⟩ := List.forall_mem_cons.1 hplain
    exact .cons (Decl.section_eq hd _ hown) (ih hrest)

theorem flatMap_sectionNames (h : List.Forall₂ (SectionOf tier) program sections) :
    sections.flatMap sectionNames = program.flatMap (Decl.names tier) := by
  induction h with
  | nil => rfl
  | cons hown hothers ih => rw [List.flatMap_cons, List.flatMap_cons, hown.1, ih]

theorem flatMap_sectionUses (h : List.Forall₂ (SectionOf tier) program sections) :
    sections.flatMap sectionUses = program.uses := by
  induction h with
  | nil => rfl
  | cons hown hothers ih => rw [List.flatMap_cons, hown.2, ih, uses, uses, List.flatMap_cons]

/-- The variables of a program where blocks are written as blocks. -/
theorem mem_names_of_mem_instances (htier : tier.hasUniformBlocks = true) {name : String}
    (h : name ∈ program.instances) : name ∈ program.flatMap (Decl.names tier) := by
  obtain ⟨b, hb, hname⟩ := List.mem_filterMap.1 h
  obtain ⟨d, hd, hblock⟩ := List.mem_filterMap.1 hb
  refine List.mem_flatMap.2 ⟨d, hd, ?_⟩
  cases d with
  | block own =>
    cases hblock
    simp [Decl.names, UniformBlock.names, htier, hname]
  | struct | global | function | unknown => cases hblock

/-- The variables of a program where blocks are flattened. -/
theorem mem_names_flattened (htier : tier.hasUniformBlocks = false) {name : String} :
    name ∈ program.flatMap (Decl.names tier) ↔
      name ∈ program.globals.map Variable.name ∨ name ∈ program.blocks.flatMap UniformBlock.memberNames := by
  induction program with
  | nil => simp [globals, blocks]
  | cons d rest ih =>
    rw [List.flatMap_cons, List.mem_append, ih]
    cases d with
    | block b =>
      have hnames : (Decl.block b).names tier = b.memberNames := if_neg (by simp [htier])
      have hblocks : blocks (.block b :: rest) = b :: blocks rest := rfl
      rw [hnames, hblocks, List.flatMap_cons, List.mem_append]
      exact or_left_comm
    | global v =>
      have hglobals : globals (.global v :: rest) = v :: globals rest := rfl
      rw [hglobals, List.map_cons, List.mem_cons, ← or_assoc]
      exact or_congr_left (or_congr_left List.mem_singleton)
    | struct | function | unknown => exact or_iff_right List.not_mem_nil

theorem namesOfBlocks_flattened (htier : tier.hasUniformBlocks = false)
    (h : List.Forall₂ (SectionOf tier) program sections) :
    program.namesOfBlocks sections = program.blocks.flatMap UniformBlock.memberNames := by
  induction h with
  | nil => rfl
  | @cons d own rest others hown hothers ih =>
    have hcons : namesOfBlocks (d :: rest) (own :: others)
        = (if d.block?.isSome then sectionNames own else []) ++ namesOfBlocks rest others := rfl
    rw [hcons, ih, hown.1]
    cases d with
    | block b =>
      have hnames : (Decl.block b).names tier = b.memberNames := if_neg (by simp [htier])
      rw [hnames]
      rfl
    | struct | global | function | unknown => rfl

theorem resolves_flattened_iff (htier : tier.hasUniformBlocks = false)
    (h : List.Forall₂ (SectionOf tier) program sections) (names : List String) :
    Resolves names sections ↔ ∀ use ∈ program.uses, use.reference.base ∈ names →
      use.reference.base ∈ use.scope ∨ use.reference.base ∈ program.globals.map Variable.name ∨
        use.reference.base ∈ program.blocks.flatMap UniformBlock.memberNames := by
  rw [Resolves, flatMap_sectionNames h, flatMap_sectionUses h]
  simp only [mem_names_flattened htier]

/-- Dialects with blocks resolve every reference through an instance. The others write such a reference in the same
way, and resolve it only where a local variable, a global one or a member of a block has the name of the instance; the
uniforms that they make of blocks are distinct only where the members of all blocks are. -/
theorem resolves_legacy (hplain : program.Plain tier) (hsections : program.sections tier = .ok sections) :
    program.lines tier = .ok sections.flatten ∧ List.Forall₂ (SectionOf tier) program sections ∧
    (tier.hasUniformBlocks = true → Resolves program.instances sections) ∧
    (tier.hasUniformBlocks = false →
      (Resolves program.instances sections ↔ ∀ use ∈ program.uses, use.reference.base ∈ program.instances →
        use.reference.base ∈ use.scope ∨ use.reference.base ∈ program.globals.map Variable.name ∨
          use.reference.base ∈ program.blocks.flatMap UniformBlock.memberNames) ∧
      ((program.namesOfBlocks sections).Nodup ↔ (∀ b ∈ program.blocks, b.memberNames.Nodup) ∧
        program.blocks.Pairwise fun b c => List.Disjoint b.memberNames c.memberNames)) := by
  have hown := forall₂_sectionOf hplain hsections
  have hlines : program.lines tier = .ok sections.flatten := by
    rw [lines_eq_sections, hsections]
    rfl
  refine ⟨hlines, hown, fun htier use _ hbase => ?_, fun htier => ⟨resolves_flattened_iff htier hown _, ?_⟩⟩
  · rw [flatMap_sectionNames hown]
    exact .inr (mem_names_of_mem_instances htier hbase)
  · rw [namesOfBlocks_flattened htier hown]
    exact List.nodup_flatMap

/-- A program that reads a member through its block's instance, in each of the ES dialects. -/
theorem resolves_legacy_camera :
    let program : Program := [
      .block ⟨"Camera", [⟨"View", ⟨"mat4", none⟩, [], {}, none⟩], {}, some "camera"⟩,
      .function ⟨"main", [], none, [.assign (.name "gl_Position") (.field (.name "camera") "View")]⟩]
    let main := ["void main() \x7b", "    gl_Position = camera.View;", "\x7d", ""]
    let modern := [["uniform Camera \x7b", "    mat4 View;", "\x7d camera;", ""], main]
    let legacy := [["uniform mat4 View;", ""], main]
    program.sections .es3 = .ok modern ∧ Resolves program.instances modern ∧
      program.sections .es2 = .ok legacy ∧ ¬ Resolves program.instances legacy := by
  intro program main modern legacy
  have hmodern : program.sections .es3 = .ok modern := rfl
  have hlegacy : program.sections .es2 = .ok legacy := rfl
  have hplain : ∀ tier ∈ [Tier.es3, .es2], program.Plain tier := by decide
  obtain ⟨-, -, hblocks, -⟩ := resolves_legacy (hplain .es3 (by simp)) hmodern
  obtain ⟨-, -, -, hflattened⟩ := resolves_legacy (hplain .es2 (by simp)) hlegacy
  refine ⟨hmodern, hblocks rfl, hlegacy, fun h => ?_⟩
  exact absurd ((hflattened rfl).1.1 h) (by decide)

/-- The legacy text of such a program declares the member and refers to the instance, and a parameter of another
function does not help. With a second block whose member has the same name, the name is declared twice. -/
theorem flattening_loses_instances :
    let camera : Decl := .block ⟨"Camera", [⟨"View", ⟨"mat4", none⟩, [], {}, none⟩], {}, some "camera"⟩
    let light : Decl := .block ⟨"Light", [⟨"View", ⟨"mat4", none⟩, [], {}, none⟩], {}, some "light"⟩
    let other : Decl := .function ⟨"look", [⟨"camera", ⟨"Eye", none⟩, none⟩], none, []⟩
    let main : Decl :=
      .function ⟨"main", [], none, [.assign (.name "gl_Position") (.field (.name "camera") "View")]⟩
    let view := ["uniform mat4 View;", ""]
    let look := ["void look(Eye camera) \x7b", "\x7d", ""]
    let mainLines := ["void main() \x7b", "    gl_Position = camera.View;", "\x7d", ""]
    (WellReferenced [camera, other, main] ∧
      Program.sections .es2 [camera, other, main] = .ok [view, look, mainLines] ∧
      ¬ Resolves ["camera"] [view, look, mainLines]) ∧
    (WellReferenced [camera, light] ∧ Program.sections .es2 [camera, light] = .ok [view, view] ∧
      namesOfBlocks [camera, light] [view, view] = ["View", "View"]) := by
  intro camera light other main view look mainLines
  exact ⟨⟨⟨by decide, by decide, by decide⟩, rfl, by decide +kernel⟩, ⟨by decide, by decide, by decide⟩, rfl,
    by decide +kernel⟩

end Program

/-! ### The lines of a flattened block -/

/-- A uniform with a type and a name and nothing else. -/
def Variable.plainUniform (v : Variable) : String :=
  "uniform " ++ v.type.base ++ " " ++ v.name ++ sizeText v.type.arraySize ++ ";"

/-- A line with a layout or an initial value is longer than the plain one. -/
theorem Variable.uniformLine_eq_plainUniform_iff (v : Variable) :
    v.uniformLine = v.plainUniform ↔ v.layout.isEmpty = true ∧ v.initialValue = none := by
  constructor
  · intro h
    have hlength := congrArg String.length h
    simp only [uniformLine, plainUniform, String.length_append] at hlength
    constructor
    · by_contra hsome
      rw [if_neg hsome, String.length_append] at hlength
      have hspace : " ".length = 1 := rfl
      omega
    · cases hvalue : v.initialValue with
      | none => rfl
      | some value =>
        simp only [valueText, hvalue, String.length_append] at hlength
        have hequals : " = ".length = 3 := rfl
        omega
  · rintro ⟨hlayout, hinitial⟩
    simp [uniformLine, plainUniform, valueText, hlayout, hinitial]

/-- In the legacy dialect a block is one line for each of its members, in order, and between the lines of what stands
before and after it. They are plain uniforms just if no member has a layout or an initial value. -/
theorem Program.lines_flattened (before after : Program) (b : UniformBlock) :
    (Program.lines .es2 (before ++ .block b :: after) = do
      let front ← before.lines .es2
      let rest ← after.lines .es2
      return front ++ (b.members.map Variable.uniformLine ++ "" :: rest)) ∧
    (∀ v ∈ b.members, v.uniformLine = v.plainUniform ↔ v.layout.isEmpty = true ∧ v.initialValue = none) ∧
    (b.members.map Variable.uniformLine = b.members.map Variable.plainUniform ↔
      ∀ v ∈ b.members, v.layout.isEmpty = true ∧ v.initialValue = none) := by
  refine ⟨?_, fun v _ => v.uniformLine_eq_plainUniform_iff, ?_⟩
  · rw [Program.lines_append]
    cases Program.lines .es2 before with
    | error error => rfl
    | ok front =>
      rw [Program.lines, Decl.lines, UniformBlock.lines_legacy]
      cases Program.lines .es2 after with
      | error error => rfl
      | ok rest =>
        have hlines : b.members.map Variable.uniformLine ++ [""] ++ rest
            = b.members.map Variable.uniformLine ++ "" :: rest := by simp
        exact congrArg (fun lines => Except.ok (front ++ lines)) hlines
  · rw [List.map_inj_left]
    exact forall₂_congr fun v _ => v.uniformLine_eq_plainUniform_iff

/-- A member keeps its layout and its initial value. -/
theorem Program.flattening_keeps_layouts :
    Program.lines .es2
        [.block ⟨"Light", [⟨"power", ⟨"float", none⟩, [], ⟨[("offset", some "0")]⟩, some "1.0"⟩], {}, none⟩]
      = .ok ["layout(offset = 0) uniform float power = 1.0;", ""] ∧
    Variable.plainUniform ⟨"power", ⟨"float", none⟩, [], ⟨[("offset", some "0")]⟩, some "1.0"⟩
      = "uniform float power;" := ⟨rfl, rfl⟩

end GlslCompiler

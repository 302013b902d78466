import Mathlib.Data.List.Forall2
import GlslCompiler.Proofs.Program.Passes

/-!
# Sequences of passes

A program that is handed out again goes through the passes again, for whatever stages it is wanted. However long
the sequence and whatever its order, the program is what its first storage pass and one layout pass make of it:
storage that has been assigned is not assigned again, a block is annotated once, and the two kinds of pass do not
see each other's changes. Later passes of a kind change nothing and count nothing.
-/

namespace GlslCompiler

namespace Program

/-- Storage is assigned for the stage that comes first. -/
theorem assignStorage_assignStorage (stage stage' : PipelineStage) (program : Program) :
    (program.assignStorage stage).2.assignStorage stage' = (0, (program.assignStorage stage).2) := by
  unfold assignStorage
  ext1
  · dsimp only
    rw [List.map_map, List.map_congr_left fun d _ => d.genericCount_assignStorage stage]
    induction program with
    | nil => rfl
    | cons d rest ih => simpa using ih
  · dsimp only
    rw [List.map_map]
    exact List.map_congr_left fun d _ => d.assignStorage_assignStorage stage stage'

theorem annotateLayouts_annotateLayouts (program : Program) :
    program.annotateLayouts.2.annotateLayouts = (0, program.annotateLayouts.2) := by
  unfold annotateLayouts
  ext1
  · apply List.countP_eq_zero.2
    intro d hd
    obtain ⟨own, -, rfl⟩ := List.mem_map.1 hd
    simp [own.lacksPacking_annotateLayout]
  · dsimp only
    rw [List.map_map]
    exact List.map_congr_left fun d _ => d.annotateLayout_annotateLayout

/-- A layout pass in between changes neither what storage is assigned nor how often. -/
theorem assignStorage_annotateLayouts (stage : PipelineStage) (program : Program) :
    program.annotateLayouts.2.assignStorage stage =
      ((program.assignStorage stage).1, (program.assignStorage stage).2.annotateLayouts.2) := by
  unfold assignStorage annotateLayouts
  ext1
  · dsimp only
    rw [List.map_map, List.map_congr_left fun d _ => d.genericCount_annotateLayout]
  · dsimp only
    rw [List.map_map, List.map_map]
    exact List.map_congr_left fun d _ => (d.annotateLayout_assignStorage stage).symm

theorem annotateLayouts_assignStorage (stage : PipelineStage) (program : Program) :
    (program.assignStorage stage).2.annotateLayouts =
      (program.annotateLayouts.1, (program.annotateLayouts.2.assignStorage stage).2) := by
  rw [assignStorage_annotateLayouts]
  ext1
  · unfold assignStorage annotateLayouts
    dsimp only
    rw [List.countP_map, List.countP_congr]
    intro d _
    rw [Function.comp_apply, d.lacksPacking_assignStorage stage]
  · rfl

end Program

/-- Two declarations that are the same but for what the passes may change: the qualifiers of a global variable and
the layout of a block. -/
inductive Decl.SameOutside : Decl → Decl → Prop where
  | struct (s : Struct) : SameOutside (.struct s) (.struct s)
  | block (b : UniformBlock) (layout : Layout) : SameOutside (.block b) (.block { b with layout := layout })
  | global (v : Variable) (qualifiers : List Qualifier) :
      SameOutside (.global v) (.global { v with qualifiers := qualifiers })
  | function (f : Function) : SameOutside (.function f) (.function f)
  | unknown : SameOutside .unknown .unknown

namespace Decl.SameOutside

theorem refl (d : Decl) : SameOutside d d := by
  cases d with
  | struct s => exact .struct s
  | block b => exact .block b b.layout
  | global v => exact .global v v.qualifiers
  | function f => exact .function f
  | unknown => exact .unknown

theorem assignStorage {d e : Decl} (h : SameOutside d e) (stage : PipelineStage) :
    SameOutside d (e.assignStorage stage) := by
  cases h with
  | global v qualifiers => exact .global v _
  | struct s => exact .struct s
  | block b layout => exact .block b layout
  | function f => exact .function f
  | unknown => exact .unknown

theorem annotateLayout {d e : Decl} (h : SameOutside d e) : SameOutside d e.annotateLayout := by
  cases h with
  | block b layout => exact .block b _
  | struct s => exact .struct s
  | global v qualifiers => exact .global v qualifiers
  | function f => exact .function f
  | unknown => exact .unknown

end Decl.SameOutside

/-- A pass as it is asked for. -/
inductive ProgramPass where
  | storage (stage : PipelineStage)
  | layouts
  deriving DecidableEq

namespace ProgramPass

def run : ProgramPass → Program → Nat × Program
  | .storage stage, program => program.assignStorage stage
  | .layouts, program => program.annotateLayouts

/-- Two passes of one kind, for the same stage or for different ones. -/
def SameKind : ProgramPass → ProgramPass → Prop
  | .storage _, .storage _ => True
  | .layouts, .layouts => True
  | _, _ => False

/-- Runs passes one after the other: what each counts, and the program in the end. -/
def runAll : List ProgramPass → Program → List Nat × Program
  | [], program => ([], program)
  | pass :: rest, program =>
    let (count, changed) := pass.run program
    let (counts, last) := runAll rest changed
    (count :: counts, last)

/-- The stage of the first storage pass. -/
def firstStage? : List ProgramPass → Option PipelineStage
  | [] => none
  | .storage stage :: _ => some stage
  | .layouts :: rest => firstStage? rest

/-- A program with storage assigned at most once. -/
def stageOnce : Option PipelineStage → Program → Program
  | some stage, program => (program.assignStorage stage).2
  | none, program => program

/-- A program with its blocks annotated at most once. -/
def annotateOnce (annotated : Prop) [Decidable annotated] (program : Program) : Program :=
  if annotated then program.annotateLayouts.2 else program

theorem stageOnce_assignStorage (stage? : Option PipelineStage) (stage : PipelineStage) (program : Program) :
    stageOnce stage? (program.assignStorage stage).2 = (program.assignStorage stage).2 := by
  cases stage? with
  | none => rfl
  | some stage' => rw [stageOnce, Program.assignStorage_assignStorage]

theorem annotateOnce_annotateLayouts (annotated : Prop) [Decidable annotated] (program : Program) :
    annotateOnce annotated program.annotateLayouts.2 = program.annotateLayouts.2 := by
  unfold annotateOnce
  split
  · rw [Program.annotateLayouts_annotateLayouts]
  · rfl

theorem stageOnce_annotateLayouts (stage? : Option PipelineStage) (program : Program) :
    stageOnce stage? program.annotateLayouts.2 = (stageOnce stage? program).annotateLayouts.2 := by
  cases stage? with
  | none => rfl
  | some stage => rw [stageOnce, Program.assignStorage_annotateLayouts, stageOnce]

theorem stageOnce_annotateOnce (stage? : Option PipelineStage) (annotated : Prop) [Decidable annotated]
    (program : Program) :
    stageOnce stage? (annotateOnce annotated program) = annotateOnce annotated (stageOnce stage? program) := by
  unfold annotateOnce
  split
  · exact stageOnce_annotateLayouts stage? program
  · rfl

theorem runAll_cons (pass : ProgramPass) (rest : List ProgramPass) (program : Program) :
    runAll (pass :: rest) program =
      ((pass.run program).1 :: (runAll rest (pass.run program).2).1, (runAll rest (pass.run program).2).2) := rfl

/-- The first storage pass and one layout pass decide. -/
theorem runAll_eq (passes : List ProgramPass) (program : Program) :
    (runAll passes program).2 =
      annotateOnce (.layouts ∈ passes) (stageOnce (firstStage? passes) program) := by
  induction passes generalizing program with
  | nil => rfl
  | cons pass rest ih =>
    rw [runAll_cons, ih]
    cases pass with
    | storage stage =>
      have hlayouts : ProgramPass.layouts ∈ ProgramPass.storage stage :: rest ↔ .layouts ∈ rest := by simp
      rw [run, stageOnce_assignStorage, firstStage?, stageOnce]
      simp only [annotateOnce, hlayouts]
    | layouts =>
      rw [run, stageOnce_annotateLayouts, annotateOnce_annotateLayouts, firstStage?, annotateOnce,
        if_pos List.mem_cons_self]

theorem exists_firstStage? {passes : List ProgramPass} {stage : PipelineStage} (h : .storage stage ∈ passes) :
    ∃ first, firstStage? passes = some first := by
  induction passes with
  | nil => cases h
  | cons pass rest ih =>
    cases pass with
    | storage first => exact ⟨first, rfl⟩
    | layouts =>
      rcases List.mem_cons.1 h with h | h
      · cases h
      · exact ih h

theorem firstStage?_eq_none {passes : List ProgramPass} (h : ∀ stage, .storage stage ∉ passes) :
    firstStage? passes = none := by
  induction passes with
  | nil => rfl
  | cons pass rest ih =>
    cases pass with
    | storage first => exact absurd List.mem_cons_self (h first)
    | layouts =>
      apply ih
      intro stage hmem
      exact h stage (List.mem_cons_of_mem _ hmem)

/-- A pass of a kind that has been run has nothing left to do. -/
theorem run_of_sameKind {pass earlier : ProgramPass} {before : List ProgramPass} (program : Program)
    (hearlier : earlier ∈ before) (hkind : pass.SameKind earlier) :
    pass.run (runAll before program).2 = (0, (runAll before program).2) := by
  rw [runAll_eq]
  cases pass with
  | storage stage =>
    cases earlier with
    | storage stage' =>
      obtain ⟨first, hfirst⟩ := exists_firstStage? hearlier
      rw [hfirst, ← stageOnce_annotateOnce]
      exact Program.assignStorage_assignStorage first stage _
    | layouts => cases hkind
  | layouts =>
    cases earlier with
    | storage stage' => cases hkind
    | layouts =>
      rw [annotateOnce, if_pos hearlier]
      exact Program.annotateLayouts_annotateLayouts _

/-- A pass that is the first of its kind counts what it would count in the program as it was. -/
theorem run_of_not_sameKind {pass : ProgramPass} {before : List ProgramPass} (program : Program)
    (hfirst : ∀ earlier ∈ before, ¬ pass.SameKind earlier) :
    (pass.run (runAll before program).2).1 = (pass.run program).1 := by
  rw [runAll_eq]
  cases pass with
  | storage stage =>
    have hnone : firstStage? before = none := by
      apply firstStage?_eq_none
      intro stage' hmem
      exact hfirst _ hmem trivial
    rw [hnone, stageOnce, annotateOnce]
    split
    · rw [run, Program.assignStorage_annotateLayouts, run]
    · rfl
  | layouts =>
    have hnone : .layouts ∉ before := by
      intro hmem
      exact hfirst _ hmem trivial
    rw [annotateOnce, if_neg hnone]
    cases firstStage? before with
    | none => rfl
    | some stage => rw [stageOnce, run, Program.annotateLayouts_assignStorage, run]

theorem runAll_append (before after : List ProgramPass) (program : Program) :
    runAll (before ++ after) program =
      ((runAll before program).1 ++ (runAll after (runAll before program).2).1,
        (runAll after (runAll before program).2).2) := by
  induction before generalizing program with
  | nil => rfl
  | cons pass rest ih =>
    rw [List.cons_append, runAll_cons, ih, runAll_cons]
    rfl

theorem length_runAll (passes : List ProgramPass) (program : Program) :
    (runAll passes program).1.length = passes.length := by
  induction passes generalizing program with
  | nil => rfl
  | cons pass rest ih => rw [runAll_cons, List.length_cons, ih, List.length_cons]

theorem runAll_count (before : List ProgramPass) (pass : ProgramPass) (after : List ProgramPass) (program : Program) :
    (runAll (before ++ pass :: after) program).1[before.length]? =
      some (pass.run (runAll before program).2).1 := by
  have hlength := length_runAll before program
  rw [runAll_append, List.getElem?_append_right (Nat.le_of_eq hlength), hlength, Nat.sub_self, runAll_cons]
  rfl

theorem sameOutside_run (pass : ProgramPass) {program changed : Program}
    (h : List.Forall₂ Decl.SameOutside program changed) :
    List.Forall₂ Decl.SameOutside program (pass.run changed).2 := by
  cases pass with
  | storage stage => exact List.forall₂_map_right_iff.2 (h.imp fun _ _ hd => hd.assignStorage stage)
  | layouts => exact List.forall₂_map_right_iff.2 (h.imp fun _ _ hd => hd.annotateLayout)

theorem sameOutside_runAll (passes : List ProgramPass) {program changed : Program}
    (h : List.Forall₂ Decl.SameOutside program changed) :
    List.Forall₂ Decl.SameOutside program (runAll passes changed).2 := by
  induction passes generalizing changed with
  | nil => exact h
  | cons pass rest ih => exact ih (sameOutside_run pass h)

/-- Any sequence of passes comes to its first storage pass and one layout pass, in either order. A pass of a kind
that came before counts nothing and changes nothing, and no pass touches anything but qualifiers of global
variables and layouts of blocks. -/
theorem runAll_normalForm (passes : List ProgramPass) (program : Program) :
    ((runAll passes program).2 = annotateOnce (.layouts ∈ passes) (stageOnce (firstStage? passes) program) ∧
      (runAll passes program).2 = stageOnce (firstStage? passes) (annotateOnce (.layouts ∈ passes) program)) ∧
    (∀ before pass after, passes = before ++ pass :: after →
      (runAll passes program).1[before.length]? = some (pass.run (runAll before program).2).1 ∧
      ((∃ earlier ∈ before, pass.SameKind earlier) →
        pass.run (runAll before program).2 = (0, (runAll before program).2)) ∧
      ((∀ earlier ∈ before, ¬ pass.SameKind earlier) →
        (pass.run (runAll before program).2).1 = (pass.run program).1)) ∧
    List.Forall₂ Decl.SameOutside program (runAll passes program).2 := by
  refine ⟨⟨runAll_eq passes program, ?_⟩, ?_, ?_⟩
  · rw [stageOnce_annotateOnce]
    exact runAll_eq passes program
  · rintro before pass after rfl
    refine ⟨runAll_count before pass after program, ?_, run_of_not_sameKind program⟩
    rintro ⟨earlier, hearlier, hkind⟩
    exact run_of_sameKind program hearlier hkind
  · exact sameOutside_runAll passes (List.forall₂_same.2 fun d _ => .refl d)

end ProgramPass

end GlslCompiler

import Mathlib.Data.List.Forall2
import Mathlib.Data.List.Induction
import GlslCompiler.Proofs.Program.Passes

/-!
# What the storage pass leaves

Each qualifier of a global variable is replaced by itself, and of equal ones the first is left. Which ones these are is
said here by their positions, and not by the way in which the pass comes to them: an element is left if it does not
stand earlier in the list as well. The pass counts the qualifiers it replaces, also those that it then drops.
-/

namespace GlslCompiler

section Firsts

variable {α : Type} [DecidableEq α]

/-- The elements that do not stand earlier in the list as well, in order. -/
def firsts (l : List α) : List α := (l.zipIdx.filter fun p => p.1 ∉ l.take p.2).map Prod.fst

theorem firsts_eq_firstsBy (l : List α) : firsts l = firstsBy id [] l := by
  simp [firsts, firstsBy]

theorem keepFirst_eq_firsts (l : List α) : keepFirst l = firsts l := by
  rw [firsts_eq_firstsBy]
  induction l using List.reverseRecOn with
  | nil => rfl
  | append_singleton l a ih =>
    rw [keepFirst_concat, firstsBy_concat, ih, List.map_id]
    simp only [id, List.not_mem_nil, false_or]

end Firsts

namespace Qualifier

/-- The qualifiers that a stage replaces, with what replaces them. -/
def replacements (stage : PipelineStage) : List (Qualifier × Qualifier) :=
  [(.input, match stage with
    | .vertex => .attrib
    | .pixel => .varying),
   (.output, .varying)]

/-- A qualifier as the table has it; one that is not in the table stays. -/
def replaced (stage : PipelineStage) (q : Qualifier) : Qualifier := ((replacements stage).lookup q).getD q

theorem inStage_eq_replaced (stage : PipelineStage) (q : Qualifier) : q.inStage stage = q.replaced stage := by
  cases q <;> cases stage <;> rfl

theorem isGeneric_inStage (stage : PipelineStage) (q : Qualifier) : (q.inStage stage).isGeneric = false := by
  cases q <;> cases stage <;> rfl

/-- The qualifiers of a global variable before and after the pass. -/
structure Assigned (stage : PipelineStage) (own assigned : List Qualifier) : Prop where
  eq : assigned = firsts (own.map (replaced stage))
  input_not_mem : .input ∉ assigned
  output_not_mem : .output ∉ assigned
  nodup : assigned.Nodup
  keeps : ∀ q ∈ own, q ≠ .input → q ≠ .output → q ∈ assigned
  eq_nil_iff : assigned = [] ↔ own = []

theorem assigned_keepFirst (stage : PipelineStage) (own : List Qualifier) :
    Assigned stage own (keepFirst (own.map (·.inStage stage))) := by
  have hgeneric : ∀ q ∈ keepFirst (own.map (·.inStage stage)), q.isGeneric = false := by
    intro q hq
    obtain ⟨p, -, rfl⟩ := List.mem_map.1 (mem_keepFirst.1 hq)
    exact isGeneric_inStage stage p
  constructor
  · rw [keepFirst_eq_firsts, List.map_congr_left fun q _ => inStage_eq_replaced stage q]
  · intro hmem
    exact absurd (hgeneric _ hmem) (by decide)
  · intro hmem
    exact absurd (hgeneric _ hmem) (by decide)
  · exact nodup_keepFirst _
  · intro q hq hinput houtput
    apply mem_keepFirst.2
    refine List.mem_map.2 ⟨q, hq, ?_⟩
    cases q with
    | input => exact absurd rfl hinput
    | output => exact absurd rfl houtput
    | inout | uniform | const | attrib | varying => rfl
  · cases own with
    | nil => exact Iff.intro (fun _ => rfl) fun _ => rfl
    | cons q rest => simp [keepFirst]

end Qualifier

namespace Decl

/-- A declaration before and after the pass: nothing but the qualifiers of a global variable changes. -/
inductive Assigned (stage : PipelineStage) : Decl → Decl → Prop where
  | global {v : Variable} {qualifiers : List Qualifier} (h : Qualifier.Assigned stage v.qualifiers qualifiers) :
      Assigned stage (.global v) (.global { v with qualifiers := qualifiers })
  | other {d : Decl} (h : ∀ v, d ≠ .global v) : Assigned stage d d

theorem assigned_assignStorage (stage : PipelineStage) (d : Decl) : Assigned stage d (d.assignStorage stage) := by
  cases d with
  | global v => exact .global (Qualifier.assigned_keepFirst stage v.qualifiers)
  | struct | block | function | unknown => exact .other (by simp)

end Decl

namespace Program

/-- The qualifiers of all global variables, in order. -/
def storageQualifiers (program : Program) : List Qualifier :=
  (program.filterMap Decl.global?).flatMap Variable.qualifiers

theorem countP_isGeneric (qualifiers : List Qualifier) :
    qualifiers.countP (·.isGeneric) = qualifiers.count .input + qualifiers.count .output := by
  induction qualifiers with
  | nil => rfl
  | cons q rest ih =>
    rw [List.countP_cons, List.count_cons, List.count_cons, ih]
    cases q <;> simp [Qualifier.isGeneric] <;> omega

theorem genericCount_sum (program : Program) :
    (program.map Decl.genericCount).foldr (· + ·) 0 = program.storageQualifiers.countP (·.isGeneric) := by
  induction program with
  | nil => rfl
  | cons d rest ih =>
    rw [List.map_cons, List.foldr_cons, ih]
    cases d with
    | global v =>
      change _ = (v.qualifiers ++ storageQualifiers rest).countP _
      rw [List.countP_append]
      rfl
    | struct | block | function | unknown => exact Nat.zero_add _

/-- Every global variable has its qualifiers replaced and the repeated ones dropped, all else stays, and what is
counted are the generic qualifiers there were, those included that coincide with another after being replaced. -/
theorem assignStorage_exact (stage : PipelineStage) (program : Program) :
    List.Forall₂ (Decl.Assigned stage) program (program.assignStorage stage).2 ∧
    (program.assignStorage stage).1 =
      program.storageQualifiers.count .input + program.storageQualifiers.count .output := by
  constructor
  · exact List.forall₂_map_right_iff.2 (List.forall₂_same.2 fun d _ => d.assigned_assignStorage stage)
  · rw [← countP_isGeneric, ← genericCount_sum]
    rfl

/-- Three qualifiers that come to the same: it is left once, where the first of them stood, and two are counted. -/
example :
    let v : Variable := ⟨"uv", ⟨"vec2", none⟩, [.const, .input, .varying, .output], {}, none⟩
    (v.assignStorage .pixel).qualifiers = [.const, .varying] ∧ (assignStorage .pixel [.global v]).1 = 2 := by
  decide

end Program

end GlslCompiler

import GlslCompiler.Program.Normalize

/-!
# Laws of the passes

A pass leaves nothing for itself to do: after storage has been assigned no generic qualifier is left, for
whatever stage it is assigned again, and a block has the packing layout after it was added. The two passes change
different declarations, so their order does not matter.
-/

namespace GlslCompiler

section KeepFirst

variable {α : Type} [DecidableEq α]

theorem mem_keepFirst {a : α} {l : List α} : a ∈ keepFirst l ↔ a ∈ l := by
  induction l with
  | nil => exact Iff.rfl
  | cons b rest ih =>
    rw [keepFirst, List.mem_cons, List.mem_cons, List.mem_filter, ih]
    by_cases h : a = b <;> simp [h]

theorem nodup_keepFirst (l : List α) : (keepFirst l).Nodup := by
  induction l with
  | nil => exact List.nodup_nil
  | cons b rest ih =>
    rw [keepFirst, List.nodup_cons]
    exact ⟨by simp, ih.filter _⟩

theorem keepFirst_eq_self {l : List α} (h : l.Nodup) : keepFirst l = l := by
  induction l with
  | nil => rfl
  | cons b rest ih =>
    obtain ⟨hb, hrest⟩ := List.nodup_cons.1 h
    rw [keepFirst, ih hrest, List.filter_eq_self.2]
    intro a ha
    apply decide_eq_true
    rintro rfl
    exact hb ha

theorem keepFirst_concat (l : List α) (a : α) : keepFirst (l ++ [a]) = keepFirst l ++ if a ∈ l then [] else [a] := by
  induction l with
  | nil => rfl
  | cons b rest ih =>
    rw [List.cons_append, keepFirst, keepFirst, ih, List.filter_append, List.cons_append]
    refine congrArg (b :: (keepFirst rest).filter (· ≠ b) ++ ·) ?_
    by_cases hrest : a ∈ rest
    · simp [hrest]
    · by_cases hb : a = b <;> simp [hrest, hb]

end KeepFirst

section Firsts

variable {α κ : Type} [DecidableEq κ]

/-- The elements whose key is not among those seen before, nor that of an element that stands earlier, in order. -/
def firstsBy (key : α → κ) (seen : List κ) (l : List α) : List α :=
  (l.zipIdx.filter fun p => key p.1 ∉ seen ∧ key p.1 ∉ (l.take p.2).map key).map Prod.fst

/-- Which of the elements count does not depend on the ones that come later. -/
theorem firstsBy_concat (key : α → κ) (seen : List κ) (l : List α) (a : α) :
    firstsBy key seen (l ++ [a]) = firstsBy key seen l ++ if key a ∈ seen ∨ key a ∈ l.map key then [] else [a] := by
  -- At the positions there were, what stands earlier is the same.
  have hearlier : (l.zipIdx.filter fun p => key p.1 ∉ seen ∧ key p.1 ∉ ((l ++ [a]).take p.2).map key) =
      l.zipIdx.filter fun p => key p.1 ∉ seen ∧ key p.1 ∉ (l.take p.2).map key := by
    apply List.filter_congr
    intro p hp
    have hposition : p.2 < l.length := List.snd_lt_of_mem_zipIdx hp
    rw [List.take_append_of_le_length (Nat.le_of_lt hposition)]
  rw [firstsBy, List.zipIdx_append, List.filter_append, List.map_append, hearlier, Nat.zero_add, List.zipIdx_singleton]
  refine congrArg (firstsBy key seen l ++ ·) ?_
  by_cases hknown : key a ∈ seen ∨ key a ∈ l.map key
  · rw [if_pos hknown, List.filter_cons_of_neg, List.filter_nil, List.map_nil]
    rwa [decide_eq_true_eq, List.take_left, ← not_or, Decidable.not_not]
  · rw [if_neg hknown, List.filter_cons_of_pos, List.filter_nil, List.map_singleton]
    rwa [decide_eq_true_eq, List.take_left, ← not_or]

end Firsts

/-- A qualifier that a stage has replaced is not replaced again. -/
theorem Qualifier.inStage_inStage (stage stage' : PipelineStage) (q : Qualifier) :
    (q.inStage stage).inStage stage' = q.inStage stage := by
  cases q <;> cases stage <;> rfl

theorem Variable.assignStorage_assignStorage (stage stage' : PipelineStage) (v : Variable) :
    (v.assignStorage stage).assignStorage stage' = v.assignStorage stage := by
  have hfixed : ∀ q ∈ keepFirst (v.qualifiers.map (·.inStage stage)), q.inStage stage' = q := by
    intro q hq
    obtain ⟨own, -, rfl⟩ := List.mem_map.1 (mem_keepFirst.1 hq)
    exact own.inStage_inStage stage stage'
  unfold assignStorage
  dsimp only
  rw [List.map_congr_left hfixed, List.map_id', keepFirst_eq_self (nodup_keepFirst _)]

theorem Layout.has_add (layout : Layout) (key : String) (value : Option String) :
    (layout.add key value).has key = true := by
  unfold add
  by_cases h : layout.has key = true
  · rw [if_pos h, h]
  · rw [if_neg h]
    simp [has]

theorem Layout.add_add (layout : Layout) (key : String) (value value' : Option String) :
    (layout.add key value).add key value' = layout.add key value := by
  rw [add, if_pos (layout.has_add key value)]

namespace Decl

theorem assignStorage_assignStorage (stage stage' : PipelineStage) (d : Decl) :
    (d.assignStorage stage).assignStorage stage' = d.assignStorage stage := by
  cases d with
  | global v => exact congrArg global (v.assignStorage_assignStorage stage stage')
  | struct | block | function | unknown => rfl

theorem annotateLayout_annotateLayout (d : Decl) : d.annotateLayout.annotateLayout = d.annotateLayout := by
  cases d with
  | block b => simp only [annotateLayout, Layout.add_add]
  | struct | global | function | unknown => rfl

theorem annotateLayout_assignStorage (stage : PipelineStage) (d : Decl) :
    (d.assignStorage stage).annotateLayout = d.annotateLayout.assignStorage stage := by
  cases d <;> rfl

theorem genericCount_assignStorage (stage : PipelineStage) (d : Decl) :
    (d.assignStorage stage).genericCount = 0 := by
  cases d with
  | global v =>
    apply List.countP_eq_zero.2
    intro q hq
    obtain ⟨own, -, rfl⟩ := List.mem_map.1 (mem_keepFirst.1 hq)
    cases own <;> cases stage <;> decide
  | struct | block | function | unknown => rfl

theorem genericCount_annotateLayout (d : Decl) : d.annotateLayout.genericCount = d.genericCount := by
  cases d <;> rfl

theorem lacksPacking_annotateLayout (d : Decl) : d.annotateLayout.lacksPacking = false := by
  cases d with
  | block b => simp only [annotateLayout, lacksPacking, Layout.has_add, Bool.not_true]
  | struct | global | function | unknown => rfl

theorem lacksPacking_assignStorage (stage : PipelineStage) (d : Decl) :
    (d.assignStorage stage).lacksPacking = d.lacksPacking := by
  cases d <;> rfl

end Decl

end GlslCompiler

import Mathlib.Data.List.Forall2
import Mathlib.Data.List.Induction
import Mathlib.Data.List.Nodup
import GlslCompiler.Proofs.Program.Passes

/-!
# The entries of a layout

Entries are added to a layout one after the other, and a key that is there already is left alone. What stands in the
layout in the end is said here by positions: behind the entries that it began with stands each added entry whose key
neither the layout had nor an earlier addition brought, in order and with the value it came with. A layout may begin
with a key twice; it then keeps it twice, and only such a layout ends with one.

The layout pass adds one entry to each block, so it brings at most that one, at the end, and counts the blocks where it
does.
-/

namespace GlslCompiler

namespace Layout

def keys (layout : Layout) : List String := layout.entries.map Prod.fst

/-- Adds entries one after the other. -/
def addAll (layout : Layout) (added : List (String × Option String)) : Layout :=
  added.foldl (fun current entry => current.add entry.1 entry.2) layout

/-- The added entries whose key neither the layout has nor an entry that is added earlier, in order. -/
def firstAdded (layout : Layout) (added : List (String × Option String)) : List (String × Option String) :=
  (added.zipIdx.filter fun p => p.1.1 ∉ layout.keys ∧ p.1.1 ∉ (added.take p.2).map Prod.fst).map Prod.fst

/-! ### One addition -/

theorem has_iff_mem_keys (layout : Layout) (key : String) : layout.has key = true ↔ key ∈ layout.keys := by
  simp [has, keys]

theorem add_of_mem {layout : Layout} {key : String} (h : key ∈ layout.keys) (value : Option String) :
    layout.add key value = layout := if_pos ((layout.has_iff_mem_keys key).2 h)

theorem add_of_not_mem {layout : Layout} {key : String} (h : key ∉ layout.keys) (value : Option String) :
    layout.add key value = ⟨layout.entries ++ [(key, value)]⟩ := if_neg (mt (layout.has_iff_mem_keys key).1 h)

theorem entries_add (layout : Layout) (key : String) (value : Option String) :
    (layout.add key value).entries = layout.entries ++ if key ∈ layout.keys then [] else [(key, value)] := by
  split
  · rename_i hkey
    rw [add_of_mem hkey, List.append_nil]
  · rename_i hkey
    rw [add_of_not_mem hkey]

theorem keys_add (layout : Layout) (key : String) (value : Option String) :
    (layout.add key value).keys = layout.keys ++ if key ∈ layout.keys then [] else [key] := by
  rw [keys, entries_add, List.map_append, ← keys]
  split <;> rfl

theorem mem_keys_add {layout : Layout} {key k : String} {value : Option String} :
    k ∈ (layout.add key value).keys ↔ k ∈ layout.keys ∨ k = key := by
  rw [keys_add, List.mem_append]
  split
  · rename_i hkey
    rw [or_iff_left List.not_mem_nil, or_iff_left_of_imp]
    rintro rfl
    exact hkey
  · rw [List.mem_singleton]

theorem nodup_keys_add {layout : Layout} {key : String} {value : Option String} :
    (layout.add key value).keys.Nodup ↔ layout.keys.Nodup := by
  rw [keys_add]
  split
  · rw [List.append_nil]
  · rename_i hkey
    rw [← List.concat_eq_append, List.nodup_concat, and_iff_right hkey]

/-! ### Any number of additions -/

theorem addAll_append (layout : Layout) (before after : List (String × Option String)) :
    layout.addAll (before ++ after) = (layout.addAll before).addAll after := List.foldl_append

theorem addAll_concat (layout : Layout) (added : List (String × Option String)) (entry : String × Option String) :
    layout.addAll (added ++ [entry]) = (layout.addAll added).add entry.1 entry.2 := layout.addAll_append added [entry]

theorem mem_keys_addAll {layout : Layout} {added : List (String × Option String)} {key : String} :
    key ∈ (layout.addAll added).keys ↔ key ∈ layout.keys ∨ key ∈ added.map Prod.fst := by
  induction added generalizing layout with
  | nil => simp [addAll]
  | cons entry rest ih =>
    change key ∈ ((layout.add entry.1 entry.2).addAll rest).keys ↔ _
    rw [ih, mem_keys_add, List.map_cons, List.mem_cons, or_assoc]

theorem nodup_keys_addAll {layout : Layout} {added : List (String × Option String)} :
    (layout.addAll added).keys.Nodup ↔ layout.keys.Nodup := by
  induction added generalizing layout with
  | nil => exact Iff.rfl
  | cons entry rest ih => exact ih.trans nodup_keys_add

theorem firstAdded_concat (layout : Layout) (added : List (String × Option String)) (entry : String × Option String) :
    layout.firstAdded (added ++ [entry]) = layout.firstAdded added ++
      if entry.1 ∈ layout.keys ∨ entry.1 ∈ added.map Prod.fst then [] else [entry] :=
  firstsBy_concat Prod.fst layout.keys added entry

theorem entries_addAll (layout : Layout) (added : List (String × Option String)) :
    (layout.addAll added).entries = layout.entries ++ layout.firstAdded added := by
  -- From the end, so that an entry meets the keys that all earlier ones have led to.
  induction added using List.reverseRecOn with
  | nil => exact (List.append_nil _).symm
  | append_singleton added entry ih =>
    rw [addAll_concat, entries_add, ih, firstAdded_concat, List.append_assoc]
    simp only [mem_keys_addAll]

theorem addAll_isPrefix (layout : Layout) (before after : List (String × Option String)) :
    (layout.addAll before).entries <+: (layout.addAll (before ++ after)).entries := by
  rw [addAll_append, entries_addAll (layout.addAll before)]
  exact List.prefix_append _ _

end Layout

/-! ### The layout pass -/

namespace Decl

/-- A declaration before and after the pass: a block that lacks the packing layout has it as its last entry, and
nothing else changes. -/
inductive Annotated : Decl → Decl → Prop where
  | present {b : UniformBlock} (h : "std140" ∈ b.layout.keys) : Annotated (.block b) (.block b)
  | added {b : UniformBlock} (h : "std140" ∉ b.layout.keys) :
      Annotated (.block b) (.block { b with layout := ⟨b.layout.entries ++ [("std140", none)]⟩ })
  | other {d : Decl} (h : ∀ b, d ≠ .block b) : Annotated d d

theorem annotated_annotateLayout (d : Decl) : Annotated d d.annotateLayout := by
  cases d with
  | block b =>
    by_cases h : "std140" ∈ b.layout.keys
    · rw [annotateLayout, packingLayout, Layout.add_of_mem h]
      exact .present h
    · rw [annotateLayout, packingLayout, Layout.add_of_not_mem h]
      exact .added h
  | struct | global | function | unknown => exact .other (by simp)

theorem Annotated.mem_keys {d : Decl} {b : UniformBlock} (h : Annotated d (.block b)) : "std140" ∈ b.layout.keys := by
  cases h with
  | present h => exact h
  | added h => simp [Layout.keys]
  | other h => exact absurd rfl (h b)

end Decl

namespace Program

theorem annotated_annotateLayouts (program : Program) :
    List.Forall₂ Decl.Annotated program program.annotateLayouts.2 :=
  List.forall₂_map_right_iff.2 (List.forall₂_same.2 fun d _ => d.annotated_annotateLayout)

theorem mem_blocks_annotateLayouts {program : Program} {b : UniformBlock} (h : b ∈ program.annotateLayouts.2.blocks) :
    "std140" ∈ b.layout.keys := by
  obtain ⟨d, hd, hblock⟩ := List.mem_filterMap.1 h
  obtain ⟨own, -, rfl⟩ := List.mem_map.1 hd
  have hannotated := own.annotated_annotateLayout
  cases hown : own.annotateLayout with
  | block b' =>
    rw [hown] at hannotated hblock
    cases hblock
    exact hannotated.mem_keys
  | struct | global | function | unknown =>
    rw [hown] at hblock
    cases hblock

theorem countP_lacksPacking (program : Program) :
    program.countP Decl.lacksPacking = program.blocks.countP fun b => "std140" ∉ b.layout.keys := by
  rw [blocks, List.countP_filterMap]
  apply List.countP_congr
  intro d _
  cases d with
  | block b => simp [Decl.lacksPacking, Decl.block?, ← Layout.has_iff_mem_keys, Decl.packingLayout]
  | struct | global | function | unknown => rfl

end Program

/-- Whatever is added to a layout, it keeps the entries it began with and has behind them the first entry of each new
key. No later addition moves or changes an entry, a key is there if it was or was added, and no key comes twice that
did not begin so. The layout pass is the case of one addition to each block. -/
theorem Layout.addAll_firstWins (layout : Layout) (added : List (String × Option String)) :
    (layout.addAll added).entries = layout.entries ++ layout.firstAdded added ∧
    (∀ before after, added = before ++ after → (layout.addAll before).entries <+: (layout.addAll added).entries) ∧
    (∀ key, (layout.addAll added).has key = true ↔ key ∈ layout.keys ∨ key ∈ added.map Prod.fst) ∧
    ((layout.addAll added).keys.Nodup ↔ layout.keys.Nodup) ∧
    ∀ program : Program,
      List.Forall₂ Decl.Annotated program program.annotateLayouts.2 ∧
      (∀ b ∈ program.annotateLayouts.2.blocks, "std140" ∈ b.layout.keys) ∧
      program.annotateLayouts.1 = program.blocks.countP fun b => "std140" ∉ b.layout.keys := by
  refine ⟨layout.entries_addAll added, ?_, ?_, nodup_keys_addAll, fun program => ?_⟩
  · rintro before after rfl
    exact layout.addAll_isPrefix before after
  · intro key
    rw [has_iff_mem_keys, mem_keys_addAll]
  · exact ⟨program.annotated_annotateLayouts, fun b => Program.mem_blocks_annotateLayouts, program.countP_lacksPacking⟩

/-- A layout that begins with a key twice: it keeps both entries, and of the added ones the first of each new key. -/
example :
    (Layout.addAll ⟨[("set", some "1"), ("set", none)]⟩
      [("binding", none), ("set", some "2"), ("offset", some "0"), ("binding", some "3")]).entries =
    [("set", some "1"), ("set", none), ("binding", none), ("offset", some "0")] := by decide

end GlslCompiler

import Mathlib.Data.List.Basic
import GlslCompiler.Proofs.Writer.Fragments

/-!
# The headers of functions

The line that opens a function can be taken apart again where the names in it are words: the base type of what the
function returns, its name, and its parameters with their qualifiers and array sizes. Nothing else of the function is
in the line.
-/

namespace GlslCompiler

/-- A name that can be told from what stands around it in a header. -/
abbrev IsWord : String → Prop := Lacks [' ', ',', '(', '[']

theorem append_inj_of_not_mem (stop : Char) {separator s t u v : String} (hstop : separator.toList = [stop])
    (hs : stop ∉ s.toList) (ht : stop ∉ t.toList) (h : s ++ separator ++ u = t ++ separator ++ v) :
    s = t ∧ u = v := by
  have hchars := congrArg String.toList h
  simp only [String.toList_append, hstop, List.append_assoc, List.singleton_append] at hchars
  have hsplit := congrArg (List.splitOn stop) hchars
  rw [List.splitOn_append_cons_self_of_not_mem hs, List.splitOn_append_cons_self_of_not_mem ht] at hsplit
  obtain rfl := String.toList_inj.1 (List.cons.inj hsplit).1
  exact ⟨rfl, String.toList_inj.1 (List.cons.inj (List.append_cancel_left hchars)).2⟩

/-! ### Lists with commas -/

/-- The items of a list that is written with commas, each with the space in front of it. -/
def items (text : String) : List (List Char) := (' ' :: text.toList).splitOn ','

theorem toList_intercalate {texts : List String} (h : texts ≠ []) :
    ' ' :: (", ".intercalate texts).toList = [','].intercalate (texts.map fun text => ' ' :: text.toList) := by
  induction texts with
  | nil => exact absurd rfl h
  | cons first rest ih =>
    cases rest with
    | nil => simp
    | cons second rest =>
      have hrest := ih (List.cons_ne_nil second rest)
      rw [List.map_cons] at hrest ⊢
      rw [List.map_cons, List.intercalate_cons_cons, ← hrest, String.intercalate_cons_cons]
      simp

theorem items_intercalate {texts : List String} (h : texts ≠ []) (hcomma : ∀ text ∈ texts, ',' ∉ text.toList) :
    items (", ".intercalate texts) = texts.map fun text => ' ' :: text.toList := by
  rw [items, toList_intercalate h]
  refine List.splitOn_intercalate ',' (fun chars hchars => ?_) (by simpa using h)
  obtain ⟨text, htext, rfl⟩ := List.mem_map.1 hchars
  simpa using hcomma text htext

theorem toString_lacks {chars : List Char} (hchars : ∀ c ∈ chars, c.isDigit = false ∧ c ≠ '-') (n : Int) :
    Lacks chars (toString n) := by
  have hnat : ∀ m : Nat, Lacks chars m.repr := by
    intro m
    refine .of_not_mem fun c hc hmem => ?_
    have hdigit : c.isDigit = true := Nat.isDigit_of_mem_toDigits (b := 10) (by decide) (by decide)
      (by simpa [Nat.repr] using hmem)
    rw [(hchars c hc).1] at hdigit
    cases hdigit
  change Lacks _ n.repr
  rw [Int.repr_eq_if]
  split
  · exact hnat _
  · refine .append (.of_not_mem fun c hc hmem => ?_) (hnat _)
    exact (hchars c hc).2 (by simpa using hmem)

theorem sizeText_lacks {chars : List Char} (hchars : ∀ c ∈ chars, c.isDigit = false ∧ c ∉ ['-', '[', ']'])
    (size : Option Int) : Lacks chars (sizeText size) := by
  have hbracket : ∀ bracket ∈ ["[", "]"], Lacks chars bracket := by
    refine fun bracket hbracket => .of_not_mem fun c hc hmem => (hchars c hc).2 ?_
    simp only [List.mem_cons, List.not_mem_nil, or_false] at hbracket
    rcases hbracket with rfl | rfl
    · have heq : c = '[' := by simpa using hmem
      simp [heq]
    · have heq : c = ']' := by simpa using hmem
      simp [heq]
  cases size with
  | none => rfl
  | some n =>
    have hnumber := toString_lacks (fun c hc => ⟨(hchars c hc).1, by grind⟩) n
    exact ((hbracket "[" (by simp)).append hnumber).append (hbracket "]" (by simp))

theorem repr_inj {m n : Nat} (h : m.repr = n.repr) : m = n := by
  have hdigits := congrArg String.toList h
  rw [Nat.toList_repr, Nat.toList_repr] at hdigits
  rw [← Nat.ofDigitChars_ten_toDigits (n := m), hdigits, Nat.ofDigitChars_ten_toDigits]

/-- The text of a natural number has no sign. -/
theorem repr_ne_minus (m n : Nat) : m.repr ≠ "-" ++ n.repr := by
  intro h
  have hminus : '-' ∈ Nat.toDigits 10 m := by
    rw [← Nat.toList_repr, h]
    simp
  exact absurd (Nat.isDigit_of_mem_toDigits (by decide) (by decide) hminus) (by decide)

theorem toString_inj {m n : Int} (h : toString m = toString n) : m = n := by
  change m.repr = n.repr at h
  rw [Int.repr_eq_if, Int.repr_eq_if] at h
  split_ifs at h with hm hn hn
  · have hnat := repr_inj h
    omega
  · exact absurd h (repr_ne_minus _ _)
  · exact absurd h.symm (repr_ne_minus _ _)
  · have hnat := repr_inj ((String.append_right_inj _).1 h)
    omega

theorem sized_inj {name name' : String} {size size' : Option Int} (hname : '[' ∉ name.toList)
    (hname' : '[' ∉ name'.toList) (h : name ++ sizeText size = name' ++ sizeText size') :
    name = name' ∧ size = size' := by
  cases size with
  | none =>
    cases size' with
    | none => simpa [sizeText] using h
    | some n =>
      refine absurd ?_ hname
      have hsame : name = name' ++ sizeText (some n) := by simpa [sizeText] using h
      simp [hsame, sizeText]
  | some m =>
    cases size' with
    | none =>
      refine absurd ?_ hname'
      have hsame : name' = name ++ sizeText (some m) := by simpa [sizeText] using h.symm
      simp [hsame, sizeText]
    | some n =>
      have hsplit : name ++ "[" ++ (toString m ++ "]") = name' ++ "[" ++ (toString n ++ "]") := by
        simpa only [sizeText, String.append_assoc] using h
      obtain ⟨hnames, hsizes⟩ := append_inj_of_not_mem '[' rfl hname hname' hsplit
      exact ⟨hnames, congrArg some (toString_inj (String.append_left_inj _ |>.1 hsizes))⟩

/-- The first space of a declarator stands behind its base type. -/
theorem declarator_split (type : GlslType) (name : String) :
    declarator type name = type.base ++ " " ++ (name ++ sizeText type.arraySize) := by
  rw [declarator_eq, String.append_assoc]

theorem declarator_inj {type type' : GlslType} {name name' : String} (hbase : IsWord type.base)
    (hbase' : IsWord type'.base) (hname : IsWord name) (hname' : IsWord name')
    (h : declarator type name = declarator type' name') : type = type' ∧ name = name' := by
  rw [declarator_split, declarator_split] at h
  obtain ⟨hbases, hrest⟩ := append_inj_of_not_mem ' ' rfl (hbase.not_mem (by simp)) (hbase'.not_mem (by simp)) h
  obtain ⟨hnames, hsizes⟩ := sized_inj (hname.not_mem (by simp)) (hname'.not_mem (by simp)) hrest
  cases type
  cases type'
  simp_all

theorem declarator_lacks {type : GlslType} {name : String} (hbase : IsWord type.base) (hname : IsWord name) :
    Lacks [','] (declarator type name) := by
  rw [declarator_eq]
  have hsize : Lacks [','] (sizeText type.arraySize) := sizeText_lacks (by simp) _
  exact (((hbase.subset (by simp)).append (by decide)).append (hname.subset (by simp))).append hsize

/-! ### Parameters and headers -/

namespace Parameter

def Worded (p : Parameter) : Prop := IsWord p.type.base ∧ IsWord p.name

instance (p : Parameter) : Decidable p.Worded := inferInstanceAs (Decidable (_ ∧ _))

theorem qualifier_text_lacks (q : Qualifier) : Lacks [' ', ','] q.text := by
  cases q <;> decide

theorem qualifier_text_inj {q r : Qualifier} (h : q.text = r.text) : q = r := by
  revert h
  cases q <;> cases r <;> decide

/-- A parameter ends in its declarator. -/
theorem exists_text (p : Parameter) : ∃ before, p.text = before ++ declarator p.type p.name := by
  unfold text
  split
  · exact ⟨_, rfl⟩
  · exact ⟨"", String.empty_append.symm⟩

theorem text_lacks {p : Parameter} (h : p.Worded) : p.text ≠ "" ∧ ',' ∉ p.text.toList := by
  have hdeclarator := declarator_lacks h.1 h.2
  have hlacks : Lacks [','] p.text := by
    unfold text
    split
    · exact (((qualifier_text_lacks _).subset (by simp)).append (by decide)).append hdeclarator
    · exact hdeclarator
  refine ⟨fun hnone => ?_, hlacks.not_mem (by simp)⟩
  obtain ⟨before, hbefore⟩ := p.exists_text
  have hchars := congrArg String.toList (hbefore.symm.trans hnone)
  simp [declarator_eq] at hchars

/-- A qualified parameter has one space more than one without a qualifier. -/
theorem unqualified_ne {q : Qualifier} {type type' : GlslType} {name name' : String} (hbase' : IsWord type'.base)
    (hname' : IsWord name') : q.text ++ " " ++ declarator type name ≠ declarator type' name' := by
  intro h
  rw [declarator_split type' name'] at h
  have hqualifier := (qualifier_text_lacks q).not_mem (c := ' ') (by simp)
  obtain ⟨-, hrest⟩ := append_inj_of_not_mem ' ' rfl hqualifier (hbase'.not_mem (by simp)) h
  have hlacks : Lacks [' '] (name' ++ sizeText type'.arraySize) :=
    (hname'.subset (by simp)).append (sizeText_lacks (by simp) _)
  apply hlacks.not_mem (c := ' ') (by simp)
  simp [← hrest, declarator_eq]

theorem text_inj {p p' : Parameter} (h : p.Worded) (h' : p'.Worded) (heq : p.text = p'.text) : p = p' := by
  obtain ⟨name, type, qualifier⟩ := p
  obtain ⟨name', type', qualifier'⟩ := p'
  obtain ⟨hbase, hname⟩ := h
  obtain ⟨hbase', hname'⟩ := h'
  dsimp only at hbase hname hbase' hname'
  cases qualifier with
  | none =>
    cases qualifier' with
    | none =>
      obtain ⟨rfl, rfl⟩ := declarator_inj hbase hbase' hname hname' heq
      rfl
    | some q => exact absurd heq.symm (unqualified_ne hbase hname)
  | some q =>
    cases qualifier' with
    | none => exact absurd heq (unqualified_ne hbase' hname')
    | some r =>
      obtain ⟨hqualifiers, hrest⟩ := append_inj_of_not_mem ' ' rfl
        ((qualifier_text_lacks q).not_mem (by simp)) ((qualifier_text_lacks r).not_mem (by simp)) heq
      obtain rfl := qualifier_text_inj hqualifiers
      obtain ⟨rfl, rfl⟩ := declarator_inj hbase hbase' hname hname' hrest
      rfl

end Parameter

namespace Function

def header (f : Function) : String :=
  f.returnName ++ " " ++ f.name ++ "(" ++ ", ".intercalate (f.parameters.map Parameter.text) ++ ") \x7b"

/-- The names in a header are words. -/
def Worded (f : Function) : Prop := IsWord f.returnName ∧ IsWord f.name ∧ ∀ p ∈ f.parameters, p.Worded

instance (f : Function) : Decidable f.Worded := inferInstanceAs (Decidable (_ ∧ _))

end Function

end GlslCompiler

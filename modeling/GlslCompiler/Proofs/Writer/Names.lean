import Mathlib.Data.List.TakeWhile
import GlslCompiler.Proofs.Expression.Suffixes

/-!
# Names in a text

Two things are read off a text without knowing what it was written from. One is which members are selected from names:
the text is cut into its longest pieces of words and points, and a piece that begins with a word and a point selects
what stands behind the point. The other is which name a line declares: it begins with two or more words, and the last
of them is the name.
-/

namespace GlslCompiler

open Grammar

/-! ### Selections -/

/-- A member that is selected from a name. -/
structure Reference where
  base : String
  member : String
  deriving DecidableEq

def isNameChar (c : Char) : Bool := isWordChar c || c == '.'

/-- The longest pieces of a text that are made of words and points. -/
def pieces (cs : List Char) : List (List Char) := cs.splitOnP fun c => !isNameChar c

/-- What a piece selects, if it begins with a word and a point. -/
def selection? (piece : List Char) : Option Reference :=
  match piece.dropWhile (· != '.') with
  | [] => none
  | _ :: rest =>
    let base := piece.takeWhile (· != '.')
    if isWord base then some ⟨String.ofList base, String.ofList (rest.takeWhile (· != '.'))⟩ else none

/-- The members that a text selects from names. -/
def selections (text : String) : List Reference := (pieces text.toList).filterMap selection?

theorem takeWhile_of_not_mem {cs : List Char} (h : '.' ∉ cs) : cs.takeWhile (· != '.') = cs := by
  rw [List.takeWhile_eq_self_iff]
  intro c hc
  simpa using fun heq : c = '.' => h (heq ▸ hc)

theorem takeWhile_point (cs rest : List Char) :
    (cs ++ '.' :: rest).takeWhile (· != '.') = cs.takeWhile (· != '.') := by
  induction cs with
  | nil => rfl
  | cons c cs ih =>
    rw [List.cons_append, List.takeWhile_cons, List.takeWhile_cons, ih]

theorem selection?_point {base : List Char} (h : '.' ∉ base) (rest : List Char) :
    selection? (base ++ '.' :: rest) =
      if isWord base then some ⟨String.ofList base, String.ofList (rest.takeWhile (· != '.'))⟩ else none := by
  have hdrop : (base ++ '.' :: rest).dropWhile (· != '.') = '.' :: rest := by
    rw [List.dropWhile_append_of_pos]
    · rfl
    · intro c hc
      simpa using fun heq : c = '.' => h (heq ▸ hc)
  rw [selection?, hdrop, takeWhile_point, takeWhile_of_not_mem h]

theorem selection?_of_not_mem {cs : List Char} (h : '.' ∉ cs) : selection? cs = none := by
  have hdrop : cs.dropWhile (· != '.') = [] := by
    rw [List.dropWhile_eq_nil_iff]
    intro c hc
    simpa using fun heq : c = '.' => h (heq ▸ hc)
  rw [selection?, hdrop]

/-- Only the first member of a piece is a selection from its name. -/
theorem selection?_more {cs : List Char} (h : '.' ∈ cs) (rest : List Char) :
    selection? (cs ++ '.' :: rest) = selection? cs := by
  obtain ⟨base, more, rfl, hbase⟩ := List.eq_append_cons_of_mem h
  rw [List.append_assoc, List.cons_append, selection?_point hbase, selection?_point hbase, takeWhile_point]

theorem pieces_cons (c : Char) (cs : List Char) :
    pieces (c :: cs) = if isNameChar c then (pieces cs).modifyHead (c :: ·) else [] :: pieces cs := by
  rw [pieces, List.splitOnP_cons_eq_if_modifyHead]
  cases isNameChar c <;> rfl

theorem pieces_of_names {cs : List Char} (h : ∀ c ∈ cs, isNameChar c = true) : pieces cs = [cs] :=
  List.splitOnP_eq_singleton fun c hc => by rw [h c hc, Bool.not_true]

/-- Behind its last gap a text is open: more of a name only adds to its last piece. -/
theorem exists_last (cs : List Char) : ∃ before : List (List Char), ∃ last,
    ∀ more, (∀ c ∈ more, isNameChar c = true) → pieces (cs ++ more) = before ++ [last ++ more] := by
  induction cs with
  | nil => exact ⟨[], [], fun more hmore => pieces_of_names hmore⟩
  | cons c cs ih =>
    obtain ⟨before, last, hlast⟩ := ih
    cases hc : isNameChar c with
    | false =>
      refine ⟨[] :: before, last, fun more hmore => ?_⟩
      rw [List.cons_append, pieces_cons, hc, hlast more hmore]
      rfl
    | true =>
      cases before with
      | nil =>
        refine ⟨[], c :: last, fun more hmore => ?_⟩
        rw [List.cons_append, pieces_cons, hc, hlast more hmore]
        rfl
      | cons first before =>
        refine ⟨(c :: first) :: before, last, fun more hmore => ?_⟩
        rw [List.cons_append, pieces_cons, hc, hlast more hmore]
        rfl

theorem mem_of_mem_pieces {cs piece : List Char} (h : piece ∈ pieces cs) : ∀ c ∈ piece, c ∈ cs := by
  induction cs generalizing piece with
  | nil =>
    rw [List.mem_singleton.1 h]
    simp
  | cons c cs ih =>
    rw [pieces_cons] at h
    split at h
    · cases hpieces : pieces cs with
      | nil => exact absurd hpieces (List.splitOnP_ne_nil _ _)
      | cons first rest =>
        rw [hpieces] at h ih
        rcases List.mem_cons.1 h with rfl | h
        · intro d hd
          exact List.mem_cons.2 ((List.mem_cons.1 hd).imp_right (ih List.mem_cons_self d))
        · exact fun d hd => List.mem_cons_of_mem c (ih (List.mem_cons_of_mem first h) d hd)
    · rcases List.mem_cons.1 h with rfl | h
      · simp
      · exact fun d hd => List.mem_cons_of_mem c (ih h d hd)

theorem selections_of_not_mem {text : String} (h : '.' ∉ text.toList) : selections text = [] :=
  List.filterMap_eq_nil_iff.2 fun _ hpiece => selection?_of_not_mem fun hpoint => h (mem_of_mem_pieces hpiece _ hpoint)

/-- One or more characters that belong to no name. -/
def isGap (text : String) : Bool := !text.toList.isEmpty && text.toList.all fun c => !isNameChar c

theorem selections_gap {gap : String} (hgap : isGap gap = true) (s t : String) :
    selections (s ++ gap ++ t) = selections s ++ selections t := by
  obtain ⟨hne, hall⟩ := Bool.and_eq_true_iff.1 hgap
  have hskip : ∀ cs : List Char, (∀ c ∈ cs, isNameChar c = false) →
      (pieces (cs ++ t.toList)).filterMap selection? = selections t := by
    intro cs hcs
    induction cs with
    | nil => rfl
    | cons c cs ih =>
      obtain ⟨hc, hcs⟩ := List.forall_mem_cons.1 hcs
      rw [List.cons_append, pieces_cons, hc]
      exact ih hcs
  have hgaps : ∀ c ∈ gap.toList, isNameChar c = false := by simpa using hall
  cases hlist : gap.toList with
  | nil => simp [hlist] at hne
  | cons c cs =>
    rw [hlist] at hgaps
    obtain ⟨hc, hcs⟩ := List.forall_mem_cons.1 hgaps
    have htext : (s ++ gap ++ t).toList = s.toList ++ c :: (cs ++ t.toList) := by simp [hlist]
    rw [selections, htext, pieces, List.splitOnP_append_cons _ _ (by rw [hc, Bool.not_false]), List.filterMap_append]
    exact congrArg (selections s ++ ·) (hskip cs hcs)

theorem selections_before_gap {gap : String} (hgap : isGap gap = true) (s : String) :
    selections (s ++ gap) = selections s := by
  have hsplit := selections_gap hgap s ""
  rwa [String.append_empty, show selections "" = [] from rfl, List.append_nil] at hsplit

theorem selections_after_gap {gap : String} (hgap : isGap gap = true) (s : String) :
    selections (gap ++ s) = selections s := by
  have hsplit := selections_gap hgap "" s
  rwa [String.empty_append] at hsplit

theorem isNameChar_of_isWord {cs : List Char} (h : isWord cs = true) : ∀ c ∈ cs, isNameChar c = true := by
  intro c hc
  rw [isNameChar, isWordChar_of_isWord h c hc, Bool.true_or]

theorem point_not_mem_of_isWord {cs : List Char} (h : isWord cs = true) : '.' ∉ cs := by
  intro hmem
  exact absurd (isWordChar_of_isWord h '.' hmem) (by decide)

theorem isNameChar_member {member : List Char} (h : isWord member = true) :
    ∀ c ∈ '.' :: member, isNameChar c = true := List.forall_mem_cons.2 ⟨by decide, isNameChar_of_isWord h⟩

/-- A member behind a text selects nothing that the text did not select. -/
def Closed (text : String) : Prop :=
  ∀ member : String, isWord member.toList = true → selections (text ++ "." ++ member) = selections text

theorem selections_member {name member : String} (hname : isWord name.toList = true)
    (hmember : isWord member.toList = true) : selections (name ++ "." ++ member) = [⟨name, member⟩] := by
  have hall : ∀ c ∈ name.toList ++ '.' :: member.toList, isNameChar c = true :=
    List.forall_mem_append.2 ⟨isNameChar_of_isWord hname, isNameChar_member hmember⟩
  have hsome : selection? (name.toList ++ '.' :: member.toList) = some ⟨name, member⟩ := by
    rw [selection?_point (point_not_mem_of_isWord hname), if_pos hname,
      takeWhile_of_not_mem (point_not_mem_of_isWord hmember), String.ofList_toList, String.ofList_toList]
  rw [selections, toList_member, pieces_of_names hall, List.filterMap_cons_some hsome, List.filterMap_nil]

theorem closed_gap {gap : String} (hgap : isGap gap = true) (s : String) : Closed (s ++ gap) := by
  intro member hmember
  have hall := isNameChar_member hmember
  have hnone : selections ("." ++ member) = [] := by
    rw [selections, String.toList_append, show ".".toList ++ member.toList = '.' :: member.toList from rfl,
      pieces_of_names hall]
    rfl
  rw [String.append_assoc, selections_gap hgap, hnone, List.append_nil, selections_before_gap hgap]

theorem closed_member (s : String) {member : String} (hmember : isWord member.toList = true) :
    Closed (s ++ "." ++ member) := by
  intro other hother
  obtain ⟨before, last, hlast⟩ := exists_last s.toList
  have hshort := isNameChar_member hmember
  have hlong : ∀ c ∈ '.' :: member.toList ++ '.' :: other.toList, isNameChar c = true :=
    List.forall_mem_append.2 ⟨hshort, isNameChar_member hother⟩
  have hmore : selection? (last ++ ('.' :: member.toList ++ '.' :: other.toList))
      = selection? (last ++ '.' :: member.toList) := by
    rw [← List.append_assoc]
    exact selection?_more (by simp) other.toList
  rw [selections, selections, toList_member, toList_member, List.append_assoc, hlast _ hlong, hlast _ hshort,
    List.filterMap_append, List.filterMap_append]
  simp only [List.filterMap_cons, List.filterMap_nil, hmore]

/-! ### Declared names -/

/-- The words between the spaces of a text. -/
def wordsOf (cs : List Char) : List (List Char) := (cs.splitOn ' ').filter fun word => !word.isEmpty

/-- The words at the beginning of a text, up to the first character that belongs to none. -/
def leadingWords (cs : List Char) : List (List Char) := wordsOf (cs.takeWhile fun c => isWordChar c || c == ' ')

/-- The name that a text declares: the last of two or more words that it begins with. What is returned is no
declaration. -/
def declaredName? (cs : List Char) : Option String :=
  let words := leadingWords cs
  if 2 ≤ words.length ∧ words.head? ≠ some "return".toList then words.getLast?.map String.ofList else none

/-- Characters of words, at least one. -/
def Wordlike (cs : List Char) : Prop := cs ≠ [] ∧ ∀ c ∈ cs, isWordChar c = true

theorem wordlike_of_isWord {cs : List Char} (h : isWord cs = true) : Wordlike cs := by
  refine ⟨?_, isWordChar_of_isWord h⟩
  rintro rfl
  cases h

theorem wordsOf_space (cs : List Char) : wordsOf (' ' :: cs) = wordsOf cs := by
  have hsplit : ([] ++ ' ' :: cs).splitOn ' ' = [] :: cs.splitOn ' ' :=
    List.splitOn_append_cons_self_of_not_mem (by simp) cs
  rw [List.nil_append] at hsplit
  rw [wordsOf, hsplit]
  rfl

theorem wordsOf_spaces (n : Nat) : wordsOf (List.replicate n ' ') = [] := by
  induction n with
  | zero => rfl
  | succ n ih => rw [List.replicate_succ, wordsOf_space, ih]

namespace Wordlike

variable {word : List Char}

theorem space_not_mem (h : Wordlike word) : ' ' ∉ word := fun hmem => absurd (h.2 ' ' hmem) (by decide)

theorem wordsOf_cons (h : Wordlike word) (cs : List Char) : wordsOf (word ++ ' ' :: cs) = word :: wordsOf cs := by
  rw [wordsOf, List.splitOn_append_cons_self_of_not_mem h.space_not_mem, List.filter_cons, wordsOf]
  simp [h.1]

theorem wordsOf_spaces (h : Wordlike word) (n : Nat) : wordsOf (word ++ List.replicate n ' ') = [word] := by
  cases n with
  | zero =>
    rw [List.replicate_zero, List.append_nil, wordsOf, List.splitOn_eq_singleton h.space_not_mem, List.filter_cons]
    simp [h.1]
  | succ n => rw [List.replicate_succ, h.wordsOf_cons, GlslCompiler.wordsOf_spaces]

end Wordlike

theorem wordsOf_words {words : List (List Char)} (h : ∀ word ∈ words, Wordlike word) (n : Nat) :
    wordsOf ([' '].intercalate words ++ List.replicate n ' ') = words := by
  induction words with
  | nil => exact wordsOf_spaces n
  | cons word words ih =>
    obtain ⟨hword, hwords⟩ := List.forall_mem_cons.1 h
    cases words with
    | nil => rw [List.intercalate_singleton, hword.wordsOf_spaces]
    | cons second words =>
      rw [List.intercalate_cons_cons, List.append_assoc, List.append_assoc, List.singleton_append,
        hword.wordsOf_cons, ih hwords]

/-- No word stands at the beginning of the text, nor behind spaces there. -/
def endsWords (cs : List Char) : Bool := !(cs.dropWhile (· == ' ')).head?.any isWordChar

/-- A character that belongs to no word stands at the beginning of the text or behind spaces there. -/
def breaksWords (cs : List Char) : Bool := (cs.dropWhile (· == ' ')).head?.any fun c => !isWordChar c

theorem dropWhile_cons_of_ne {c : Char} (hc : c ≠ ' ') (cs : List Char) : (c :: cs).dropWhile (· == ' ') = c :: cs :=
  List.dropWhile_cons_of_neg (by simpa using hc)

theorem endsWords_of_breaksWords {cs : List Char} (h : breaksWords cs = true) (ds : List Char) :
    endsWords (cs ++ ds) = true := by
  induction cs with
  | nil => cases h
  | cons c cs ih =>
    by_cases hc : c = ' '
    · subst hc
      exact ih h
    · rw [breaksWords, dropWhile_cons_of_ne hc] at h
      rw [endsWords, List.cons_append, dropWhile_cons_of_ne hc]
      simpa using h

theorem endsWords_append {cs ds : List Char} (hcs : endsWords cs = true) (hds : endsWords ds = true) :
    endsWords (cs ++ ds) = true := by
  induction cs with
  | nil => exact hds
  | cons c cs ih =>
    by_cases hc : c = ' '
    · subst hc
      exact ih hcs
    · rw [endsWords, dropWhile_cons_of_ne hc] at hcs
      rw [endsWords, List.cons_append, dropWhile_cons_of_ne hc]
      exact hcs

theorem exists_spaces {rest : List Char} (h : endsWords rest = true) :
    ∃ n, rest.takeWhile (fun c => isWordChar c || c == ' ') = List.replicate n ' ' := by
  induction rest with
  | nil => exact ⟨0, rfl⟩
  | cons c rest ih =>
    by_cases hc : c = ' '
    · subst hc
      obtain ⟨n, hn⟩ := ih h
      refine ⟨n + 1, ?_⟩
      rw [List.takeWhile_cons_of_pos (by decide), hn]
      rfl
    · rw [endsWords, dropWhile_cons_of_ne hc] at h
      have hword : isWordChar c = false := by simpa using h
      refine ⟨0, List.takeWhile_cons_of_neg ?_⟩
      simpa [hword] using hc

theorem forall_mem_words {words : List (List Char)} (h : ∀ word ∈ words, Wordlike word) :
    ∀ c ∈ [' '].intercalate words, (isWordChar c || c == ' ') = true := by
  have hchars : ∀ {word}, Wordlike word → ∀ c ∈ word, (isWordChar c || c == ' ') = true :=
    fun hword c hc => by rw [hword.2 c hc, Bool.true_or]
  induction words with
  | nil => simp
  | cons word words ih =>
    obtain ⟨hword, hwords⟩ := List.forall_mem_cons.1 h
    cases words with
    | nil =>
      rw [List.intercalate_singleton]
      exact hchars hword
    | cons second words =>
      rw [List.intercalate_cons_cons, List.forall_mem_append, List.forall_mem_append]
      exact ⟨⟨hchars hword, by simp⟩, ih hwords⟩

theorem leadingWords_eq {words : List (List Char)} (h : ∀ word ∈ words, Wordlike word) {rest : List Char}
    (hrest : endsWords rest = true) : leadingWords ([' '].intercalate words ++ rest) = words := by
  obtain ⟨n, hn⟩ := exists_spaces hrest
  rw [leadingWords, List.takeWhile_append_of_pos (forall_mem_words h), hn, wordsOf_words h]

theorem leadingWords_space (cs : List Char) : leadingWords (' ' :: cs) = leadingWords cs := wordsOf_space _

theorem leadingWords_cons {word : List Char} (h : Wordlike word) (cs : List Char) :
    leadingWords (word ++ ' ' :: cs) = word :: leadingWords cs := by
  have hword : ∀ c ∈ word, (isWordChar c || c == ' ') = true := fun c hc => by rw [h.2 c hc, Bool.true_or]
  rw [leadingWords, List.takeWhile_append_of_pos hword, List.takeWhile_cons_of_pos (by decide), h.wordsOf_cons,
    leadingWords]

theorem declaredName?_space (cs : List Char) : declaredName? (' ' :: cs) = declaredName? cs := by
  unfold declaredName?
  rw [leadingWords_space]

/-- At most one word stands at the beginning of the text. -/
def Single (text : String) : Prop :=
  ∃ word rest, text.toList = word ++ rest ∧ (∀ c ∈ word, isWordChar c = true) ∧ endsWords rest = true

namespace Single

theorem append {s t : String} (hs : Single s) (ht : endsWords t.toList = true) : Single (s ++ t) := by
  obtain ⟨word, rest, htext, hword, hrest⟩ := hs
  refine ⟨word, rest ++ t.toList, ?_, hword, endsWords_append hrest ht⟩
  rw [String.toList_append, htext, List.append_assoc]

theorem of_endsWords {s : String} (h : endsWords s.toList = true) : Single s := ⟨[], s.toList, rfl, by simp, h⟩

/-- The character behind the first word is no space here. -/
theorem of_unspaced {s : String} (h : ' ' ∉ s.toList) : Single s := by
  refine ⟨s.toList.takeWhile isWordChar, s.toList.dropWhile isWordChar, List.takeWhile_append_dropWhile.symm,
    fun c hc => List.mem_takeWhile_imp hc, ?_⟩
  cases hrest : s.toList.dropWhile isWordChar with
  | nil => rfl
  | cons c rest =>
    have hspace : c ≠ ' ' := by
      rintro rfl
      exact h ((List.dropWhile_sublist _).subset (hrest ▸ List.mem_cons_self))
    have hword : isWordChar c = false := by
      have hhead := List.head?_dropWhile_not isWordChar s.toList
      rw [hrest] at hhead
      simpa using hhead
    rw [endsWords, dropWhile_cons_of_ne hspace]
    simp [hword]

theorem declaredName?_eq_none {s : String} (h : Single s) : declaredName? s.toList = none := by
  obtain ⟨word, rest, htext, hword, hrest⟩ := h
  have hwords : (leadingWords s.toList).length ≤ 1 := by
    by_cases hnil : word = []
    · have hnone : leadingWords ([' '].intercalate [] ++ rest) = [] := leadingWords_eq (by simp) hrest
      rw [List.intercalate_nil, ← hnil, ← htext] at hnone
      rw [hnone]
      exact Nat.zero_le 1
    · have hone : leadingWords ([' '].intercalate [word] ++ rest) = [word] :=
        leadingWords_eq (List.forall_mem_singleton.2 ⟨hnil, hword⟩) hrest
      rw [List.intercalate_singleton, ← htext] at hone
      rw [hone]
      exact Nat.le_refl 1
  exact if_neg fun h => absurd h.1 (by omega)

end Single

/-- A word that can stand in front of a declared name. -/
def isTypeName (base : String) : Bool := isWord base.toList && base != "return"

theorem isTypeName_iff {base : String} : isTypeName base = true ↔ isWord base.toList = true ∧ base ≠ "return" := by
  rw [isTypeName, Bool.and_eq_true_iff, bne_iff_ne]

theorem declaredName?_eq_some {words : List String} {base name : String}
    (hwords : ∀ word ∈ words, isTypeName word = true) (hbase : isTypeName base = true)
    (hname : isWord name.toList = true) {rest : List Char} (hrest : endsWords rest = true) :
    declaredName? ((" ".intercalate (words ++ [base, name])).toList ++ rest) = some name := by
  have hfront : ∀ word ∈ words ++ [base], isTypeName word = true :=
    List.forall_mem_append.2 ⟨hwords, List.forall_mem_singleton.2 hbase⟩
  have hall : ∀ word ∈ (words ++ [base, name]).map String.toList, Wordlike word := by
    rw [List.append_cons, List.forall_mem_map, List.forall_mem_append]
    exact ⟨fun word h => wordlike_of_isWord (isTypeName_iff.1 (hfront word h)).1,
      List.forall_mem_singleton.2 (wordlike_of_isWord hname)⟩
  have hleading := leadingWords_eq hall hrest
  rw [show [' '] = " ".toList from rfl, ← String.toList_intercalate] at hleading
  have hhead : ∀ word ∈ (words ++ [base, name]).head?, word ≠ "return" := by
    intro word hword
    rw [List.append_cons, List.head?_append_of_ne_nil _ (by simp)] at hword
    exact (isTypeName_iff.1 (hfront word (List.mem_of_head? hword))).2
  unfold declaredName?
  dsimp only
  rw [hleading, if_pos]
  · simp
  · refine ⟨by simp, ?_⟩
    rw [List.head?_map]
    intro hreturn
    obtain ⟨word, hword, htext⟩ := Option.map_eq_some_iff.1 hreturn
    exact hhead word hword (String.toList_inj.1 htext)

end GlslCompiler

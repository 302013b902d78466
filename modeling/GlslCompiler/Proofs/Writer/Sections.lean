import GlslCompiler.Proofs.Writer.Headers
import GlslCompiler.Proofs.Writer.Scopes

/-!
# What the lines of a declaration declare

The lines of a declaration are read by themselves. If they are one block by their braces they are a function: its
parameters stand in its header, and its references in its body. Otherwise they declare variables: each line one, or,
if the first line opens a uniform block, the name behind the closing brace or without one the members.
-/

namespace GlslCompiler

open Grammar

/-! ### Reading -/

/-- What stands behind the spaces and the layout at the beginning of a line. -/
def afterLayout (line : List Char) : List Char :=
  let text := line.dropWhile (· == ' ')
  match text.dropPrefix? "layout(".toList with
  | some rest => (rest.dropWhile (· != ')')).drop 1
  | none => text

def lineName? (line : String) : Option String := declaredName? (afterLayout line.toList)

/-- The name behind the brace that closes a block. -/
def instanceName? (line : String) : Option String :=
  match line.toList.dropPrefix? ['\x7d'] with
  | some rest => (leadingWords rest).head?.map String.ofList
  | none => none

/-- The names in the list of parameters of a header. -/
def parameterNames (header : String) : List String :=
  let list := ((header.toList.dropWhile (· != '(')).drop 1).takeWhile (· != ')')
  (items (String.ofList list)).filterMap declaredName?

/-- The header and the body of a function. The line behind it is empty. -/
def function? (own : List String) : Option (String × List Outline) :=
  match Outline.read 0 own.dropLast with
  | some [.block header body] => some (header, body)
  | _ => none

/-- The references in the lines of a declaration. -/
def sectionUses (own : List String) : List Use :=
  match function? own with
  | some (header, body) => Outline.allUses (parameterNames header) body
  | none => []

/-- The variables that a block declares, if it is one of uniforms: its instance or, without one, its members. -/
def blockNames (opening : String) (rest : List String) : List String :=
  if (leadingWords (afterLayout opening.toList)).head? = some "uniform".toList then
    match rest.findSome? instanceName? with
    | some name => [name]
    | none => rest.filterMap lineName?
  else []

/-- The variables that the lines of a declaration declare for the program. -/
def sectionNames : List String → List String
  | [] => []
  | opening :: rest =>
    if (function? (opening :: rest)).isSome then []
    else if Brace.ofLine opening.toList = .opens then blockNames opening rest
    else (opening :: rest).filterMap lineName?

/-! ### Lines that end in a semicolon -/

theorem exists_dropWhile_semicolon (cs : List Char) :
    ∃ front, (cs ++ [';']).dropWhile (· == ' ') = front ++ [';'] := by
  rw [List.dropWhile_append]
  split
  · exact ⟨[], rfl⟩
  · exact ⟨_, rfl⟩

theorem Brace.ofLine_semicolon (text : String) : ofLine (text ++ ";").toList = .none := by
  have hline : (text ++ ";").toList = text.toList ++ [';'] := String.toList_append
  obtain ⟨front, hfront⟩ := exists_dropWhile_semicolon text.toList
  have hother : ∀ {cs ds : List Char}, ds.getLast? ≠ some ';' → cs ++ [';'] ≠ ds := by
    rintro cs _ hlast rfl
    exact hlast List.getLast?_concat
  have hopens : ¬ [' ', '\x7b'].isSuffixOf (text.toList ++ [';']) = true := by
    intro hsuffix
    obtain ⟨before, hbefore⟩ := List.isSuffixOf_iff_suffix.1 hsuffix
    exact hother (by simp) hbefore.symm
  rw [ofLine, hline, hfront, if_neg (hother (by decide)), if_neg (hother (by decide)), if_neg hopens]

theorem BlockReader.run_unbraced {base : Nat} {lines : List String}
    (h : ∀ line ∈ lines, Brace.ofLine line.toList = .none) {r r' : BlockReader} (hrun : run base r lines = some r') :
    r'.opened = r.opened ∧ ∃ texts : List String, r'.part = r.part ++ texts.map Outline.line := by
  induction lines generalizing r with
  | nil =>
    cases hrun
    exact ⟨rfl, [], (List.append_nil _).symm⟩
  | cons line rest ih =>
    obtain ⟨hline, hrest⟩ := List.forall_mem_cons.1 h
    have hstep : step base r line = (unindent (base + r.opened.length) line).bind fun text =>
        some ⟨r.part ++ [.line text], r.opened⟩ := by
      rw [step, hline]
      rfl
    rw [run, List.foldlM_cons, hstep] at hrun
    cases htext : unindent (base + r.opened.length) line with
    | none =>
      rw [htext] at hrun
      cases hrun
    | some text =>
      rw [htext] at hrun
      obtain ⟨hopened, texts, hpart⟩ := ih hrest hrun
      refine ⟨hopened, text :: texts, ?_⟩
      rw [hpart, List.map_cons, List.append_assoc]
      rfl

/-- Lines without braces are no function. -/
theorem function?_unbraced {lines : List String} (h : ∀ line ∈ lines, Brace.ofLine line.toList = .none) :
    function? (lines ++ [""]) = none := by
  unfold function?
  rw [List.dropLast_concat, Outline.read]
  cases hrun : BlockReader.run 0 ⟨[], []⟩ lines with
  | none => rfl
  | some r =>
    obtain ⟨hopened, texts, hpart⟩ := BlockReader.run_unbraced h hrun
    obtain ⟨part, opened⟩ := r
    cases hopened
    rw [List.nil_append] at hpart
    cases hpart
    cases texts <;> rfl

/-- A block that is never closed has no outline. -/
theorem Outline.read_opened {opening : String} {lines : List String} (hopening : Brace.ofLine opening.toList = .opens)
    (h : ∀ line ∈ lines, Brace.ofLine line.toList = .none) : read 0 (opening :: lines) = none := by
  have hstep : BlockReader.step 0 ⟨[], []⟩ opening = (unindent 0 opening).bind fun header =>
      some ⟨[], [⟨[], header, none⟩]⟩ := by
    rw [BlockReader.step, hopening]
    rfl
  unfold read
  split
  · rename_i part hrun
    rw [BlockReader.run, List.foldlM_cons, hstep] at hrun
    cases hheader : unindent 0 opening with
    | none =>
      rw [hheader] at hrun
      cases hrun
    | some header =>
      rw [hheader] at hrun
      obtain ⟨hopened, -⟩ := BlockReader.run_unbraced h hrun
      cases hopened
  · rfl

theorem function?_opened {opening : String} {lines : List String} (hopening : Brace.ofLine opening.toList = .opens)
    (h : ∀ line ∈ lines, Brace.ofLine line.toList = .none) : function? (opening :: lines ++ [""]) = none := by
  unfold function?
  rw [List.dropLast_concat, Outline.read_opened hopening h]

/-! ### Layouts and declarations -/

/-- The entries of a layout do not end it. -/
def Layout.Plain (layout : Layout) : Prop := ∀ entry ∈ layout.entries, Lacks [')'] (Layout.entryText entry)

instance (layout : Layout) : Decidable layout.Plain :=
  inferInstanceAs (Decidable (∀ entry ∈ layout.entries, Lacks [')'] (Layout.entryText entry)))

/-- The layout in front of a line, with a space behind it. -/
def Layout.front (layout : Layout) : String := if layout.isEmpty then "" else layout.text ++ " "

theorem dropWhile_word {word : List Char} (h : Wordlike word) (cs : List Char) :
    (word ++ cs).dropWhile (· == ' ') = word ++ cs := by
  cases word with
  | nil => exact absurd rfl h.1
  | cons c word =>
    refine dropWhile_cons_of_ne ?_ _
    rintro rfl
    exact h.space_not_mem List.mem_cons_self

theorem afterLayout_word {word : List Char} (h : Wordlike word) (cs : List Char) :
    afterLayout (word ++ ' ' :: cs) = word ++ ' ' :: cs := by
  unfold afterLayout
  dsimp only
  rw [dropWhile_word h]
  split
  · rename_i rest hdrop
    obtain ⟨front, htext, hfront⟩ := List.dropPrefix?_eq_some_iff.1 hdrop
    rw [eq_of_beq hfront] at htext
    -- A space stands behind the first word of the line, and a parenthesis behind that of a layout.
    have hword : word = "layout".toList := by
      have htake := congrArg (List.takeWhile isWordChar) htext
      rwa [List.takeWhile_append_of_pos h.2, List.takeWhile_cons_of_neg (by decide), List.append_nil] at htake
    rw [hword] at htext
    have hnext : ' ' :: cs = '(' :: rest := List.append_cancel_left htext
    cases hnext
  · rfl

theorem Layout.text_lacks {layout : Layout} (h : layout.Plain) :
    Lacks [')'] (", ".intercalate (layout.entries.map Layout.entryText)) :=
  .intercalate (by decide) (List.forall_mem_map.2 h)

/-- A layout is skipped. -/
theorem afterLayout_layout {layout : Layout} (h : layout.Plain) (cs : List Char) :
    afterLayout (layout.text.toList ++ cs) = cs := by
  have hchars : layout.text.toList ++ cs = "layout(".toList
      ++ ((", ".intercalate (layout.entries.map Layout.entryText)).toList ++ ')' :: cs) := by
    rw [Layout.text]
    simp
  have hentries := (Layout.text_lacks h).bne (List.mem_singleton_self ')')
  unfold afterLayout
  dsimp only
  have hstart : ∀ rest : List Char, ("layout(".toList ++ rest).dropWhile (· == ' ') = "layout(".toList ++ rest :=
    fun rest => dropWhile_cons_of_ne (c := 'l') (by decide) _
  rw [hchars, hstart, List.dropPrefix?_append_of_beq _ (beq_self_eq_true _)]
  dsimp only
  rw [List.dropWhile_append_of_pos hentries, List.dropWhile_cons_of_neg (by decide)]
  rfl

theorem leadingWords_front {layout : Layout} (h : layout.Plain) {word : List Char} (hword : Wordlike word)
    (cs : List Char) :
    leadingWords (afterLayout (layout.front.toList ++ (word ++ ' ' :: cs))) = leadingWords (word ++ ' ' :: cs) := by
  unfold Layout.front
  split
  · exact congrArg leadingWords (afterLayout_word hword cs)
  · rw [String.toList_append, List.append_assoc, afterLayout_layout h]
    exact leadingWords_space _

theorem lineName?_indented (line : String) : lineName? ("    " ++ line) = lineName? line := by
  rw [lineName?, String.toList_append]
  rfl

namespace Variable

/-- The names in a declaration are words. -/
def Plain (v : Variable) : Prop := isTypeName v.type.base = true ∧ isWord v.name.toList = true ∧ v.layout.Plain

instance (v : Variable) : Decidable v.Plain :=
  inferInstanceAs (Decidable (isTypeName v.type.base = true ∧ isWord v.name.toList = true ∧ v.layout.Plain))

theorem valueText_endsWords (v : Variable) : endsWords (v.valueText ++ ";").toList = true := by
  unfold valueText
  split
  · rw [String.append_assoc, String.toList_append]
    exact endsWords_of_breaksWords (by decide) _
  · decide

theorem exists_first_word {words : List String} {base : String} (hwords : ∀ word ∈ words, isTypeName word = true)
    (hbase : isTypeName base = true) (name : String) :
    ∃ word cs, Wordlike word ∧ (" ".intercalate (words ++ [base, name])).toList = word ++ ' ' :: cs := by
  have hwordlike : ∀ {word}, isTypeName word = true → Wordlike word.toList :=
    fun h => wordlike_of_isWord (isWord_of_isTypeName h)
  cases words with
  | nil => exact ⟨base.toList, name.toList, hwordlike hbase, by simp [String.intercalate_cons_cons]⟩
  | cons first rest =>
    refine ⟨first.toList, (" ".intercalate (rest ++ [base, name])).toList,
      hwordlike (hwords first List.mem_cons_self), ?_⟩
    rw [List.cons_append, String.intercalate_cons_of_ne_nil (by simp)]
    simp

theorem lineName?_declarationWith {v : Variable} (h : v.Plain) (qualifiers : List Qualifier) :
    lineName? (v.declarationWith qualifiers) = some v.name := by
  obtain ⟨hbase, hname, hlayout⟩ := h
  have hwords := isTypeName_qualifiers qualifiers
  have hdeclares := declaredName?_eq_some hwords hbase hname
    (endsWords_append (sizeText_endsWords v.type.arraySize) v.valueText_endsWords)
  obtain ⟨word, cs, hword, hchars⟩ := exists_first_word hwords hbase v.name
  rw [hchars, List.append_assoc, List.cons_append] at hdeclares
  have hline : (v.declarationWith qualifiers).toList = v.layout.front.toList
      ++ (word ++ ' ' :: (cs ++ ((sizeText v.type.arraySize).toList ++ (v.valueText ++ ";").toList))) := by
    have hparts : v.declarationWith qualifiers = v.layout.front
        ++ (" ".intercalate (qualifiers.map Qualifier.text ++ [v.type.base, v.name])
          ++ (sizeText v.type.arraySize ++ (v.valueText ++ ";"))) := by
      rw [declarationWith_eq, Layout.front]
      simp only [String.append_assoc]
    rw [hparts, String.toList_append, String.toList_append, String.toList_append, hchars, List.append_assoc,
      List.cons_append]
  unfold declaredName? at hdeclares
  unfold lineName? declaredName?
  rw [hline, leadingWords_front hlayout hword]
  exact hdeclares

theorem ofLine_declarationWith (v : Variable) (qualifiers : List Qualifier) (before : String) :
    Brace.ofLine (before ++ v.declarationWith qualifiers).toList = .none := by
  rw [declarationWith_eq, ← String.append_assoc]
  exact Brace.ofLine_semicolon _

end Variable

/-- Each of the lines declares the variable that it is written from. -/
theorem filterMap_lineName? {members : List Variable} {line : Variable → String}
    (h : ∀ v ∈ members, lineName? (line v) = some v.name) :
    (members.map line).filterMap lineName? = members.map Variable.name := by
  induction members with
  | nil => rfl
  | cons v rest ih =>
    obtain ⟨hv, hrest⟩ := List.forall_mem_cons.1 h
    rw [List.map_cons, List.filterMap_cons_some hv, ih hrest, List.map_cons]

/-! ### Lines that are not in a block -/

theorem sectionNames_lines {lines : List String} (h : ∀ line ∈ lines, Brace.ofLine line.toList = .none) :
    sectionNames (lines ++ [""]) = lines.filterMap lineName? := by
  have hnone := function?_unbraced h
  cases lines with
  | nil => rfl
  | cons line rest =>
    rw [List.cons_append] at hnone ⊢
    rw [sectionNames, hnone, if_neg (by simp), h line List.mem_cons_self, if_neg (by simp), ← List.cons_append,
      List.filterMap_append]
    exact List.append_nil _

theorem sectionNames_opened {opening : String} {lines : List String} (hopening : Brace.ofLine opening.toList = .opens)
    (h : ∀ line ∈ lines, Brace.ofLine line.toList = .none) :
    sectionNames (opening :: lines ++ [""]) = blockNames opening (lines ++ [""]) := by
  have hnone := function?_opened hopening h
  rw [List.cons_append] at hnone ⊢
  rw [sectionNames, hnone, if_neg (by simp), if_pos hopening]

theorem sectionNames_of_isSome {own : List String} (h : (function? own).isSome = true) : sectionNames own = [] := by
  cases own with
  | nil => rfl
  | cons opening rest => rw [sectionNames, if_pos h]

theorem sectionUses_of_none {own : List String} (h : function? own = none) : sectionUses own = [] := by
  rw [sectionUses, h]

/-! ### Lines of a block -/

theorem Brace.ofLine_opening {c : Char} (hspace : c ≠ ' ') (hbrace : c ≠ '\x7d') (cs : List Char) :
    ofLine (c :: cs ++ [' ', '\x7b']) = .opens := by
  rw [ofLine, List.cons_append, dropWhile_cons_of_ne hspace, if_neg, if_neg, if_pos]
  · rw [List.isSuffixOf_iff_suffix, ← List.cons_append]
    exact List.suffix_append _ _
  · intro h
    exact hbrace (List.cons.inj h).1
  · intro h
    exact hbrace (List.cons.inj h).1

namespace UniformBlock

/-- The instance name; an empty one is none. -/
def instance? (b : UniformBlock) : Option String := b.instanceName.filter fun name => !name.isEmpty

def opening (b : UniformBlock) : String := b.layout.front ++ "uniform " ++ b.name ++ " \x7b"

def closing (b : UniformBlock) : String :=
  match b.instance? with
  | some name => "\x7d " ++ name ++ ";"
  | none => "\x7d;"

theorem lines_eq {tier : Tier} (htier : tier.hasUniformBlocks = true) (b : UniformBlock) :
    b.lines tier = b.opening :: (b.members.map (fun member => "    " ++ member.declaration) ++ [b.closing]) := by
  have hopening : (if b.layout.isEmpty then "uniform " ++ b.name ++ " \x7b"
      else b.layout.text ++ " " ++ ("uniform " ++ b.name ++ " \x7b")) = b.opening := by
    rw [opening, Layout.front]
    split
    · rw [String.empty_append]
    · simp only [String.append_assoc]
  rw [lines, if_pos htier]
  dsimp only
  rw [hopening]
  refine congrArg (fun closing => b.opening :: (b.members.map (fun member => "    " ++ member.declaration)
    ++ [closing])) ?_
  unfold closing instance?
  cases b.instanceName with
  | none => rfl
  | some name =>
    dsimp only
    by_cases hname : name.isEmpty = true
    · rw [if_pos hname, Option.filter_some_neg (by simp [hname])]
    · rw [if_neg hname, Option.filter_some_pos (by simp [hname])]

def memberNames (b : UniformBlock) : List String := b.members.map Variable.name

/-- The variables that a block declares: its instance or, without one, its members. Flattened, it declares its
members in either case. -/
def names (tier : Tier) (b : UniformBlock) : List String :=
  if tier.hasUniformBlocks then b.instance?.elim b.memberNames ([·]) else b.memberNames

/-- The names in a block are words. -/
def Plain (b : UniformBlock) : Prop :=
  b.layout.Plain ∧ (∀ v ∈ b.members, v.Plain) ∧ ∀ name ∈ b.instance?, isWord name.toList = true

instance (b : UniformBlock) : Decidable b.Plain :=
  inferInstanceAs (Decidable (b.layout.Plain ∧ (∀ v ∈ b.members, v.Plain) ∧
    ∀ name ∈ b.instance?, isWord name.toList = true))

theorem ofLine_opening (b : UniformBlock) : Brace.ofLine b.opening.toList = .opens := by
  have hchars : b.opening.toList = b.layout.front.toList ++ ("uniform ".toList ++ b.name.toList) ++ [' ', '\x7b'] := by
    simp [opening]
  rw [hchars, Layout.front]
  split
  · exact Brace.ofLine_opening (c := 'u') (by decide) (by decide) _
  · have hlayout : (b.layout.text ++ " ").toList = 'l' :: ("ayout(".toList
        ++ (", ".intercalate (b.layout.entries.map Layout.entryText) ++ ") ").toList) := by
      simp [Layout.text]
    rw [hlayout, List.cons_append]
    exact Brace.ofLine_opening (by decide) (by decide) _

theorem ofLine_closing (b : UniformBlock) : Brace.ofLine b.closing.toList = .none := by
  unfold closing
  split
  · exact Brace.ofLine_semicolon _
  · exact Brace.ofLine_semicolon "\x7d"

theorem instanceName?_closing {b : UniformBlock} (h : ∀ name ∈ b.instance?, isWord name.toList = true) :
    instanceName? b.closing = b.instance? := by
  unfold closing
  split
  · rename_i name hname
    have hword : ∀ word ∈ [name.toList], Wordlike word :=
      List.forall_mem_singleton.2 (wordlike_of_isWord (h name hname))
    have hwords : leadingWords ([' '].intercalate [name.toList] ++ [';']) = [name.toList] :=
      leadingWords_eq hword (by decide)
    rw [List.intercalate_singleton] at hwords
    have hchars : ("\x7d " ++ name ++ ";").toList = ['\x7d'] ++ ' ' :: (name.toList ++ [';']) := by simp
    rw [instanceName?, hchars, List.dropPrefix?_append_of_beq _ (beq_self_eq_true _)]
    dsimp only
    rw [leadingWords_space, hwords, hname, List.head?_cons, Option.map_some, String.ofList_toList]
  · rename_i hnone
    rw [hnone]
    decide

theorem opening_uniform {b : UniformBlock} (h : b.layout.Plain) :
    (leadingWords (afterLayout b.opening.toList)).head? = some "uniform".toList := by
  have hkeyword : Wordlike "uniform".toList := wordlike_of_isWord (by decide)
  have hchars : b.opening.toList = b.layout.front.toList ++ ("uniform".toList ++ ' ' :: (b.name.toList
      ++ [' ', '\x7b'])) := by
    simp [opening]
  rw [hchars, leadingWords_front h hkeyword, leadingWords_cons hkeyword, List.head?_cons]

theorem sectionNames_block {tier : Tier} (htier : tier.hasUniformBlocks = true) {b : UniformBlock} (h : b.Plain) :
    sectionNames (b.lines tier ++ [""]) = b.names tier ∧ function? (b.lines tier ++ [""]) = none := by
  obtain ⟨hlayout, hmembers, hinstance⟩ := h
  have hlines : ∀ line ∈ b.members.map (fun member => "    " ++ member.declaration) ++ [b.closing],
      Brace.ofLine line.toList = .none :=
    List.forall_mem_append.2 ⟨List.forall_mem_map.2 fun v _ => v.ofLine_declarationWith _ _,
      List.forall_mem_singleton.2 b.ofLine_closing⟩
  rw [b.lines_eq htier]
  refine ⟨?_, function?_opened b.ofLine_opening hlines⟩
  have hmember : ∀ v : Variable, instanceName? ("    " ++ v.declaration) = none := by
    intro v
    rw [instanceName?, String.toList_append]
    rfl
  have hfind : (b.members.map (fun member => "    " ++ member.declaration) ++ [b.closing] ++ [""]).findSome?
      instanceName? = b.instance? := by
    have hnames : ∀ line ∈ b.members.map (fun member => "    " ++ member.declaration), instanceName? line = none :=
      List.forall_mem_map.2 fun v _ => hmember v
    rw [List.append_assoc, List.findSome?_append, List.findSome?_eq_none_iff.2 hnames, Option.none_or,
      List.singleton_append, List.findSome?_cons, instanceName?_closing hinstance]
    cases b.instance? <;> rfl
  rw [sectionNames_opened b.ofLine_opening hlines, blockNames, if_pos (opening_uniform hlayout), hfind, names,
    if_pos htier]
  cases hsome : b.instance? with
  | some name => rfl
  | none =>
    have hclosing : b.closing = "\x7d;" := by rw [closing, hsome]
    dsimp only
    rw [hclosing, List.append_assoc, List.filterMap_append, show ["\x7d;"] ++ [""] = ["\x7d;", ""] from rfl,
      show ["\x7d;", ""].filterMap lineName? = [] by decide, List.append_nil]
    refine filterMap_lineName? fun v hv => ?_
    rw [lineName?_indented]
    exact Variable.lineName?_declarationWith (hmembers v hv) _

/-- Flattened, each member is declared. -/
theorem sectionNames_flattened {tier : Tier} (htier : tier.hasUniformBlocks = false) {b : UniformBlock} (h : b.Plain) :
    sectionNames (b.lines tier ++ [""]) = b.names tier ∧ function? (b.lines tier ++ [""]) = none := by
  have hlines : ∀ line ∈ b.members.map (Variable.declarationWith [.uniform]), Brace.ofLine line.toList = .none := by
    refine List.forall_mem_map.2 fun v _ => ?_
    have hline := v.ofLine_declarationWith [.uniform] ""
    rwa [String.empty_append] at hline
  rw [lines, if_neg (by simp [htier]), sectionNames_lines hlines, names, if_neg (by simp [htier])]
  exact ⟨filterMap_lineName? fun v hv => Variable.lineName?_declarationWith (h.2.1 v hv) _, function?_unbraced hlines⟩

end UniformBlock

/-! ### Lines of a structure -/

theorem Struct.sectionNames_lines (s : Struct) :
    sectionNames (s.lines ++ [""]) = [] ∧ function? (s.lines ++ [""]) = none := by
  have hkeyword : Wordlike "struct".toList := wordlike_of_isWord (by decide)
  have hopening : Brace.ofLine ("struct " ++ s.name ++ " \x7b").toList = .opens := by
    have hchars : ("struct " ++ s.name ++ " \x7b").toList = 's' :: ("truct ".toList ++ s.name.toList)
        ++ [' ', '\x7b'] := by
      simp
    rw [hchars]
    exact Brace.ofLine_opening (by decide) (by decide) _
  have hlines : ∀ line ∈ s.fields.map (fun field => "    " ++ declarator field.2 field.1 ++ ";") ++ ["\x7d;"],
      Brace.ofLine line.toList = .none :=
    List.forall_mem_append.2 ⟨List.forall_mem_map.2 fun field _ => Brace.ofLine_semicolon _,
      List.forall_mem_singleton.2 (Brace.ofLine_semicolon "\x7d")⟩
  have hown : s.lines = ("struct " ++ s.name ++ " \x7b") :: (s.fields.map
      (fun field => "    " ++ declarator field.2 field.1 ++ ";") ++ ["\x7d;"]) := rfl
  have hwords : (leadingWords (afterLayout ("struct " ++ s.name ++ " \x7b").toList)).head? ≠ some "uniform".toList := by
    have hchars : ("struct " ++ s.name ++ " \x7b").toList = "struct".toList ++ ' ' :: (s.name.toList
        ++ [' ', '\x7b']) := by
      simp
    rw [hchars, afterLayout_word hkeyword, leadingWords_cons hkeyword, List.head?_cons]
    decide
  rw [hown, sectionNames_opened hopening hlines, blockNames, if_neg hwords]
  exact ⟨rfl, function?_opened hopening hlines⟩

/-! ### Lines of a function -/

namespace Parameter

/-- The names in a parameter are words. -/
def Plain (p : Parameter) : Prop := isTypeName p.type.base = true ∧ isWord p.name.toList = true

instance (p : Parameter) : Decidable p.Plain := inferInstanceAs (Decidable (_ ∧ _))

theorem text_eq (p : Parameter) : p.text
    = " ".intercalate ((p.qualifier.map Qualifier.text).toList ++ [p.type.base, p.name])
      ++ sizeText p.type.arraySize := by
  rw [← intercalate_declarator]
  unfold text
  split
  · rename_i qualifier hqualifier
    rw [hqualifier]
    simp [String.intercalate_cons_cons]
  · rename_i hnone
    rw [hnone]
    simp

theorem isTypeName_qualifier? (qualifier : Option Qualifier) :
    ∀ word ∈ (qualifier.map Qualifier.text).toList, isTypeName word = true := by
  cases qualifier with
  | none => simp
  | some qualifier => simpa using isTypeName_qualifier qualifier

theorem declaredName?_text {p : Parameter} (h : p.Plain) : declaredName? p.text.toList = some p.name := by
  have hdeclares := declares_words (isTypeName_qualifier? p.qualifier) h.1 h.2 p.type.arraySize
  rw [text_eq, ← hdeclares.names [] rfl, List.append_nil]

theorem text_undivided {p : Parameter} (h : p.Plain) : Lacks ['.', ';', '\n', '\x7b', '\x7d', ',', ')'] p.text := by
  rw [text_eq]
  exact words_lack (isTypeName_qualifier? p.qualifier) h.1 h.2 p.type.arraySize

end Parameter

namespace Function

/-- The names in a function are words, and its body is plain. -/
def Plain (tier : Tier) (f : Function) : Prop :=
  isWord f.returnName.toList = true ∧ isWord f.name.toList = true ∧ (∀ p ∈ f.parameters, p.Plain) ∧
    FragmentsPlain tier (Stmt.allFragments f.body)

instance (tier : Tier) (f : Function) : Decidable (f.Plain tier) := inferInstanceAs (Decidable (_ ∧ _))

/-- The references in a function. Its parameters can be named in all of its body. -/
def uses (f : Function) : List Use := Stmt.allUses (f.parameters.map Parameter.name) f.body

theorem items_parameters {ps : List Parameter} (h : ∀ p ∈ ps, p.Plain) :
    (items (", ".intercalate (ps.map Parameter.text))).filterMap declaredName? = ps.map Parameter.name := by
  by_cases hnil : ps = []
  · subst hnil
    decide
  · have hcomma : ∀ text ∈ ps.map Parameter.text, ',' ∉ text.toList :=
      List.forall_mem_map.2 fun p hp => (Parameter.text_undivided (h p hp)).not_mem (by simp)
    rw [items_intercalate (by simpa using hnil) hcomma, List.map_map, List.filterMap_map]
    refine List.filterMap_eq_map_iff_forall_eq_some.2 fun p hp => ?_
    exact (declaredName?_space _).trans (Parameter.declaredName?_text (h p hp))

theorem parameterNames_header {tier : Tier} {f : Function} (h : f.Plain tier) :
    parameterNames f.header = f.parameters.map Parameter.name := by
  obtain ⟨hreturn, hname, hparameters, -⟩ := h
  let list := ", ".intercalate (f.parameters.map Parameter.text)
  have hfront : Lacks ['('] (f.returnName ++ " " ++ f.name) :=
    (((isWord_lacks hreturn).subset (by simp)).append (by decide)).append ((isWord_lacks hname).subset (by simp))
  have hlist : Lacks [')'] list := .intercalate (by decide) (List.forall_mem_map.2 fun p hp =>
    (Parameter.text_undivided (hparameters p hp)).subset (by simp))
  have hchars : f.header.toList
      = (f.returnName ++ " " ++ f.name).toList ++ '(' :: (list.toList ++ ") \x7b".toList) := by
    simp [header, list]
  rw [parameterNames, hchars, List.dropWhile_append_of_pos (hfront.bne (by simp)),
    List.dropWhile_cons_of_neg (by decide), List.drop_one, List.tail_cons,
    List.takeWhile_append_of_pos (hlist.bne (by simp))]
  have hclose : ") \x7b".toList.takeWhile (· != ')') = [] := by decide
  rw [hclose, List.append_nil, String.ofList_toList]
  exact items_parameters hparameters

theorem isHeader_header {tier : Tier} {f : Function} (h : f.Plain tier) : IsHeader f.header := by
  obtain ⟨hreturn, hname, hparameters, -⟩ := h
  have hlist : BraceFree (", ".intercalate (f.parameters.map Parameter.text)) :=
    .intercalate (by decide) (List.forall_mem_map.2 fun p hp =>
      (Parameter.text_undivided (hparameters p hp)).subset (by simp))
  refine isHeader_of_braceFree (Lacks.append (Lacks.append (Lacks.append (Lacks.append ?_ ?_) ?_) ?_) hlist)
  · exact (isWord_lacks hreturn).subset (by simp)
  · decide
  · exact (isWord_lacks hname).subset (by simp)
  · decide

theorem lines_eq_outline {tier : Tier} (f : Function) :
    f.lines tier = (fun os => Outline.lines 0 (.block f.header os)) <$> Stmt.outlines tier f.body := by
  rw [lines, Stmt.lines_eq_outlines]
  cases Stmt.outlines tier f.body with
  | error error => rfl
  | ok os =>
    have hindentation : indentation 0 = "" := rfl
    refine congrArg Except.ok ?_
    dsimp only
    rw [Outline.lines, hindentation, String.empty_append, String.empty_append]
    rfl

theorem section_eq {tier : Tier} {f : Function} (h : f.Plain tier) :
    Ensures (fun own => sectionNames (own ++ [""]) = [] ∧ sectionUses (own ++ [""]) = f.uses) (f.lines tier) := by
  have hbody := h.2.2.2
  rw [lines_eq_outline]
  cases houtlines : Stmt.outlines tier f.body with
  | error error => rintro own ⟨⟩
  | ok os =>
    have hreadable : Outline.AllReadable [.block f.header os] :=
      ⟨⟨isHeader_header h, Stmt.outlines_readable f.body hbody.allBraceFree os houtlines⟩, trivial⟩
    have hfunction : function? (Outline.lines 0 (.block f.header os) ++ [""]) = some (f.header, os) := by
      have hread := Outline.read_allLines hreadable (Int.le_refl 0)
      rw [Outline.allLines_singleton, Int.toNat_zero] at hread
      rw [function?, List.dropLast_concat, hread]
    refine .ok ⟨?_, ?_⟩
    · exact sectionNames_of_isSome (by rw [hfunction]; rfl)
    · rw [sectionUses, hfunction]
      dsimp only
      rw [parameterNames_header h, Stmt.outlines_uses f.body hbody os houtlines]
      rfl

end Function

/-! ### Declarations -/

namespace Decl

/-- The names in a declaration are words. Those in a structure are not looked at. -/
def Plain (tier : Tier) : Decl → Prop
  | .struct _ => True
  | .block b => b.Plain
  | .global v => v.Plain
  | .function f => f.Plain tier
  | .unknown => True

instance (tier : Tier) (d : Decl) : Decidable (d.Plain tier) := by
  unfold Plain
  split <;> infer_instance

/-- The variables of the program that a declaration declares. -/
def names (tier : Tier) : Decl → List String
  | .block b => b.names tier
  | .global v => [v.name]
  | _ => []

def uses : Decl → List Use
  | .function f => f.uses
  | _ => []

/-- The lines of a declaration declare its variables and refer to what it refers to. -/
theorem section_eq {tier : Tier} {d : Decl} (h : d.Plain tier) :
    Ensures (fun own => sectionNames own = d.names tier ∧ sectionUses own = d.uses) (d.lines tier) := by
  cases d with
  | struct s =>
    obtain ⟨hnames, hnone⟩ := s.sectionNames_lines
    exact .ok ⟨hnames, sectionUses_of_none hnone⟩
  | block b =>
    cases htier : tier.hasUniformBlocks with
    | true =>
      obtain ⟨hnames, hnone⟩ := UniformBlock.sectionNames_block htier h
      exact .ok ⟨hnames, sectionUses_of_none hnone⟩
    | false =>
      obtain ⟨hnames, hnone⟩ := UniformBlock.sectionNames_flattened htier h
      exact .ok ⟨hnames, sectionUses_of_none hnone⟩
  | global v =>
    have hline := v.ofLine_declarationWith v.qualifiers ""
    rw [String.empty_append] at hline
    refine .ok ⟨?_, rfl⟩
    have hnone : function? [v.declaration] = none := rfl
    rw [sectionNames, hnone, if_neg (by simp), Variable.declaration, hline, if_neg (by simp),
      List.filterMap_cons_some (Variable.lineName?_declarationWith h _)]
    rfl
  | function f => exact (Function.section_eq h).map fun own hown => hown
  | unknown => exact .ok ⟨rfl, rfl⟩

end Decl

/-- The variable of a loop can be named behind the first clause of its header, and a parameter everywhere. -/
example : sectionUses ["void f(Ray r) \x7b", "    for (int i = a.x; i < a.y; ) \x7b", "        Box a = r.b;",
      "        a.z = i;", "    \x7d", "\x7d", ""]
    = [⟨["r"], ⟨"a", "x"⟩⟩, ⟨["i", "r"], ⟨"a", "y"⟩⟩, ⟨["i", "r"], ⟨"r", "b"⟩⟩, ⟨["a", "i", "r"], ⟨"a", "z"⟩⟩] := by
  decide +kernel

end GlslCompiler

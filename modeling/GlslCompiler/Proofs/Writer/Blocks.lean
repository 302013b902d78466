import Mathlib.Data.List.Basic
import GlslCompiler.Proofs.Writer.Dialects
import GlslCompiler.Proofs.Writer.Fragments

/-!
# The block structure of written statements

Blocks are opened and closed in several places, each with an indentation of its own. What they add up to is said
by a reader that knows nothing of statements: it goes through the lines by their braces, keeps the blocks that are
still open, and refuses a line that is not indented by four spaces for each of them. Reading what was written for a
list of statements gives the tree of the statements back, so no brace is lost and no `else` is out of place.

The proof goes by way of that tree. Statements are written as the lines of their tree, whatever its texts are; and
the lines of a tree are read back whenever the only braces in them are those that open and close its blocks.
-/

namespace GlslCompiler

/-! ### Outlines -/

/-- Lines and blocks. A `choice` is a block with a second part after its `else`. -/
inductive Outline where
  | line (text : String)
  | block (header : String) (body : List Outline)
  | choice (header : String) (first second : List Outline)

namespace Outline

mutual

/-- The lines of an outline inside so many blocks. -/
def lines (depth : Int) : Outline → List String
  | .line text => [indentation depth ++ text]
  | .block header body =>
    [indentation depth ++ header] ++ allLines (depth + 1) body ++ [indentation depth ++ "\x7d"]
  | .choice header first second =>
    [indentation depth ++ header] ++ allLines (depth + 1) first
      ++ [indentation depth ++ "\x7d else \x7b"] ++ allLines (depth + 1) second ++ [indentation depth ++ "\x7d"]

def allLines (depth : Int) : List Outline → List String
  | [] => []
  | o :: rest => o.lines depth ++ allLines depth rest

end

end Outline

/-! ### Reading by braces -/

/-- What the braces of a line do to the blocks around it. -/
inductive Brace where
  | none
  | opens
  | turns
  | closes
  deriving DecidableEq

def Brace.ofLine (line : List Char) : Brace :=
  let text := line.dropWhile (· == ' ')
  if text = ['\x7d'] then .closes
  else if text = "\x7d else \x7b".toList then .turns
  else if [' ', '\x7b'].isSuffixOf line then .opens
  else .none

/-- A block that is still open: what stands before it, its header and, past an `else`, its first part. -/
structure OpenBlock where
  before : List Outline
  header : String
  first : Option (List Outline)

/-- What stands where the block was opened, once its last part is complete. -/
def OpenBlock.close (b : OpenBlock) (part : List Outline) : List Outline :=
  match b.first with
  | none => b.before ++ [.block b.header part]
  | some first => b.before ++ [.choice b.header first part]

/-- The part of the innermost open block that was read, and the open blocks from the inside out. -/
structure BlockReader where
  part : List Outline
  opened : List OpenBlock

/-- The text of a line behind four spaces for each of so many blocks. -/
def unindent (blocks : Nat) (line : String) : Option String :=
  (line.toList.dropPrefix? (List.replicate (4 * blocks) ' ')).map String.ofList

namespace BlockReader

/-- Reads a line, with `base` blocks around all lines. A line that closes a block stands outside of it. -/
def step (base : Nat) (r : BlockReader) (line : String) : Option BlockReader :=
  match Brace.ofLine line.toList with
  | .none => do
    let text ← unindent (base + r.opened.length) line
    return ⟨r.part ++ [.line text], r.opened⟩
  | .opens => do
    let header ← unindent (base + r.opened.length) line
    return ⟨[], ⟨r.part, header, none⟩ :: r.opened⟩
  | .turns =>
    match r.opened with
    | ⟨before, header, none⟩ :: outer =>
      if unindent (base + outer.length) line = some "\x7d else \x7b" then
        some ⟨[], ⟨before, header, some r.part⟩ :: outer⟩
      else none
    | _ => none
  | .closes =>
    match r.opened with
    | b :: outer =>
      if unindent (base + outer.length) line = some "\x7d" then some ⟨b.close r.part, outer⟩ else none
    | [] => none

def run (base : Nat) (r : BlockReader) (lines : List String) : Option BlockReader := lines.foldlM (step base) r

end BlockReader

/-- The outline that lines have by their braces. There is none where a block is closed that was not opened, where
one is left open, or where a line is indented otherwise. -/
def Outline.read (base : Nat) (lines : List String) : Option (List Outline) :=
  match BlockReader.run base ⟨[], []⟩ lines with
  | some ⟨part, []⟩ => some part
  | _ => none

/-! ### Texts without braces -/

/-- The text can stand in a line without changing what the braces of the line say. -/
abbrev BraceFree (text : String) : Prop := Lacks ['\n', '\x7b', '\x7d'] text

/-- A line that opens a block and has no other brace. -/
def IsHeader (header : String) : Prop := ∃ text, BraceFree text ∧ header = text ++ " \x7b"

namespace Outline

mutual

/-- The only braces are those of the blocks. -/
def Readable : Outline → Prop
  | .line text => BraceFree text
  | .block header body => IsHeader header ∧ AllReadable body
  | .choice header first second => IsHeader header ∧ AllReadable first ∧ AllReadable second

def AllReadable : List Outline → Prop
  | [] => True
  | o :: rest => o.Readable ∧ AllReadable rest

end

end Outline

/-! ### The lines of an outline are read back -/

theorem toList_indentation (depth : Int) : (indentation depth).toList = List.replicate (4 * depth.toNat) ' ' := by
  simp [indentation]

theorem unindent_indentation (depth : Int) (text : String) :
    unindent depth.toNat (indentation depth ++ text) = some text := by
  have hdrop : (indentation depth ++ text).toList.dropPrefix? (List.replicate (4 * depth.toNat) ' ')
      = some text.toList := by
    rw [String.toList_append, toList_indentation]
    exact List.dropPrefix?_append_of_beq _ (beq_self_eq_true _)
  rw [unindent, hdrop, Option.map_some, String.ofList_toList]

theorem dropWhile_indentation (depth : Int) (text : String) :
    (indentation depth ++ text).toList.dropWhile (· == ' ') = text.toList.dropWhile (· == ' ') := by
  rw [String.toList_append, toList_indentation]
  apply List.dropWhile_append_of_pos
  intro c hc
  rw [List.eq_of_mem_replicate hc]
  rfl

namespace Brace

theorem ofLine_close (depth : Int) : ofLine (indentation depth ++ "\x7d").toList = .closes := by
  rw [ofLine, dropWhile_indentation]
  rfl

theorem ofLine_turn (depth : Int) : ofLine (indentation depth ++ "\x7d else \x7b").toList = .turns := by
  rw [ofLine, dropWhile_indentation]
  rfl

/-- A line without a closing brace closes nothing. -/
theorem ofLine_of_not_mem {line : List Char} (h : '\x7d' ∉ line) :
    ofLine line = if [' ', '\x7b'].isSuffixOf line then .opens else .none := by
  have htext : '\x7d' ∉ line.dropWhile (· == ' ') := fun hmem => h ((List.dropWhile_sublist _).subset hmem)
  have hclose : line.dropWhile (· == ' ') ≠ ['\x7d'] := by
    intro heq
    simp [heq] at htext
  have hturn : line.dropWhile (· == ' ') ≠ "\x7d else \x7b".toList := by
    intro heq
    simp [heq] at htext
  rw [ofLine, if_neg hclose, if_neg hturn]

theorem not_mem_indentation {c : Char} (depth : Int) (hc : c ≠ ' ') : c ∉ (indentation depth).toList := by
  rw [toList_indentation]
  exact fun hmem => hc (List.eq_of_mem_replicate hmem)

theorem ofLine_plain {text : String} (h : BraceFree text) (depth : Int) :
    ofLine (indentation depth ++ text).toList = .none := by
  have hopen : '\x7b' ∉ (indentation depth ++ text).toList := by
    rw [String.toList_append, List.mem_append, not_or]
    exact ⟨not_mem_indentation depth (by decide), h.not_mem (by simp)⟩
  have hclose : '\x7d' ∉ (indentation depth ++ text).toList := by
    rw [String.toList_append, List.mem_append, not_or]
    exact ⟨not_mem_indentation depth (by decide), h.not_mem (by simp)⟩
  rw [ofLine_of_not_mem hclose, if_neg]
  intro hsuffix
  exact hopen ((List.isSuffixOf_iff_suffix.1 hsuffix).subset (by simp))

theorem ofLine_header {header : String} (h : IsHeader header) (depth : Int) :
    ofLine (indentation depth ++ header).toList = .opens := by
  obtain ⟨text, htext, rfl⟩ := h
  have hclose : '\x7d' ∉ (indentation depth ++ (text ++ " \x7b")).toList := by
    rw [String.toList_append, String.toList_append, List.mem_append, List.mem_append, not_or, not_or]
    exact ⟨not_mem_indentation depth (by decide), htext.not_mem (by simp), by decide⟩
  rw [ofLine_of_not_mem hclose, if_pos]
  rw [List.isSuffixOf_iff_suffix, ← String.append_assoc, String.toList_append]
  exact List.suffix_append _ _

end Brace

namespace BlockReader

variable {base : Nat} {depth : Int}

theorem run_append (r : BlockReader) (xs ys : List String) :
    run base r (xs ++ ys) = (run base r xs).bind fun r => run base r ys := List.foldlM_append

theorem run_singleton (r : BlockReader) (line : String) : run base r [line] = step base r line := by
  simp [run]

theorem step_line {text : String} (h : BraceFree text) (part : List Outline) (opened : List OpenBlock)
    (hdepth : base + opened.length = depth.toNat) :
    step base ⟨part, opened⟩ (indentation depth ++ text) = some ⟨part ++ [.line text], opened⟩ := by
  rw [step, Brace.ofLine_plain h]
  dsimp only
  rw [hdepth, unindent_indentation]
  rfl

theorem step_header {header : String} (h : IsHeader header) (part : List Outline) (opened : List OpenBlock)
    (hdepth : base + opened.length = depth.toNat) :
    step base ⟨part, opened⟩ (indentation depth ++ header) = some ⟨[], ⟨part, header, none⟩ :: opened⟩ := by
  rw [step, Brace.ofLine_header h]
  dsimp only
  rw [hdepth, unindent_indentation]
  rfl

theorem step_turn (part before : List Outline) (header : String) (outer : List OpenBlock)
    (hdepth : base + outer.length = depth.toNat) :
    step base ⟨part, ⟨before, header, none⟩ :: outer⟩ (indentation depth ++ "\x7d else \x7b")
      = some ⟨[], ⟨before, header, some part⟩ :: outer⟩ := by
  rw [step, Brace.ofLine_turn]
  dsimp only
  rw [hdepth, unindent_indentation, if_pos rfl]

theorem step_close (part : List Outline) (b : OpenBlock) (outer : List OpenBlock)
    (hdepth : base + outer.length = depth.toNat) :
    step base ⟨part, b :: outer⟩ (indentation depth ++ "\x7d") = some ⟨b.close part, outer⟩ := by
  rw [step, Brace.ofLine_close]
  dsimp only
  rw [hdepth, unindent_indentation, if_pos rfl]

theorem inside (b : OpenBlock) {opened : List OpenBlock} (h0 : 0 ≤ depth)
    (hdepth : base + opened.length = depth.toNat) : base + (b :: opened).length = (depth + 1).toNat := by
  rw [List.length_cons]
  omega

-- The parts of a block are read with one more block open, which is what the depth of their lines counts.
mutual

theorem run_lines : ∀ (o : Outline) (_ : o.Readable) (depth : Int) (_ : 0 ≤ depth) (part : List Outline)
    (opened : List OpenBlock) (_ : base + opened.length = depth.toNat),
    run base ⟨part, opened⟩ (o.lines depth) = some ⟨part ++ [o], opened⟩
  | .line text, h, depth, _, part, opened, hopened => by
    rw [Outline.lines, run_singleton, step_line h part opened hopened]
  | .block header body, ⟨hheader, hbody⟩, depth, hdepth, part, opened, hopened => by
    have hinside := inside ⟨part, header, none⟩ hdepth hopened
    rw [Outline.lines, run_append, run_append, run_singleton, step_header hheader part opened hopened,
      Option.bind_some, run_allLines body hbody (depth + 1) (by omega) _ _ hinside, Option.bind_some, run_singleton]
    exact step_close _ _ _ hopened
  | .choice header first second, ⟨hheader, hfirst, hsecond⟩, depth, hdepth, part, opened, hopened => by
    have hinside := inside ⟨part, header, none⟩ hdepth hopened
    have hturned := inside ⟨part, header, some first⟩ hdepth hopened
    rw [Outline.lines, run_append, run_append, run_append, run_append, run_singleton,
      step_header hheader part opened hopened, Option.bind_some,
      run_allLines first hfirst (depth + 1) (by omega) _ _ hinside, Option.bind_some, run_singleton,
      List.nil_append, step_turn _ _ _ _ hopened, Option.bind_some,
      run_allLines second hsecond (depth + 1) (by omega) _ _ hturned, Option.bind_some, run_singleton]
    exact step_close _ _ _ hopened

theorem run_allLines : ∀ (os : List Outline) (_ : Outline.AllReadable os) (depth : Int) (_ : 0 ≤ depth)
    (part : List Outline) (opened : List OpenBlock) (_ : base + opened.length = depth.toNat),
    run base ⟨part, opened⟩ (Outline.allLines depth os) = some ⟨part ++ os, opened⟩
  | [], _, depth, _, part, opened, _ => by
    rw [List.append_nil]
    rfl
  | o :: rest, ⟨ho, hrest⟩, depth, hdepth, part, opened, hopened => by
    rw [Outline.allLines, run_append, run_lines o ho depth hdepth part opened hopened, Option.bind_some,
      run_allLines rest hrest depth hdepth _ _ hopened, List.append_assoc]
    rfl

end

end BlockReader

theorem Outline.read_allLines {os : List Outline} (h : AllReadable os) {depth : Int} (hdepth : 0 ≤ depth) :
    read depth.toNat (allLines depth os) = some os := by
  rw [read, BlockReader.run_allLines os h depth hdepth _ _ (Nat.add_zero _)]
  rfl

/-! ### The tree of statements -/

mutual

/-- A simple statement is one line, a conditional or a loop is one block, and an unknown statement is nothing. A
conditional has a second part when it has statements for one, also if these are nothing. -/
def Stmt.outline (tier : Tier) : Stmt → Except LiteralError (List Outline)
  | .declare v (some initial) => do
    let initialText ← initial.text tier
    return [.line (v.qualifiedDeclarator ++ " = " ++ initialText ++ ";")]
  | .declare v none => .ok [.line (v.qualifiedDeclarator ++ ";")]
  | .assign target value => do
    let text ← assignmentText tier target value
    return [.line (text ++ ";")]
  | .augment target operator value => do
    let text ← augmentText tier target operator value
    return [.line (text ++ ";")]
  | .ret (some value) => do
    let text ← value.text tier
    return [.line ("return " ++ text ++ ";")]
  | .ret none => .ok [.line "return;"]
  | .branch condition whenTrue [] => do
    let conditionText ← condition.text tier
    let body ← Stmt.outlines tier whenTrue
    return [.block ("if (" ++ conditionText ++ ") \x7b") body]
  | .branch condition whenTrue (s :: others) => do
    let conditionText ← condition.text tier
    let first ← Stmt.outlines tier whenTrue
    let second ← Stmt.outlines tier (s :: others)
    return [.choice ("if (" ++ conditionText ++ ") \x7b") first second]
  | .forLoop initial condition update body => do
    let initialText ← Stmt.initialClause tier initial
    let conditionText ← Expr.optionalText tier condition
    let updateText ← Stmt.updateClause tier update
    let body ← Stmt.outlines tier body
    return [.block ("for (" ++ initialText ++ "; " ++ conditionText ++ "; " ++ updateText ++ ") \x7b") body]
  | .whileLoop condition body => do
    let conditionText ← condition.text tier
    let body ← Stmt.outlines tier body
    return [.block ("while (" ++ conditionText ++ ") \x7b") body]
  | .expression value => do
    let text ← value.text tier
    return [.line (text ++ ";")]
  | .breakLoop => .ok [.line "break;"]
  | .continueLoop => .ok [.line "continue;"]
  | .discard => .ok [.line "discard;"]
  | .unknown => .ok []

def Stmt.outlines (tier : Tier) : List Stmt → Except LiteralError (List Outline)
  | [] => .ok []
  | s :: rest => do
    let own ← s.outline tier
    let others ← Stmt.outlines tier rest
    return own ++ others

end

namespace Outline

theorem allLines_singleton (depth : Int) (o : Outline) : allLines depth [o] = o.lines depth := List.append_nil _

theorem allLines_append (depth : Int) (xs ys : List Outline) :
    allLines depth (xs ++ ys) = allLines depth xs ++ allLines depth ys := by
  induction xs with
  | nil => rfl
  | cons o rest ih => rw [List.cons_append, allLines, allLines, ih, List.append_assoc]

end Outline

section Written

variable {tier : Tier}

mutual

theorem Stmt.lines_eq_outline : ∀ (s : Stmt) (depth : Int),
    s.lines tier depth = Outline.allLines depth <$> s.outline tier
  | .declare v none, depth => by
    rw [Stmt.lines, Stmt.outline, String.append_assoc]
    rfl
  | .declare v (some initial), depth => by
    rw [Stmt.lines, Stmt.outline, map_bind]
    refine bind_congr fun initialText => ?_
    simp only [String.append_assoc]
    rfl
  | .assign target value, depth => by
    rw [Stmt.lines, Stmt.outline, map_bind]
    refine bind_congr fun text => ?_
    rw [String.append_assoc]
    rfl
  | .augment target operator value, depth => by
    rw [Stmt.lines, Stmt.outline, map_bind]
    refine bind_congr fun text => ?_
    rw [String.append_assoc]
    rfl
  | .ret none, depth => rfl
  | .ret (some value), depth => by
    rw [Stmt.lines, Stmt.outline, map_bind]
    refine bind_congr fun text => ?_
    simp only [String.append_assoc]
    rfl
  | .branch condition whenTrue [], depth => by
    simp only [Stmt.lines, Stmt.outline, lines_eq_outlines whenTrue, Stmt.bodyLines, map_bind, bind_map_left]
    refine bind_congr fun conditionText => bind_congr fun body => congrArg Except.ok ?_
    simp [Outline.allLines_singleton, Outline.lines, String.append_assoc]
  | .branch condition whenTrue (s :: others), depth => by
    simp only [Stmt.lines, Stmt.outline, lines_eq_outlines whenTrue, lines_eq_outlines (s :: others), map_bind,
      bind_map_left]
    refine bind_congr fun conditionText => bind_congr fun first => bind_congr fun second => congrArg Except.ok ?_
    simp [Outline.allLines_singleton, Outline.lines, String.append_assoc]
  | .forLoop initial condition update body, depth => by
    simp only [Stmt.lines, Stmt.outline, lines_eq_outlines body, map_bind, bind_map_left]
    refine bind_congr fun initialText => bind_congr fun conditionText => bind_congr fun updateText =>
      bind_congr fun body => congrArg Except.ok ?_
    simp [Outline.allLines_singleton, Outline.lines, String.append_assoc]
  | .whileLoop condition body, depth => by
    simp only [Stmt.lines, Stmt.outline, lines_eq_outlines body, map_bind, bind_map_left]
    refine bind_congr fun conditionText => bind_congr fun body => congrArg Except.ok ?_
    simp [Outline.allLines_singleton, Outline.lines, String.append_assoc]
  | .expression value, depth => by
    rw [Stmt.lines, Stmt.outline, map_bind]
    refine bind_congr fun text => ?_
    rw [String.append_assoc]
    rfl
  | .breakLoop, depth => rfl
  | .continueLoop, depth => rfl
  | .discard, depth => rfl
  | .unknown, depth => rfl

theorem Stmt.lines_eq_outlines : ∀ (ss : List Stmt) (depth : Int),
    Stmt.bodyLines tier ss depth = Outline.allLines depth <$> Stmt.outlines tier ss
  | [], depth => rfl
  | s :: rest, depth => by
    simp only [Stmt.bodyLines, Stmt.outlines, lines_eq_outline s, lines_eq_outlines rest, map_bind,
      bind_map_left]
    refine bind_congr fun own => bind_congr fun others => congrArg Except.ok ?_
    exact (Outline.allLines_append depth own others).symm

end

end Written

/-! ### Fragments without braces -/

/-- What is written from the fragments has no brace and no line feed in it. -/
def AllBraceFree (tier : Tier) (fragments : List Fragment) : Prop :=
  ∀ f ∈ fragments, Ensures BraceFree (f.text tier)

section

variable {tier : Tier} {f : Fragment} {xs ys : List Fragment}

theorem allBraceFree_cons : AllBraceFree tier (f :: xs) ↔ Ensures BraceFree (f.text tier) ∧ AllBraceFree tier xs :=
  List.forall_mem_cons

theorem allBraceFree_append : AllBraceFree tier (xs ++ ys) ↔ AllBraceFree tier xs ∧ AllBraceFree tier ys :=
  List.forall_mem_append

end

theorem Qualifier.text_braceFree (q : Qualifier) : BraceFree q.text := by
  cases q <;> rfl

theorem Variable.qualifiedDeclarator_braceFree {v : Variable} (h : BraceFree (declarator v.type v.name)) :
    BraceFree v.qualifiedDeclarator := by
  have hqualifiers : ∀ text ∈ v.qualifiers.map Qualifier.text, BraceFree text := by
    intro text htext
    obtain ⟨q, -, rfl⟩ := List.mem_map.1 htext
    exact q.text_braceFree
  unfold qualifiedDeclarator
  dsimp only
  split
  · exact h
  · exact ((Lacks.intercalate (by decide) hqualifiers).append (by decide)).append h

theorem isHeader_of_braceFree {text : String} (h : BraceFree text) : IsHeader (text ++ ") \x7b") := by
  refine ⟨text ++ ")", h.append (by decide), ?_⟩
  rw [String.append_assoc]
  rfl

section Readable

variable {tier : Tier}

theorem carries_braceFree : Carries tier (fun f => Ensures BraceFree (f.text tier)) BraceFree where
  empty := by decide
  expression h := h
  counter h := h _ rfl
  assign htarget hvalue := (htarget.append (by decide)).append hvalue
  augment hoperator htarget hvalue :=
    (((htarget.append (by decide)).append (hoperator _ rfl)).append (by decide)).append hvalue

theorem Outline.allReadable_append {xs ys : List Outline} (hxs : AllReadable xs) (hys : AllReadable ys) :
    AllReadable (xs ++ ys) := by
  induction xs with
  | nil => exact hys
  | cons o rest ih => exact ⟨hxs.1, ih hxs.2⟩

theorem Outline.allReadable_line {text : String} (h : BraceFree text) : AllReadable [.line text] := ⟨h, trivial⟩

open Outline (allReadable_line allReadable_append)

mutual

theorem Stmt.outline_readable : ∀ s : Stmt, AllBraceFree tier s.fragments →
    Ensures Outline.AllReadable (s.outline tier)
  | .declare v none, h => by
    obtain ⟨hdeclarator, -⟩ := allBraceFree_cons.1 h
    have hv := Variable.qualifiedDeclarator_braceFree (hdeclarator _ rfl)
    exact .ok (allReadable_line (hv.append (by decide)))
  | .declare v (some initial), h => by
    obtain ⟨hdeclarator, h⟩ := allBraceFree_cons.1 h
    obtain ⟨hinitial, -⟩ := allBraceFree_cons.1 h
    have hv := Variable.qualifiedDeclarator_braceFree (hdeclarator _ rfl)
    refine .bind fun initialText ht => .ok (allReadable_line ?_)
    exact ((hv.append (by decide)).append (hinitial _ ht)).append (by decide)
  | .assign target value, h => by
    refine .bind fun text ht => .ok (allReadable_line ?_)
    exact (carries_braceFree.assignmentText h _ ht).append (by decide)
  | .augment target operator value, h => by
    refine .bind fun text ht => .ok (allReadable_line ?_)
    exact (carries_braceFree.augmentText h _ ht).append (by decide)
  | .ret none, h => .ok (allReadable_line (by decide))
  | .ret (some value), h => by
    obtain ⟨hvalue, -⟩ := allBraceFree_cons.1 h
    refine .bind fun text ht => .ok (allReadable_line ?_)
    exact (Lacks.append (by decide) (hvalue _ ht)).append (by decide)
  | .branch condition whenTrue [], h => by
    obtain ⟨hcondition, h⟩ := allBraceFree_cons.1 h
    obtain ⟨htrue, -⟩ := allBraceFree_append.1 h
    refine .bind fun conditionText hc => .bind fun body hb => .ok ⟨⟨?_, ?_⟩, trivial⟩
    · exact isHeader_of_braceFree (Lacks.append (by decide) (hcondition _ hc))
    · exact outlines_readable whenTrue htrue body hb
  | .branch condition whenTrue (s :: others), h => by
    obtain ⟨hcondition, h⟩ := allBraceFree_cons.1 h
    obtain ⟨htrue, hfalse⟩ := allBraceFree_append.1 h
    refine .bind fun conditionText hc => .bind fun first hf => .bind fun second hs =>
      .ok ⟨⟨?_, ?_, ?_⟩, trivial⟩
    · exact isHeader_of_braceFree (Lacks.append (by decide) (hcondition _ hc))
    · exact outlines_readable whenTrue htrue first hf
    · exact outlines_readable (s :: others) hfalse second hs
  | .forLoop initial condition update body, h => by
    obtain ⟨h, hbody⟩ := allBraceFree_append.1 h
    obtain ⟨h, hupdate⟩ := allBraceFree_append.1 h
    obtain ⟨hinitial, hcondition⟩ := allBraceFree_append.1 h
    refine .bind fun initialText hi => .bind fun conditionText hc => .bind fun updateText hu => .bind fun body hb =>
      .ok ⟨⟨isHeader_of_braceFree ?_, ?_⟩, trivial⟩
    · have hi := carries_braceFree.initialClause hinitial _ hi
      have hc := carries_braceFree.optionalText hcondition _ hc
      have hu := carries_braceFree.updateClause hupdate _ hu
      exact ((((Lacks.append (by decide) hi).append (by decide)).append hc).append (by decide)).append hu
    · exact outlines_readable _ hbody body hb
  | .whileLoop condition body, h => by
    obtain ⟨hcondition, hbody⟩ := allBraceFree_cons.1 h
    refine .bind fun conditionText hc => .bind fun body hb => .ok ⟨⟨?_, ?_⟩, trivial⟩
    · exact isHeader_of_braceFree (Lacks.append (by decide) (hcondition _ hc))
    · exact outlines_readable _ hbody body hb
  | .expression value, h => by
    obtain ⟨hvalue, -⟩ := allBraceFree_cons.1 h
    refine .bind fun text ht => .ok (allReadable_line ?_)
    exact (hvalue _ ht).append (by decide)
  | .breakLoop, _ => .ok (allReadable_line (by decide))
  | .continueLoop, _ => .ok (allReadable_line (by decide))
  | .discard, _ => .ok (allReadable_line (by decide))
  | .unknown, _ => .ok trivial

theorem Stmt.outlines_readable : ∀ ss : List Stmt, AllBraceFree tier (Stmt.allFragments ss) →
    Ensures Outline.AllReadable (Stmt.outlines tier ss)
  | [], _ => .ok trivial
  | s :: rest, h => by
    obtain ⟨hs, hrest⟩ := allBraceFree_append.1 h
    refine .bind fun own ho => .bind fun others hothers => .ok ?_
    exact allReadable_append (outline_readable s hs own ho) (outlines_readable rest hrest others hothers)

end

end Readable

/-! ### Lines within a text -/

/-- The lines of a text in which every line is ended. -/
def splitLines (text : String) : List String := (text.toList.splitOn '\n').dropLast.map String.ofList

theorem splitLines_joinLines {lines : List String} (h : ∀ line ∈ lines, '\n' ∉ line.toList) :
    splitLines (Program.joinLines lines) = lines := by
  induction lines with
  | nil => rfl
  | cons line rest ih =>
    obtain ⟨hline, hrest⟩ := List.forall_mem_cons.1 h
    have htext : (Program.joinLines (line :: rest)).toList
        = line.toList ++ '\n' :: (Program.joinLines rest).toList := by
      simp [Program.joinLines_cons]
    unfold splitLines at ih ⊢
    rw [htext, List.splitOn_append_cons_self_of_not_mem hline, List.dropLast_cons_of_ne_nil (List.splitOn_ne_nil _ _),
      List.map_cons, String.ofList_toList, ih hrest]

theorem newline_not_mem {depth : Int} {text : String} (h : '\n' ∉ text.toList) :
    '\n' ∉ (indentation depth ++ text).toList := by
  rw [String.toList_append, List.mem_append, not_or]
  exact ⟨Brace.not_mem_indentation depth (by decide), h⟩

theorem IsHeader.newline_not_mem {header : String} (h : IsHeader header) : '\n' ∉ header.toList := by
  obtain ⟨text, htext, rfl⟩ := h
  rw [String.toList_append, List.mem_append, not_or]
  exact ⟨htext.not_mem (by simp), by decide⟩

namespace Outline

mutual

theorem newline_not_mem_lines : ∀ (o : Outline) (_ : o.Readable) (depth : Int),
    ∀ line ∈ o.lines depth, '\n' ∉ line.toList
  | .line text, h, depth => by
    simp only [lines, List.forall_mem_singleton]
    exact newline_not_mem (h.not_mem (by simp))
  | .block header body, ⟨hheader, hbody⟩, depth => by
    simp only [lines, List.forall_mem_append, List.forall_mem_singleton]
    exact ⟨⟨newline_not_mem hheader.newline_not_mem, newline_not_mem_allLines body hbody _⟩,
      newline_not_mem (by decide)⟩
  | .choice header first second, ⟨hheader, hfirst, hsecond⟩, depth => by
    simp only [lines, List.forall_mem_append, List.forall_mem_singleton]
    exact ⟨⟨⟨⟨newline_not_mem hheader.newline_not_mem, newline_not_mem_allLines first hfirst _⟩,
      newline_not_mem (by decide)⟩, newline_not_mem_allLines second hsecond _⟩, newline_not_mem (by decide)⟩

theorem newline_not_mem_allLines : ∀ (os : List Outline) (_ : AllReadable os) (depth : Int),
    ∀ line ∈ allLines depth os, '\n' ∉ line.toList
  | [], _, _ => by simp [allLines]
  | o :: rest, ⟨ho, hrest⟩, depth => by
    rw [allLines, List.forall_mem_append]
    exact ⟨newline_not_mem_lines o ho depth, newline_not_mem_allLines rest hrest depth⟩

end

end Outline

/-- The lines of statements, read by their braces, are the tree of the statements: each line stands behind four
spaces for every block around it, the blocks that are opened are closed, and the lines are lines of the text. -/
theorem Stmt.read_bodyLines {tier : Tier} {ss : List Stmt} {depth : Int} (hdepth : 0 ≤ depth)
    (hfragments : AllBraceFree tier (Stmt.allFragments ss)) :
    (∀ lines, Stmt.bodyLines tier ss depth = .ok lines → ∃ tree, Stmt.outlines tier ss = .ok tree ∧
      Outline.read depth.toNat lines = some tree ∧ lines = Outline.allLines depth tree ∧
      splitLines (Program.joinLines lines) = lines) ∧
    ∀ error, Stmt.bodyLines tier ss depth = .error error ↔ Stmt.outlines tier ss = .error error := by
  have hlines : Stmt.bodyLines tier ss depth = Outline.allLines depth <$> Stmt.outlines tier ss :=
    Stmt.lines_eq_outlines ss depth
  rw [hlines]
  cases htree : Stmt.outlines tier ss with
  | error error =>
    refine ⟨?_, fun other => ⟨?_, ?_⟩⟩
    · rintro lines ⟨⟩
    · rintro ⟨⟩
      rfl
    · rintro ⟨⟩
      rfl
  | ok tree =>
    have hreadable := Stmt.outlines_readable ss hfragments tree htree
    refine ⟨?_, fun error => ⟨?_, ?_⟩⟩
    · rintro lines ⟨⟩
      exact ⟨tree, rfl, Outline.read_allLines hreadable hdepth, rfl,
        splitLines_joinLines (Outline.newline_not_mem_allLines tree hreadable depth)⟩
    · rintro ⟨⟩
    · rintro ⟨⟩

/-- A conditional whose second part holds nothing that is written, inside a loop. -/
theorem Stmt.read_bodyLines_nested :
    let ss : List Stmt := [
      .forLoop none (some (.name "more")) none [.branch (.name "hit") [.discard] [.unknown], .expression .unknown],
      .whileLoop (.name "busy") []]
    let lines := ["    for (; more; ) \x7b", "        if (hit) \x7b", "            discard;", "        \x7d else \x7b",
      "        \x7d", "        ;", "    \x7d", "    while (busy) \x7b", "    \x7d"]
    Stmt.bodyLines .es2 ss 1 = .ok lines ∧ Outline.read 1 lines = some [
      .block "for (; more; ) \x7b" [.choice "if (hit) \x7b" [.line "discard;"] [], .line ";"],
      .block "while (busy) \x7b" []] := by
  intro ss lines
  have hlines : Stmt.bodyLines .es2 ss 1 = .ok lines := rfl
  have hfragments : AllBraceFree .es2 (Stmt.allFragments ss) := by
    have hall : ∀ text ∈ ["more", "hit", "", "busy"], BraceFree text := by decide
    intro f hf
    have htext : f.text .es2 ∈ ["more", "hit", "", "busy"].map Except.ok :=
      List.mem_map_of_mem (f := Fragment.text .es2) hf
    obtain ⟨text, hmem, htext⟩ := List.mem_map.1 htext
    rw [← htext]
    exact .ok (hall text hmem)
  obtain ⟨tree, htree, hread, -, -⟩ := (Stmt.read_bodyLines (by decide) hfragments).1 lines hlines
  cases htree
  exact ⟨hlines, hread⟩

end GlslCompiler

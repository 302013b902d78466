/-!
# Entries of character tables

A table of characters is written as text: entries separated by blanks, each a code point or a run of
code points, a colon, and numbers separated by commas, all in hexadecimal.
-/

namespace GlslCompiler.Text.NormalForm

/-- A run of code points and the numbers given for its first one. -/
structure Entry where
  first : Nat
  last : Nat
  values : List Nat
  deriving DecidableEq

namespace Entry

/-- The value of a hexadecimal digit. -/
def digitValue (c : Char) : Nat :=
  if c.isDigit then c.toNat - '0'.toNat else c.toNat - 'a'.toNat + 10

/-- The number that hexadecimal digits write. -/
def number (cs : List Char) : Nat := cs.foldl (fun n c => 16 * n + digitValue c) 0

/-- The pieces of a text between separators. -/
def pieces (separator : Char) : List Char → List (List Char)
  | [] => [[]]
  | c :: rest =>
    match pieces separator rest with
    | [] => [[c]]
    | first :: others => if c = separator then [] :: first :: others else (c :: first) :: others

/-- Reads one entry; `none` if it has no colon. -/
def parse (cs : List Char) : Option Entry :=
  match pieces ':' cs with
  | [run, values] =>
    let ends := (pieces '-' run).map number
    some ⟨ends.headD 0, ends.getLastD 0, (pieces ',' values).map number⟩
  | _ => none

/-- Reads a table. -/
def ofLines (lines : List String) : List Entry :=
  lines.flatMap fun line => (pieces ' ' line.toList).filterMap parse

/-- Whether a code point is in the run. -/
def covers (entry : Entry) (code : Nat) : Bool := entry.first ≤ code && code ≤ entry.last

end Entry

end GlslCompiler.Text.NormalForm

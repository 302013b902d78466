import GlslCompiler.Text.Blank

/-!
# Integers in option values

An integer is a minus sign, if it is negative, and decimal digits without needless zeros. An option value
may be written more freely: with blanks around it, a plus sign, a fraction made of zeros, zeros in front,
and underscores. All of that is cleared away first. The zeros go before the rest is looked at, so they may
also stand in front of the minus sign.
-/

namespace GlslCompiler.Text

/-- A blank that may surround an integer: white space, without the information separators. -/
def isIntegerBlank (c : Char) : Bool := isBlank c && !(0x1C ≤ c.toNat && c.toNat ≤ 0x1F)

/-- What stands before the point; `none` if something other than zeros follows it. -/
def wholePart? (cs : List Char) : Option (List Char) :=
  match cs.dropWhile (· ≠ '.') with
  | [] => some cs
  | _ :: fraction =>
    if !fraction.isEmpty && fraction.all (· == '0') then some (cs.takeWhile (· ≠ '.')) else none

/-- Whether a character may stand among the zeros in front of a number. -/
def isLeadingFiller (c : Char) : Bool := c == '0' || c == '_'

/-- Drops zeros in front. Of zeros alone the last character stays, so that an underscore at the end is
still seen. -/
def dropLeadingZeros : List Char → List Char
  | '0' :: rest =>
    match rest.dropWhile isLeadingFiller with
    | [] => [rest.getLast?.getD '0']
    | significant => significant
  | cs => cs

/-- Drops single underscores between other characters; `none` if one stands elsewhere. `joinable` says
that a character other than an underscore came before. -/
def dropUnderscores? (joinable : Bool) : List Char → Option (List Char)
  | [] => if joinable then some [] else none
  | '_' :: rest => if joinable then dropUnderscores? false rest else none
  | c :: rest => (dropUnderscores? true rest).map (c :: ·)

/-- An unsigned value without all that may be left out. -/
def cleared? (cs : List Char) : Option (List Char) :=
  ((wholePart? cs).map dropLeadingZeros).bind (dropUnderscores? false)

/-- Reads digits, of which the first is zero only if it is the only one. -/
def plainNatural? (cs : List Char) : Option Nat :=
  if !cs.isEmpty && cs.all Char.isDigit && (cs.head? ≠ some '0' || cs.length = 1) then
    some (cs.foldl (fun n c => 10 * n + (c.toNat - '0'.toNat)) 0)
  else none

/-- An integer of more characters than this, a minus sign included, is refused. -/
def maxIntegerLength : Nat := 4300

/-- Reads an integer that holds nothing needless. -/
def plainInteger? (cs : List Char) : Option Int :=
  if maxIntegerLength < cs.length then none
  else
    match cs with
    | '-' :: digits => (plainNatural? digits).map fun n => -(n : Int)
    | digits => (plainNatural? digits).map fun n => (n : Int)

/-- Reads an integer. -/
def integer? (s : String) : Option Int :=
  match trimBoth isIntegerBlank s.toList with
  | '-' :: rest => (cleared? rest).bind fun cs => plainInteger? ('-' :: cs)
  | '+' :: '-' :: _ => none
  | '+' :: rest => (cleared? rest).bind plainInteger?
  | cs => (cleared? cs).bind plainInteger?

end GlslCompiler.Text

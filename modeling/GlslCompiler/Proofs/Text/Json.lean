import GlslCompiler.Text.Integer
import GlslCompiler.Text.JsonString
import Mathlib.Data.List.Basic
import Mathlib.Tactic.Common

/-!
# Reading JSON

A reader for JSON documents, to say what a file means without a look at how it was written. A reader takes what it reads
from the front and gives the rest back. The value of a string is the list of its sixteen-bit units, as escapes are
written in units, and a number is kept as it is spelled.
-/

namespace GlslCompiler

inductive Json where
  | null
  | bool (value : Bool)
  | number (spelling : List Char)
  | string (units : List Nat)
  | array (items : List Json)
  | object (members : List (List Nat × Json))

namespace Text

/-- The sixteen-bit units of a character, two of them above the basic plane. -/
def charUnits (c : Char) : List Nat :=
  if c.toNat < 0x10000 then [c.toNat]
  else [0xD800 + (c.toNat - 0x10000) / 0x400, 0xDC00 + (c.toNat - 0x10000) % 0x400]

/-- The sixteen-bit units of a text. -/
def units (s : String) : List Nat := s.toList.flatMap charUnits

end Text

namespace Json

/-- What a reader gives: a value and what comes after it. -/
abbrev Reading (α : Type) := Option (α × List Char)

def isBlank (c : Char) : Bool := c == ' ' || c == '\n' || c == '\r' || c == '\t'

def skipBlanks (cs : List Char) : List Char := cs.dropWhile isBlank

def hexDigit? (c : Char) : Option Nat :=
  if c.isDigit then some (c.toNat - 48)
  else if 'a' ≤ c ∧ c ≤ 'f' then some (c.toNat - 87)
  else if 'A' ≤ c ∧ c ≤ 'F' then some (c.toNat - 55)
  else none

/-- The unit of four hexadecimal digits. -/
def hexUnit? (a b c d : Char) : Option Nat :=
  match hexDigit? a, hexDigit? b, hexDigit? c, hexDigit? d with
  | some a, some b, some c, some d => some (4096 * a + 256 * b + 16 * c + d)
  | _, _, _, _ => none

/-- The unit that a letter after a backslash stands for. -/
def escapeUnit? (c : Char) : Option Nat :=
  if c = '\x22' ∨ c = '\\' ∨ c = '/' then some c.toNat
  else if c = 'b' then some 0x08
  else if c = 'f' then some 0x0C
  else if c = 'n' then some 0x0A
  else if c = 'r' then some 0x0D
  else if c = 't' then some 0x09
  else none

/-- Puts units in front of those of a reading. -/
def prepend (units : List Nat) (reading : Reading (List Nat)) : Reading (List Nat) :=
  reading.map fun (more, rest) => (units ++ more, rest)

/-- Reads a string whose opening quote has been read. -/
def readString : List Char → Reading (List Nat)
  | [] => none
  | '\x22' :: rest => some ([], rest)
  | '\\' :: 'u' :: a :: b :: c :: d :: rest => (hexUnit? a b c d).bind fun unit => prepend [unit] (readString rest)
  | '\\' :: c :: rest => (escapeUnit? c).bind fun unit => prepend [unit] (readString rest)
  | c :: rest => if c.toNat < 0x20 then none else prepend (Text.charUnits c) (readString rest)

/-- A character of a number or of a named value. -/
def isWordChar (c : Char) : Bool := c.isAlphanum || c == '-' || c == '+' || c == '.'

/-- The value of a word. A word that is no name is a number, if it is anything. -/
def ofWord (word : List Char) : Option Json :=
  if word = ['n', 'u', 'l', 'l'] then some .null
  else if word = ['t', 'r', 'u', 'e'] then some (.bool true)
  else if word = ['f', 'a', 'l', 's', 'e'] then some (.bool false)
  else if word.any Char.isDigit then some (.number word)
  else none

/-- Reads values with commas between them, up to a closing bracket. -/
def readSeparated {α : Type} (item : List Char → Reading α) (close : Char) : Nat → List Char → Reading (List α)
  | 0, _ => none
  | depth + 1, cs =>
    (item cs).bind fun (a, rest) =>
      match skipBlanks rest with
      | [] => none
      | c :: rest =>
        if c = close then some ([a], rest)
        else if c = ',' then (readSeparated item close depth rest).map fun (more, rest) => (a :: more, rest)
        else none

/-- Reads a name, a colon and a value. -/
def readMember (value : List Char → Reading Json) (cs : List Char) : Reading (List Nat × Json) :=
  match skipBlanks cs with
  | '\x22' :: rest =>
    (readString rest).bind fun (name, rest) =>
      match skipBlanks rest with
      | ':' :: rest => (value rest).map fun (value, rest) => ((name, value), rest)
      | _ => none
  | _ => none

/-- Reads a value. The depth bounds how far values nest and how many stand in one list. -/
def readValue : Nat → List Char → Reading Json
  | 0, _ => none
  | depth + 1, cs =>
    match skipBlanks cs with
    | [] => none
    | c :: rest =>
      if c = '\x7b' then
        if (skipBlanks rest).head? = some '\x7d' then some (.object [], (skipBlanks rest).tail)
        else (readSeparated (readMember (readValue depth)) '\x7d' depth rest).map fun (ms, rest) => (.object ms, rest)
      else if c = '[' then
        if (skipBlanks rest).head? = some ']' then some (.array [], (skipBlanks rest).tail)
        else (readSeparated (readValue depth) ']' depth rest).map fun (items, rest) => (.array items, rest)
      else if c = '\x22' then (readString rest).map fun (units, rest) => (.string units, rest)
      else (ofWord ((c :: rest).takeWhile isWordChar)).map fun value => (value, (c :: rest).dropWhile isWordChar)

/-- Reads a whole document. -/
def read (text : String) : Option Json :=
  (readValue text.length text.toList).bind fun (value, rest) => if skipBlanks rest = [] then some value else none

/-- The value of a member; the last of several with one name. -/
def member? (name : String) : Json → Option Json
  | .object members => (members.reverse.find? (·.1 = Text.units name)).map Prod.snd
  | _ => none

/-- The value of a number that is spelled as a natural number. -/
def natural? : Json → Option Nat
  | .number spelling => Text.plainNatural? spelling
  | _ => none

/-! ### Strings -/

/-- Whether a spelling is read as a value, whatever comes after it that does not go on with the word. -/
def Spells (spelling : String) (value : Json) : Prop :=
  ∀ depth rest, (∀ c, rest.head? = some c → isWordChar c = false) →
    readValue (depth + 1) (spelling.toList ++ rest) = some (value, rest)

end Json

end GlslCompiler

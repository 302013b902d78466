import GlslCompiler.Text.NormalForm.Combining
import GlslCompiler.Text.NormalForm.Composition
import GlslCompiler.Text.NormalForm.Decomposition

/-!
# The compatibility normal form

Names are compared after every character has been replaced by the plain characters it stands for,
marks have been put in a fixed order, and letters have been joined with their marks again. Two
spellings of a name that differ only in the shape of their letters thus become the same name.
-/

namespace GlslCompiler.Text

namespace NormalForm

/-- Hangul syllables are numbered by their leading consonant, vowel and trailing consonant. -/
def syllableBase : Nat := 0xAC00

def leadingBase : Nat := 0x1100

def vowelBase : Nat := 0x1161

/-- One below the first trailing consonant, so that zero says there is none. -/
def trailingBase : Nat := 0x11A7

def leadingCount : Nat := 19

def vowelCount : Nat := 21

def trailingCount : Nat := 28

def syllableCount : Nat := leadingCount * vowelCount * trailingCount

/-- The parts of a Hangul syllable; `none` for other code points. -/
def syllableParts? (code : Nat) : Option (List Nat) :=
  if syllableBase ≤ code ∧ code < syllableBase + syllableCount then
    let index := code - syllableBase
    let leading := leadingBase + index / (vowelCount * trailingCount)
    let vowel := vowelBase + index % (vowelCount * trailingCount) / trailingCount
    let trailing := index % trailingCount
    some ([leading, vowel] ++ if trailing = 0 then [] else [trailingBase + trailing])
  else none

/-- What an entry says about a code point of its run: a single value moves along with the run. -/
def valuesAt (entry : Entry) (code : Nat) : List Nat :=
  match entry.values with
  | [value] => [value + (code - entry.first)]
  | values => values

/-- The plain characters that a character stands for. -/
def decompose (code : Nat) : List Nat :=
  if code < 0x80 then [code]
  else
    match syllableParts? code with
    | some parts => parts
    | none =>
      match decompositions.find? (·.covers code) with
      | some entry => valuesAt entry code
      | none => [code]

/-- The combining class of a character, zero if it is no mark. -/
def combiningClass (code : Nat) : Nat :=
  if code < 0x300 then 0
  else ((combiningClasses.find? (·.covers code)).bind (·.values.head?)).getD 0

/-- Puts a mark in front of the marks of higher classes that stand at the end of a text, which is given
last character first. -/
def insertMark (code : Nat) : List Nat → List Nat
  | [] => [code]
  | last :: before =>
    if combiningClass code ≠ 0 ∧ combiningClass code < combiningClass last then
      last :: insertMark code before
    else code :: last :: before

/-- The characters with their marks in order. -/
def orderMarks (codes : List Nat) : List Nat :=
  (codes.foldl (fun ordered code => insertMark code ordered) []).reverse

/-- The syllable that two Hangul parts make. -/
def composeSyllable? (first second : Nat) : Option Nat :=
  if leadingBase ≤ first ∧ first < leadingBase + leadingCount
      ∧ vowelBase ≤ second ∧ second < vowelBase + vowelCount then
    some (syllableBase
      + ((first - leadingBase) * vowelCount + (second - vowelBase)) * trailingCount)
  else if syllableBase ≤ first ∧ first < syllableBase + syllableCount
      ∧ (first - syllableBase) % trailingCount = 0
      ∧ trailingBase < second ∧ second < trailingBase + trailingCount then
    some (first + (second - trailingBase))
  else none

/-- The character that two characters make. -/
def compose? (first second : Nat) : Option Nat :=
  match composeSyllable? first second with
  | some code => some code
  | none => (compositions.find? (·.values = [first, second])).map (·.first)

/-- A text being composed: the finished part and the marks that stay after the last letter, both last
character first, and that letter between them. -/
structure Joining where
  finished : List Nat := []
  letter : Option Nat := none
  marks : List Nat := []

namespace Joining

/-- Everything so far, last character first. -/
def all (joining : Joining) : List Nat :=
  joining.marks ++ joining.letter.toList ++ joining.finished

/-- Takes one more character. A mark joins the letter unless a mark between them has the same class or
a higher one. -/
def push (joining : Joining) (code : Nat) : Joining :=
  let kind := combiningClass code
  let free :=
    match joining.marks with
    | [] => true
    | last :: _ => combiningClass last < kind
  match joining.letter.bind fun letter => if free then compose? letter code else none with
  | some joined => { joining with letter := some joined }
  | none =>
    if kind = 0 then { finished := joining.all, letter := some code, marks := [] }
    else { joining with marks := code :: joining.marks }

end Joining

/-- The characters with letters and marks joined. -/
def join (codes : List Nat) : List Nat :=
  (codes.foldl Joining.push {}).all.reverse

end NormalForm

/-- A text in the compatibility normal form. -/
def normalForm (s : String) : String :=
  if s.toList.all (·.toNat < 0x80) then s
  else
    let codes := s.toList.flatMap fun c => NormalForm.decompose c.toNat
    String.ofList ((NormalForm.join (NormalForm.orderMarks codes)).map Char.ofNat)

end GlslCompiler.Text

/-!
# Letter case for ASCII keywords

Keywords are compared after changing case by Unicode's full mappings. Every keyword is ASCII, so only
characters whose mapped form is ASCII can take part in a match; all others are left as they are, which
keeps them different from every keyword.
-/

namespace GlslCompiler.Text

/-- The upper-case form of a character where that form is ASCII. -/
def upperChar (c : Char) : List Char :=
  match c with
  | 'ß' => ['S', 'S']
  | 'ı' => ['I']
  | 'ſ' => ['S']
  | 'ﬀ' => ['F', 'F']
  | 'ﬁ' => ['F', 'I']
  | 'ﬂ' => ['F', 'L']
  | 'ﬃ' => ['F', 'F', 'I']
  | 'ﬄ' => ['F', 'F', 'L']
  | 'ﬅ' => ['S', 'T']
  | 'ﬆ' => ['S', 'T']
  | c => [c.toUpper]

/-- Upper case, as far as it can matter to an ASCII keyword. -/
def upper (s : String) : String := String.ofList (s.toList.flatMap upperChar)

/-- The lower-case form of a character where that form is wholly ASCII. -/
def lowerChar (c : Char) : Char := if c = '\u212a' then 'k' else c.toLower

/-- Lower case, as far as it can matter to an ASCII keyword. -/
def lower (s : String) : String := String.ofList (s.toList.map lowerChar)

end GlslCompiler.Text

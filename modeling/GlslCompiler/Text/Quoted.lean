import GlslCompiler.Text.Printable

/-!
# Quoted text in messages

A name inside an error message is quoted so that its exact characters can be seen: single quotes,
unless the name holds a single quote and no double quote, with escapes for the quote, the backslash and
everything that is not printable.
-/

namespace GlslCompiler.Text

/-- A natural number in lower-case hexadecimal, padded with zeros. -/
def hexPadded (width n : Nat) : List Char :=
  let digits := Nat.toDigits 16 n
  List.replicate (width - digits.length) '0' ++ digits

/-- A character as it stands between quotes. -/
def escapeChar (quote c : Char) : List Char :=
  if c = quote ∨ c = '\\' then ['\\', c]
  else if c = '\t' then ['\\', 't']
  else if c = '\n' then ['\\', 'n']
  else if c = '\r' then ['\\', 'r']
  else if isPrintable c then [c]
  else if c.toNat < 0x100 then ['\\', 'x'] ++ hexPadded 2 c.toNat
  else if c.toNat < 0x10000 then ['\\', 'u'] ++ hexPadded 4 c.toNat
  else ['\\', 'U'] ++ hexPadded 8 c.toNat

/-- The quote that needs the fewest escapes, single for preference. -/
def quoteFor (cs : List Char) : Char :=
  if cs.contains '\x27' && !cs.contains '\x22' then '\x22' else '\x27'

/-- A text in quotes. -/
def quoted (s : String) : String :=
  let quote := quoteFor s.toList
  String.ofList (quote :: s.toList.flatMap (escapeChar quote) ++ [quote])

/-- A byte as it stands between quotes. -/
def escapeByte (quote : Char) (b : UInt8) : List Char :=
  if b < 0x80 then escapeChar quote (Char.ofNat b.toNat) else ['\\', 'x'] ++ hexPadded 2 b.toNat

/-- Bytes in quotes, marked as bytes. -/
def quotedBytes (bytes : List UInt8) : String :=
  let quote := quoteFor (bytes.map fun b => Char.ofNat b.toNat)
  String.ofList (['b', quote] ++ bytes.flatMap (escapeByte quote) ++ [quote])

end GlslCompiler.Text

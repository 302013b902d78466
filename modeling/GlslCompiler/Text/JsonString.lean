import GlslCompiler.Text.Quoted

/-!
# JSON strings in ASCII

Every character outside the visible part of ASCII is written as an escape, one above the basic plane as
a surrogate pair.
-/

namespace GlslCompiler.Text

/-- The escape of a sixteen-bit unit. -/
def unitEscape (unit : Nat) : List Char := ['\\', 'u'] ++ hexPadded 4 unit

/-- A character inside a JSON string. -/
def jsonChar (c : Char) : List Char :=
  let n := c.toNat
  if c = '\x22' ∨ c = '\\' then ['\\', c]
  else if c = '\n' then ['\\', 'n']
  else if c = '\r' then ['\\', 'r']
  else if c = '\t' then ['\\', 't']
  else if n = 0x08 then ['\\', 'b']
  else if n = 0x0C then ['\\', 'f']
  else if 0x20 ≤ n ∧ n ≤ 0x7E then [c]
  else if n < 0x10000 then unitEscape n
  else
    let offset := n - 0x10000
    unitEscape (0xD800 + offset / 0x400) ++ unitEscape (0xDC00 + offset % 0x400)

/-- A text as a JSON string. -/
def jsonString (s : String) : String :=
  String.ofList ('\x22' :: s.toList.flatMap jsonChar ++ ['\x22'])

end GlslCompiler.Text

/-!
# Bytes

Byte strings are lists of bytes. A program text is stored one byte per character, with a question mark
for every character outside ASCII, so the number of bytes is the number of characters.
-/

namespace GlslCompiler

abbrev Bytes := List UInt8

namespace Bytes

/-- The byte of a character; a question mark stands for everything outside ASCII. -/
def ofChar (c : Char) : UInt8 := if c.toNat < 0x80 then c.toNat.toUInt8 else 0x3F

/-- The bytes of a text. -/
def ofText (text : String) : Bytes := text.toList.map ofChar

/-- The character of a byte; a byte outside ASCII becomes the replacement character. -/
def toChar (b : UInt8) : Char := if b < 0x80 then Char.ofNat b.toNat else '�'

/-- The text of a byte string. -/
def toText (bytes : Bytes) : String := String.ofList (bytes.map toChar)

/-- The lowest `count` bytes of a number, least significant first. -/
def littleEndian : Nat → Nat → Bytes
  | 0, _ => []
  | count + 1, n => n.toUInt8 :: littleEndian count (n / 256)

/-- The number written least significant byte first. -/
def toNat : Bytes → Nat
  | [] => 0
  | b :: rest => b.toNat + 256 * toNat rest

/-- The two hexadecimal digits of a byte. -/
def hexDigits (b : UInt8) : List Char :=
  [Nat.digitChar (b.toNat / 16), Nat.digitChar (b.toNat % 16)]

/-- A byte string in lower-case hexadecimal. -/
def hex (bytes : Bytes) : String := String.ofList (bytes.flatMap hexDigits)

end Bytes

end GlslCompiler

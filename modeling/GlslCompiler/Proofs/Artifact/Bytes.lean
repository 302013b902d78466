import Mathlib.Algebra.Ring.Nat
import Mathlib.Data.List.Basic
import GlslCompiler.Artifact.Bytes

/-!
# Texts and numbers as bytes

A text that is written as bytes and read again comes back with its characters outside ASCII replaced, and bytes
that are read as a text and written again come back with those outside ASCII replaced: neither direction is
lossless, but each has an exact answer.
-/

namespace GlslCompiler

/-- A character as its byte can hold it: a question mark stands for everything above U+007F. -/
def asciiChar (c : Char) : Char := if 0x7F < c.toNat then '?' else c

/-- A text with a question mark for every character outside ASCII. -/
def asciiText (text : String) : String := String.ofList (text.toList.map asciiChar)

def IsAscii (text : String) : Prop := ∀ c ∈ text.toList, c.toNat ≤ 0x7F

@[simp]
theorem length_asciiText (text : String) : (asciiText text).length = text.length := by
  rw [asciiText, String.length_ofList, List.length_map, String.length_toList]

theorem asciiText_eq_self {text : String} (h : IsAscii text) : asciiText text = text := by
  have hchars : text.toList.map asciiChar = text.toList.map id := by
    apply List.map_congr_left
    intro c hc
    exact if_neg (Nat.not_lt.2 (h c hc))
  rw [asciiText, hchars, List.map_id, String.ofList_toList]

namespace Bytes

/-- A byte as a character of ASCII can hold it. -/
def sevenBit (b : UInt8) : UInt8 := if b < 0x80 then b else 0x3F

theorem toChar_ofChar (c : Char) : toChar (ofChar c) = asciiChar c := by
  unfold ofChar asciiChar
  by_cases h : c.toNat < 0x80
  · have hbyte : c.toNat.toUInt8.toNat = c.toNat := by
      rw [Nat.toUInt8_eq, UInt8.toNat_ofNat']
      omega
    have hlow : c.toNat.toUInt8 < 0x80 := by
      rw [UInt8.lt_iff_toNat_lt, hbyte]
      exact h
    rw [if_pos h, if_neg (by omega), toChar, if_pos hlow, hbyte, Char.ofNat_toNat]
  · rw [if_neg h, if_pos (by omega)]
    rfl

theorem ofChar_toChar (b : UInt8) : ofChar (toChar b) = sevenBit b := by
  unfold toChar sevenBit
  by_cases h : b < 0x80
  · have hlow : b.toNat < 0x80 := UInt8.lt_iff_toNat_lt.1 h
    have hvalid : b.toNat.isValidChar := .inl (by omega)
    have hchar : (Char.ofNat b.toNat).toNat = b.toNat := by
      rw [Char.ofNat, dif_pos hvalid]
      rfl
    rw [if_pos h, if_pos h, ofChar, hchar, if_pos hlow, Nat.toUInt8_eq, UInt8.ofNat_toNat]
  · rw [if_neg h, if_neg h]
    rfl

@[simp]
theorem length_ofText (text : String) : (ofText text).length = text.length := by
  rw [ofText, List.length_map, String.length_toList]

theorem toText_ofText (text : String) : toText (ofText text) = asciiText text := by
  rw [toText, ofText, List.map_map, asciiText]
  congr 2
  funext c
  exact toChar_ofChar c

theorem ofText_toText (bytes : Bytes) : ofText (toText bytes) = bytes.map sevenBit := by
  rw [ofText, toText, String.toList_ofList, List.map_map]
  congr 1
  funext b
  exact ofChar_toChar b

theorem map_sevenBit_eq_self {bytes : Bytes} (h : ∀ b ∈ bytes, b < 0x80) : bytes.map sevenBit = bytes := by
  have hbytes : bytes.map sevenBit = bytes.map id := by
    apply List.map_congr_left
    intro b hb
    exact if_pos (h b hb)
  rw [hbytes, List.map_id]

/-- Bytes are what their number is written as. -/
theorem littleEndian_toNat (bytes : Bytes) : littleEndian bytes.length (toNat bytes) = bytes := by
  induction bytes with
  | nil => rfl
  | cons b rest ih =>
    have hb := b.toNat_lt
    have hlow : (b.toNat + 256 * toNat rest).toUInt8 = b := by
      apply UInt8.toNat_inj.1
      rw [Nat.toUInt8_eq, UInt8.toNat_ofNat']
      omega
    have hhigh : (b.toNat + 256 * toNat rest) / 256 = toNat rest := by omega
    rw [List.length_cons, toNat, littleEndian, hlow, hhigh, ih]

end Bytes

end GlslCompiler

import GlslCompiler.Artifact.Bytes

/-!
# BLAKE2b

The unkeyed hash by which artifacts are named. The message is cut into blocks of 128 bytes, the last one
padded with zeros; each block is mixed into a state of eight words by twelve rounds of sixteen words.
-/

namespace GlslCompiler.Blake2b

/-- The words the state starts from. -/
def initialWords : Vector UInt64 8 :=
  #v[0x6a09e667f3bcc908, 0xbb67ae8584caa73b, 0x3c6ef372fe94f82b, 0xa54ff53a5f1d36f1,
    0x510e527fade682d1, 0x9b05688c2b3e6c1f, 0x1f83d9abfb41bd6b, 0x5be0cd19137e2179]

/-- The order in which each round takes the words of a block; rounds ten and eleven repeat the first
two. -/
def schedule : List (Vector (Fin 16) 16) := [
  #v[0, 1, 2, 3, 4, 5, 6, 7, 8, 9, 10, 11, 12, 13, 14, 15],
  #v[14, 10, 4, 8, 9, 15, 13, 6, 1, 12, 0, 2, 11, 7, 5, 3],
  #v[11, 8, 12, 0, 5, 2, 15, 13, 10, 14, 3, 6, 7, 1, 9, 4],
  #v[7, 9, 3, 1, 13, 12, 11, 14, 2, 6, 5, 10, 4, 0, 15, 8],
  #v[9, 0, 5, 7, 2, 4, 10, 15, 14, 1, 11, 12, 6, 8, 3, 13],
  #v[2, 12, 6, 10, 0, 11, 8, 3, 4, 13, 7, 5, 15, 14, 1, 9],
  #v[12, 5, 1, 15, 14, 13, 4, 10, 0, 7, 6, 3, 9, 2, 8, 11],
  #v[13, 11, 7, 14, 12, 1, 3, 9, 5, 0, 15, 4, 8, 6, 2, 10],
  #v[6, 15, 14, 9, 11, 3, 0, 8, 12, 2, 13, 7, 1, 4, 10, 5],
  #v[10, 2, 8, 4, 7, 6, 1, 5, 15, 11, 9, 14, 3, 12, 13, 0],
  #v[0, 1, 2, 3, 4, 5, 6, 7, 8, 9, 10, 11, 12, 13, 14, 15],
  #v[14, 10, 4, 8, 9, 15, 13, 6, 1, 12, 0, 2, 11, 7, 5, 3]]

def rotateRight (word count : UInt64) : UInt64 := (word >>> count) ||| (word <<< (64 - count))

/-- Mixes two message words into four words of the working state. -/
def mix (v : Vector UInt64 16) (a b c d : Fin 16) (x y : UInt64) : Vector UInt64 16 :=
  let va := v[a] + v[b] + x
  let vd := rotateRight (v[d] ^^^ va) 32
  let vc := v[c] + vd
  let vb := rotateRight (v[b] ^^^ vc) 24
  let va := va + vb + y
  let vd := rotateRight (vd ^^^ va) 16
  let vc := vc + vd
  let vb := rotateRight (vb ^^^ vc) 63
  (((v.set a va).set b vb).set c vc).set d vd

/-- One round: the columns, then the diagonals. -/
def mixRound (m : Vector UInt64 16) (v : Vector UInt64 16) (order : Vector (Fin 16) 16) :
    Vector UInt64 16 :=
  let word (i : Fin 16) : UInt64 := m[order[i]]
  let v := mix v 0 4 8 12 (word 0) (word 1)
  let v := mix v 1 5 9 13 (word 2) (word 3)
  let v := mix v 2 6 10 14 (word 4) (word 5)
  let v := mix v 3 7 11 15 (word 6) (word 7)
  let v := mix v 0 5 10 15 (word 8) (word 9)
  let v := mix v 1 6 11 12 (word 10) (word 11)
  let v := mix v 2 7 8 13 (word 12) (word 13)
  mix v 3 4 9 14 (word 14) (word 15)

/-- Mixes a block into the state. `count` is the number of message bytes up to the end of the block. -/
def compress (h : Vector UInt64 8) (m : Vector UInt64 16) (count : Nat) (final : Bool) :
    Vector UInt64 8 :=
  let v : Vector UInt64 16 := h ++ initialWords
  let v := v.set 12 (v[12] ^^^ count.toUInt64)
  let v := v.set 13 (v[13] ^^^ (count / Nat.pow 2 64).toUInt64)
  let v := if final then v.set 14 (v[14] ^^^ 0xffffffffffffffff) else v
  let v := schedule.foldl (mixRound m) v
  Vector.ofFn fun i : Fin 8 => h[i] ^^^ v[i.val] ^^^ v[i.val + 8]

/-- The word that begins at an offset; bytes past the end are zero. -/
def wordAt (data : Array UInt8) (offset : Nat) : UInt64 :=
  (List.range 8).foldr (fun i word => word * 256 + (data.getD (offset + i) 0).toUInt64) 0

/-- The words of the block with the given number. -/
def blockAt (data : Array UInt8) (number : Nat) : Vector UInt64 16 :=
  Vector.ofFn fun i : Fin 16 => wordAt data (128 * number + 8 * i.val)

/-- The digest of a message, for a digest of at most 64 bytes. -/
def digest (size : Nat) (message : Bytes) : Bytes :=
  let data := message.toArray
  let blocks := max 1 ((data.size + 127) / 128)
  let start := initialWords.set 0 (initialWords[0] ^^^ 0x01010000 ^^^ size.toUInt64)
  let h := (List.range blocks).foldl
    (fun h i => compress h (blockAt data i) (min (128 * (i + 1)) data.size) (i + 1 == blocks)) start
  (h.toList.flatMap fun word => Bytes.littleEndian 8 word.toNat).take size

end GlslCompiler.Blake2b

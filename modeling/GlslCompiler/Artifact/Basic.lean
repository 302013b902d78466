import GlslCompiler.Artifact.Blake2b
import GlslCompiler.Tier

/-!
# Artifacts

An artifact is the packaged result of a compilation, named by the hash of its bytes. A desktop artifact
is the program text itself. An ES artifact holds up to two variants: two flag bytes say which of the
legacy and the modern variant are present, and each present one follows as its length in four bytes,
least significant first, and its text. A text whose length needs more than four bytes has no place in it.
-/

namespace GlslCompiler

/-- The name of an artifact: the hash of its bytes. -/
structure ObjectId where
  digest : Bytes
  deriving DecidableEq

namespace ObjectId

/-- The number of bytes of an id. -/
def size : Nat := 16

def ofBytes (data : Bytes) : ObjectId := ⟨Blake2b.digest size data⟩

def text (id : ObjectId) : String := Bytes.hex id.digest

end ObjectId

/-- The variants of an ES artifact. -/
structure DualVariants where
  legacy : Option String := none
  modern : Option String := none
  deriving DecidableEq

/-- Why bytes are not an ES artifact. -/
inductive FormatError where
  | tooShort
  | invalidFlags (legacy modern : UInt8)
  | truncatedLength
  | truncatedData
  | trailingBytes (count : Nat)
  deriving DecidableEq

def FormatError.message : FormatError → String
  | .tooShort => "Artifact is too short to hold variant flags"
  | .invalidFlags legacy modern =>
    "Invalid variant flags: (" ++ toString legacy.toNat ++ ", " ++ toString modern.toNat ++ ")"
  | .truncatedLength => "Truncated variant length"
  | .truncatedData => "Truncated variant data"
  | .trailingBytes count => toString count ++ " trailing bytes after variants"

/-- The longest text that a slot can hold. -/
def maxSlotLength : Nat := 4294967295

/-- A text is too long for its slot. -/
structure Oversized where
  length : Nat
  deriving DecidableEq

def Oversized.message (_ : Oversized) : String :=
  "'I' format requires 0 <= number <= " ++ toString maxSlotLength

namespace DualVariants

/-- The flag of a slot. -/
def flag (slot : Option String) : UInt8 := if slot.isSome then 1 else 0

/-- The bytes of a slot: its length and its text, or nothing. -/
def encodeSlot : Option String → Except Oversized Bytes
  | none => .ok []
  | some text =>
    let data := Bytes.ofText text
    if maxSlotLength < data.length then .error ⟨data.length⟩
    else .ok (Bytes.littleEndian 4 data.length ++ data)

/-- The bytes of an ES artifact. -/
def encode (variants : DualVariants) : Except Oversized Bytes := do
  let legacy ← encodeSlot variants.legacy
  let modern ← encodeSlot variants.modern
  return flag variants.legacy :: flag variants.modern :: (legacy ++ modern)

/-- Reads a slot whose flag has been read, and gives what follows it. -/
def decodeSlot (present : UInt8) (data : Bytes) : Except FormatError (Option String × Bytes) :=
  if present = 0 then .ok (none, data)
  else
    match data with
    | b0 :: b1 :: b2 :: b3 :: rest =>
      let length := Bytes.toNat [b0, b1, b2, b3]
      if rest.length < length then .error .truncatedData
      else .ok (some (Bytes.toText (rest.take length)), rest.drop length)
    | _ => .error .truncatedLength

/-- Reads an ES artifact. -/
def decode (data : Bytes) : Except FormatError DualVariants :=
  match data with
  | legacyFlag :: modernFlag :: rest =>
    if 1 < legacyFlag ∨ 1 < modernFlag then .error (.invalidFlags legacyFlag modernFlag)
    else do
      let (legacy, rest) ← decodeSlot legacyFlag rest
      let (modern, rest) ← decodeSlot modernFlag rest
      if rest.isEmpty then return ⟨legacy, modern⟩ else throw (.trailingBytes rest.length)
  | _ => .error .tooShort

end DualVariants

/-- A packaged compilation result. -/
structure Artifact where
  id : ObjectId
  data : Bytes
  stage : ShaderStage
  deriving DecidableEq

namespace Artifact

def ofBytes (data : Bytes) (stage : ShaderStage) : Artifact := ⟨ObjectId.ofBytes data, data, stage⟩

/-- The artifact of a desktop program. -/
def single (text : String) (stage : ShaderStage) : Artifact := ofBytes (Bytes.ofText text) stage

/-- The artifact of ES variants. -/
def dual (variants : DualVariants) (stage : ShaderStage) : Except Oversized Artifact :=
  variants.encode.map (ofBytes · stage)

end Artifact

end GlslCompiler

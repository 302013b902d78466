import GlslCompiler.Artifact.Basic
import GlslCompiler.Proofs.Artifact.Bytes

/-!
# The format of ES artifacts

A `DualFrame` is the layout of an ES artifact with nothing decoded: which slots are there, the bytes of their
lengths and their payloads. A frame cannot state a wrong length, so the bytes of frames are exactly the buffers of
the format. `DualVariants.decode_eq_ok_iff` says that the decoder accepts these buffers and no others and what it
makes of each; that decoding undoes encoding, and how far encoding undoes decoding, are read off it.
-/

namespace GlslCompiler

theorem exists_of_bind_eq_ok {ε α β : Type} {x : Except ε α} {f : α → Except ε β} {b : β}
    (h : x.bind f = .ok b) : ∃ a, x = .ok a ∧ f a = .ok b := by
  cases x with
  | error error => cases h
  | ok a => exact ⟨a, rfl, h⟩

theorem map_eq_self {α : Type} {f : α → α} {slot : Option α} (h : ∀ a, slot = some a → f a = a) :
    slot.map f = slot := by
  cases slot with
  | none => rfl
  | some a => exact congrArg some (h a rfl)

/-- A slot that is present: a length in four bytes, least significant first, and exactly so many bytes. -/
structure SlotField where
  b0 : UInt8
  b1 : UInt8
  b2 : UInt8
  b3 : UInt8
  payload : Bytes
  length_eq : payload.length = b0.toNat + 256 * b1.toNat + 65536 * b2.toNat + 16777216 * b3.toNat

namespace SlotField

def bytes (field : SlotField) : Bytes := field.b0 :: field.b1 :: field.b2 :: field.b3 :: field.payload

/-- The field with `0x3F` for every byte of the payload from `0x80` on. -/
def sevenBit (field : SlotField) : SlotField :=
  { field with
    payload := field.payload.map Bytes.sevenBit
    length_eq := by rw [List.length_map, field.length_eq] }

theorem sevenBit_eq_self {field : SlotField} (h : ∀ b ∈ field.payload, b < 0x80) : field.sevenBit = field := by
  simp only [sevenBit, Bytes.map_sevenBit_eq_self h]

theorem toNat_size (field : SlotField) :
    Bytes.toNat [field.b0, field.b1, field.b2, field.b3] = field.payload.length := by
  simp only [Bytes.toNat, field.length_eq]
  omega

theorem length_payload_lt (field : SlotField) : field.payload.length < 2 ^ 32 := by
  have h0 := field.b0.toNat_lt
  have h1 := field.b1.toNat_lt
  have h2 := field.b2.toNat_lt
  have h3 := field.b3.toNat_lt
  rw [field.length_eq]
  omega

/-- The field of a text that is short enough for four bytes of length. -/
def ofText (text : String) (h : text.length < 2 ^ 32) : SlotField where
  b0 := text.length.toUInt8
  b1 := (text.length / 256).toUInt8
  b2 := (text.length / 256 / 256).toUInt8
  b3 := (text.length / 256 / 256 / 256).toUInt8
  payload := Bytes.ofText text
  length_eq := by
    simp only [Bytes.length_ofText, Nat.toUInt8_eq, UInt8.toNat_ofNat']
    omega

end SlotField

/-- The bytes of a slot, which are none where it is absent. -/
def slotBytes (slot : Option SlotField) : Bytes := slot.elim [] SlotField.bytes

def slotFlag (slot : Option SlotField) : UInt8 := if slot.isSome then 1 else 0

def slotText (slot : Option SlotField) : Option String := slot.map fun field => Bytes.toText field.payload

/-- The layout of an ES artifact. -/
structure DualFrame where
  legacy : Option SlotField
  modern : Option SlotField

namespace DualFrame

/-- Two flags, then the slots that are present. -/
def bytes (frame : DualFrame) : Bytes :=
  slotFlag frame.legacy :: slotFlag frame.modern :: (slotBytes frame.legacy ++ slotBytes frame.modern)

def texts (frame : DualFrame) : DualVariants := ⟨slotText frame.legacy, slotText frame.modern⟩

/-- The frame with `0x3F` for every payload byte from `0x80` on. -/
def sevenBit (frame : DualFrame) : DualFrame :=
  ⟨frame.legacy.map SlotField.sevenBit, frame.modern.map SlotField.sevenBit⟩

/-- Whether every payload byte is below `0x80`. -/
def IsSevenBit (frame : DualFrame) : Prop :=
  ∀ field, frame.legacy = some field ∨ frame.modern = some field → ∀ b ∈ field.payload, b < 0x80

theorem sevenBit_eq_self {frame : DualFrame} (h : frame.IsSevenBit) : frame.sevenBit = frame := by
  have hlegacy : frame.legacy.map SlotField.sevenBit = frame.legacy :=
    map_eq_self fun field hfield => SlotField.sevenBit_eq_self (h field (.inl hfield))
  have hmodern : frame.modern.map SlotField.sevenBit = frame.modern :=
    map_eq_self fun field hfield => SlotField.sevenBit_eq_self (h field (.inr hfield))
  rw [sevenBit, hlegacy, hmodern]

end DualFrame

namespace DualVariants

/-! ### What the decoder accepts -/

theorem decodeSlot_bytes (slot : Option SlotField) (rest : Bytes) :
    decodeSlot (slotFlag slot) (slotBytes slot ++ rest) = .ok (slotText slot, rest) := by
  cases slot with
  | none => rfl
  | some field =>
    have hfits : ¬ (field.payload ++ rest).length < field.payload.length := by
      rw [List.length_append]
      omega
    change decodeSlot 1 (field.b0 :: field.b1 :: field.b2 :: field.b3 :: (field.payload ++ rest)) = _
    rw [decodeSlot, if_neg (by decide)]
    dsimp only
    rw [field.toNat_size, if_neg hfits, List.take_left, List.drop_left]
    rfl

/-- A slot that is read stands at the beginning of what it is read from. -/
theorem exists_of_decodeSlot {present : UInt8} {data rest : Bytes} {text : Option String} (hflag : ¬ 1 < present)
    (h : decodeSlot present data = .ok (text, rest)) :
    ∃ slot, present = slotFlag slot ∧ data = slotBytes slot ++ rest ∧ text = slotText slot := by
  unfold decodeSlot at h
  split at h
  · rename_i hzero
    cases h
    exact ⟨none, hzero, rfl, rfl⟩
  · rename_i hzero
    have hone : present = 1 := by grind
    split at h
    · rename_i b0 b1 b2 b3 after
      dsimp only at h
      split at h
      · cases h
      · rename_i hfits
        cases h
        refine ⟨some ⟨b0, b1, b2, b3, after.take (Bytes.toNat [b0, b1, b2, b3]), ?_⟩, hone, ?_, rfl⟩
        · rw [List.length_take, Nat.min_eq_left (Nat.not_lt.1 hfits)]
          simp only [Bytes.toNat]
          omega
        · simp [slotBytes, SlotField.bytes]
    · cases h

theorem slotFlag_le (slot : Option SlotField) : ¬ 1 < slotFlag slot := by
  cases slot with
  | none => decide
  | some field =>
    change ¬ (1 : UInt8) < 1
    decide

theorem decode_cons {legacyFlag modernFlag : UInt8} (hlegacy : ¬ 1 < legacyFlag) (hmodern : ¬ 1 < modernFlag)
    (rest : Bytes) :
    decode (legacyFlag :: modernFlag :: rest) =
      (decodeSlot legacyFlag rest).bind fun legacy =>
        (decodeSlot modernFlag legacy.2).bind fun modern =>
          if modern.2.isEmpty then .ok ⟨legacy.1, modern.1⟩ else .error (.trailingBytes modern.2.length) := by
  rw [decode, if_neg (not_or.2 ⟨hlegacy, hmodern⟩)]
  rfl

theorem decode_bytes (frame : DualFrame) : decode frame.bytes = .ok frame.texts := by
  have hmodern := decodeSlot_bytes frame.modern []
  rw [List.append_nil] at hmodern
  rw [DualFrame.bytes, decode_cons (slotFlag_le _) (slotFlag_le _), decodeSlot_bytes]
  dsimp only [Except.bind]
  rw [hmodern]
  rfl

theorem exists_of_decode {data : Bytes} {variants : DualVariants} (h : decode data = .ok variants) :
    ∃ frame : DualFrame, data = frame.bytes ∧ variants = frame.texts := by
  match data with
  | [] => cases h
  | [_] => cases h
  | legacyFlag :: modernFlag :: rest =>
    by_cases hflags : 1 < legacyFlag ∨ 1 < modernFlag
    · rw [decode, if_pos hflags] at h
      cases h
    · obtain ⟨hlegacyFlag, hmodernFlag⟩ := not_or.1 hflags
      rw [decode_cons hlegacyFlag hmodernFlag] at h
      obtain ⟨⟨legacyText, afterLegacy⟩, hlegacy, h⟩ := exists_of_bind_eq_ok h
      obtain ⟨⟨modernText, afterModern⟩, hmodern, h⟩ := exists_of_bind_eq_ok h
      obtain ⟨legacy, rfl, rfl, rfl⟩ := exists_of_decodeSlot hlegacyFlag hlegacy
      obtain ⟨modern, rfl, rfl, rfl⟩ := exists_of_decodeSlot hmodernFlag hmodern
      split at h
      · rename_i hend
        cases h
        obtain rfl : afterModern = [] := List.isEmpty_iff.1 hend
        rw [List.append_nil]
        exact ⟨⟨legacy, modern⟩, rfl, rfl⟩
      · cases h

/-- The decoder accepts the bytes of frames, and makes of each the texts of its payloads. -/
theorem decode_eq_ok_iff {data : Bytes} {variants : DualVariants} :
    decode data = .ok variants ↔ ∃ frame : DualFrame, data = frame.bytes ∧ variants = frame.texts := by
  refine ⟨exists_of_decode, ?_⟩
  rintro ⟨frame, rfl, rfl⟩
  exact decode_bytes frame

/-! ### Decoding what was encoded -/

/-- The variants with their texts in ASCII. -/
def ascii (variants : DualVariants) : DualVariants := ⟨variants.legacy.map asciiText, variants.modern.map asciiText⟩

/-- Whether the length of each text fits into four bytes. -/
def Fits (variants : DualVariants) : Prop :=
  ∀ text, variants.legacy = some text ∨ variants.modern = some text → text.length < 2 ^ 32

def IsAscii (variants : DualVariants) : Prop :=
  ∀ text, variants.legacy = some text ∨ variants.modern = some text → GlslCompiler.IsAscii text

/-- A text is encoded as a field whose payload reads as the text in ASCII. -/
theorem exists_slot (slot : Option String) (h : ∀ text, slot = some text → text.length < 2 ^ 32) :
    ∃ field, flag slot = slotFlag field ∧ encodeSlot slot = .ok (slotBytes field) ∧
      slot.map asciiText = slotText field := by
  cases slot with
  | none => exact ⟨none, rfl, rfl, rfl⟩
  | some text =>
    have hshort : ¬ maxSlotLength < text.length := Nat.not_lt.2 (Nat.le_of_lt_succ (h text rfl))
    refine ⟨some (.ofText text (h text rfl)), rfl, ?_, congrArg some (Bytes.toText_ofText text).symm⟩
    unfold encodeSlot
    dsimp only
    rw [Bytes.length_ofText, if_neg hshort]
    rfl

theorem encodeSlot_oversized {text : String} (h : 2 ^ 32 ≤ text.length) :
    encodeSlot (some text) = .error ⟨text.length⟩ := by
  have hlong : maxSlotLength < text.length := h
  unfold encodeSlot
  dsimp only
  rw [Bytes.length_ofText, if_pos hlong]

theorem encode_eq (variants : DualVariants) :
    variants.encode = (encodeSlot variants.legacy).bind fun legacy => (encodeSlot variants.modern).bind fun modern =>
      .ok (flag variants.legacy :: flag variants.modern :: (legacy ++ modern)) := rfl

theorem exists_frame {variants : DualVariants} (h : variants.Fits) :
    ∃ frame : DualFrame, variants.encode = .ok frame.bytes ∧ variants.ascii = frame.texts := by
  obtain ⟨legacy, hflag, hbytes, htext⟩ := exists_slot variants.legacy fun text htext => h text (.inl htext)
  obtain ⟨modern, hflag', hbytes', htext'⟩ := exists_slot variants.modern fun text htext => h text (.inr htext)
  refine ⟨⟨legacy, modern⟩, ?_, ?_⟩
  · rw [encode_eq, hflag, hflag', hbytes, hbytes']
    rfl
  · rw [ascii, htext, htext']
    rfl

/-- The length of a text in a slot that was encoded fits. -/
theorem length_lt_of_encodeSlot {text : String} {bytes : Bytes} (h : encodeSlot (some text) = .ok bytes) :
    text.length < 2 ^ 32 := by
  by_contra hlong
  rw [encodeSlot_oversized (Nat.not_lt.1 hlong)] at h
  cases h

theorem encodeSlot_error {slot : Option String} {error : Oversized} (h : encodeSlot slot = .error error) :
    ∃ text, slot = some text ∧ 2 ^ 32 ≤ text.length ∧ error = ⟨text.length⟩ := by
  cases slot with
  | none => cases h
  | some text =>
    have hlong : 2 ^ 32 ≤ text.length := by
      by_contra hfits
      obtain ⟨field, -, hfield, -⟩ := exists_slot (some text) fun own hown => by
        cases hown
        exact Nat.lt_of_not_le hfits
      rw [hfield] at h
      cases h
    rw [encodeSlot_oversized hlong] at h
    cases h
    exact ⟨text, rfl, hlong, rfl⟩

/-- Variants cannot be encoded because of one that is too long. -/
theorem encode_error {variants : DualVariants} {error : Oversized} (h : variants.encode = .error error) :
    ∃ text, (variants.legacy = some text ∨ variants.modern = some text) ∧ 2 ^ 32 ≤ text.length ∧
      error = ⟨text.length⟩ := by
  rw [encode_eq] at h
  cases hlegacy : encodeSlot variants.legacy with
  | error _ =>
    rw [hlegacy] at h
    cases h
    obtain ⟨text, hslot, hlong⟩ := encodeSlot_error hlegacy
    exact ⟨text, .inl hslot, hlong⟩
  | ok _ =>
    cases hmodern : encodeSlot variants.modern with
    | error _ =>
      rw [hlegacy, hmodern] at h
      cases h
      obtain ⟨text, hslot, hlong⟩ := encodeSlot_error hmodern
      exact ⟨text, .inr hslot, hlong⟩
    | ok _ =>
      rw [hlegacy, hmodern] at h
      cases h

theorem fits_of_encode {variants : DualVariants} {bytes : Bytes} (h : variants.encode = .ok bytes) :
    variants.Fits := by
  rw [encode_eq] at h
  obtain ⟨legacy, hlegacy, h⟩ := exists_of_bind_eq_ok h
  obtain ⟨modern, hmodern, -⟩ := exists_of_bind_eq_ok h
  rintro text (htext | htext)
  · rw [htext] at hlegacy
    exact length_lt_of_encodeSlot hlegacy
  · rw [htext] at hmodern
    exact length_lt_of_encodeSlot hmodern

/-- Variants can be encoded just if their texts fit. -/
theorem encode_ok_iff {variants : DualVariants} : (∃ bytes, variants.encode = .ok bytes) ↔ variants.Fits := by
  constructor
  · rintro ⟨bytes, h⟩
    exact fits_of_encode h
  · intro h
    obtain ⟨frame, hencode, -⟩ := exists_frame h
    exact ⟨_, hencode⟩

theorem decode_encode {variants : DualVariants} {bytes : Bytes} (h : variants.encode = .ok bytes) :
    decode bytes = .ok variants.ascii := by
  obtain ⟨frame, hencode, htexts⟩ := exists_frame (fits_of_encode h)
  obtain rfl : frame.bytes = bytes := Except.ok.inj (hencode.symm.trans h)
  exact decode_eq_ok_iff.2 ⟨frame, rfl, htexts⟩

theorem ascii_eq_self {variants : DualVariants} (h : variants.IsAscii) : variants.ascii = variants := by
  have hlegacy : variants.legacy.map asciiText = variants.legacy :=
    map_eq_self fun text htext => asciiText_eq_self (h text (.inl htext))
  have hmodern : variants.modern.map asciiText = variants.modern :=
    map_eq_self fun text htext => asciiText_eq_self (h text (.inr htext))
  rw [ascii, hlegacy, hmodern]

/-- What replacing characters leaves as it is: whether a slot is present, whether it is empty, and its length. -/
structure SameExtent (slot slot' : Option String) : Prop where
  absent : slot' = none ↔ slot = none
  empty : slot' = some "" ↔ slot = some ""
  length : slot'.map String.length = slot.map String.length

theorem sameExtent_map_asciiText (slot : Option String) : SameExtent slot (slot.map asciiText) := by
  cases slot with
  | none => exact ⟨Iff.rfl, Iff.rfl, rfl⟩
  | some text =>
    have hempty : asciiText text = "" ↔ text = "" := by
      rw [← String.length_eq_zero_iff, length_asciiText, String.length_eq_zero_iff]
    exact ⟨by simp, by simpa using hempty, congrArg some (length_asciiText text)⟩

/-- What fits is encoded, and what was encoded is decoded, with a question mark for every character outside ASCII. -/
theorem decode_encode_ascii (variants : DualVariants) (hfits : variants.Fits) :
    ∃ bytes decoded, variants.encode = .ok bytes ∧ decode bytes = .ok decoded ∧ decoded = variants.ascii ∧
      (SameExtent variants.legacy decoded.legacy ∧ SameExtent variants.modern decoded.modern) ∧
      (variants.IsAscii → decoded = variants ∧
        ∀ other : DualVariants, other.IsAscii → other.encode = .ok bytes → other = variants) := by
  obtain ⟨bytes, hencode⟩ := encode_ok_iff.2 hfits
  refine ⟨bytes, _, hencode, decode_encode hencode, rfl,
    ⟨sameExtent_map_asciiText variants.legacy, sameExtent_map_asciiText variants.modern⟩, ?_⟩
  intro hascii
  refine ⟨ascii_eq_self hascii, ?_⟩
  intro other hotherAscii hother
  have hdecode := decode_encode hother
  rw [decode_encode hencode, ascii_eq_self hascii, ascii_eq_self hotherAscii] at hdecode
  exact (Except.ok.inj hdecode).symm

theorem decode_encode_ascii_accent :
    (⟨some "", some "é!"⟩ : DualVariants).Fits ∧ ∃ bytes,
      encode ⟨some "", some "é!"⟩ = .ok bytes ∧ decode bytes = .ok ⟨some "", some "?!"⟩ := by
  have hfits : (⟨some "", some "é!"⟩ : DualVariants).Fits := by
    rintro text (h | h) <;> cases h <;> decide
  obtain ⟨bytes, decoded, hencode, hdecode, rfl, -⟩ := decode_encode_ascii ⟨some "", some "é!"⟩ hfits
  refine ⟨hfits, bytes, hencode, hdecode.trans ?_⟩
  decide

/-! ### Encoding what was decoded -/

theorem encodeSlot_slotText (slot : Option SlotField) :
    encodeSlot (slotText slot) = .ok (slotBytes (slot.map SlotField.sevenBit)) := by
  cases slot with
  | none => rfl
  | some field =>
    have hlength : Bytes.littleEndian 4 field.payload.length = [field.b0, field.b1, field.b2, field.b3] := by
      rw [← field.toNat_size]
      exact Bytes.littleEndian_toNat [field.b0, field.b1, field.b2, field.b3]
    have hshort : ¬ maxSlotLength < field.payload.length :=
      Nat.not_lt.2 (Nat.le_of_lt_succ field.length_payload_lt)
    change (if maxSlotLength < (Bytes.ofText (Bytes.toText field.payload)).length then _
      else Except.ok (Bytes.littleEndian 4 _ ++ _)) = _
    rw [Bytes.ofText_toText, List.length_map, if_neg hshort, hlength]
    rfl

theorem encode_texts (frame : DualFrame) : frame.texts.encode = .ok frame.sevenBit.bytes := by
  have hflag : ∀ slot : Option SlotField, flag (slotText slot) = slotFlag (slot.map SlotField.sevenBit) := by
    intro slot
    cases slot <;> rfl
  rw [encode_eq, DualFrame.texts, encodeSlot_slotText, encodeSlot_slotText, hflag, hflag]
  rfl

/-! ### No read past the end

The decoder as a walk along the buffer that reads at offsets. A read that runs past the end has no result, not
even an error, so a walk that always has a result never makes one. -/

/-- So many bytes from an offset on, if the buffer holds them. -/
def readAt (data : Bytes) (offset count : Nat) : Option Bytes :=
  if offset + count ≤ data.length then some ((data.drop offset).take count) else none

/-- Reads the slot at an offset and gives the offset behind it. -/
def walkSlot (data : Bytes) (present : UInt8) (offset : Nat) : Option (Except FormatError (Option String × Nat)) :=
  if present = 0 then some (.ok (none, offset))
  else if data.length < offset + 4 then some (.error .truncatedLength)
  else
    (readAt data offset 4).bind fun size =>
      let length := Bytes.toNat size
      if data.length < offset + 4 + length then some (.error .truncatedData)
      else
        (readAt data (offset + 4) length).map fun payload =>
          .ok (some (Bytes.toText payload), offset + 4 + length)

/-- Reads the flags, the slots and the end of a buffer. -/
def walk (data : Bytes) : Option (Except FormatError DualVariants) :=
  if data.length < 2 then some (.error .tooShort)
  else
    match readAt data 0 2 with
    | some [legacyFlag, modernFlag] =>
      if 1 < legacyFlag ∨ 1 < modernFlag then some (.error (.invalidFlags legacyFlag modernFlag))
      else
        match walkSlot data legacyFlag 2 with
        | some (.ok (legacy, offset)) =>
          match walkSlot data modernFlag offset with
          | some (.ok (modern, offset)) =>
            if offset = data.length then some (.ok ⟨legacy, modern⟩)
            else some (.error (.trailingBytes (data.length - offset)))
          | some (.error error) => some (.error error)
          | none => none
        | some (.error error) => some (.error error)
        | none => none
    | _ => none

theorem decodeSlot_short {present : UInt8} {data : Bytes} (hpresent : present ≠ 0) (h : data.length < 4) :
    decodeSlot present data = .error .truncatedLength := by
  unfold decodeSlot
  rw [if_neg hpresent]
  match data with
  | [] | [_] | [_, _] | [_, _, _] => rfl
  | b0 :: b1 :: b2 :: b3 :: rest =>
    simp only [List.length_cons] at h
    omega

theorem exists_cons_of_le_length {data : Bytes} (h : 4 ≤ data.length) :
    ∃ b0 b1 b2 b3 rest, data = b0 :: b1 :: b2 :: b3 :: rest := by
  match data with
  | [] | [_] | [_, _] | [_, _, _] =>
    simp only [List.length_cons, List.length_nil] at h
    omega
  | b0 :: b1 :: b2 :: b3 :: rest => exact ⟨b0, b1, b2, b3, rest, rfl⟩

theorem walkSlot_eq {data : Bytes} {offset : Nat} (h : offset ≤ data.length) (present : UInt8) :
    walkSlot data present offset =
      some ((decodeSlot present (data.drop offset)).map fun read => (read.1, data.length - read.2.length)) := by
  have hlength : (data.drop offset).length = data.length - offset := List.length_drop
  unfold walkSlot
  by_cases hzero : present = 0
  · unfold decodeSlot
    rw [if_pos hzero, if_pos hzero, Except.map, hlength, Nat.sub_sub_self h]
  · rw [if_neg hzero]
    by_cases hshort : data.length < offset + 4
    · rw [if_pos hshort, decodeSlot_short hzero (by omega)]
      rfl
    · have hsizeFits : 4 ≤ (data.drop offset).length := by omega
      obtain ⟨b0, b1, b2, b3, rest, hdrop⟩ := exists_cons_of_le_length hsizeFits
      have hrest : data.drop (offset + 4) = rest := by
        rw [← List.drop_drop, hdrop]
        rfl
      have hrestLength : rest.length = data.length - (offset + 4) := by rw [← hrest, List.length_drop]
      have hsize : readAt data offset 4 = some [b0, b1, b2, b3] := by
        rw [readAt, if_pos (by omega), hdrop]
        rfl
      rw [if_neg hshort, hsize, hdrop, decodeSlot, if_neg hzero]
      dsimp only [Option.bind]
      generalize Bytes.toNat [b0, b1, b2, b3] = length
      by_cases hpast : rest.length < length
      · rw [if_pos (by omega), if_pos hpast]
        rfl
      · have hpayload : readAt data (offset + 4) length = some (rest.take length) := by
          rw [readAt, if_pos (by omega), hrest]
        have hbehind : data.length - (rest.drop length).length = offset + 4 + length := by
          rw [List.length_drop]
          omega
        rw [if_neg (by omega), if_neg hpast, hpayload, Except.map, hbehind]
        rfl

theorem suffix_of_decodeSlot {present : UInt8} {data rest : Bytes} {text : Option String} (hflag : ¬ 1 < present)
    (h : decodeSlot present data = .ok (text, rest)) : rest <:+ data := by
  obtain ⟨slot, -, hdata, -⟩ := exists_of_decodeSlot hflag h
  exact ⟨_, hdata.symm⟩

/-- Every read of the walk lies within the buffer, and the walk ends as the decoder does. -/
theorem walk_eq (data : Bytes) : walk data = some (decode data) := by
  match data with
  | [] => rfl
  | [_] => rfl
  | legacyFlag :: modernFlag :: rest =>
    have hflags : readAt (legacyFlag :: modernFlag :: rest) 0 2 = some [legacyFlag, modernFlag] := by
      rw [readAt, if_pos (by simp)]
      rfl
    unfold walk
    rw [if_neg (by simp), hflags]
    dsimp only
    by_cases hinvalid : 1 < legacyFlag ∨ 1 < modernFlag
    · rw [if_pos hinvalid, decode, if_pos hinvalid]
    · obtain ⟨hlegacyFlag, hmodernFlag⟩ := not_or.1 hinvalid
      have hrest : (legacyFlag :: modernFlag :: rest).drop 2 = rest := rfl
      rw [if_neg hinvalid, decode_cons hlegacyFlag hmodernFlag, walkSlot_eq (by simp), hrest]
      generalize hdata : legacyFlag :: modernFlag :: rest = data
      have hsuffix : rest <:+ data := ⟨[legacyFlag, modernFlag], hdata⟩
      cases hlegacy : decodeSlot legacyFlag rest with
      | error error => rfl
      | ok first =>
        -- What is left to read is the buffer from the offset on that the walk has reached.
        have hfirst := (suffix_of_decodeSlot hlegacyFlag hlegacy).trans hsuffix
        dsimp only [Except.map, Except.bind]
        rw [walkSlot_eq (Nat.sub_le _ _), ← List.suffix_iff_eq_drop.1 hfirst]
        cases hmodern : decodeSlot modernFlag first.2 with
        | error error => rfl
        | ok second =>
          have hlength := ((suffix_of_decodeSlot hmodernFlag hmodern).trans hfirst).length_le
          have hend : data.length - second.2.length = data.length ↔ second.2.isEmpty = true := by
            rw [List.isEmpty_iff, ← List.length_eq_zero_iff]
            omega
          dsimp only [Except.map]
          simp only [hend, Nat.sub_sub_self hlength]
          split <;> rfl

/-! ### The format -/

/-- The decoder accepts the buffers of the format and refuses all others, never reading past the end; what it
accepts is encoded again as it was, but for payload bytes outside ASCII. -/
theorem decode_exact (data : Bytes) :
    ((∃ variants, decode data = .ok variants) ↔ ∃ frame : DualFrame, data = frame.bytes) ∧
    ((¬ ∃ frame : DualFrame, data = frame.bytes) → ∃ error, decode data = .error error) ∧
    walk data = some (decode data) ∧
    ∀ frame : DualFrame, data = frame.bytes → ∃ variants, decode data = .ok variants ∧
      variants.encode = .ok frame.sevenBit.bytes ∧ (frame.IsSevenBit → variants.encode = .ok data) := by
  have haccepts : (∃ variants, decode data = .ok variants) ↔ ∃ frame : DualFrame, data = frame.bytes := by
    constructor
    · rintro ⟨variants, h⟩
      obtain ⟨frame, hframe, -⟩ := exists_of_decode h
      exact ⟨frame, hframe⟩
    · rintro ⟨frame, rfl⟩
      exact ⟨_, decode_bytes frame⟩
  refine ⟨haccepts, ?_, walk_eq data, ?_⟩
  · intro hnone
    cases hdecode : decode data with
    | error error => exact ⟨error, rfl⟩
    | ok variants => exact absurd (haccepts.1 ⟨variants, hdecode⟩) hnone
  · rintro frame rfl
    refine ⟨_, decode_bytes frame, encode_texts frame, ?_⟩
    intro hseven
    rw [encode_texts, DualFrame.sevenBit_eq_self hseven]

/-- A buffer with a payload byte outside ASCII, and one whose second length claims more than there is. -/
theorem decode_exact_highByte :
    (∃ variants, decode [0, 1, 2, 0, 0, 0, 0xFF, 0x41] = .ok variants ∧
      variants.encode = .ok [0, 1, 2, 0, 0, 0, 0x3F, 0x41]) ∧
    ¬ ∃ frame : DualFrame, [1, 1, 0, 0, 0, 0, 0xFF, 0xFF, 0xFF, 0xFF, 0x41] = frame.bytes := by
  constructor
  · obtain ⟨-, -, -, hframe⟩ := decode_exact [0, 1, 2, 0, 0, 0, 0xFF, 0x41]
    obtain ⟨variants, hdecode, hencode, -⟩ := hframe ⟨none, some ⟨2, 0, 0, 0, [0xFF, 0x41], rfl⟩⟩ rfl
    exact ⟨variants, hdecode, hencode⟩
  · obtain ⟨haccepts, -⟩ := decode_exact [1, 1, 0, 0, 0, 0, 0xFF, 0xFF, 0xFF, 0xFF, 0x41]
    rw [← haccepts]
    rintro ⟨variants, hdecode⟩
    cases hdecode

end DualVariants

theorem Artifact.exists_of_dual {variants : DualVariants} {stage : ShaderStage} {artifact : Artifact}
    (h : dual variants stage = .ok artifact) :
    ∃ bytes, variants.encode = .ok bytes ∧ artifact = ofBytes bytes stage := by
  cases hencode : variants.encode with
  | error error =>
    rw [dual, hencode] at h
    cases h
  | ok bytes =>
    rw [dual, hencode] at h
    cases h
    exact ⟨bytes, rfl, rfl⟩

end GlslCompiler

import GlslCompiler.Proofs.Artifact.Format

/-!
# Artifacts that are cut or lengthened

The flags and the lengths of an ES artifact say where it ends. A buffer that ends before lacks something that was
announced, and a byte behind the end belongs to nothing: the decoder refuses both, and its error says which it was.
No artifact is therefore the beginning of another one.
-/

namespace GlslCompiler

/-- Whether the error says that a buffer ends too early. -/
def FormatError.isTruncation : FormatError → Bool
  | .tooShort | .truncatedLength | .truncatedData => true
  | .invalidFlags _ _ | .trailingBytes _ => false

/-- What is missing of a slot of which the first `n` bytes are there. -/
def slotCutError (n : Nat) : FormatError := if n < 4 then .truncatedLength else .truncatedData

/-- What is missing of a frame of which the first `n` bytes are there. -/
def DualFrame.cutError (frame : DualFrame) (n : Nat) : FormatError :=
  let slots := n - 2
  let legacy := (slotBytes frame.legacy).length
  if n < 2 then .tooShort
  else if slots < legacy then slotCutError slots
  else slotCutError (slots - legacy)

theorem isTruncation_slotCutError (n : Nat) : (slotCutError n).isTruncation = true := by
  unfold slotCutError
  split <;> rfl

theorem DualFrame.isTruncation_cutError (frame : DualFrame) (n : Nat) : (frame.cutError n).isTruncation = true := by
  unfold cutError
  dsimp only
  split
  · rfl
  · split
    · apply isTruncation_slotCutError
    · apply isTruncation_slotCutError

namespace DualVariants

/-- A slot announces more than is there of it. -/
theorem decodeSlot_take {slot : Option SlotField} {n : Nat} (hn : n < (slotBytes slot).length) :
    decodeSlot (slotFlag slot) ((slotBytes slot).take n) = .error (slotCutError n) := by
  cases slot with
  | none => exact absurd hn (Nat.not_lt_zero n)
  | some field =>
    by_cases hsize : n < 4
    · have hshort : ((slotBytes (some field)).take n).length < 4 := by
        rw [List.length_take]
        omega
      have hpresent : slotFlag (some field) ≠ 0 := by
        change (1 : UInt8) ≠ 0
        decide
      rw [decodeSlot_short hpresent hshort, slotCutError, if_pos hsize]
    · obtain ⟨m, rfl⟩ : ∃ m, n = m + 4 := ⟨n - 4, by omega⟩
      have hpayload : (field.payload.take m).length < field.payload.length := by
        rw [List.length_take]
        change m + 4 < field.payload.length + 4 at hn
        omega
      change decodeSlot 1 (field.b0 :: field.b1 :: field.b2 :: field.b3 :: field.payload.take m) = _
      rw [decodeSlot, if_neg (by decide)]
      dsimp only
      rw [field.toNat_size, if_pos hpayload, slotCutError, if_neg hsize]

theorem decode_take {frame : DualFrame} {n : Nat} (hn : n < frame.bytes.length) :
    decode (frame.bytes.take n) = .error (frame.cutError n) := by
  match n with
  | 0 => rfl
  | 1 => rfl
  | m + 2 =>
    have hslots : m < (slotBytes frame.legacy).length + (slotBytes frame.modern).length := by
      rw [← List.length_append]
      exact Nat.lt_of_add_lt_add_right hn
    change decode (slotFlag frame.legacy :: slotFlag frame.modern
      :: (slotBytes frame.legacy ++ slotBytes frame.modern).take m) = _
    rw [decode_cons (slotFlag_le _) (slotFlag_le _), List.take_append, DualFrame.cutError, if_neg (by omega),
      Nat.add_sub_cancel]
    -- The cut falls into the first slot, or leaves it whole and falls into the second.
    by_cases hlegacy : m < (slotBytes frame.legacy).length
    · rw [if_pos hlegacy, Nat.sub_eq_zero_of_le (by omega), List.take_zero, List.append_nil,
        decodeSlot_take hlegacy]
      rfl
    · have hmodern : m - (slotBytes frame.legacy).length < (slotBytes frame.modern).length := by omega
      rw [if_neg hlegacy, List.take_of_length_le (by omega), decodeSlot_bytes]
      dsimp only [Except.bind]
      rw [decodeSlot_take hmodern]

theorem decode_append {frame : DualFrame} {more : Bytes} (hmore : more ≠ []) :
    decode (frame.bytes ++ more) = .error (.trailingBytes more.length) := by
  change decode (slotFlag frame.legacy :: slotFlag frame.modern
    :: (slotBytes frame.legacy ++ slotBytes frame.modern ++ more)) = _
  rw [decode_cons (slotFlag_le _) (slotFlag_le _), List.append_assoc, decodeSlot_bytes]
  dsimp only [Except.bind]
  rw [decodeSlot_bytes]
  dsimp only
  rw [if_neg (by simpa using hmore)]

/-- An artifact that is cut short is refused as truncated, wherever the cut falls, and one with bytes behind its end
for just these bytes; so no artifact is the beginning of another. -/
theorem decode_prefixFree {data : Bytes} {variants : DualVariants} (h : decode data = .ok variants) :
    (∀ cut, cut <+: data → cut ≠ data → ∃ error, decode cut = .error error ∧ error.isTruncation = true) ∧
    (∀ more, more ≠ [] → decode (data ++ more) = .error (.trailingBytes more.length)) ∧
    ∀ other, (∃ otherVariants, decode other = .ok otherVariants) → data <+: other → other = data := by
  obtain ⟨frame, rfl, -⟩ := exists_of_decode h
  refine ⟨?_, fun more hmore => decode_append hmore, ?_⟩
  · intro cut hcut hne
    have hlength : cut.length < frame.bytes.length := by
      apply Nat.lt_of_le_of_ne hcut.length_le
      intro hsame
      exact hne (hcut.eq_of_length hsame)
    refine ⟨frame.cutError cut.length, ?_, frame.isTruncation_cutError cut.length⟩
    rw [List.prefix_iff_eq_take.1 hcut, List.length_take, Nat.min_eq_left (Nat.le_of_lt hlength)]
    exact decode_take hlength
  · rintro other ⟨otherVariants, hother⟩ ⟨more, rfl⟩
    by_contra hne
    have hmore : more ≠ [] := by
      rintro rfl
      exact hne (List.append_nil _)
    rw [decode_append hmore] at hother
    cases hother

/-- Both slots present: a cut in the second payload, one in the second length, and a byte too many. -/
theorem decode_prefixFree_both :
    (∃ variants, decode [1, 1, 1, 0, 0, 0, 0x61, 2, 0, 0, 0, 0x62, 0x63] = .ok variants) ∧
    (∃ error, decode [1, 1, 1, 0, 0, 0, 0x61, 2, 0, 0, 0, 0x62] = .error error ∧ error.isTruncation = true) ∧
    (∃ error, decode [1, 1, 1, 0, 0, 0, 0x61, 2, 0] = .error error ∧ error.isTruncation = true) ∧
    decode [1, 1, 1, 0, 0, 0, 0x61, 2, 0, 0, 0, 0x62, 0x63, 0] = .error (.trailingBytes 1) := by
  have hwhole : decode [1, 1, 1, 0, 0, 0, 0x61, 2, 0, 0, 0, 0x62, 0x63] = .ok ⟨some "a", some "bc"⟩ := by decide
  obtain ⟨hcut, hmore, -⟩ := decode_prefixFree hwhole
  exact ⟨⟨_, hwhole⟩, hcut _ (by decide) (by decide), hcut _ (by decide) (by decide), hmore [0] (by decide)⟩

end DualVariants

end GlslCompiler

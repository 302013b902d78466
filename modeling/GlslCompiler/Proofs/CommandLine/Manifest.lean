import GlslCompiler.CommandLine.Manifest
import GlslCompiler.Proofs.Artifact.Bytes
import GlslCompiler.Proofs.Text.Json

/-!
# What a manifest says

The file of a manifest is read back as a JSON object with the fields of the manifest. All of it is ASCII, whatever the
name of the source, so that no byte of it is replaced on the way to the file.
-/

namespace GlslCompiler

/-! ### Texts in ASCII -/

namespace IsAscii

theorem append {s t : String} (hs : IsAscii s) (ht : IsAscii t) : IsAscii (s ++ t) := by
  intro c hc
  rw [String.toList_append, List.mem_append] at hc
  exact hc.elim (hs c) (ht c)

theorem intercalate {separator : String} (hseparator : IsAscii separator) {texts : List String}
    (htexts : ∀ text ∈ texts, IsAscii text) : IsAscii (separator.intercalate texts) := by
  induction texts with
  | nil =>
    intro c hc
    simp at hc
  | cons text texts ih =>
    have htext := htexts text List.mem_cons_self
    by_cases hlast : texts = []
    · rw [hlast, String.intercalate_singleton]
      exact htext
    · rw [String.intercalate_cons_of_ne_nil hlast]
      exact (htext.append hseparator).append (ih fun other hother => htexts other (List.mem_cons_of_mem _ hother))

theorem toString (n : Nat) : IsAscii (toString n) := by
  intro c hc
  rw [Nat.toString_eq_ofList_toDigits, String.toList_ofList] at hc
  have hdigit := Nat.isDigit_of_mem_toDigits (by omega) (Nat.le_refl 10) hc
  rw [Char.isDigit, Bool.and_eq_true, decide_eq_true_eq, decide_eq_true_eq] at hdigit
  exact Nat.le_trans hdigit.2 (by decide)

end IsAscii

namespace Json

end Json

namespace Manifest

/-- The fields with their values, in the order they are written. -/
def members (m : Manifest) : List (String × Json) := [
  ("id", .string (Text.units m.id.text)),
  ("stage", .string (Text.units m.stage.name)),
  ("platform", .string (Text.units m.platform.name)),
  ("profile", .string (Text.units m.profile.name)),
  ("tier", .string (Text.units m.tier.name)),
  ("size", .number (Nat.toDigits 10 m.size)),
  ("source_file", .string (Text.units m.sourceFile)),
  ("compiled_at", .string (Text.units m.compiledAt))]

end Manifest

end GlslCompiler

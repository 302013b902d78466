import Mathlib.Computability.RegularExpressions
import Mathlib.Data.Rat.Defs
import Mathlib.Tactic.Ring
import GlslCompiler.Number.Reading
import GlslCompiler.Writer.Literal

/-!
# Suffixed floating constants

A floating constant is digits with an optional point before, behind or among them, and an optional exponent. Where the
dialect has no suffixes, a constant loses its suffix and keeps its value. Three spellings are treated otherwise than
the form of constants suggests: a point with no digit behind it keeps the suffix if an exponent follows, one point too
many at the end of a constant does not stop its suffix from being dropped, and a line feed behind the suffix is dropped
with it.
-/

namespace GlslCompiler

open Double (digitsValue)

/-! ### Constants -/

abbrev Digits := { digits : List Char // digits.all Char.isDigit = true }

structure Exponent where
  mark : Char
  sign : List Char
  digits : Digits
  isMark : mark = 'e' ∨ mark = 'E'
  isSign : sign = [] ∨ sign = ['+'] ∨ sign = ['-']
  nonempty : digits.1 ≠ []

namespace Exponent

def text : Option Exponent → List Char
  | none => []
  | some e => e.mark :: (e.sign ++ e.digits.1)

def value : Option Exponent → Int
  | none => 0
  | some e => if e.sign = ['-'] then -(digitsValue e.digits.1 : Int) else digitsValue e.digits.1

end Exponent

namespace Digits

/-- The digits behind a point, if there is a point. -/
def ofFraction : Option Digits → List Char
  | none => []
  | some digits => digits.1

def fractionText : Option Digits → List Char
  | none => []
  | some digits => '.' :: digits.1

end Digits

/-- A floating constant without a suffix. -/
structure FloatConstant where
  whole : Digits
  fraction : Option Digits
  exponent : Option Exponent
  nonempty : whole.1 ++ Digits.ofFraction fraction ≠ []

namespace FloatConstant

def text (c : FloatConstant) : List Char :=
  c.whole.1 ++ (Digits.fractionText c.fraction ++ Exponent.text c.exponent)

def value (c : FloatConstant) : ℚ :=
  digitsValue (c.whole.1 ++ Digits.ofFraction c.fraction)
    * 10 ^ (Exponent.value c.exponent - (Digits.ofFraction c.fraction).length)

/-- The point has no digit behind it. -/
def BarePoint (c : FloatConstant) : Prop := Digits.fractionText c.fraction = ['.']

end FloatConstant

/-- A suffix at the end of a text; a line feed may follow it. -/
def floatSuffixes : List (List Char) := [['f'], ['F'], ['f', '\n'], ['F', '\n']]

/-! ### Digits and what follows them -/

/-- No digit can be read from the front of the text. -/
def EndsDigits (cs : List Char) : Prop := ∀ c ∈ cs.head?, c.isDigit = false

theorem endsDigits_nil : EndsDigits [] := by
  rintro c ⟨⟩

theorem endsDigits_point (rest : List Char) : EndsDigits ('.' :: rest) := by
  rintro c ⟨⟩
  rfl

/-- What may stand behind an exponent. -/
theorem endsDigits_tail {rest : List Char} (h : rest = [] ∨ rest = ['.']) : EndsDigits rest := by
  rcases h with rfl | rfl
  · exact endsDigits_nil
  · exact endsDigits_point []

theorem span_digits (digits : Digits) {rest : List Char} (h : EndsDigits rest) :
    (digits.1 ++ rest).takeWhile Char.isDigit = digits.1 ∧ (digits.1 ++ rest).dropWhile Char.isDigit = rest := by
  have hall : ∀ c ∈ digits.1, c.isDigit = true := List.all_eq_true.1 digits.2
  rw [List.takeWhile_append_of_pos hall, List.dropWhile_append_of_pos hall]
  cases rest with
  | nil => simp
  | cons c rest =>
    have hc : c.isDigit = false := h c rfl
    simp [hc]

theorem digits_inj {digits digits' : Digits} {rest rest' : List Char} (h : EndsDigits rest) (h' : EndsDigits rest')
    (heq : digits.1 ++ rest = digits'.1 ++ rest') : digits = digits' ∧ rest = rest' := by
  obtain ⟨htake, hdrop⟩ := span_digits digits h
  obtain ⟨htake', hdrop'⟩ := span_digits digits' h'
  refine ⟨Subtype.ext ?_, ?_⟩
  · rw [← htake, heq, htake']
  · rw [← hdrop, heq, hdrop']

theorem exists_digits (cs : List Char) :
    ∃ digits : Digits, ∃ rest, cs = digits.1 ++ rest ∧ EndsDigits rest := by
  refine ⟨⟨cs.takeWhile Char.isDigit, List.all_takeWhile⟩, cs.dropWhile Char.isDigit,
    List.takeWhile_append_dropWhile.symm, fun c hc => ?_⟩
  have hhead := List.head?_dropWhile_not Char.isDigit cs
  rw [Option.mem_def.1 hc] at hhead
  exact hhead

theorem endsDigits_exponent (e : Option Exponent) {rest : List Char} (h : EndsDigits rest) :
    EndsDigits (Exponent.text e ++ rest) := by
  cases e with
  | none => exact h
  | some e =>
    rintro c ⟨⟩
    rcases e.isMark with hmark | hmark <;> rw [hmark] <;> rfl

theorem endsDigits_fraction (fraction : Option Digits) (e : Option Exponent) :
    EndsDigits (Digits.fractionText fraction ++ Exponent.text e) := by
  cases fraction with
  | none => simpa [Digits.fractionText] using endsDigits_exponent e endsDigits_nil
  | some digits => exact endsDigits_point _

/-! ### The parts of a constant -/

namespace FloatSuffix

/-- A digit is not a sign. -/
theorem afterSign_digits {digits : Digits} (h : digits.1 ≠ []) (rest : List Char) :
    afterSign (digits.1 ++ rest) = digits.1 ++ rest := by
  obtain ⟨digits, hdigits⟩ := digits
  cases digits with
  | nil => exact absurd rfl h
  | cons c digits =>
    have hc : c.isDigit = true := List.all_eq_true.1 hdigits c List.mem_cons_self
    change afterSign (c :: (digits ++ rest)) = c :: (digits ++ rest)
    unfold afterSign
    split
    · rename_i heq
      cases heq
      cases hc
    · rename_i heq
      cases heq
      cases hc
    · rfl

theorem afterSign_sign (e : Exponent) (rest : List Char) :
    afterSign (e.sign ++ (e.digits.1 ++ rest)) = e.digits.1 ++ rest := by
  rcases e.isSign with hsign | hsign | hsign <;> rw [hsign]
  · exact afterSign_digits e.nonempty rest
  · rfl
  · rfl

theorem exists_sign (cs : List Char) :
    ∃ sign, (sign = [] ∨ sign = ['+'] ∨ sign = ['-']) ∧ cs = sign ++ afterSign cs := by
  unfold afterSign
  split
  · exact ⟨['+'], by simp⟩
  · exact ⟨['-'], by simp⟩
  · exact ⟨[], by simp⟩

end FloatSuffix

open FloatSuffix (afterSign afterSign_sign)

theorem Exponent.mark_ne_point (e : Exponent) : e.mark ≠ '.' := by
  rcases e.isMark with hmark | hmark <;> rw [hmark] <;> decide

theorem Exponent.text_ne_point (e : Option Exponent) (rest : List Char) : Exponent.text e ≠ '.' :: rest := by
  cases e with
  | none => simp [Exponent.text]
  | some e => simp [Exponent.text, e.mark_ne_point]

theorem Exponent.text_inj {e e' : Option Exponent} (h : Exponent.text e = Exponent.text e') : e = e' := by
  cases e with
  | none => cases e' <;> simp_all [Exponent.text]
  | some e =>
    cases e' with
    | none => simp [Exponent.text] at h
    | some e' =>
      obtain ⟨hmark, hrest⟩ := List.cons.inj h
      have hdigits : e.digits = e'.digits := by
        have hafter := congrArg afterSign hrest
        have hown := afterSign_sign e []
        have hown' := afterSign_sign e' []
        simp only [List.append_nil] at hown hown'
        rw [hown, hown'] at hafter
        exact Subtype.ext hafter
      have hsign : e.sign = e'.sign := by
        rw [hdigits] at hrest
        exact List.append_cancel_right hrest
      cases e
      cases e'
      simp_all

/-- A text is the text of one constant at most. -/
theorem FloatConstant.text_injective : Function.Injective FloatConstant.text := by
  rintro ⟨whole, fraction, e, hsome⟩ ⟨whole', fraction', e', hsome'⟩ h
  obtain ⟨rfl, hrest⟩ := digits_inj (endsDigits_fraction fraction e) (endsDigits_fraction fraction' e') h
  cases fraction with
  | none =>
    cases fraction' with
    | none =>
      obtain rfl := Exponent.text_inj hrest
      rfl
    | some digits' => exact absurd hrest (Exponent.text_ne_point e _)
  | some digits =>
    cases fraction' with
    | none => exact absurd hrest.symm (Exponent.text_ne_point e' _)
    | some digits' =>
      have hends := endsDigits_exponent e endsDigits_nil
      have hends' := endsDigits_exponent e' endsDigits_nil
      rw [List.append_nil] at hends hends'
      obtain ⟨rfl, hexponents⟩ := digits_inj hends hends' (List.cons.inj hrest).2
      obtain rfl := Exponent.text_inj hexponents
      rfl

namespace FloatSuffix

theorem afterMantissa?_point (whole digits : Digits) {rest : List Char} (h : EndsDigits rest) :
    afterMantissa? (whole.1 ++ '.' :: (digits.1 ++ rest))
      = if digits.1 = [] then (if whole.1 = [] then none else some ('.' :: rest)) else some rest := by
  obtain ⟨htake, hdrop⟩ := span_digits whole (endsDigits_point (digits.1 ++ rest))
  obtain ⟨htake', hdrop'⟩ := span_digits digits h
  unfold afterMantissa?
  simp only [htake, hdrop, htake', hdrop', List.isEmpty_iff]
  split
  · rename_i hdigits
    rw [hdigits, List.nil_append]
  · rfl

theorem afterMantissa?_whole (whole : Digits) {rest : List Char} (h : EndsDigits rest)
    (hpoint : ∀ after, rest ≠ '.' :: after) :
    afterMantissa? (whole.1 ++ rest) = if whole.1 = [] then none else some rest := by
  obtain ⟨htake, hdrop⟩ := span_digits whole h
  unfold afterMantissa?
  simp only [htake, hdrop, List.isEmpty_iff]

theorem afterMantissa?_text {whole : Digits} {fraction : Option Digits} {rest : List Char}
    (hsome : whole.1 ++ Digits.ofFraction fraction ≠ []) (hpoint : Digits.fractionText fraction ≠ ['.'])
    (hrest : EndsDigits rest) (hafter : ∀ after, rest = '.' :: after → EndsDigits after) :
    afterMantissa? (whole.1 ++ (Digits.fractionText fraction ++ rest)) = some rest := by
  cases fraction with
  | none =>
    have hwhole : whole.1 ≠ [] := by simpa [Digits.ofFraction] using hsome
    change afterMantissa? (whole.1 ++ rest) = some rest
    by_cases hstart : ∃ after, rest = '.' :: after
    · obtain ⟨after, rfl⟩ := hstart
      have hread := afterMantissa?_point whole ⟨[], rfl⟩ (hafter after rfl)
      rw [if_pos rfl, if_neg hwhole] at hread
      exact hread
    · rw [afterMantissa?_whole whole hrest (not_exists.1 hstart), if_neg hwhole]
  | some digits =>
    have hdigits : digits.1 ≠ [] := by simpa [Digits.fractionText] using hpoint
    have hread := afterMantissa?_point whole digits hrest
    rw [if_neg hdigits] at hread
    exact hread

theorem exists_of_afterMantissa? {cs rest : List Char} (h : afterMantissa? cs = some rest) :
    ∃ (whole : Digits) (fraction : Option Digits), whole.1 ++ Digits.ofFraction fraction ≠ []
      ∧ Digits.fractionText fraction ≠ ['.'] ∧ cs = whole.1 ++ (Digits.fractionText fraction ++ rest) := by
  obtain ⟨whole, after, rfl, hafter⟩ := exists_digits cs
  by_cases hstart : ∃ after', after = '.' :: after'
  · obtain ⟨after, rfl⟩ := hstart
    obtain ⟨digits, tail, rfl, htail⟩ := exists_digits after
    rw [afterMantissa?_point whole digits htail] at h
    by_cases hdigits : digits.1 = []
    · rw [if_pos hdigits] at h
      by_cases hwhole : whole.1 = []
      · simp [hwhole] at h
      · rw [if_neg hwhole] at h
        cases h
        exact ⟨whole, none, by simpa [Digits.ofFraction] using hwhole, by simp [Digits.fractionText],
          by simp [Digits.fractionText, hdigits]⟩
    · rw [if_neg hdigits] at h
      cases h
      exact ⟨whole, some digits, by simp [Digits.ofFraction, hdigits], by simp [Digits.fractionText, hdigits], rfl⟩
  · rw [afterMantissa?_whole whole hafter (not_exists.1 hstart)] at h
    by_cases hwhole : whole.1 = []
    · simp [hwhole] at h
    · rw [if_neg hwhole] at h
      cases h
      exact ⟨whole, none, by simpa [Digits.ofFraction] using hwhole, by simp [Digits.fractionText], rfl⟩

theorem afterExponent?_text (e : Option Exponent) {rest : List Char} (h : rest = [] ∨ rest = ['.']) :
    afterExponent? (Exponent.text e ++ rest) = some rest := by
  cases e with
  | none => rcases h with rfl | rfl <;> rfl
  | some e =>
    obtain ⟨htake, hdrop⟩ := span_digits e.digits (endsDigits_tail h)
    change afterExponent? (e.mark :: (e.sign ++ e.digits.1 ++ rest)) = some rest
    unfold afterExponent?
    simp only [List.append_assoc, if_pos e.isMark, afterSign_sign, htake, hdrop]
    simp [e.nonempty]

theorem exists_of_afterExponent? {cs rest : List Char} (h : afterExponent? cs = some rest) :
    ∃ e, cs = Exponent.text e ++ rest := by
  unfold afterExponent? at h
  split at h
  · rename_i c after
    split at h
    · rename_i hmark
      obtain ⟨sign, hsign, hafter⟩ := exists_sign after
      obtain ⟨digits, tail, hdigits, htail⟩ := exists_digits (afterSign after)
      obtain ⟨htake, hdrop⟩ := span_digits digits htail
      simp only [hdigits, htake, hdrop] at h
      split at h
      · cases h
      · rename_i hne
        cases h
        refine ⟨some ⟨c, sign, digits, hmark, hsign, by simpa using hne⟩, ?_⟩
        rw [hafter, hdigits]
        simp [Exponent.text]
    · cases h
      exact ⟨none, rfl⟩
  · cases h
    exact ⟨none, rfl⟩

/-- A point behind a mantissa is the last character. -/
theorem endsDigits_behind_point {e : Option Exponent} {rest after : List Char} (hrest : rest = [] ∨ rest = ['.'])
    (h : Exponent.text e ++ rest = '.' :: after) : EndsDigits after := by
  cases e with
  | none =>
    rcases hrest with rfl | rfl
    · cases h
    · cases h
      exact endsDigits_nil
  | some e => exact absurd (List.cons.inj h).1 e.mark_ne_point

/-- A constant without a bare point is recognised, and so is one with a point behind it. -/
theorem isConstant_iff {cs : List Char} :
    isConstant cs = true ↔ ∃ (c : FloatConstant) (rest : List Char), ¬ c.BarePoint ∧ (rest = [] ∨ rest = ['.'])
      ∧ cs = c.text ++ rest := by
  constructor
  · intro h
    unfold isConstant at h
    obtain ⟨rest, hread, hrest⟩ : ∃ rest, (afterMantissa? cs).bind afterExponent? = some rest
        ∧ (rest = [] ∨ rest = ['.']) := by
      split at h <;> simp_all
    obtain ⟨after, hmantissa, hexponent⟩ := Option.bind_eq_some_iff.1 hread
    obtain ⟨whole, fraction, hsome, hpoint, rfl⟩ := exists_of_afterMantissa? hmantissa
    obtain ⟨e, rfl⟩ := exists_of_afterExponent? hexponent
    exact ⟨⟨whole, fraction, e, hsome⟩, rest, hpoint, hrest, by simp [FloatConstant.text]⟩
  · rintro ⟨c, rest, hpoint, hrest, rfl⟩
    have hends := endsDigits_exponent c.exponent (endsDigits_tail hrest)
    have hmantissa := afterMantissa?_text c.nonempty hpoint hends fun after => endsDigits_behind_point hrest
    have hread : (afterMantissa? (c.text ++ rest)).bind afterExponent? = some rest := by
      rw [FloatConstant.text, List.append_assoc, List.append_assoc, hmantissa]
      exact afterExponent?_text c.exponent hrest
    unfold isConstant
    rw [hread]
    rcases hrest with rfl | rfl <;> rfl

theorem split?_suffix {suffix : List Char} (h : suffix ∈ floatSuffixes) (w : List Char) :
    split? (w ++ suffix) = if isConstant w then some w else none := by
  simp only [floatSuffixes, List.mem_cons, List.not_mem_nil, or_false] at h
  rcases h with rfl | rfl | rfl | rfl <;> simp [split?, dropFinalNewline]

theorem exists_of_split? {cs w : List Char} (h : split? cs = some w) :
    ∃ suffix ∈ floatSuffixes, cs = w ++ suffix := by
  obtain ⟨line, hline⟩ : ∃ line, dropFinalNewline cs = line := ⟨_, rfl⟩
  have hcs : cs = line ∨ cs = line ++ ['\n'] := by
    unfold dropFinalNewline at hline
    split at hline
    · rename_i hlast
      rw [← hline]
      exact .inr (List.dropLast_append_getLast? '\n' hlast).symm
    · exact .inl hline
  unfold split? at h
  rw [hline] at h
  cases hlast : line.getLast? with
  | none => simp [hlast] at h
  | some c =>
    have hw : (c = 'f' ∨ c = 'F') ∧ line.dropLast = w := by
      simp only [hlast] at h
      split at h
      · rename_i hsuffix
        exact ⟨hsuffix.1, Option.some.inj h⟩
      · cases h
    have hparts : line = w ++ [c] := by
      rw [← hw.2]
      exact (List.dropLast_append_getLast? c hlast).symm
    rcases hw.1 with rfl | rfl <;> rcases hcs with rfl | rfl <;> simp [hparts, floatSuffixes]

end FloatSuffix

/-! ### Trimmed spellings -/

/-- A constant as it is written without its suffix. -/
def FloatConstant.shown (w : List Char) : List Char := if w.all Char.isDigit then w ++ ['.', '0'] else w

/-- A spelling and what is left of it without its suffix. -/
inductive Trimmed : List Char → List Char → Prop where
  | constant (c : FloatConstant) {suffix : List Char} (hsuffix : suffix ∈ floatSuffixes)
    (hpoint : c.BarePoint → c.exponent = none) : Trimmed (c.text ++ suffix) (FloatConstant.shown c.text)
  | surplusPoint (c : FloatConstant) {suffix : List Char} (hsuffix : suffix ∈ floatSuffixes) (hpoint : ¬ c.BarePoint) :
    Trimmed (c.text ++ '.' :: suffix) (c.text ++ ['.'])

namespace FloatConstant

theorem all_isDigit_text (c : FloatConstant) :
    c.text.all Char.isDigit = true ↔ c.fraction = none ∧ c.exponent = none := by
  constructor
  · intro h
    rw [text, List.all_append, List.all_append, Bool.and_eq_true, Bool.and_eq_true] at h
    obtain ⟨-, hfraction, hexponent⟩ := h
    constructor
    · cases hc : c.fraction with
      | none => rfl
      | some digits =>
        rw [hc] at hfraction
        cases hfraction
    · cases hc : c.exponent with
      | none => rfl
      | some e =>
        rw [hc] at hexponent
        rcases e.isMark with hmark | hmark <;> simp [Exponent.text, hmark] at hexponent
  · rintro ⟨hfraction, hexponent⟩
    rw [text, hfraction, hexponent, Digits.fractionText, Exponent.text, List.append_nil, List.append_nil]
    exact c.whole.2

theorem withFraction_eq_shown (c : FloatConstant) : FloatSuffix.withFraction c.text = shown c.text := by
  unfold FloatSuffix.withFraction shown
  by_cases hdigits : c.text.all Char.isDigit = true
  · have hnone : (c.text.any fun c => c == '.' || c == 'e' || c == 'E') = false := by
      refine List.any_eq_false.2 fun c hc hmark => ?_
      have hdigit := List.all_eq_true.1 hdigits c hc
      simp only [Bool.or_eq_true, beq_iff_eq] at hmark
      rcases hmark with (rfl | rfl) | rfl <;> cases hdigit
    rw [hnone, hdigits]
    rfl
  · have hsome : (c.text.any fun c => c == '.' || c == 'e' || c == 'E') = true := by
      rw [c.all_isDigit_text, not_and_or] at hdigits
      rcases hdigits with hfraction | hexponent
      · obtain ⟨digits, hdigits⟩ := Option.ne_none_iff_exists'.1 hfraction
        simp [text, hdigits, Digits.fractionText]
      · obtain ⟨e, he⟩ := Option.ne_none_iff_exists'.1 hexponent
        rcases e.isMark with hmark | hmark <;> simp [text, he, Exponent.text, hmark]
    rw [if_pos hsome, if_neg hdigits]

theorem digitsValue_append_zero (digits : List Char) : digitsValue (digits ++ ['0']) = 10 * digitsValue digits := by
  simp [digitsValue]

/-- What is shown of a constant is a constant of the same value. -/
theorem exists_shown (c : FloatConstant) : ∃ d : FloatConstant, d.text = shown c.text ∧ d.value = c.value := by
  by_cases hdigits : c.text.all Char.isDigit = true
  · obtain ⟨hfraction, hexponent⟩ := c.all_isDigit_text.1 hdigits
    refine ⟨⟨c.whole, some ⟨['0'], rfl⟩, none, by simp [Digits.ofFraction]⟩, ?_, ?_⟩
    · rw [shown, if_pos hdigits]
      simp [text, hfraction, hexponent, Digits.fractionText, Exponent.text]
    · have htens : (10 * digitsValue c.whole.1 : ℚ) * 10⁻¹ = digitsValue c.whole.1 := by ring
      simpa [value, hfraction, hexponent, Digits.ofFraction, Exponent.value, digitsValue_append_zero] using htens
  · exact ⟨c, by simp [shown, hdigits], rfl⟩

theorem value_of_shown {c d : FloatConstant} (h : d.text = shown c.text) : d.value = c.value := by
  obtain ⟨e, htext, hvalue⟩ := c.exists_shown
  rw [text_injective (h.trans htext.symm), hvalue]

/-- The suffix of a constant is dropped unless an exponent follows a bare point. -/
theorem isConstant_text {c : FloatConstant} (h : c.BarePoint → c.exponent = none) :
    FloatSuffix.isConstant c.text = true := by
  rw [FloatSuffix.isConstant_iff]
  by_cases hpoint : c.BarePoint
  · -- the point counts as the one behind the constant
    have hempty : Digits.ofFraction c.fraction = [] := by
      unfold BarePoint at hpoint
      cases hc : c.fraction with
      | none => rfl
      | some digits =>
        rw [hc] at hpoint
        exact (List.cons.inj hpoint).2
    refine ⟨⟨c.whole, none, none, ?_⟩, ['.'], ?_, .inr rfl, ?_⟩
    · have hsome := c.nonempty
      rw [hempty] at hsome
      exact hsome
    · simp [BarePoint, Digits.fractionText]
    · rw [text, hpoint, h hpoint]
      simp [text, Digits.fractionText, Exponent.text]
  · exact ⟨c, [], hpoint, .inl rfl, (List.append_nil _).symm⟩

end FloatConstant

theorem trimmed_iff {cs r : List Char} :
    Trimmed cs r ↔ ∃ w, FloatSuffix.split? cs = some w ∧ r = FloatSuffix.withFraction w := by
  constructor
  · intro h
    cases h with
    | constant c hsuffix hpoint =>
      refine ⟨c.text, ?_, c.withFraction_eq_shown.symm⟩
      rw [FloatSuffix.split?_suffix hsuffix, FloatConstant.isConstant_text hpoint, if_pos rfl]
    | surplusPoint c hsuffix hpoint =>
      have hconstant : FloatSuffix.isConstant (c.text ++ ['.']) = true :=
        FloatSuffix.isConstant_iff.2 ⟨c, ['.'], hpoint, .inr rfl, rfl⟩
      refine ⟨c.text ++ ['.'], ?_, by simp [FloatSuffix.withFraction]⟩
      rw [List.append_cons, FloatSuffix.split?_suffix hsuffix, hconstant, if_pos rfl]
  · rintro ⟨w, hw, rfl⟩
    obtain ⟨suffix, hsuffix, rfl⟩ := FloatSuffix.exists_of_split? hw
    have hconstant : FloatSuffix.isConstant w = true := by
      rw [FloatSuffix.split?_suffix hsuffix] at hw
      by_contra hnot
      simp [hnot] at hw
    obtain ⟨c, rest, hpoint, hrest, rfl⟩ := FloatSuffix.isConstant_iff.1 hconstant
    rcases hrest with rfl | rfl
    · rw [List.append_nil, c.withFraction_eq_shown]
      exact .constant c hsuffix fun hbare => absurd hbare hpoint
    · have hsurplus := Trimmed.surplusPoint c hsuffix hpoint
      have hkept : FloatSuffix.withFraction (c.text ++ ['.']) = c.text ++ ['.'] := by simp [FloatSuffix.withFraction]
      rw [hkept, ← List.append_cons]
      exact hsurplus

/-- In the ES family a spelling is written without its suffix where it can be trimmed, and as it is otherwise. What is
shown of a constant is a constant, and of the same value. -/
theorem literalText_spelling_iff {tier : Tier} (htier : tier.constrained = true) (spelling base text : String) :
    (literalText tier (.spelling spelling) base = .ok text
      ↔ Trimmed spelling.toList text.toList ∨ (text = spelling ∧ ∀ r, ¬ Trimmed spelling.toList r))
    ∧ ∀ c : FloatConstant, (∃ d : FloatConstant, d.text = FloatConstant.shown c.text)
      ∧ ∀ d : FloatConstant, d.text = FloatConstant.shown c.text → d.value = c.value := by
  have hliteral : literalText tier (.spelling spelling) base = .ok (FloatSuffix.trim spelling) := by
    simp [literalText, Tier.trimsFloatSuffix, htier]
  refine ⟨?_, fun c => ⟨c.exists_shown.imp fun d hd => hd.1, fun d hd => FloatConstant.value_of_shown hd⟩⟩
  rw [hliteral, Except.ok.injEq]
  simp only [trimmed_iff, FloatSuffix.trim]
  cases hsplit : FloatSuffix.split? spelling.toList with
  | none => simp [eq_comm]
  | some w =>
    constructor
    · rintro rfl
      exact .inl ⟨w, rfl, String.toList_ofList⟩
    · rintro (⟨_, ⟨⟩, htext⟩ | ⟨-, hnone⟩)
      · change String.ofList (FloatSuffix.withFraction w) = text
        rw [← htext, String.ofList_toList]
      · exact absurd ⟨w, rfl, rfl⟩ (hnone (FloatSuffix.withFraction w))

/-- Digits alone get a fraction. -/
theorem literalText_spelling_digits :
    Tier.es2.constrained = true ∧ literalText .es2 (.spelling "2f") "float" = .ok "2.0"
      ∧ Trimmed "2f".toList "2.0".toList := by
  have hliteral : literalText .es2 (.spelling "2f") "float" = .ok "2.0" := by decide
  have hspelling := (@literalText_spelling_iff .es2 rfl "2f" "float" "2.0").1.1 hliteral
  exact ⟨rfl, hliteral, hspelling.resolve_right fun h => absurd h.1 (by decide)⟩

/-- A constant with an exponent behind a bare point keeps its suffix. A point too many or a line feed does not keep
it. -/
theorem suffix_kept_behind_bare_point :
    (∃ c : FloatConstant, c.text = ['1', '.', 'e', '5'])
      ∧ literalText .es3 (.spelling "1.e5f") "float" = .ok "1.e5f"
      ∧ literalText .es3 (.spelling "1e5.f") "float" = .ok "1e5."
      ∧ literalText .es3 (.spelling "1.5f\n") "float" = .ok "1.5" :=
  ⟨⟨⟨⟨['1'], rfl⟩, some ⟨[], rfl⟩, some ⟨'e', [], ⟨['5'], rfl⟩, .inl rfl, .inl rfl, by simp⟩, by simp⟩, rfl⟩,
    by decide, by decide, by decide⟩

end GlslCompiler

import GlslCompiler.Proofs.Expression.Numbers
import GlslCompiler.Proofs.Writer.FloatConstants
import GlslCompiler.Proofs.Writer.Fragments
import GlslCompiler.Proofs.Writer.Headers

/-!
# Suffixed constants in a text

Which suffixed floating constants are read in a text is known from its pieces wherever these are read apart. Written
texts are put together at separators, so most of them are dealt with by going from one separator to the next: a piece
with a separator behind it leads on to any other piece.

No expression that is written for the ES family has a suffixed constant in it. Its names must be words for this and its
operators symbols, since a name may be any text. A whole number must have no member either: with the member `f` behind
it, `1` would be read as `1.f`.
-/

namespace GlslCompiler

open Grammar

/-! ### Suffixed constants in a text -/

/-- A floating constant with a suffix. -/
def IsSuffixed (text : String) : Prop :=
  ∃ c : FloatConstant, ∃ suffix ∈ [['f'], ['F']], text.toList = c.text ++ suffix

/-- The suffixed constants that are read in a text. -/
def suffixedIn (text : String) : Set String := {w | w ∈ numbers text.toList ∧ IsSuffixed w}

def Unsuffixed (text : String) : Prop := suffixedIn text = ∅

theorem suffixedIn_eq_of_numbers {s t : String} (h : numbers s.toList = numbers t.toList) :
    suffixedIn s = suffixedIn t := by
  unfold suffixedIn
  rw [h]

theorem suffixedIn_append {s t : String}
    (h : numbers (s.toList ++ t.toList) = numbers s.toList ++ numbers t.toList) :
    suffixedIn (s ++ t) = suffixedIn s ∪ suffixedIn t := by
  ext w
  show w ∈ numbers (s ++ t).toList ∧ IsSuffixed w ↔ _
  rw [String.toList_append, h, List.mem_append, or_and_right]
  rfl

/-- A text that begins and ends with a delimiter and has no suffix in it. -/
def separates (text : String) : Bool :=
  text.toList.head?.any delimiters.contains && text.toList.getLast?.any delimiters.contains
    && text.toList.all fun c => c != 'f' && c != 'F'

/-- A text behind which any other is read apart. -/
structure Leads (text : String) : Prop where
  unsuffixed : Unsuffixed text
  ends : ∀ d ∈ text.toList.getLast?, d ∈ delimiters

namespace Unsuffixed

variable {s t : String}

theorem of_numbers (h : numbers s.toList = []) : Unsuffixed s := by
  unfold Unsuffixed suffixedIn
  simp [h]

/-- A number is made of the characters of the text. -/
theorem of_lacks (h : Lacks ['f', 'F'] s) : Unsuffixed s := by
  refine Set.eq_empty_of_forall_notMem ?_
  rintro w ⟨hmem, c, suffix, hsuffix, htext⟩
  have hinfix := infix_of_mem_numbers hmem
  rw [htext] at hinfix
  have hsubset : ∀ x ∈ suffix, x ∈ s.toList := fun x hx => hinfix.subset (List.mem_append_right _ hx)
  simp only [List.mem_cons, List.not_mem_nil, or_false] at hsuffix
  rcases hsuffix with rfl | rfl
  · exact h.not_mem (by simp) (hsubset 'f' (by simp))
  · exact h.not_mem (by simp) (hsubset 'F' (by simp))

theorem word (h : isWord s.toList = true) : Unsuffixed s := of_numbers (numbers_word h)

theorem symbols (h : s.toList.all isSymbolChar = true) : Unsuffixed s := by
  apply of_numbers
  have hnone := numbers_symbols (List.all_eq_true.1 h) []
  rwa [List.append_nil] at hnone

theorem symbols_append (h : s.toList.all isSymbolChar = true) (ht : Unsuffixed t) : Unsuffixed (s ++ t) := by
  have hsame : suffixedIn (s ++ t) = suffixedIn t := by
    apply suffixedIn_eq_of_numbers
    rw [String.toList_append, numbers_symbols (List.all_eq_true.1 h)]
  rw [Unsuffixed, hsame, ht]

end Unsuffixed

section Separators

variable {s t sep : String}

theorem separates_iff : separates sep = true ↔ (∃ d, sep.toList.head? = some d ∧ d ∈ delimiters)
    ∧ (∃ d, sep.toList.getLast? = some d ∧ d ∈ delimiters) ∧ Lacks ['f', 'F'] sep := by
  unfold separates Lacks
  rw [Bool.and_eq_true, Bool.and_eq_true, Option.any_eq_true, Option.any_eq_true, and_assoc]
  simp

theorem suffixedIn_separator (h : separates sep = true) (s : String) : suffixedIn (s ++ sep) = suffixedIn s := by
  obtain ⟨⟨d, hhead, hd⟩, -, hlacks⟩ := separates_iff.1 h
  have hbegins : ∀ c ∈ sep.toList.head?, c ∈ delimiters := by
    rw [hhead]
    rintro c ⟨⟩
    exact hd
  rw [suffixedIn_append (numbers_append_of_begins hbegins _), Unsuffixed.of_lacks hlacks, Set.union_empty]

theorem Leads.suffixedIn_append (h : Leads s) (t : String) : suffixedIn (s ++ t) = suffixedIn t := by
  rw [GlslCompiler.suffixedIn_append (numbers_append_of_ends h.ends _), h.unsuffixed, Set.empty_union]

theorem Leads.append (hs : Leads s) (ht : Unsuffixed t) : Unsuffixed (s ++ t) := (hs.suffixedIn_append t).trans ht

theorem Leads.append_leads (hs : Leads s) (ht : Leads t) : Leads (s ++ t) := by
  refine ⟨hs.append ht.unsuffixed, fun d hd => ?_⟩
  rw [String.toList_append, List.getLast?_append] at hd
  rcases Option.or_eq_some_iff.1 hd with hd | ⟨-, hd⟩
  · exact ht.ends d hd
  · exact hs.ends d hd

theorem ends_append_separator (h : separates sep = true) (s : String) :
    ∀ d ∈ (s ++ sep).toList.getLast?, d ∈ delimiters := by
  obtain ⟨-, ⟨d, hlast, hd⟩, -⟩ := separates_iff.1 h
  rw [String.toList_append, List.getLast?_append, hlast]
  rintro c ⟨⟩
  exact hd

theorem suffixedIn_join (h : separates sep = true) (s t : String) :
    suffixedIn (s ++ sep ++ t) = suffixedIn s ∪ suffixedIn t := by
  rw [suffixedIn_append (numbers_append_of_ends (ends_append_separator h s) _), suffixedIn_separator h]

theorem Unsuffixed.append_separator (hs : Unsuffixed s) (h : separates sep = true) : Leads (s ++ sep) :=
  ⟨(suffixedIn_separator h s).trans hs, ends_append_separator h s⟩

theorem leads_separator (sep : String) (h : separates sep = true) : Leads sep := by
  have hleads := Unsuffixed.append_separator (.of_lacks (s := "") rfl) h
  rwa [String.empty_append] at hleads

theorem leads_indentation (depth : Int) : Leads (indentation depth) := by
  have hspaces : ∀ c ∈ (indentation depth).toList, c = ' ' := by
    intro c hc
    rw [indentation, String.toList_ofList] at hc
    exact List.eq_of_mem_replicate hc
  refine ⟨.of_lacks (.of_not_mem fun c hc hmem => ?_), fun d hd => ?_⟩
  · rw [hspaces c hmem] at hc
    exact absurd hc (by decide)
  · rw [hspaces d (List.mem_of_getLast? hd)]
    decide

theorem Unsuffixed.intercalate {texts : List String} (hsep : separates sep = true)
    (h : ∀ text ∈ texts, Unsuffixed text) : Unsuffixed (sep.intercalate texts) := by
  induction texts with
  | nil => exact .of_lacks rfl
  | cons first rest ih =>
    obtain ⟨hfirst, hrest⟩ := List.forall_mem_cons.1 h
    cases rest with
    | nil =>
      rw [String.intercalate_singleton]
      exact hfirst
    | cons second rest =>
      rw [String.intercalate_cons_cons]
      exact (hfirst.append_separator hsep).append (ih hrest)

theorem Unsuffixed.parens (hs : Unsuffixed s) : Unsuffixed ("(" ++ s ++ ")") :=
  (((leads_separator _ (by decide)).append hs).append_separator (by decide)).unsuffixed

theorem Unsuffixed.group (hs : Unsuffixed s) (asked precedence : Int) :
    Unsuffixed (GlslCompiler.group asked precedence s) := by
  unfold GlslCompiler.group
  split
  · exact hs.parens
  · exact hs

theorem Unsuffixed.guardSign (hs : Unsuffixed s) : Unsuffixed (GlslCompiler.guardSign s) := by
  unfold GlslCompiler.guardSign
  split
  · exact hs.parens
  · exact hs.parens
  · exact hs

theorem Unsuffixed.toString (n : Int) : Unsuffixed (ToString.toString n) := .of_lacks (toString_lacks (by simp) n)

end Separators

/-! ### Constants -/

theorem Digits.isDigit_of_mem (digits : Digits) : ∀ c ∈ digits.1, c.isDigit = true := List.all_eq_true.1 digits.2

namespace FloatConstant

theorem mem_text (c : FloatConstant) : ∀ x ∈ c.text, x.isDigit = true ∨ x ∈ ['.', 'e', 'E', '+', '-'] := by
  intro x hx
  rcases List.mem_append.1 hx with hx | hx
  · exact .inl (c.whole.isDigit_of_mem x hx)
  rcases List.mem_append.1 hx with hx | hx
  · cases hfraction : c.fraction with
    | none => simp [hfraction, Digits.fractionText] at hx
    | some digits =>
      rw [hfraction] at hx
      rcases List.mem_cons.1 hx with rfl | hx
      · exact .inr (by simp)
      · exact .inl (digits.isDigit_of_mem x hx)
  · cases hexponent : c.exponent with
    | none => simp [hexponent, Exponent.text] at hx
    | some e =>
      rw [hexponent] at hx
      rcases List.mem_cons.1 hx with rfl | hx
      · rcases e.isMark with hmark | hmark <;> simp [hmark]
      · rcases List.mem_append.1 hx with hx | hx
        · rcases e.isSign with hsign | hsign | hsign <;> rw [hsign] at hx <;> simp_all
        · exact .inl (e.digits.isDigit_of_mem x hx)

theorem not_mem_text (c : FloatConstant) : ∀ x ∈ ['f', 'F'], x ∉ c.text := by
  intro x hx hmem
  simp only [List.mem_cons, List.not_mem_nil, or_false] at hx
  rcases c.mem_text x hmem with hdigit | hmark
  · rcases hx with rfl | rfl <;> cases hdigit
  · rcases hx with rfl | rfl <;> simp at hmark

theorem fractionText_mem (fraction : Option Digits) :
    Digits.fractionText fraction ∈ (1 + .char '.' * .star Number.digit : RegularExpression Char).matches' := by
  cases fraction with
  | none => exact .inl rfl
  | some digits => exact .inr ⟨['.'], rfl, digits.1, mem_star_digit.2 digits.isDigit_of_mem, rfl⟩

theorem exponentText_mem (e : Option Exponent) : Exponent.text e ∈ (1 + Number.exponent).matches' := by
  cases e with
  | none => exact .inl rfl
  | some e =>
    have hmark : [e.mark] ∈ (oneOf "eE").matches' := by
      rcases e.isMark with hmark | hmark <;> rw [hmark] <;> exact mem_oneOf.2 ⟨_, by decide, rfl⟩
    have hsign : e.sign ∈ (1 + oneOf "+-").matches' := by
      rcases e.isSign with hsign | hsign | hsign <;> rw [hsign]
      · exact .inl rfl
      · exact .inr (mem_oneOf.2 ⟨'+', by decide, rfl⟩)
      · exact .inr (mem_oneOf.2 ⟨'-', by decide, rfl⟩)
    obtain ⟨d, digits, hdigits⟩ := List.exists_cons_of_ne_nil e.nonempty
    have hall := e.digits.isDigit_of_mem
    rw [hdigits, List.forall_mem_cons] at hall
    refine .inr ⟨[e.mark] ++ e.sign ++ [d], ⟨[e.mark] ++ e.sign, ⟨_, hmark, _, hsign, rfl⟩, _, mem_digit hall.1, rfl⟩,
      digits, mem_star_digit.2 hall.2, ?_⟩
    simp [Exponent.text, hdigits]

/-- A constant is a number, also with a suffix. -/
theorem number_text (c : FloatConstant) {suffix : List Char} (h : suffix ∈ [[], ['f'], ['F']]) :
    number.rmatch (c.text ++ suffix) = true := by
  have hsuffix : suffix ∈ Number.floating.matches' := by
    simp only [List.mem_cons, List.not_mem_nil, or_false] at h
    rcases h with rfl | rfl | rfl
    · exact .inl (.inl (.inl rfl))
    · exact .inl (.inl (.inr (mem_oneOf.2 ⟨'f', by decide, rfl⟩)))
    · exact .inl (.inl (.inr (mem_oneOf.2 ⟨'F', by decide, rfl⟩)))
  have hexponent := exponentText_mem c.exponent
  rw [RegularExpression.rmatch_iff_matches']
  cases hwhole : c.whole.1 with
  | nil =>
    cases hfraction : c.fraction with
    | none => exact absurd (by simp [hwhole, hfraction, Digits.ofFraction]) c.nonempty
    | some digits =>
      have hne : digits.1 ≠ [] := by
        have hne := c.nonempty
        rwa [hwhole, hfraction] at hne
      obtain ⟨d, rest, hdigits⟩ := List.exists_cons_of_ne_nil hne
      have hall := digits.isDigit_of_mem
      rw [hdigits, List.forall_mem_cons] at hall
      refine .inr ⟨['.'], rfl, _, ⟨[d], mem_digit hall.1, _, ⟨_, ⟨rest, mem_star_digit.2 hall.2, _, hexponent, rfl⟩,
        _, hsuffix, rfl⟩, rfl⟩, ?_⟩
      simp [text, hwhole, hfraction, hdigits, Digits.fractionText]
  | cons d rest =>
    have hall := c.whole.isDigit_of_mem
    rw [hwhole, List.forall_mem_cons] at hall
    refine .inl (.inl ⟨[d], mem_digit hall.1, _, ⟨rest, mem_star_digit.2 hall.2, _, .inr
      ⟨_, ⟨_, fractionText_mem c.fraction, _, hexponent, rfl⟩, _, hsuffix, rfl⟩, rfl⟩, ?_⟩)
    simp [text, hwhole]

end FloatConstant

/-- A floating constant with or without a suffix, but for those whose suffix stays behind an exponent. -/
def SpellsConstant (text : String) : Prop :=
  ∃ c : FloatConstant, (c.BarePoint → c.exponent = none)
    ∧ ∃ suffix ∈ [[], ['f'], ['F']], text.toList = c.text ++ suffix

theorem SpellsConstant.suffixedIn_eq {text : String} (h : SpellsConstant text) :
    suffixedIn text = {w | w = text ∧ IsSuffixed w} := by
  obtain ⟨c, -, suffix, hsuffix, htext⟩ := h
  have hnumbers : numbers text.toList = [text] := by
    have hnumber := c.number_text hsuffix
    rw [← htext] at hnumber
    rw [numbers_of_token (token?_number hnumber), String.ofList_toList]
    rfl
  unfold suffixedIn
  rw [hnumbers]
  simp only [List.mem_singleton]

theorem SpellsConstant.exists_trim {text : String} (h : SpellsConstant text) :
    ∃ c : FloatConstant, (FloatSuffix.trim text).toList = c.text := by
  obtain ⟨c, hpoint, suffix, hsuffix, htext⟩ := h
  by_cases hnone : suffix = []
  · have hsplit : FloatSuffix.split? text.toList = none := by
      rw [Option.eq_none_iff_forall_ne_some]
      intro w hw
      obtain ⟨other, hother, heq⟩ := FloatSuffix.exists_of_split? hw
      rw [htext, hnone, List.append_nil] at heq
      have hmem : ∀ x ∈ other, x ∈ c.text := by
        rw [heq]
        exact fun x hx => List.mem_append_right w hx
      simp only [floatSuffixes, List.mem_cons, List.not_mem_nil, or_false] at hother
      rcases hother with rfl | rfl | rfl | rfl
      · exact c.not_mem_text 'f' (by simp) (hmem 'f' (by simp))
      · exact c.not_mem_text 'F' (by simp) (hmem 'F' (by simp))
      · exact c.not_mem_text 'f' (by simp) (hmem 'f' (by simp))
      · exact c.not_mem_text 'F' (by simp) (hmem 'F' (by simp))
    refine ⟨c, ?_⟩
    rw [FloatSuffix.trim, hsplit]
    show text.toList = c.text
    rw [htext, hnone, List.append_nil]
  · have hsuffix : suffix ∈ floatSuffixes := by
      simp only [floatSuffixes, List.mem_cons, List.not_mem_nil, or_false] at hsuffix ⊢
      tauto
    obtain ⟨d, hshown, -⟩ := c.exists_shown
    refine ⟨d, ?_⟩
    rw [FloatSuffix.trim, htext, FloatSuffix.split?_suffix hsuffix, FloatConstant.isConstant_text hpoint, if_pos rfl]
    show (String.ofList (FloatSuffix.withFraction c.text)).toList = d.text
    rw [String.toList_ofList, c.withFraction_eq_shown, hshown]

/-! ### Literals -/

theorem lacks_of_digits {cs : List Char} (h : ∀ c ∈ cs, c.isDigit = true) : Lacks ['f', 'F'] (String.ofList cs) := by
  refine .of_not_mem fun c hc hmem => ?_
  have hdigit := h c (by simpa using hmem)
  simp only [List.mem_cons, List.not_mem_nil, or_false] at hc
  rcases hc with rfl | rfl <;> cases hdigit

namespace DecimalFormat

theorem isDigit_of_mem_stripZeros {cs : List Char} (h : ∀ c ∈ cs, c.isDigit = true) :
    ∀ c ∈ stripZeros cs, c.isDigit = true := by
  intro c hc
  rw [stripZeros, List.mem_reverse] at hc
  exact h c (List.mem_reverse.1 ((List.dropWhile_sublist _).subset hc))

theorem zeros_lacks (count : Nat) : Lacks ['f', 'F'] (zeros count) := by
  refine lacks_of_digits fun c hc => ?_
  rw [List.eq_of_mem_replicate hc]
  rfl

theorem exponentText_lacks (format : DecimalFormat) (exponent : Int) :
    Lacks ['f', 'F'] (format.exponentText exponent) := by
  have hmark : Lacks ['f', 'F'] (if exponent < 0 then "e-" else "e+") := by
    split <;> rfl
  exact (hmark.append (zeros_lacks _)).append (toString_lacks (by simp) (exponent.natAbs : Int))

theorem positive_lacks (format : DecimalFormat) (d : Decimal) : Lacks ['f', 'F'] (format.positive d) := by
  have hdigits : ∀ c ∈ stripZeros (Nat.toDigits 10 d.digits), c.isDigit = true :=
    isDigit_of_mem_stripZeros fun c hc => Nat.isDigit_of_mem_toDigits (by decide) (by decide) hc
  have htake : ∀ n, Lacks ['f', 'F'] (String.ofList ((stripZeros (Nat.toDigits 10 d.digits)).take n)) :=
    fun n => lacks_of_digits fun c hc => hdigits c (List.mem_of_mem_take hc)
  have hdrop : ∀ n, Lacks ['f', 'F'] (String.ofList ((stripZeros (Nat.toDigits 10 d.digits)).drop n)) :=
    fun n => lacks_of_digits fun c hc => hdigits c (List.mem_of_mem_drop hc)
  unfold positive
  dsimp only
  split
  · split
    · exact (Lacks.append (by decide) (zeros_lacks _)).append (lacks_of_digits hdigits)
    · split
      · exact ((lacks_of_digits hdigits).append (zeros_lacks _)).append (by decide)
      · exact ((htake _).append (by decide)).append (hdrop _)
  · refine ((htake 1).append ?_).append (exponentText_lacks format _)
    split
    · rfl
    · exact Lacks.append (by decide) (hdrop 1)

theorem text_lacks_or_infinite (x : Double) :
    Lacks ['f', 'F'] (standard.text x) ∨ standard.text x = "inf" ∨ standard.text x = "-inf" := by
  cases x with
  | nan => exact .inl rfl
  | infinite negative =>
    cases negative with
    | false => exact .inr (.inl rfl)
    | true => exact .inr (.inr rfl)
  | finite negative significand exponent =>
    have hsign : Lacks ['f', 'F'] (if negative then "-" else "") := by
      split <;> rfl
    refine .inl (hsign.append ?_)
    split
    · rfl
    · exact positive_lacks standard _

end DecimalFormat

theorem standardText_unsuffixed (x : Double) : Unsuffixed (DecimalFormat.standard.text x) := by
  rcases DecimalFormat.text_lacks_or_infinite x with h | h | h
  · exact .of_lacks h
  · rw [h]
    exact .word (by decide)
  · rw [h]
    exact .symbols_append (s := "-") (t := "inf") (by decide) (.word (by decide))

theorem floatText_unsuffixed (x : Double) : Unsuffixed (floatText x) := by
  have hinfinite : Unsuffixed ("inf" ++ ".0") := by
    have hzero : Unsuffixed ".0" := .of_lacks rfl
    have hsame : suffixedIn ("inf" ++ ".0") = suffixedIn ".0" := by
      apply suffixedIn_eq_of_numbers
      exact numbers_word_dot (w := "inf".toList) (by decide) ['0']
    rw [Unsuffixed, hsame, hzero]
  unfold floatText
  dsimp only
  rcases DecimalFormat.text_lacks_or_infinite x with h | h | h
  · split
    · exact .of_lacks h
    · exact .of_lacks (h.append rfl)
  · rw [h]
    exact hinfinite
  · rw [h]
    exact .symbols_append (s := "-") (t := "inf.0") (by decide) hinfinite

theorem plainText_unsuffixed (value : Scalar) : Unsuffixed value.plainText := by
  cases value with
  | int n => exact .toString n
  | float x => exact standardText_unsuffixed x
  | bool b =>
    cases b with
    | false => exact .word (by decide)
    | true => exact .word (by decide)
  | missing => exact .word (by decide)

/-- No literal of the ES family has a suffix. -/
theorem literalText_unsuffixed {tier : Tier} (htier : tier.constrained = true) (value : Value) (base : String)
    (hvalue : ∀ text, value = .spelling text → SpellsConstant text) :
    Ensures Unsuffixed (literalText tier value base) := by
  cases value with
  | spelling text =>
    obtain ⟨c, htrim⟩ := (hvalue text rfl).exists_trim
    rw [literalText, Tier.trimsFloatSuffix, htier]
    refine .ok (.of_lacks (.of_not_mem fun x hx => ?_))
    show x ∉ (FloatSuffix.trim text).toList
    rw [htrim]
    exact c.not_mem_text x hx
  | scalar value =>
    rw [literalText]
    split
    · cases value.truth with
      | false => exact .ok (.word (by decide))
      | true => exact .ok (.word (by decide))
    · split
      · exact Ensures.map (p := fun _ => True) (fun _ _ => trivial) fun x _ => floatText_unsuffixed x
      · split
        · exact Ensures.map (p := fun _ => True) (fun _ _ => trivial) fun n _ => .toString n
        · exact .ok (plainText_unsuffixed value)

/-! ### Expressions -/

/-- A text that a point behind it does not continue: a word, or a constant with a point or an exponent of its own, with
or without a sign. -/
def IsClosed (text : String) : Prop :=
  isWord text.toList = true ∨ ∃ sign ∈ [[], ['-']], ∃ c : FloatConstant,
    c.text.all Char.isDigit = false ∧ text.toList = sign ++ c.text

theorem IsClosed.settled {text : String} (h : IsClosed text) : Settled text.toList := by
  rcases h with hword | ⟨sign, hsign, c, hdigits, htext⟩
  · exact .word hword
  · have hnumber := c.number_text (List.mem_cons_self : [] ∈ [[], ['f'], ['F']])
    rw [List.append_nil] at hnumber
    have hsymbols : ∀ x ∈ sign, isSymbolChar x = true := by
      simp only [List.mem_cons, List.not_mem_nil, or_false] at hsign
      rcases hsign with rfl | rfl
      · simp
      · exact forall_mem_of_all (by decide)
    rw [htext]
    exact .symbols hsymbols (.number hnumber hdigits)

namespace Expr

/-- A literal that has a member is closed. -/
def TakesMember (tier : Tier) : Expr → Prop
  | .literal value type => Ensures IsClosed (literalText tier value type.base)
  | _ => True

/-- What the expression is written from, apart from the expressions in it, is of the class that its place asks for:
names are words, operators are symbols, and literals that are kept from the source are constants. -/
def Lexical (tier : Tier) : Expr → Prop
  | .literal value _ => ∀ text, value = .spelling text → SpellsConstant text
  | .name identifier => isWord identifier.toList = true
  | .binary operator _ _ => operator.toList.all isSymbolChar = true
  | .unary operator _ => operator.toList.all isSymbolChar = true
  | .call function _ => isWord function.toList = true
  | .construct type _ => isWord type.base.toList = true
  | .swizzle base components => isWord components.toList = true ∧ base.TakesMember tier
  | .field base member => isWord member.toList = true ∧ base.TakesMember tier
  | .index _ _ => True
  | .conditional _ _ _ => True
  | .unknown => True

end Expr

def AllLexical (tier : Tier) (parts : List Expr) : Prop := ∀ p ∈ parts, p.Lexical tier

section Expressions

variable {tier : Tier}

theorem allLexical_cons {e : Expr} {parts : List Expr} :
    AllLexical tier (e :: parts) ↔ e.Lexical tier ∧ AllLexical tier parts := List.forall_mem_cons

theorem allLexical_append {parts others : List Expr} :
    AllLexical tier (parts ++ others) ↔ AllLexical tier parts ∧ AllLexical tier others := List.forall_mem_append

theorem settled_group {text : String} {precedence : Int} (h : 16 ≤ precedence → Settled text.toList) :
    Settled (group Precedence.member precedence text).toList := by
  unfold group
  split
  · rw [String.toList_append]
    exact Settled.delimiter (by decide) _
  · rename_i hprecedence
    apply h
    have hmember : Precedence.member = 16 := rfl
    omega

theorem settled_group_of_lt {text : String} {precedence : Int} (h : precedence < 16) :
    Settled (group Precedence.member precedence text).toList := settled_group fun hhigh => absurd h (not_lt.2 hhigh)

theorem toList_member (base member : String) :
    (base ++ "." ++ member).toList = base.toList ++ '.' :: member.toList := by
  rw [String.append_assoc, String.toList_append, String.toList_append]
  rfl

theorem settled_member {base member : String} (h : Settled base.toList) (hmember : isWord member.toList = true) :
    Settled (base ++ "." ++ member).toList := by
  rw [toList_member]
  exact h.member hmember

theorem unsuffixed_member {base member : String} (hbase : Unsuffixed base) (h : Settled base.toList)
    (hmember : isWord member.toList = true) : Unsuffixed (base ++ "." ++ member) := by
  have hsame : suffixedIn (base ++ "." ++ member) = suffixedIn base := by
    apply suffixedIn_eq_of_numbers
    rw [toList_member]
    exact h.numbers_member hmember
  rw [Unsuffixed, hsame, hbase]

/-- Symbols bind less tightly than members do. -/
theorem operatorPrecedence_lt {operator : String} (h : operator.toList.all isSymbolChar = true) :
    operatorPrecedence operator < 16 := by
  unfold operatorPrecedence
  cases hlookup : operatorPrecedences.lookup operator with
  | none => decide
  | some precedence =>
    have hall : ∀ entry ∈ operatorPrecedences, entry.1.toList.all isSymbolChar = true → entry.2 < 16 := by decide
    obtain ⟨front, rest, heq, -⟩ := List.lookup_eq_some_iff.1 hlookup
    exact hall (operator, precedence) (by simp [heq]) h

theorem GlslType.text_unsuffixed {type : GlslType} (h : isWord type.base.toList = true) : Unsuffixed type.text := by
  unfold GlslType.text
  split
  · exact ((((Unsuffixed.word h).append_separator (by decide)).append (.toString _)).append_separator
      (by decide)).unsuffixed
  · exact .word h

/-- A member can be read apart from the expression that it is taken of. -/
theorem Expr.settled : ∀ e : Expr, AllLexical tier e.parts → e.TakesMember tier →
    Ensures (fun text => Settled (group Precedence.member e.precedence text).toList) (e.text tier)
  | .literal value type, h, hclosed => fun text htext => settled_group fun _ => (hclosed text htext).settled
  | .name identifier, h, _ => .ok (settled_group fun _ => .word (allLexical_cons.1 h).1)
  | .binary operator left right, h, _ => by
    have hlow : operatorPrecedence operator < 16 := operatorPrecedence_lt (allLexical_cons.1 h).1
    exact fun text _ => settled_group_of_lt hlow
  | .unary _ _, _, _ => fun text _ => settled_group_of_lt (show Precedence.unary < 16 by decide)
  | .call _ _, _, _ => fun text _ => settled_group_of_lt (show Precedence.call < 16 by decide)
  | .construct _ _, _, _ => fun text _ => settled_group_of_lt (show Precedence.call < 16 by decide)
  | .conditional _ _ _, _, _ => fun text _ => settled_group_of_lt (show Precedence.conditional < 16 by decide)
  | .swizzle base components, h, _ => by
    obtain ⟨⟨hword, hbase⟩, hparts⟩ := allLexical_cons.1 h
    refine .bind fun text htext => .ok (settled_group fun _ => ?_)
    exact settled_member (base.settled hparts hbase text htext) hword
  | .field base member, h, _ => by
    obtain ⟨⟨hword, hbase⟩, hparts⟩ := allLexical_cons.1 h
    refine .bind fun text htext => .ok (settled_group fun _ => ?_)
    exact settled_member (base.settled hparts hbase text htext) hword
  | .index base position, _, _ => by
    refine .bind fun baseText _ => .bind fun positionText _ => .ok (settled_group fun _ => ?_)
    rw [String.toList_append]
    exact Settled.delimiter (by decide) _
  | .unknown, _, _ => .ok (settled_group fun _ => .nil)

mutual

theorem Expr.text_unsuffixed (htier : tier.constrained = true) : ∀ e : Expr, AllLexical tier e.parts →
    Ensures Unsuffixed (e.text tier)
  | .literal value type, h => literalText_unsuffixed htier value type.base (allLexical_cons.1 h).1
  | .name identifier, h => .ok (.word (allLexical_cons.1 h).1)
  | .binary operator left right, h => by
    obtain ⟨hoperator, h⟩ := allLexical_cons.1 h
    obtain ⟨hleft, hright⟩ := allLexical_append.1 h
    refine .bind fun leftText hl => .bind fun rightText hr => .ok ?_
    have hl := (Expr.text_unsuffixed htier left hleft _ hl).group (operatorPrecedence operator) left.precedence
    have hr := (Expr.text_unsuffixed htier right hright _ hr).group (operatorPrecedence operator + 1) right.precedence
    exact (((hl.append_separator (by decide)).append (.symbols hoperator)).append_separator (by decide)).append hr
  | .unary operator operand, h => by
    obtain ⟨hoperator, hoperand⟩ := allLexical_cons.1 h
    refine .bind fun text ht => .ok (.symbols_append hoperator ?_)
    exact ((Expr.text_unsuffixed htier operand hoperand _ ht).group _ _).guardSign
  | .call function arguments, h => by
    obtain ⟨hfunction, harguments⟩ := allLexical_cons.1 h
    refine .bind fun texts ht => .ok ?_
    have hlist : Unsuffixed (", ".intercalate texts) :=
      .intercalate (by decide) (Expr.texts_unsuffixed htier arguments harguments texts ht)
    exact ((((Unsuffixed.word hfunction).append_separator (by decide)).append hlist).append_separator
      (by decide)).unsuffixed
  | .construct type arguments, h => by
    obtain ⟨htype, harguments⟩ := allLexical_cons.1 h
    refine .bind fun texts ht => .ok ?_
    have hlist : Unsuffixed (", ".intercalate texts) :=
      .intercalate (by decide) (Expr.texts_unsuffixed htier arguments harguments texts ht)
    exact ((((GlslType.text_unsuffixed htype).append_separator (by decide)).append hlist).append_separator
      (by decide)).unsuffixed
  | .swizzle base components, h => by
    obtain ⟨⟨hword, hmember⟩, hbase⟩ := allLexical_cons.1 h
    refine .bind fun text ht => .ok ?_
    exact unsuffixed_member ((Expr.text_unsuffixed htier base hbase _ ht).group _ _)
      (base.settled hbase hmember text ht) hword
  | .field base member, h => by
    obtain ⟨⟨hword, hmember⟩, hbase⟩ := allLexical_cons.1 h
    refine .bind fun text ht => .ok ?_
    exact unsuffixed_member ((Expr.text_unsuffixed htier base hbase _ ht).group _ _)
      (base.settled hbase hmember text ht) hword
  | .index base position, h => by
    obtain ⟨hbase, hposition⟩ := allLexical_append.1 (allLexical_cons.1 h).2
    refine .bind fun baseText hb => .bind fun positionText hp => .ok ?_
    have hb := (Expr.text_unsuffixed htier base hbase _ hb).group Precedence.member base.precedence
    have hp := Expr.text_unsuffixed htier position hposition _ hp
    exact (((hb.append_separator (by decide)).append hp).append_separator (by decide)).unsuffixed
  | .conditional condition whenTrue whenFalse, h => by
    obtain ⟨h, hfalse⟩ := allLexical_append.1 (allLexical_cons.1 h).2
    obtain ⟨hcondition, htrue⟩ := allLexical_append.1 h
    refine .bind fun conditionText hc => .bind fun trueText ht => .bind fun falseText hf => .ok ?_
    have hc := (Expr.text_unsuffixed htier condition hcondition _ hc).group (Precedence.conditional + 1)
      condition.precedence
    have ht := Expr.text_unsuffixed htier whenTrue htrue _ ht
    have hf := (Expr.text_unsuffixed htier whenFalse hfalse _ hf).group Precedence.conditional whenFalse.precedence
    exact (((hc.append_separator (by decide)).append ht).append_separator (by decide)).append hf
  | .unknown, _ => .ok (.of_lacks rfl)

theorem Expr.texts_unsuffixed (htier : tier.constrained = true) : ∀ es : List Expr,
    AllLexical tier (Expr.allParts es) → Ensures (fun texts => ∀ text ∈ texts, Unsuffixed text) (Expr.texts tier es)
  | [], _ => .ok (by simp)
  | e :: rest, h => by
    obtain ⟨he, hrest⟩ := allLexical_append.1 h
    refine .bind fun text ht => .bind fun texts hts => .ok (List.forall_mem_cons.2 ⟨?_, ?_⟩)
    · exact Expr.text_unsuffixed htier e he text ht
    · exact Expr.texts_unsuffixed htier rest hrest texts hts

end

end Expressions

end GlslCompiler

import Mathlib.Computability.RegularExpressions

/-!
# Tokens of the shading language

A text is read as words, numbers and symbols by longest match: of all the beginnings of the text that
are tokens the longest is taken, and blanks between tokens are skipped. What the proofs about written
expressions need to know is where a token ends. `Apart w c` says that no token begins with `w` followed
by `c`; a token that is apart from the character after it is read on its own, whatever follows.
-/

namespace GlslCompiler.Grammar

/-- A lexical unit. Identifiers and keywords are words, and a symbol without a constructor of its own is
an operator. -/
inductive Token where
  | word (text : String)
  | number (text : String)
  | operator (text : String)
  | leftParen
  | rightParen
  | leftBracket
  | rightBracket
  | dot
  | comma
  | colon
  | question
  deriving DecidableEq

/-! ### The classes of tokens -/

def isWordStart (c : Char) : Bool := c.isAlpha || c == '_'

def isWordChar (c : Char) : Bool := isWordStart c || c.isDigit

def isWord : List Char → Bool
  | [] => false
  | c :: rest => isWordStart c && rest.all isWordChar

/-- Any one of the characters. -/
def oneOf (cs : String) : RegularExpression Char := cs.toList.foldr (fun c r => .char c + r) 0

namespace Number

def digit : RegularExpression Char := oneOf "0123456789"

def hexDigit : RegularExpression Char := oneOf "0123456789abcdefABCDEF"

def unsigned : RegularExpression Char := 1 + oneOf "uU"

def exponent : RegularExpression Char := oneOf "eE" * (1 + oneOf "+-") * digit * .star digit

/-- What may end a floating constant: `f` or `lf`, in either case. -/
def floating : RegularExpression Char := 1 + oneOf "fF" + .char 'l' * .char 'f' + .char 'L' * .char 'F'

/-- What may follow the digits that begin a decimal constant. -/
def decimalTail : RegularExpression Char :=
  unsigned + (1 + .char '.' * .star digit) * (1 + exponent) * floating

end Number

open Number in
/-- The numeric constants, without a sign: decimal, hexadecimal and floating. -/
def number : RegularExpression Char :=
  digit * (.star digit * decimalTail)
    + .char '0' * (oneOf "xX" * hexDigit * .star hexDigit * unsigned)
    + .char '.' * (digit * (.star digit * (1 + exponent) * floating))

/-- The operators, those of assignment and of statements included. -/
def operators : List String := [
  "<<=", ">>=", "++", "--", "<=", ">=", "==", "!=", "&&", "||", "^^", "<<", ">>", "+=", "-=", "*=", "/=",
  "%=", "&=", "^=", "|=", "=", "!", "-", "~", "+", "*", "/", "%", "<", ">", "|", "^", "&", ";", "\x7b", "\x7d"]

def symbols : List (String × Token) := [
  ("(", .leftParen), (")", .rightParen), ("[", .leftBracket), ("]", .rightBracket), (".", .dot),
  (",", .comma), (":", .colon), ("?", .question)] ++ operators.map fun o => (o, .operator o)

/-- The token that a whole text is, if it is one. -/
def token? (cs : List Char) : Option Token :=
  if isWord cs then some (.word (String.ofList cs))
  else if number.rmatch cs then some (.number (String.ofList cs))
  else symbols.lookup (String.ofList cs)

/-! ### Longest match -/

def isBlank (c : Char) : Bool := [' ', '\t', '\n', '\x0b', '\x0c', '\r'].contains c

/-- The longest of the first `n` beginnings of a text that is a token, with its length. -/
def longestWithin (cs : List Char) : Nat → Option (Token × Nat)
  | 0 => none
  | n + 1 =>
    match token? (cs.take (n + 1)) with
    | some token => some (token, n + 1)
    | none => longestWithin cs n

def longest? (cs : List Char) : Option (Token × Nat) := longestWithin cs cs.length

/-- The tokens of a text whose first `skip` characters belong to a token that has been read. -/
def lexAfter : Nat → List Char → Option (List Token)
  | _, [] => some []
  | skip + 1, _ :: rest => lexAfter skip rest
  | 0, c :: rest =>
    if isBlank c then lexAfter 0 rest
    else
      match longest? (c :: rest) with
      | some (token, length) => (lexAfter (length - 1) rest).map (token :: ·)
      | none => none

/-- The tokens of a text; `none` where some part of it begins no token. -/
def lex (text : String) : Option (List Token) := lexAfter 0 text.toList

/-! ### What the classes are made of -/

theorem mem_oneOf {cs : String} {w : List Char} :
    w ∈ (oneOf cs).matches' ↔ ∃ c ∈ cs.toList, w = [c] := by
  unfold oneOf
  induction cs.toList with
  | nil => simp [RegularExpression.matches'_zero, Language.notMem_zero]
  | cons c rest ih =>
    have hchar : w ∈ (RegularExpression.char c).matches' ↔ w = [c] := Iff.rfl
    rw [List.foldr_cons, RegularExpression.matches'_add, Language.mem_add, ih, hchar]
    simp

/-- The characters that a regular expression mentions. -/
def letters : RegularExpression Char → List Char
  | .char c => [c]
  | .plus left right => letters left ++ letters right
  | .comp left right => letters left ++ letters right
  | .star inner => letters inner
  | _ => []

theorem mem_letters_of_matches (r : RegularExpression Char) {w : List Char} (h : w ∈ r.matches') :
    ∀ c ∈ w, c ∈ letters r := by
  induction r generalizing w with
  | zero => exact absurd h (Language.notMem_zero w)
  | epsilon =>
    rw [show w = [] from h]
    simp
  | char a =>
    rw [show w = [a] from h]
    simp [letters]
  | plus left right ihLeft ihRight =>
    intro c hc
    rcases h with h | h
    · exact List.mem_append_left _ (ihLeft h c hc)
    · exact List.mem_append_right _ (ihRight h c hc)
  | comp left right ihLeft ihRight =>
    obtain ⟨u, hu, v, hv, rfl⟩ := Language.mem_mul.1 h
    intro c hc
    rcases List.mem_append.1 hc with hc | hc
    · exact List.mem_append_left _ (ihLeft hu c hc)
    · exact List.mem_append_right _ (ihRight hv c hc)
  | star inner ih =>
    obtain ⟨parts, rfl, hparts⟩ := Language.mem_kstar.1 h
    intro c hc
    obtain ⟨part, hpart, hc⟩ := List.mem_flatten.1 hc
    exact ih (hparts part hpart) c hc

/-- Decides a property of the members of a list by going through the list. There being finitely many
characters, `decide` would go through them all. -/
theorem forall_mem_of_all {α : Type} {p : α → Prop} [DecidablePred p] {l : List α}
    (h : (l.all fun a => decide (p a)) = true) : ∀ a ∈ l, p a := by
  simpa using h

theorem isDigit_of_mem_digits {c : Char} (h : c ∈ "0123456789".toList) : c.isDigit = true := by
  have hall : ∀ c ∈ "0123456789".toList, c.isDigit = true := forall_mem_of_all (by decide)
  exact hall c h

theorem mem_digit {c : Char} (h : c.isDigit = true) : [c] ∈ Number.digit.matches' := by
  have hall : ∀ n ∈ List.range' 48 10, Char.ofNat n ∈ "0123456789".toList := by decide
  have hrange : 48 ≤ c.toNat ∧ c.toNat ≤ 57 := Char.isDigit_iff_toNat.1 h
  have hc := hall c.toNat (List.mem_range'_1.2 ⟨hrange.1, by omega⟩)
  rw [Char.ofNat_toNat] at hc
  exact mem_oneOf.2 ⟨c, hc, rfl⟩

theorem mem_star_digit {cs : List Char} :
    cs ∈ (RegularExpression.star Number.digit).matches' ↔ ∀ c ∈ cs, c.isDigit = true := by
  constructor
  · intro h c hc
    exact isDigit_of_mem_digits (mem_letters_of_matches (.star (oneOf "0123456789")) h c hc)
  · intro h
    refine Language.mem_kstar.2 ⟨cs.map fun d => [d], (List.flatMap_singleton' cs).symm, fun y hy => ?_⟩
    obtain ⟨d, hd, rfl⟩ := List.mem_map.1 hy
    exact mem_digit (h d hd)

/-- A number begins with a digit, or with a point and a digit. -/
theorem number_head {w : List Char} (h : number.rmatch w = true) :
    ∃ c rest, w = c :: rest ∧
      (c.isDigit = true ∨ c = '.' ∧ ∃ d more, rest = d :: more ∧ d.isDigit = true) := by
  rw [RegularExpression.rmatch_iff_matches'] at h
  rcases h with (h | h) | h
  · obtain ⟨u, hu, v, -, rfl⟩ := Language.mem_mul.1 h
    obtain ⟨c, hc, rfl⟩ := mem_oneOf.1 hu
    exact ⟨c, v, rfl, .inl (isDigit_of_mem_digits hc)⟩
  · obtain ⟨u, rfl, v, -, rfl⟩ := Language.mem_mul.1 h
    exact ⟨'0', v, rfl, .inl (by decide)⟩
  · obtain ⟨u, rfl, v, hv, rfl⟩ := Language.mem_mul.1 h
    obtain ⟨a, ha, b, -, rfl⟩ := Language.mem_mul.1 hv
    obtain ⟨d, hd, rfl⟩ := mem_oneOf.1 ha
    exact ⟨'.', _, rfl, .inr ⟨rfl, d, b, rfl, isDigit_of_mem_digits hd⟩⟩

/-- The characters before which every token of an expression ends. -/
def closers : List Char := [' ', '(', ')', '[', ']', ',']

/-- The characters before which every token ends. -/
def delimiters : List Char := closers ++ [';', '\n', '\x7b', '\x7d']

private theorem number_not_delimiter {w : List Char} (h : number.rmatch w = true) :
    ∀ c ∈ delimiters, c ∉ w := by
  intro c hc hmem
  have hletters := mem_letters_of_matches number ((RegularExpression.rmatch_iff_matches' _ _).1 h) c hmem
  have hnone : ∀ c ∈ delimiters, c ∉ letters number := forall_mem_of_all (by decide)
  exact hnone c hc hletters

private theorem lookup_eq_none {w : List Char} (h : ∀ s ∈ symbols, s.1.toList ≠ w) :
    symbols.lookup (String.ofList w) = none := by
  rw [List.lookup_eq_none_iff]
  intro s hs
  rw [bne_iff_ne]
  intro he
  exact h s hs (by rw [← he, String.toList_ofList])

theorem isWord_eq_false {w more : List Char} {c : Char} (hw : w ≠ []) (hc : isWordChar c = false) :
    isWord (w ++ c :: more) = false := by
  cases w with
  | nil => exact absurd rfl hw
  | cons first rest => simp [isWord, hc]

theorem not_number_of_head {c : Char} {rest : List Char} (hdigit : c.isDigit = false) (hdot : c ≠ '.') :
    number.rmatch (c :: rest) = false := by
  rw [Bool.eq_false_iff]
  intro h
  obtain ⟨d, more, he, hd⟩ := number_head h
  obtain ⟨rfl, rfl⟩ := List.cons.inj he
  rcases hd with hd | ⟨hd, -⟩
  · rw [hdigit] at hd
    exact absurd hd (by decide)
  · exact hdot hd

theorem isDigit_of_isWordStart {c : Char} (h : isWordStart c = true) : c.isDigit = false := by
  have hletter : isWordStart c
      = (decide (c.val ≥ 'A'.val ∧ c.val ≤ 'Z'.val) || (c.val ≥ 'a'.val && c.val ≤ 'z'.val) || c == '_') := rfl
  rw [Bool.eq_false_iff]
  intro hd
  simp only [hletter, Char.isDigit, Bool.or_eq_true, Bool.and_eq_true, decide_eq_true_eq, beq_iff_eq] at h hd
  obtain ⟨hlow, hhigh⟩ := hd
  rcases h with (⟨h, -⟩ | ⟨h, -⟩) | rfl
  · exact absurd (UInt32.le_trans h hhigh) (by decide)
  · exact absurd (UInt32.le_trans h hhigh) (by decide)
  · exact absurd hhigh (by decide)

/-! ### Where tokens end -/

/-- No token begins with the text followed by the character. -/
def Apart (w : List Char) (c : Char) : Prop := ∀ more, token? (w ++ c :: more) = none

theorem token?_eq_none {w : List Char} (hword : isWord w = false) (hnumber : number.rmatch w = false)
    (hsymbol : ∀ s ∈ symbols, s.1.toList ≠ w) : token? w = none := by
  rw [token?, hword, hnumber]
  exact lookup_eq_none hsymbol

theorem apart_of_delimiter {w : List Char} {c : Char} (hw : w ≠ []) (hc : c ∈ delimiters) : Apart w c := by
  intro more
  have hmem : c ∈ w ++ c :: more := List.mem_append_right _ (List.mem_cons_self ..)
  have hword : ∀ c ∈ delimiters, isWordChar c = false := forall_mem_of_all (by decide)
  have hsymbols : ∀ c ∈ delimiters, ∀ s ∈ symbols, c ∉ s.1.toList.tail := forall_mem_of_all (by decide)
  refine token?_eq_none (isWord_eq_false hw (hword c hc)) ?_ ?_
  · rw [Bool.eq_false_iff]
    exact fun h => number_not_delimiter h c hc hmem
  -- A symbol may be a delimiter, but then it is nothing else: none has one after its first character.
  · intro s hs he
    refine hsymbols c hc s hs ?_
    rw [he, List.tail_append_of_ne_nil hw]
    exact List.mem_append_right _ (List.mem_cons_self ..)

theorem apart_of_closer {w : List Char} {c : Char} (hw : w ≠ []) (hc : c ∈ closers) : Apart w c :=
  apart_of_delimiter hw (List.mem_append_left _ hc)

theorem word_apart_dot {w : List Char} (hw : isWord w = true) : Apart w '.' := by
  cases w with
  | nil => exact absurd hw (by decide)
  | cons first rest =>
    have hfirst : isWordStart first = true := by
      rw [isWord, Bool.and_eq_true] at hw
      exact hw.1
    have hsymbols : ∀ s ∈ symbols, (s.1.toList.head?.all fun c => !isWordStart c) = true := by decide
    intro more
    refine token?_eq_none (isWord_eq_false (List.cons_ne_nil _ _) (by decide)) ?_ ?_
    · apply not_number_of_head
      · exact isDigit_of_isWordStart hfirst
      · rintro rfl
        exact absurd hfirst (by decide)
    · intro s hs he
      have hs := hsymbols s hs
      rw [he] at hs
      simp [hfirst] at hs

/-- The characters that follow a text in the symbols which it begins. -/
def successors (w : List Char) : List Char :=
  symbols.filterMap fun s => if w.isPrefixOf s.1.toList then (s.1.toList.drop w.length).head? else none

/-- Whether a text begins with a character of no word and no number. -/
def beginsSymbol : List Char → Bool
  | [] => false
  | c :: _ => !isWordStart c && !c.isDigit && c != '.'

theorem symbol_apart {w : List Char} {c : Char} (hw : beginsSymbol w = true) (hc : c ∉ successors w) :
    Apart w c := by
  cases w with
  | nil => exact absurd hw (by decide)
  | cons first rest =>
    simp only [beginsSymbol, Bool.and_eq_true, Bool.not_eq_true', bne_iff_ne] at hw
    obtain ⟨⟨hword, hdigit⟩, hdot⟩ := hw
    intro more
    refine token?_eq_none (by simp [isWord, hword]) (not_number_of_head hdigit hdot) ?_
    intro s hs he
    refine hc (List.mem_filterMap.2 ⟨s, hs, ?_⟩)
    rw [he, if_pos (List.isPrefixOf_iff_prefix.2 (List.prefix_append _ _)), List.drop_left]
    rfl

/-- Brackets and commas are tokens by themselves wherever they stand. -/
theorem punctuation_apart {p : Char} (hp : p ∈ ['(', ')', '[', ']', ',']) (c : Char) : Apart [p] c := by
  have hplain : ∀ p ∈ ['(', ')', '[', ']', ','], beginsSymbol [p] = true ∧ successors [p] = [] :=
    forall_mem_of_all (by decide)
  obtain ⟨hbegins, hnone⟩ := hplain p hp
  exact symbol_apart hbegins (by simp [hnone])

/-- A point before a word does not begin a number. -/
theorem dot_apart {c : Char} (hc : isWordStart c = true) : Apart ['.'] c := by
  have hsymbols : ∀ s ∈ symbols, s.1.toList.head? = some '.' → s.1.toList.length = 1 := by decide
  intro more
  refine token?_eq_none (by simp [isWord, isWordStart]) ?_ ?_
  · rw [Bool.eq_false_iff]
    intro h
    obtain ⟨d, rest, he, hd⟩ := number_head h
    obtain ⟨rfl, rfl⟩ := List.cons.inj he
    rcases hd with hd | ⟨-, d, more', he, hd⟩
    · exact absurd hd (by decide)
    · obtain ⟨rfl, -⟩ := List.cons.inj he
      rw [isDigit_of_isWordStart hc] at hd
      exact absurd hd (by decide)
  · intro s hs he
    have hlength := hsymbols s hs (by rw [he]; rfl)
    rw [he] at hlength
    simp at hlength

/-! ### Reading one token -/

theorem lexAfter_eq_drop (n : Nat) (cs : List Char) : lexAfter n cs = lexAfter 0 (cs.drop n) := by
  induction cs generalizing n with
  | nil => simp [lexAfter]
  | cons c rest ih =>
    cases n with
    | zero => rfl
    | succ n =>
      rw [lexAfter, ih, List.drop_succ_cons]

theorem lexAfter_blank {c : Char} (hc : isBlank c = true) (rest : List Char) :
    lexAfter 0 (c :: rest) = lexAfter 0 rest := by
  rw [lexAfter, if_pos hc]

private theorem longestWithin_append {w rest : List Char} {token : Token} (hw : token? w = some token)
    (hpos : w ≠ []) (hapart : ∀ c ∈ rest.head?, Apart w c) (n : Nat) (hn : n ≤ rest.length) :
    longestWithin (w ++ rest) (w.length + n) = some (token, w.length) := by
  induction n with
  | zero =>
    obtain ⟨k, hk⟩ := Nat.exists_eq_succ_of_ne_zero (mt List.length_eq_zero_iff.1 hpos)
    rw [Nat.add_zero, hk, Nat.succ_eq_add_one, longestWithin, ← Nat.succ_eq_add_one, ← hk, List.take_left, hw]
  | succ n ih =>
    cases rest with
    | nil => simp at hn
    | cons c rest =>
      have hlonger : token? ((w ++ c :: rest).take (w.length + n + 1)) = none := by
        rw [Nat.add_assoc, List.take_length_add_append, List.take_succ_cons]
        exact hapart c rfl _
      rw [← Nat.add_assoc, longestWithin, hlonger]
      exact ih (by omega)

theorem token?_nil : token? [] = none := by decide

theorem not_blank_of_token? {c : Char} {rest : List Char} {token : Token}
    (h : token? (c :: rest) = some token) : isBlank c = false := by
  by_contra hblank
  rw [Bool.not_eq_false] at hblank
  have hblanks : ∀ c ∈ [' ', '\t', '\n', '\x0b', '\x0c', '\r'],
      isWordStart c = false ∧ c.isDigit = false ∧ c ≠ '.' ∧ ∀ s ∈ symbols, s.1.toList.head? ≠ some c :=
    forall_mem_of_all (by decide)
  obtain ⟨hword, hdigit, hdot, hsymbols⟩ := hblanks c (by simpa [isBlank] using hblank)
  have hnone : token? (c :: rest) = none := by
    refine token?_eq_none (by simp [isWord, hword]) (not_number_of_head hdigit hdot) ?_
    intro s hs he
    exact hsymbols s hs (by rw [he]; rfl)
  rw [hnone] at h
  exact absurd h (by simp)

theorem longest?_append {c : Char} {w rest : List Char} {token : Token} (hw : token? (c :: w) = some token)
    (hapart : ∀ d ∈ rest.head?, Apart (c :: w) d) :
    longest? (c :: (w ++ rest)) = some (token, w.length + 1) := by
  have h := longestWithin_append hw (List.cons_ne_nil c w) hapart rest.length le_rfl
  rwa [List.cons_append, ← List.length_append, List.cons_append] at h

/-- A token that is apart from what follows it is the next one read. -/
theorem lexAfter_token {w rest : List Char} {token : Token} (hw : token? w = some token)
    (hapart : ∀ c ∈ rest.head?, Apart w c) :
    lexAfter 0 (w ++ rest) = (lexAfter 0 rest).map (token :: ·) := by
  cases w with
  | nil =>
    rw [token?_nil] at hw
    exact absurd hw (by simp)
  | cons c w =>
    rw [List.cons_append, lexAfter, not_blank_of_token? hw, longest?_append hw hapart]
    simp only [Bool.false_eq_true, if_false, Nat.add_sub_cancel]
    rw [lexAfter_eq_drop, List.drop_left]

/-! ### Reading a text piece by piece -/

/-- The text is read as the tokens wherever it stands before one of the characters or at the end. -/
def Lexes (stops cs : List Char) (ts : List Token) : Prop :=
  ∀ rest, (∀ c ∈ rest.head?, c ∈ stops) → lexAfter 0 (cs ++ rest) = (lexAfter 0 rest).map (ts ++ ·)

namespace Lexes

variable {stops stops' w cs ds : List Char} {ts us : List Token} {token : Token}

theorem mono (h : Lexes stops cs ts) (hstops : stops' ⊆ stops) : Lexes stops' cs ts :=
  fun rest hrest => h rest fun c hc => hstops (hrest c hc)

theorem single (hw : token? w = some token) (hapart : ∀ c ∈ stops, Apart w c) : Lexes stops w [token] :=
  fun _ hrest => lexAfter_token hw fun c hc => hapart c (hrest c hc)

theorem blank (h : Lexes stops cs ts) : Lexes stops (' ' :: cs) ts := by
  intro rest hrest
  rw [List.cons_append, lexAfter_blank (by decide), h rest hrest]

theorem append (hleft : Lexes stops cs ts) (hright : Lexes stops' ds us)
    (hhead : ∃ c rest, ds = c :: rest ∧ c ∈ stops) : Lexes stops' (cs ++ ds) (ts ++ us) := by
  obtain ⟨c, tail, rfl, hc⟩ := hhead
  intro rest hrest
  have hnext : ∀ d ∈ (c :: tail ++ rest).head?, d ∈ stops := by
    intro d hd
    cases hd
    exact hc
  rw [List.append_assoc, hleft _ hnext, hright rest hrest, Option.map_map]
  congr 1
  funext more
  exact (List.append_assoc ts us more).symm

/-- A token that is apart from the text after it goes in front of what the text is read as. -/
theorem cons (hw : token? w = some token) (h : Lexes stops ds ts)
    (hhead : ∃ c rest, ds = c :: rest ∧ Apart w c) : Lexes stops (w ++ ds) (token :: ts) := by
  obtain ⟨c, tail, rfl, hc⟩ := hhead
  have hsingle : Lexes [c] w [token] := Lexes.single hw fun d hd => by
    rw [List.mem_singleton.1 hd]
    exact hc
  exact hsingle.append h ⟨c, tail, rfl, List.mem_singleton_self c⟩

end Lexes

theorem lex_eq_of_lexes {stops : List Char} {text : String} {ts : List Token}
    (h : Lexes stops text.toList ts) : lex text = some ts := by
  have hread := h [] (by simp)
  rw [List.append_nil] at hread
  simpa [lex, lexAfter] using hread

end GlslCompiler.Grammar

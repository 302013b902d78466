import GlslCompiler.Proofs.Expression.Spelling

/-!
# The numbers in a text

Any text is read as tokens if the characters that begin none are passed over. What matters here of the tokens is the
numbers. Two parts of a text can be read apart wherever no token reaches from the one into the other: at a delimiter,
whatever stands around it, behind the characters of symbols, and at a point unless a whole number stands before it.
-/

namespace GlslCompiler.Grammar

/-- The tokens of a text whose first `skip` characters belong to a token that has been read. A character that begins
no token is passed over. -/
def tokensAfter : Nat → List Char → List Token
  | _, [] => []
  | skip + 1, _ :: rest => tokensAfter skip rest
  | 0, c :: rest =>
    match longest? (c :: rest) with
    | some (token, length) => token :: tokensAfter (length - 1) rest
    | none => tokensAfter 0 rest

def Token.number? : Token → Option String
  | .number text => some text
  | _ => none

def numbers (cs : List Char) : List String := (tokensAfter 0 cs).filterMap Token.number?

theorem mem_symbols_of_lookup {text : String} {token : Token} (h : symbols.lookup text = some token) :
    (text, token) ∈ symbols := by
  obtain ⟨front, rest, heq, -⟩ := List.lookup_eq_some_iff.1 h
  rw [heq]
  exact List.mem_append_right front List.mem_cons_self

theorem number?_of_lookup {text : String} {token : Token} (h : symbols.lookup text = some token) :
    token.number? = none := by
  have hall : ∀ s ∈ symbols, s.2.number? = none := by decide
  exact hall _ (mem_symbols_of_lookup h)

/-! ### Reading on -/

theorem tokensAfter_eq_drop (n : Nat) (cs : List Char) : tokensAfter n cs = tokensAfter 0 (cs.drop n) := by
  induction cs generalizing n with
  | nil => simp [tokensAfter]
  | cons c rest ih =>
    cases n with
    | zero => rfl
    | succ n => rw [tokensAfter, ih, List.drop_succ_cons]

theorem longestWithin_eq_some {cs : List Char} {n length : Nat} {token : Token}
    (h : longestWithin cs n = some (token, length)) :
    0 < length ∧ length ≤ n ∧ token? (cs.take length) = some token := by
  induction n with
  | zero => cases h
  | succ n ih =>
    rw [longestWithin] at h
    split at h
    · rename_i htoken
      cases h
      exact ⟨by omega, le_rfl, htoken⟩
    · obtain ⟨hpos, hle, htoken⟩ := ih h
      exact ⟨hpos, by omega, htoken⟩

/-- What is read first: a token, or a character that begins none. -/
theorem tokensAfter_cons (c : Char) (rest : List Char) :
    (longest? (c :: rest) = none ∧ tokensAfter 0 (c :: rest) = tokensAfter 0 rest) ∨
    ∃ token n, n ≤ rest.length ∧ longest? (c :: rest) = some (token, n + 1) ∧
      token? (c :: rest.take n) = some token ∧
      tokensAfter 0 (c :: rest) = token :: tokensAfter 0 (rest.drop n) := by
  cases hread : longest? (c :: rest) with
  | none => exact .inl ⟨rfl, by rw [tokensAfter, hread]⟩
  | some read =>
    obtain ⟨token, length⟩ := read
    obtain ⟨hpos, hle, htoken⟩ := longestWithin_eq_some hread
    obtain ⟨n, rfl⟩ := Nat.exists_eq_succ_of_ne_zero (Nat.ne_of_gt hpos)
    refine .inr ⟨token, n, by simpa using hle, rfl, htoken, ?_⟩
    rw [tokensAfter, hread, ← tokensAfter_eq_drop]
    rfl

/-- What holds of a text if it holds of what is left behind the first token, or behind a character that begins none,
holds of every text. -/
theorem tokensAfter_induct {P : List Char → Prop} (nil : P [])
    (skip : ∀ c cs, longest? (c :: cs) = none → tokensAfter 0 (c :: cs) = tokensAfter 0 cs → P cs → P (c :: cs))
    (read : ∀ c cs token k, k ≤ cs.length → longest? (c :: cs) = some (token, k + 1) →
      token? (c :: cs.take k) = some token → tokensAfter 0 (c :: cs) = token :: tokensAfter 0 (cs.drop k) →
      P (cs.drop k) → P (c :: cs)) (cs : List Char) : P cs := by
  induction hn : cs.length using Nat.strong_induction_on generalizing cs with
  | _ n ih =>
    cases cs with
    | nil => exact nil
    | cons c cs =>
      obtain ⟨hnone, hread⟩ | ⟨token, k, hk, hsome, htoken, hread⟩ := tokensAfter_cons c cs
      · exact skip c cs hnone hread (ih cs.length (by simp [← hn]) cs rfl)
      · have hlength : (cs.drop k).length < n := by
          rw [← hn, List.length_drop, List.length_cons]
          omega
        exact read c cs token k hk hsome htoken hread (ih _ hlength _ rfl)

/-- A text of tokens and blanks alone is read as it is otherwise. -/
theorem tokensAfter_of_lexAfter {n : Nat} {cs : List Char} {ts : List Token} (h : lexAfter n cs = some ts) :
    tokensAfter n cs = ts := by
  induction cs generalizing n ts with
  | nil => simpa [lexAfter, tokensAfter] using h
  | cons c rest ih =>
    cases n with
    | succ n => exact ih h
    | zero =>
      obtain ⟨hnone, hread⟩ | ⟨token, k, -, hsome, htoken, -⟩ := tokensAfter_cons c rest
      · rw [hread]
        by_cases hblank : isBlank c = true
        · rw [lexAfter_blank hblank] at h
          exact ih h
        · simp [lexAfter, hblank, hnone] at h
      · rw [lexAfter, not_blank_of_token? htoken, hsome] at h
        obtain ⟨others, hothers, rfl⟩ := Option.map_eq_some_iff.1 h
        rw [tokensAfter, hsome]
        show token :: tokensAfter (k + 1 - 1) rest = _
        rw [ih hothers]

theorem tokensAfter_token {w rest : List Char} {token : Token} (hw : token? w = some token)
    (hapart : ∀ c ∈ rest.head?, Apart w c) : tokensAfter 0 (w ++ rest) = token :: tokensAfter 0 rest := by
  cases w with
  | nil =>
    rw [token?_nil] at hw
    cases hw
  | cons c w =>
    rw [List.cons_append, tokensAfter, longest?_append hw hapart]
    show token :: tokensAfter w.length (w ++ rest) = _
    rw [tokensAfter_eq_drop, List.drop_left]

theorem numbers_nil : numbers [] = [] := rfl

theorem numbers_token {w rest : List Char} {token : Token} (hw : token? w = some token)
    (hapart : ∀ c ∈ rest.head?, Apart w c) : numbers (w ++ rest) = token.number?.toList ++ numbers rest := by
  rw [numbers, tokensAfter_token hw hapart, List.filterMap_cons]
  cases token.number? <;> rfl

theorem numbers_of_token {w : List Char} {token : Token} (hw : token? w = some token) :
    numbers w = token.number?.toList := by
  have hnext : ∀ c ∈ ([] : List Char).head?, Apart w c := by simp
  have h := numbers_token hw hnext
  rwa [List.append_nil, numbers_nil, List.append_nil] at h

theorem mem_numbers {w : String} {cs : List Char} : w ∈ numbers cs ↔ .number w ∈ tokensAfter 0 cs := by
  rw [numbers, List.mem_filterMap]
  constructor
  · rintro ⟨token, hmem, htype⟩
    cases token <;> cases htype
    exact hmem
  · exact fun h => ⟨_, h, rfl⟩

theorem text_of_number {cs : List Char} {w : String} (h : token? cs = some (.number w)) : w.toList = cs := by
  rw [token?] at h
  split at h
  · cases h
  · split at h
    · cases h
      exact String.toList_ofList
    · cases number?_of_lookup h

/-- A number stands in the text in which it is read. -/
theorem infix_of_mem_numbers {w : String} {cs : List Char} (h : w ∈ numbers cs) : w.toList <:+: cs := by
  rw [mem_numbers] at h
  induction cs using tokensAfter_induct with
  | nil => cases h
  | skip c cs _ hread ih =>
    rw [hread] at h
    exact (ih h).trans (List.suffix_cons c cs).isInfix
  | read c cs token k _ _ htoken hread ih =>
    rw [hread] at h
    rcases List.mem_cons.1 h with rfl | h
    · rw [text_of_number htoken]
      exact (List.take_prefix (k + 1) (c :: cs)).isInfix
    · exact (ih h).trans ((List.drop_suffix k cs).trans (List.suffix_cons c cs)).isInfix

/-! ### Delimiters -/

/-- No beginning of a text sees what stands behind the text. -/
theorem longestWithin_append_of_le (cs rest : List Char) {n : Nat} (hn : n ≤ cs.length) :
    longestWithin (cs ++ rest) n = longestWithin cs n := by
  induction n with
  | zero => rfl
  | succ n ih => rw [longestWithin, longestWithin, List.take_append_of_le_length hn, ih (by omega)]

theorem longestWithin_delimiter {cs rest : List Char} {d : Char} (hd : d ∈ delimiters) (hcs : cs ≠ []) (n : Nat) :
    longestWithin (cs ++ d :: rest) (cs.length + n) = longestWithin cs cs.length := by
  induction n with
  | zero => exact longestWithin_append_of_le cs (d :: rest) le_rfl
  | succ n ih =>
    have hlonger : token? ((cs ++ d :: rest).take (cs.length + n + 1)) = none := by
      rw [Nat.add_assoc, List.take_length_add_append, List.take_succ_cons]
      exact apart_of_delimiter hcs hd _
    rw [← Nat.add_assoc, longestWithin, hlonger]
    exact ih

theorem longest?_delimiter {cs rest : List Char} {d : Char} (hd : d ∈ delimiters) (hcs : cs ≠ []) :
    longest? (cs ++ d :: rest) = longest? cs := by
  rw [longest?, List.length_append]
  exact longestWithin_delimiter hd hcs _

theorem tokensAfter_delimiter {d : Char} (hd : d ∈ delimiters) (cs rest : List Char) :
    tokensAfter 0 (cs ++ d :: rest) = tokensAfter 0 cs ++ tokensAfter 0 (d :: rest) := by
  have hsame : ∀ c cs, longest? (c :: (cs ++ d :: rest)) = longest? (c :: cs) :=
    fun c cs => longest?_delimiter hd (List.cons_ne_nil c cs)
  induction cs using tokensAfter_induct with
  | nil => rfl
  | skip c cs hnone hread ih =>
    rw [List.cons_append, tokensAfter, hsame, hnone, hread]
    exact ih
  | read c cs token k hk hsome _ hread ih =>
    rw [List.cons_append, tokensAfter, hsame, hsome, hread]
    show token :: tokensAfter k (cs ++ d :: rest) = _
    rw [tokensAfter_eq_drop, List.drop_append_of_le_length hk, ih]
    rfl

/-! ### Characters of symbols -/

/-- A character of no word and no number, other than a point. -/
def isSymbolChar (c : Char) : Bool := !isWordChar c && c != '.'

theorem isSymbolChar_head {c : Char} (h : isSymbolChar c = true) :
    isWordStart c = false ∧ c.isDigit = false ∧ c ≠ '.' := by
  simpa [isSymbolChar, isWordChar, and_assoc] using h

/-- A token that begins with a character of a symbol is a symbol. -/
theorem symbol_of_head {c : Char} {w : List Char} {token : Token} (hc : isSymbolChar c = true)
    (h : token? (c :: w) = some token) : token.number? = none ∧ ∀ d ∈ w, isSymbolChar d = true := by
  obtain ⟨hword, hdigit, hdot⟩ := isSymbolChar_head hc
  rw [token?, if_neg (by simp [isWord, hword]), if_neg (by simp [not_number_of_head hdigit hdot])] at h
  have hsymbols : ∀ s ∈ symbols, s.1.toList.tail.all isSymbolChar = true := by decide
  have htail := hsymbols _ (mem_symbols_of_lookup h)
  rw [String.toList_ofList] at htail
  exact ⟨number?_of_lookup h, List.all_eq_true.1 htail⟩

theorem numbers_cons {c : Char} (hc : isSymbolChar c = true) (rest : List Char) :
    numbers (c :: rest) = numbers rest := by
  induction hn : rest.length using Nat.strong_induction_on generalizing c rest with
  | _ n ih =>
    obtain ⟨-, hread⟩ | ⟨token, k, hk, -, htoken, hread⟩ := tokensAfter_cons c rest
    · rw [numbers, hread, numbers]
    · obtain ⟨hnone, hall⟩ := symbol_of_head hc htoken
      -- The rest of the symbol can be left out of what is read, one character after the other.
      have hskip : ∀ m ≤ k, numbers rest = numbers (rest.drop m) := by
        intro m hm
        induction m with
        | zero => rfl
        | succ m ihm =>
          have hlt : m < rest.length := by omega
          have hmem : rest[m] ∈ rest.take k := List.mem_take_iff_getElem.2 ⟨m, by omega, rfl⟩
          have hlength : (rest.drop (m + 1)).length < n := by
            rw [← hn, List.length_drop]
            omega
          rw [ihm (by omega), List.drop_eq_getElem_cons hlt, ih _ hlength (hall _ hmem) _ rfl]
      rw [hskip k le_rfl, numbers, hread, List.filterMap_cons, hnone]
      rfl

theorem numbers_symbols {cs : List Char} (h : ∀ c ∈ cs, isSymbolChar c = true) (rest : List Char) :
    numbers (cs ++ rest) = numbers rest := by
  induction cs with
  | nil => rfl
  | cons c cs ih =>
    obtain ⟨hc, hcs⟩ := List.forall_mem_cons.1 h
    rw [List.cons_append, numbers_cons hc, ih hcs]

theorem isSymbolChar_of_delimiter {d : Char} (hd : d ∈ delimiters) : isSymbolChar d = true := by
  have hall : ∀ d ∈ delimiters, isSymbolChar d = true := forall_mem_of_all (by decide)
  exact hall d hd

/-- Numbers do not reach over a delimiter. -/
theorem numbers_delimiter {d : Char} (hd : d ∈ delimiters) (cs rest : List Char) :
    numbers (cs ++ d :: rest) = numbers cs ++ numbers rest := by
  rw [numbers, tokensAfter_delimiter hd, List.filterMap_append]
  show numbers cs ++ numbers (d :: rest) = _
  rw [numbers_cons (isSymbolChar_of_delimiter hd)]

theorem numbers_append_of_ends {cs : List Char} (h : ∀ d ∈ cs.getLast?, d ∈ delimiters) (ds : List Char) :
    numbers (cs ++ ds) = numbers cs ++ numbers ds := by
  rcases List.eq_nil_or_concat cs with rfl | ⟨front, d, rfl⟩
  · rfl
  · have hd : d ∈ delimiters := h d (by simp)
    rw [List.concat_eq_append, List.append_assoc, List.singleton_append, numbers_delimiter hd, numbers_delimiter hd,
      numbers_nil, List.append_nil]

theorem numbers_append_of_begins {ds : List Char} (h : ∀ d ∈ ds.head?, d ∈ delimiters) (cs : List Char) :
    numbers (cs ++ ds) = numbers cs ++ numbers ds := by
  cases ds with
  | nil => rw [List.append_nil, numbers_nil, List.append_nil]
  | cons d ds =>
    have hd : d ∈ delimiters := h d rfl
    rw [numbers_delimiter hd, numbers_cons (isSymbolChar_of_delimiter hd)]

/-! ### Points -/

theorem numbers_word {w : List Char} (hw : isWord w = true) : numbers w = [] := numbers_of_token (token?_of_isWord hw)

theorem numbers_word_dot {w : List Char} (hw : isWord w = true) (rest : List Char) :
    numbers (w ++ '.' :: rest) = numbers ('.' :: rest) := by
  refine numbers_token (token?_of_isWord hw) fun c hc => ?_
  cases hc
  exact word_apart_dot hw

theorem numbers_dot_word {w : List Char} (hw : isWord w = true) (rest : List Char) :
    numbers ('.' :: (w ++ rest)) = numbers (w ++ rest) := by
  obtain ⟨c, w, rfl, hc⟩ := isWord_cons hw
  have htoken : token? ['.'] = some .dot := by decide
  refine numbers_token htoken fun d hd => ?_
  cases hd
  exact dot_apart hc

/-- A number has one point at most, and only digits stand before it. -/
theorem number_point {w : List Char} (h : number.rmatch w = true) :
    '.' ∉ w ∨ ∃ whole rest, w = whole ++ '.' :: rest ∧ (∀ c ∈ whole, c.isDigit = true) ∧ '.' ∉ rest := by
  have hlacks : ∀ r : RegularExpression Char, '.' ∉ letters r → ∀ u ∈ r.matches', '.' ∉ u :=
    fun r hr u hu hmem => hr (mem_letters_of_matches r hu _ hmem)
  rw [RegularExpression.rmatch_iff_matches'] at h
  rcases h with (h | h) | h
  · obtain ⟨first, hfirst, v, hv, rfl⟩ := Language.mem_mul.1 h
    obtain ⟨digits, hdigits, tail, htail, rfl⟩ := Language.mem_mul.1 hv
    have hwhole : ∀ c ∈ first ++ digits, c.isDigit = true := by
      obtain ⟨c, hc, rfl⟩ := mem_oneOf.1 hfirst
      exact List.forall_mem_append.2 ⟨by simpa using isDigit_of_mem_digits hc, mem_star_digit.1 hdigits⟩
    have hpoint : '.' ∉ first ++ digits := fun hmem => absurd (hwhole _ hmem) (by decide)
    rw [← List.append_assoc]
    rcases htail with htail | htail
    · have htail := hlacks Number.unsigned (by decide) tail htail
      exact .inl (by simp_all)
    · obtain ⟨front, hfront, suffix, hsuffix, rfl⟩ := Language.mem_mul.1 htail
      obtain ⟨fraction, hfraction, e, he, rfl⟩ := Language.mem_mul.1 hfront
      have hsuffix := hlacks Number.floating (by decide) suffix hsuffix
      have he := hlacks (1 + Number.exponent) (by decide) e he
      rcases hfraction with hfraction | hfraction
      · rw [show fraction = [] from hfraction]
        exact .inl (by simp_all)
      · obtain ⟨point, rfl, behind, hbehind, rfl⟩ := Language.mem_mul.1 hfraction
        have hbehind := hlacks (.star Number.digit) (by decide) behind hbehind
        exact .inr ⟨first ++ digits, behind ++ e ++ suffix, by simp, hwhole, by simp_all⟩
  · exact .inl (hlacks (.char '0' * (oneOf "xX" * Number.hexDigit * .star Number.hexDigit * Number.unsigned))
      (by decide) w h)
  · obtain ⟨point, rfl, rest, hrest, rfl⟩ := Language.mem_mul.1 h
    exact .inr ⟨[], rest, rfl, by simp, hlacks _ (by decide) rest hrest⟩

/-- Where a text has one point only, what stands before it is determined. -/
theorem eq_of_append_point {cs ds whole rest : List Char} (hwhole : '.' ∉ whole) (hrest : '.' ∉ rest)
    (h : cs ++ '.' :: ds = whole ++ '.' :: rest) : cs = whole := by
  rcases List.append_eq_append_iff.1 h with ⟨more, rfl, hmore⟩ | ⟨more, rfl, hmore⟩
  · cases more with
    | nil => exact (List.append_nil cs).symm
    | cons c more =>
      obtain ⟨rfl, -⟩ := List.cons.inj hmore
      simp at hwhole
  · cases more with
    | nil => exact List.append_nil whole
    | cons c more =>
      obtain ⟨-, rfl⟩ := List.cons.inj hmore
      simp at hrest

theorem number_apart_dot {w : List Char} (hw : number.rmatch w = true) (hdigits : w.all Char.isDigit = false) :
    Apart w '.' := by
  intro more
  have hne : w ≠ [] := by
    rintro rfl
    cases hdigits
  refine token?_eq_none (isWord_eq_false hne (by decide)) ?_ ?_
  · rw [Bool.eq_false_iff]
    intro h
    rcases number_point h with h | ⟨whole, rest, heq, hwhole, hrest⟩
    · simp at h
    · have hpoint : '.' ∉ whole := fun hmem => absurd (hwhole _ hmem) (by decide)
      rw [eq_of_append_point hpoint hrest heq, List.all_eq_true.2 hwhole] at hdigits
      cases hdigits
  · have hsymbols : ∀ s ∈ symbols, '.' ∉ s.1.toList.tail := by decide
    intro s hs he
    refine hsymbols s hs ?_
    rw [he, List.tail_append_of_ne_nil hne]
    simp

/-- A point behind the text is not read as part of a number that the text ends with. -/
def Settled (cs : List Char) : Prop := ∀ rest, numbers (cs ++ '.' :: rest) = numbers cs ++ numbers ('.' :: rest)

namespace Settled

theorem nil : Settled [] := fun _ => rfl

theorem delimiter {d : Char} (hd : d ∈ delimiters) (cs : List Char) : Settled (cs ++ [d]) := by
  intro rest
  refine numbers_append_of_ends (fun c hc => ?_) _
  rw [List.getLast?_concat] at hc
  cases hc
  exact hd

theorem symbols {cs ds : List Char} (h : ∀ c ∈ cs, isSymbolChar c = true) (hds : Settled ds) : Settled (cs ++ ds) := by
  intro rest
  rw [List.append_assoc, numbers_symbols h, numbers_symbols h, hds]

theorem of_token {w : List Char} {token : Token} (hw : token? w = some token) (hapart : Apart w '.') : Settled w := by
  intro rest
  rw [numbers_of_token hw]
  refine numbers_token hw fun c hc => ?_
  cases hc
  exact hapart

theorem word {w : List Char} (hw : isWord w = true) : Settled w := of_token (token?_of_isWord hw) (word_apart_dot hw)

theorem number {w : List Char} (hw : Grammar.number.rmatch w = true) (hdigits : w.all Char.isDigit = false) :
    Settled w := of_token (token?_number hw) (number_apart_dot hw hdigits)

theorem numbers_member {cs w : List Char} (h : Settled cs) (hw : isWord w = true) :
    numbers (cs ++ '.' :: w) = numbers cs := by
  have hdot := numbers_dot_word hw []
  rw [List.append_nil, numbers_word hw] at hdot
  rw [h, hdot, List.append_nil]

theorem member {cs w : List Char} (h : Settled cs) (hw : isWord w = true) : Settled (cs ++ '.' :: w) := by
  intro rest
  rw [h.numbers_member hw, List.append_assoc, List.cons_append, h, numbers_dot_word hw, numbers_word_dot hw]

end Settled

end GlslCompiler.Grammar

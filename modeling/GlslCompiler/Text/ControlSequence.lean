/-!
# Terminal control sequences

Text that is shown other than on a terminal is plain: a control sequence, that is an escape character, a
bracket, parameters and a letter, is left out. An escape that does not begin such a sequence stays.
-/

namespace GlslCompiler.Text

/-- A parameter character of a control sequence. -/
def isParameter (c : Char) : Bool := c == ';' || c == '?' || c.isDigit

/-- What follows the control sequence whose introducer has just been read, if it is complete. -/
def afterSequence? (cs : List Char) : Option (List Char) :=
  match cs.dropWhile isParameter with
  | final :: rest => if final.isAlpha then some rest else none
  | [] => none

theorem afterSequence?_length {cs rest : List Char} (h : afterSequence? cs = some rest) :
    rest.length < cs.length := by
  unfold afterSequence? at h
  split at h
  · rename_i final tail heq
    split at h
    · obtain rfl := Option.some.inj h
      have hlen : (cs.dropWhile isParameter).length ≤ cs.length :=
        (List.dropWhile_sublist isParameter).length_le
      rw [heq, List.length_cons] at hlen
      omega
    · cases h
  · cases h

/-- Leaves out every control sequence. -/
def dropControlSequences (cs : List Char) : List Char :=
  match cs with
  | [] => []
  | '\x1b' :: '[' :: rest =>
    match _h : afterSequence? rest with
    | some after => dropControlSequences after
    | none => '\x1b' :: dropControlSequences ('[' :: rest)
  | c :: rest => c :: dropControlSequences rest
termination_by cs.length
decreasing_by
  · have := afterSequence?_length _h
    simp only [List.length_cons]
    omega
  · simp
  · simp

/-- A text as it is shown where control sequences mean nothing. -/
def plain (s : String) : String := String.ofList (dropControlSequences s.toList)

/-- Texts as they are shown there, each on lines of its own. -/
def shown (texts : List String) : String := String.join (texts.map fun text => plain text ++ "\n")

end GlslCompiler.Text

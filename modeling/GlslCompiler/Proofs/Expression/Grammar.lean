import GlslCompiler.Proofs.Expression.Token

/-!
# The expression grammar of the shading language

The grammar derives trees from lists of tokens. A tree shows neither parentheses nor the type of a
constant, and it does not tell a constructor from a call, nor a swizzle from a field: the language writes
them alike. A word that is reserved for later versions of the language counts as an identifier.

Phrases have levels, and each level derives what the next one does:

* 0 expressions, 1 assignments, 2 conditionals,
* 3 to 13 the binary operators, from `||` to `*`,
* 14 prefix operators, 15 calls, members, subscripts and suffix operators, 16 primary expressions.

A call is derived as the language does it, from a header that ends at the opening parenthesis and takes
its arguments one by one; a type keyword stands only at the beginning of a header.
-/

namespace GlslCompiler.Grammar

/-! ### Keywords and operators -/

def keywords : List String := [
  "attribute", "const", "uniform", "varying", "coherent", "volatile", "restrict", "readonly", "writeonly",
  "layout", "centroid", "flat", "smooth", "noperspective", "patch", "sample", "break", "continue", "do",
  "for", "while", "switch", "case", "default", "if", "else", "subroutine", "in", "out", "inout", "true",
  "false", "invariant", "precise", "discard", "return", "lowp", "mediump", "highp", "precision", "struct"]

def scalarTypes : List String := ["void", "bool", "int", "uint", "float", "double", "atomic_uint"]

def vectorTypes : List String :=
  ["", "b", "i", "u", "d"].flatMap fun scalar => ["2", "3", "4"].map fun size => scalar ++ "vec" ++ size

def matrixTypes : List String :=
  ["", "d"].flatMap fun scalar =>
    ["2", "3", "4", "2x2", "2x3", "2x4", "3x2", "3x3", "3x4", "4x2", "4x3", "4x4"].map fun size =>
      scalar ++ "mat" ++ size

def resourceTypes : List String :=
  ["", "i", "u"].flatMap fun scalar =>
    ["sampler", "image"].flatMap fun kind =>
      ["1D", "2D", "3D", "Cube", "2DRect", "1DArray", "2DArray", "CubeArray", "Buffer", "2DMS",
        "2DMSArray"].map fun shape => scalar ++ kind ++ shape

def shadowTypes : List String :=
  ["1D", "2D", "Cube", "2DRect", "1DArray", "2DArray", "CubeArray"].map fun shape =>
    "sampler" ++ shape ++ "Shadow"

def isTypeKeyword (text : String) : Bool :=
  (scalarTypes ++ vectorTypes ++ matrixTypes ++ resourceTypes ++ shadowTypes).contains text

def isKeyword (text : String) : Bool := isTypeKeyword text || keywords.contains text

def isBoolean (text : String) : Bool := text == "true" || text == "false"

/-- The binary operators by level, those that bind least first. -/
def binaryOperators : List (List String) := [
  ["||"], ["^^"], ["&&"], ["|"], ["^"], ["&"], ["==", "!="], ["<", ">", "<=", ">="], ["<<", ">>"],
  ["+", "-"], ["*", "/", "%"]]

/-- The level of a binary operator. -/
def binaryLevel? (operator : String) : Option Nat :=
  (binaryOperators.findIdx? (·.contains operator)).map (· + 3)

def isPrefixOperator (operator : String) : Bool := ["++", "--", "+", "-", "!", "~"].contains operator

def isSuffixOperator (operator : String) : Bool := ["++", "--"].contains operator

def isAssignment (operator : String) : Bool :=
  ["=", "*=", "/=", "%=", "+=", "-=", "<<=", ">>=", "&=", "^=", "|="].contains operator

theorem binaryLevel?_bounds {operator : String} {n : Nat} (h : binaryLevel? operator = some n) :
    3 ≤ n ∧ n ≤ 13 := by
  obtain ⟨i, hi, rfl⟩ := Option.map_eq_some_iff.1 h
  have hlt : i < binaryOperators.length := (List.findIdx?_eq_some_iff_getElem.1 hi).1
  have hlength : binaryOperators.length = 11 := by decide
  omega

theorem mem_of_binaryLevel? {operator : String} {n : Nat} (h : binaryLevel? operator = some n) :
    operator ∈ binaryOperators.flatten := by
  obtain ⟨i, hi, -⟩ := Option.map_eq_some_iff.1 h
  obtain ⟨hlt, hcontains, -⟩ := List.findIdx?_eq_some_iff_getElem.1 hi
  exact List.mem_flatten_of_mem (List.getElem_mem hlt) (List.contains_iff_mem.1 hcontains)

/-! ### Derivations -/

inductive Tree where
  | literal (text : String)
  | name (text : String)
  | unary (operator : String) (operand : Tree)
  | suffix (operator : String) (operand : Tree)
  | binary (operator : String) (left right : Tree)
  | conditional (condition whenTrue whenFalse : Tree)
  | assign (operator : String) (target value : Tree)
  | sequence (left right : Tree)
  | call (callee : Tree) (arguments : List Tree)
  | member (base : Tree) (name : String)
  | index (base position : Tree)

/-- What a list of tokens can be read as: an expression of some level, a type keyword with the sizes of an
array, or a call without its closing parenthesis that has no argument or at least one. -/
inductive Phrase where
  | level (n : Nat)
  | type
  | header
  | arguments

/-- The tokens are a phrase of the given kind with the given tree. -/
inductive Derives : Phrase → List Token → Tree → Prop where
  | number (text : String) : Derives (.level 16) [.number text] (.literal text)
  | boolean {text : String} (h : isBoolean text = true) : Derives (.level 16) [.word text] (.literal text)
  | name {text : String} (h : isKeyword text = false) : Derives (.level 16) [.word text] (.name text)
  | group {ts : List Token} {t : Tree} (h : Derives (.level 0) ts t) :
      Derives (.level 16) (.leftParen :: ts ++ [.rightParen]) t
  | index {ts us : List Token} {t u : Tree} (base : Derives (.level 15) ts t)
      (position : Derives (.level 0) us u) :
      Derives (.level 15) (ts ++ .leftBracket :: us ++ [.rightBracket]) (.index t u)
  | member {ts : List Token} {t : Tree} {text : String} (base : Derives (.level 15) ts t)
      (h : isKeyword text = false) : Derives (.level 15) (ts ++ [.dot, .word text]) (.member t text)
  | suffix {ts : List Token} {t : Tree} {operator : String} (base : Derives (.level 15) ts t)
      (h : isSuffixOperator operator = true) :
      Derives (.level 15) (ts ++ [.operator operator]) (.suffix operator t)
  | type {text : String} (h : isTypeKeyword text = true) : Derives .type [.word text] (.name text)
  | arrayType {ts us : List Token} {t u : Tree} (type : Derives .type ts t) (size : Derives (.level 2) us u) :
      Derives .type (ts ++ .leftBracket :: us ++ [.rightBracket]) (.index t u)
  | header {ts : List Token} {t : Tree} (callee : Derives (.level 15) ts t) :
      Derives .header (ts ++ [.leftParen]) (.call t [])
  | typeHeader {ts : List Token} {t : Tree} (type : Derives .type ts t) :
      Derives .header (ts ++ [.leftParen]) (.call t [])
  | firstArgument {ts us : List Token} {t u : Tree} (header : Derives .header ts (.call t []))
      (argument : Derives (.level 1) us u) : Derives .arguments (ts ++ us) (.call t [u])
  | nextArgument {ts us : List Token} {t u : Tree} {args : List Tree}
      (before : Derives .arguments ts (.call t args)) (argument : Derives (.level 1) us u) :
      Derives .arguments (ts ++ .comma :: us) (.call t (args ++ [u]))
  | emptyCall {ts : List Token} {t : Tree} (h : Derives .header ts t) :
      Derives (.level 15) (ts ++ [.rightParen]) t
  | call {ts : List Token} {t : Tree} (h : Derives .arguments ts t) :
      Derives (.level 15) (ts ++ [.rightParen]) t
  | unary {ts : List Token} {t : Tree} {operator : String} (h : isPrefixOperator operator = true)
      (operand : Derives (.level 14) ts t) : Derives (.level 14) (.operator operator :: ts) (.unary operator t)
  | binary {ls rs : List Token} {l r : Tree} {operator : String} {n : Nat} (h : binaryLevel? operator = some n)
      (left : Derives (.level n) ls l) (right : Derives (.level (n + 1)) rs r) :
      Derives (.level n) (ls ++ .operator operator :: rs) (.binary operator l r)
  | conditional {cs ts us : List Token} {c t u : Tree} (condition : Derives (.level 3) cs c)
      (whenTrue : Derives (.level 0) ts t) (whenFalse : Derives (.level 1) us u) :
      Derives (.level 2) (cs ++ .question :: ts ++ .colon :: us) (.conditional c t u)
  | assign {ls rs : List Token} {l r : Tree} {operator : String} (h : isAssignment operator = true)
      (target : Derives (.level 14) ls l) (value : Derives (.level 1) rs r) :
      Derives (.level 1) (ls ++ .operator operator :: rs) (.assign operator l r)
  | sequence {ls rs : List Token} {l r : Tree} (left : Derives (.level 0) ls l)
      (right : Derives (.level 1) rs r) : Derives (.level 0) (ls ++ .comma :: rs) (.sequence l r)
  | lift {ts : List Token} {t : Tree} {n : Nat} (hn : n < 16) (h : Derives (.level (n + 1)) ts t) :
      Derives (.level n) ts t

/-- What stands at a level stands at every lower one. -/
theorem Derives.weaken {ts : List Token} {t : Tree} {m n : Nat} (hmn : m ≤ n) (hn : n ≤ 16)
    (h : Derives (.level n) ts t) : Derives (.level m) ts t := by
  induction n with
  | zero =>
    obtain rfl : m = 0 := by omega
    exact h
  | succ n ih =>
    by_cases he : m = n + 1
    · exact he ▸ h
    · exact ih (by omega) (by omega) (.lift (by omega) h)

end GlslCompiler.Grammar

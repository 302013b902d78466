/-!
# Line ends

A source is read with its line ends made uniform: a carriage return, alone or before a line feed,
becomes one line feed.
-/

namespace GlslCompiler.Text

/-- Makes every line end a single line feed. -/
def unifyNewlines : List Char → List Char
  | [] => []
  | '\r' :: '\n' :: rest => '\n' :: unifyNewlines rest
  | '\r' :: rest => '\n' :: unifyNewlines rest
  | c :: rest => c :: unifyNewlines rest

end GlslCompiler.Text

/-!
# Layout qualifiers

A layout qualifier is an ordered list of entries, each a key with an optional value. Adding a key that
is already present changes nothing, so the first entry of a key stands.
-/

namespace GlslCompiler

/-- The entries of a `layout(...)` qualifier, in order. -/
structure Layout where
  entries : List (String × Option String) := []
  deriving DecidableEq

namespace Layout

/-- Whether some entry has the key. -/
def has (layout : Layout) (key : String) : Bool := layout.entries.any fun entry => entry.1 == key

/-- Adds an entry at the end unless its key is present. -/
def add (layout : Layout) (key : String) (value : Option String) : Layout :=
  if layout.has key then layout else ⟨layout.entries ++ [(key, value)]⟩

def isEmpty (layout : Layout) : Bool := layout.entries.isEmpty

/-- One entry, its value after an equals sign. -/
def entryText : String × Option String → String
  | (key, none) => key
  | (key, some value) => key ++ " = " ++ value

def text (layout : Layout) : String :=
  "layout(" ++ ", ".intercalate (layout.entries.map entryText) ++ ")"

end Layout

end GlslCompiler

import GlslCompiler.Text.Blank
import GlslCompiler.Text.LetterCase

/-!
# Settings

Two variables of the environment configure the optimizer: where its library is, and whether it is used
at all. The bridge that programs share is made from the settings in force when it is first asked for.
-/

namespace GlslCompiler

structure Settings where
  /-- Where the optimizer library is; without it the loader looks for it. -/
  optimizerLibrary : Option String := none
  optimize : Bool := true
  deriving DecidableEq

namespace Settings

/-- The spellings that switch optimization off. -/
def offWords : List String := ["0", "false", "no", "off"]

/-- Reads the values of the two variables. -/
def ofVariables (library optimize : Option String) : Settings :=
  { optimizerLibrary := library.filter (!·.isEmpty)
    optimize := !offWords.contains (Text.lower (Text.strip (optimize.getD "1"))) }

end Settings

/-- The shared bridge: the number under which it was made, and its settings. -/
structure SharedBridge where
  serial : Nat
  settings : Settings
  deriving DecidableEq

/-- Whether the shared bridge has been made yet, and how many were made. -/
structure BridgeCell where
  bridge : Option SharedBridge := none
  made : Nat := 0

namespace BridgeCell

/-- The shared bridge, made now if there is none. -/
def get (cell : BridgeCell) (settings : Settings) : SharedBridge × BridgeCell :=
  match cell.bridge with
  | some bridge => (bridge, cell)
  | none =>
    let bridge : SharedBridge := ⟨cell.made, settings⟩
    (bridge, ⟨some bridge, cell.made + 1⟩)

end BridgeCell

end GlslCompiler

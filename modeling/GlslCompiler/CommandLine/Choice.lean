import GlslCompiler.Text.Blank
import GlslCompiler.Text.LetterCase
import GlslCompiler.Tier

/-!
# Choices

Stages, platforms and profiles are given by name. Blanks around a name and its letter case do not
matter, a dot stands for an underscore, and a profile may leave out the word it begins with.
-/

namespace GlslCompiler

/-- A value that names none of the choices of an option. -/
structure InvalidChoice where
  value : String
  choices : List String
  option : String
  deriving DecidableEq

def InvalidChoice.message (e : InvalidChoice) : String :=
  "'" ++ e.value ++ "' (choose from " ++ ", ".intercalate e.choices ++ ")"

namespace Choice

/-- A given name in the form in which names are compared. -/
def key (value : String) : String :=
  String.ofList ((Text.upper (Text.strip value)).toList.map fun c => if c = '.' then '_' else c)

/-- Finds the choice whose name has the key. -/
def find {α : Type} (all : List α) (name : α → String) (key value option : String) :
    Except InvalidChoice α :=
  match all.find? fun a => Text.upper (name a) = key with
  | some a => .ok a
  | none => .error ⟨value, all.map name, option⟩

def stage (value option : String) : Except InvalidChoice ShaderStage :=
  find ShaderStage.all ShaderStage.name (key value) value option

def platform (value option : String) : Except InvalidChoice Platform :=
  find Platform.all Platform.name (key value) value option

/-- The word that begins the name of every profile. -/
def profileWord : String := "LEVEL_"

def profile (value option : String) : Except InvalidChoice Profile :=
  let key := key value
  find Profile.all Profile.name (if key.startsWith profileWord then key else profileWord ++ key) value
    option

end Choice

end GlslCompiler

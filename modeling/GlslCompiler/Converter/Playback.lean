import GlslCompiler.Converter.Basic

/-!
# Converters that play back prepared answers

A stand-in for a converter: its calls are answered from a list, the last answer repeating. With `shared`
an answer's program is one object, so that changes made to it are seen by later calls that get the same
answer.
-/

namespace GlslCompiler

/-- The prepared answers, whether programs are shared, and the calls so far. -/
structure ConverterScript where
  answers : List ConverterAnswer
  shared : Bool := false
  calls : List ConverterCall := []

namespace ConverterScript

/-- The position of the answer to the call with a number. -/
def position (script : ConverterScript) (number : Nat) : Nat := min number (script.answers.length - 1)

/-- A result with its program replaced. -/
def withProgram (changed : Program) : ConverterAnswer → ConverterAnswer
  | .result (some _) messages => .result (some changed) messages
  | other => other

/-- The converter that follows a script. -/
def converter : Converter ConverterScript where
  convert call := fun script =>
    let answer := (script.answers[script.position script.calls.length]?).getD (.result none [])
    (answer, { script with calls := script.calls ++ [call] })
  retain changed := fun script =>
    if script.shared then
      let last := script.position (script.calls.length - 1)
      { script with answers := script.answers.modify last (withProgram changed) }
    else script

end ConverterScript

end GlslCompiler

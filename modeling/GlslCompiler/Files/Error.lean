import GlslCompiler.Text.Quoted

/-!
# Failures of file operations

Each failure has the number and the wording of the operating system, followed by the path as it was
given.
-/

namespace GlslCompiler

inductive FileProblem where
  | notFound
  | exists
  | notDirectory
  | isDirectory
  | nameTooLong
  /-- The path holds a null character, which no file name can. -/
  | nullCharacter
  deriving DecidableEq

/-- A failed operation on a path. -/
structure FileError where
  problem : FileProblem
  path : String
  deriving DecidableEq

/-- The wording of the operating system. -/
def FileProblem.wording : FileProblem → String
  | .notFound => "No such file or directory"
  | .exists => "File exists"
  | .notDirectory => "Not a directory"
  | .isDirectory => "Is a directory"
  | .nameTooLong => "File name too long"
  | .nullCharacter => "embedded null byte"

/-- The number of the operating system; a null character is refused before it is asked. -/
def FileProblem.number? : FileProblem → Option Nat
  | .notFound => some 2
  | .exists => some 17
  | .notDirectory => some 20
  | .isDirectory => some 21
  | .nameTooLong => some 36
  | .nullCharacter => none

namespace FileError

def message (e : FileError) : String :=
  match e.problem.number? with
  | some number =>
    "[Errno " ++ toString number ++ "] " ++ e.problem.wording ++ ": " ++ Text.quoted e.path
  | none => e.problem.wording

/-- Whether the operating system reported the failure. -/
def isSystem (e : FileError) : Bool := e.problem.number?.isSome

end FileError

end GlslCompiler

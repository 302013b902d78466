/-!
# Paths as texts

A path is a text whose parts are separated by slashes. These operations work on the text alone and know
nothing about which files exist.
-/

namespace GlslCompiler.Path

/-- Splits at every slash; there is always at least one part. -/
def splitSlashes : List Char → List (List Char)
  | [] => [[]]
  | '/' :: rest => [] :: splitSlashes rest
  | c :: rest =>
    match splitSlashes rest with
    | first :: others => (c :: first) :: others
    | [] => [[c]]

/-- The parts of a path between its slashes. -/
def parts (path : String) : List String := (splitSlashes path.toList).map String.ofList

/-- What follows the last slash. -/
def fileName (path : String) : String :=
  String.ofList (path.toList.reverse.takeWhile (· ≠ '/')).reverse

/-- What precedes the last slash, without slashes at its end unless it is made of slashes only. -/
def directory (path : String) : String :=
  let head := (path.toList.reverse.dropWhile (· ≠ '/')).reverse
  if head.all (· == '/') then String.ofList head
  else String.ofList (head.reverse.dropWhile (· == '/')).reverse

def isAbsolute (path : String) : Bool := path.toList.head? = some '/'

/-- One part taken into a normalised path, kept last part first: a double dot removes the part before
it, where there is one to remove. -/
def pushPart (absolute : Bool) (stack : List String) (part : String) : List String :=
  if part = "" ∨ part = "." then stack
  else if part = ".." then
    match stack with
    | [] => if absolute then [] else [".."]
    | top :: below => if top = ".." then ".." :: stack else below
  else part :: stack

/-- The slashes that begin a normalised path: exactly two are kept, any other number becomes one. -/
def leadingSlashes (path : String) : String :=
  match path.toList with
  | '/' :: '/' :: '/' :: _ => "/"
  | '/' :: '/' :: _ => "//"
  | '/' :: _ => "/"
  | _ => ""

/-- A path without empty parts, single dots and resolvable double dots. -/
def normalize (path : String) : String :=
  let slashes := leadingSlashes path
  let stack := (parts path).foldl (pushPart (slashes ≠ "")) []
  let result := slashes ++ "/".intercalate stack.reverse
  if result = "" then "." else result

/-- The normalised path of a file given relative to a working directory. -/
def absolute (workingDirectory path : String) : String :=
  if isAbsolute path then normalize path else normalize (workingDirectory ++ "/" ++ path)

/-- A path in its shortest plain form: no empty parts and no single dots, double dots kept. -/
def tidy (path : String) : String :=
  let slashes := leadingSlashes path
  let kept := (parts path).filter fun part => part ≠ "" ∧ part ≠ "."
  let result := slashes ++ "/".intercalate kept
  if result = "" then "." else result

/-- A name inside a directory given in tidy form. -/
def child (directory name : String) : String :=
  if directory = "." then name
  else if directory.toList.getLast? = some '/' then directory ++ name
  else directory ++ "/" ++ name

end GlslCompiler.Path

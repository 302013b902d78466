import GlslCompiler.Artifact.Bytes
import GlslCompiler.Files.Error
import GlslCompiler.Path

/-!
# Files and directories

Files and directories as a value. Paths are looked up part by part, as the operating system does it: a
double dot goes up from the directory that was actually reached, and only a directory can have anything
below it. A path that does not begin with a slash is looked up from the working directory.
-/

namespace GlslCompiler

/-- A position below the root, outermost name first. -/
abbrev Location := List String

/-- The known directories and files, each once. The root is always a directory. -/
structure FileTree where
  directories : List Location := []
  files : List (Location × Bytes) := []

namespace FileTree

/-- Where a path leads. -/
inductive Place where
  | directory (location : Location)
  | file (location : Location)
  /-- Nothing is there, but its parent is a directory. -/
  | vacant (location : Location)
  deriving DecidableEq

def isDirectory (tree : FileTree) (location : Location) : Bool :=
  location.isEmpty || tree.directories.contains location

def fileAt? (tree : FileTree) (location : Location) : Option Bytes := tree.files.lookup location

def isFile (tree : FileTree) (location : Location) : Bool := (tree.fileAt? location).isSome

/-- What is at a location whose parent is a directory. -/
def placeAt (tree : FileTree) (location : Location) : Place :=
  if tree.isDirectory location then .directory location
  else if tree.isFile location then .file location
  else .vacant location

/-- The number of bytes a name may have. -/
def maxNameLength : Nat := 255

/-- The number of bytes a path may have. -/
def maxPathLength : Nat := 4095

/-- Goes one part further. The root is its own parent. -/
def stepTo (tree : FileTree) (place : Place) (part : String) : Except FileProblem Place :=
  match place with
  | .file _ => .error .notDirectory
  | .vacant _ => .error .notFound
  | .directory location =>
    if part = "" ∨ part = "." then .ok (.directory location)
    else if part = ".." then .ok (.directory location.dropLast)
    else if maxNameLength < part.utf8ByteSize then .error .nameTooLong
    else .ok (tree.placeAt (location ++ [part]))

/-- Follows the parts of a path. An empty last part only insists on a directory. -/
def follow (tree : FileTree) (place : Place) : List String → Except FileProblem Place
  | [] => .ok place
  | part :: rest =>
    match place, part, rest with
    | .vacant location, "", [] => .ok (.vacant location)
    | place, part, rest =>
      match tree.stepTo place part with
      | .ok next => tree.follow next rest
      | .error problem => .error problem

/-- The location that a path names on its own account, without a look at the files. -/
def locationOf (workingDirectory path : String) : Location :=
  (Path.parts (Path.absolute workingDirectory path)).filter (· ≠ "")

/-- Where the parts of a path are looked up from. -/
def start (workingDirectory path : String) : Place :=
  if Path.isAbsolute path then .directory [] else .directory (locationOf workingDirectory "")

/-- Where a path leads, seen from the working directory. -/
def resolve (tree : FileTree) (workingDirectory path : String) : Except FileError Place :=
  if path.toList.contains '\x00' then .error ⟨.nullCharacter, path⟩
  else if path = "" then .error ⟨.notFound, path⟩
  else if maxPathLength < path.utf8ByteSize then .error ⟨.nameTooLong, path⟩
  else
    match tree.follow (start workingDirectory path) (Path.parts path) with
    | .ok place => .ok place
    | .error problem => .error ⟨problem, path⟩

/-- Reads a file. -/
def read (tree : FileTree) (workingDirectory path : String) : Except FileError Bytes :=
  match tree.resolve workingDirectory path with
  | .error e => .error e
  | .ok (.file location) =>
    match tree.fileAt? location with
    | some content => .ok content
    | none => .error ⟨.notFound, path⟩
  | .ok (.directory _) => .error ⟨.isDirectory, path⟩
  | .ok (.vacant _) => .error ⟨.notFound, path⟩

/-- The tree with a file's content set. -/
def setFile (tree : FileTree) (location : Location) (content : Bytes) : FileTree :=
  if tree.isFile location then
    { tree with
      files := tree.files.map fun entry => if entry.1 = location then (location, content) else entry }
  else { tree with files := tree.files ++ [(location, content)] }

/-- Writes a file into an existing directory. -/
def write (tree : FileTree) (workingDirectory path : String) (content : Bytes) :
    Except FileError FileTree :=
  match tree.resolve workingDirectory path with
  | .error e => .error e
  | .ok (.file location) => .ok (tree.setFile location content)
  | .ok (.vacant location) => .ok (tree.setFile location content)
  | .ok (.directory _) => .error ⟨.isDirectory, path⟩

/-- Makes one directory; it is no failure if it is there already. -/
def makeDirectory (tree : FileTree) (workingDirectory path : String) : Except FileError FileTree :=
  match tree.resolve workingDirectory path with
  | .error e => .error e
  | .ok (.vacant location) => .ok { tree with directories := tree.directories ++ [location] }
  | .ok (.file _) => .error ⟨.exists, path⟩
  | .ok (.directory _) => .ok tree

/-- The leading paths of a tidy path, shortest first, the path itself last. -/
def leadingPaths (path : String) : List String :=
  let slashes := Path.leadingSlashes path
  let parts := (Path.parts path).filter (· ≠ "")
  (List.range parts.length).map fun count => slashes ++ "/".intercalate (parts.take (count + 1))

/-- Makes a directory and those above it. -/
def makeDirectories (tree : FileTree) (workingDirectory path : String) : Except FileError FileTree :=
  match tree.makeDirectory workingDirectory path with
  | .ok tree => .ok tree
  | .error e =>
    if e.problem = .notFound then
      (leadingPaths path).foldlM (fun tree path => tree.makeDirectory workingDirectory path) tree
    else .error e

/-- The tree with a directory, and those above it, put in place. -/
def placeDirectory (tree : FileTree) (location : Location) : FileTree :=
  let leading := (List.range location.length).map fun count => location.take (count + 1)
  let missing := leading.filter fun directory => !tree.directories.contains directory
  { tree with directories := tree.directories ++ missing }

/-- The tree with a file, and the directories above it, put in place. -/
def place (tree : FileTree) (location : Location) (content : Bytes) : FileTree :=
  (tree.placeDirectory location.dropLast).setFile location content

/-- The tree without a file. -/
def remove (tree : FileTree) (location : Location) : FileTree :=
  { tree with files := tree.files.filter fun entry => entry.1 ≠ location }

/-- The files below a directory, with their paths seen from there. -/
def filesBelow (tree : FileTree) (directory : Location) : List (String × Bytes) :=
  tree.files.filterMap fun (location, content) =>
    if directory.isPrefixOf location then
      some ("/".intercalate (location.drop directory.length), content)
    else none

/-- The tree that holds nothing but a working directory. -/
def ofWorkingDirectory (workingDirectory : String) : FileTree :=
  placeDirectory {} (locationOf workingDirectory "")

end FileTree

end GlslCompiler

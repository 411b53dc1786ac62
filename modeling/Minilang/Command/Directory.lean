import Minilang.Command.Reading

/-!
# Directories in memory

A directory that holds files at given paths, and nothing else. A path is
followed step by step as an operating system does it: each step but the last has
to lead to a directory.
-/

namespace Minilang.Command

/-- The contents of the files in a directory, each under the names that lead to
it. -/
structure Directory where
  files : List (List String × ByteArray)

namespace Directory

/-- A place that a path leads to. Outside of the directory nothing is known but
that it is inside of other directories. -/
inductive Place where
  | outside
  | inside (names : List String)

def steps (path : String) : List String :=
  path.splitOn "/"

def ofFiles (files : List (String × ByteArray)) : Directory :=
  ⟨files.map fun (path, bytes) =>
    ((steps path).filter fun step => step != "" && step != ".", bytes)⟩

/-- The contents of the file to which the names lead. -/
def file? (directory : Directory) (names : List String) : Option ByteArray :=
  directory.files.lookup names

/-- Whether the names lead to a directory: the names of some file begin with
them. -/
def hasDirectory (directory : Directory) (names : List String) : Bool :=
  names.isEmpty || directory.files.any fun (path, _) =>
    names.isPrefixOf path && names.length < path.length

def isDirectory (directory : Directory) : Place → Bool
  | .outside => true
  | .inside names => directory.hasDirectory names

/-- The longest name of a file, in bytes. -/
def longestName : Nat := 255

/-- The longest path, in bytes. -/
def longestPath : Nat := 4095

/-- The place to which one step leads. -/
def follow (directory : Directory) (place : Place)
    (step : String) : Except ReadFailure Place :=
  if !directory.isDirectory place then .error .notDirectory
  else if step == "" || step == "." then .ok place
  else if longestName < step.utf8ByteSize then .error .nameTooLong
  else
    match place with
    | .outside => if step == ".." then .ok .outside else .error .missing
    | .inside names =>
        if step == ".." then
          .ok (if names.isEmpty then .outside else .inside names.dropLast)
        else
          let next := names ++ [step]
          if (directory.file? next).isSome || directory.hasDirectory next then
            .ok (.inside next)
          else .error .missing

/-- The text of the file to which the path leads from inside the directory. -/
def read (directory : Directory)
    (path : String) : Except ReadFailure String := do
  if path.isEmpty then throw .missing
  if longestPath < path.utf8ByteSize then throw .nameTooLong
  let start : Place := if path.startsWith "/" then .outside else .inside []
  match ← (steps path).foldlM directory.follow start with
  | .outside => throw .isDirectory
  | .inside names =>
      match directory.file? names with
      | some bytes => decodeText bytes
      | none => throw .isDirectory

end Directory

end Minilang.Command

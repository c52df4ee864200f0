import CooperativeTasks.Bindings

set_option autoImplicit false

/-! Files as the command line sees them: a way to read a path, and one to tell whether there is
anything at it. A tree given by its files is one source of them. -/

namespace CooperativeTasks

inductive FileError where
  | notFound
  | notDirectory
  | isDirectory
  | nameTooLong
  /-- A path that no system call can be given. -/
  | zeroInPath
  | other (description : String)
  deriving DecidableEq, Repr

def FileError.message : FileError → String
  | .notFound => "No such file or directory (os error 2)"
  | .notDirectory => "Not a directory (os error 20)"
  | .isDirectory => "Is a directory (os error 21)"
  | .nameTooLong => "File name too long (os error 36)"
  | .zeroInPath => "file name contained an unexpected NUL byte"
  | .other description => description

/-- Whether there is nothing at a path, rather than something that cannot be read. -/
def FileError.isAbsent : FileError → Bool
  | .notFound => true
  | .notDirectory => true
  | .isDirectory => false
  | .nameTooLong => true
  | .zeroInPath => true
  | .other _ => false

structure Files where
  read : String → Except FileError String

namespace Files

def exists? (files : Files) (path : String) : Bool :=
  match files.read path with
  | .ok _ => true
  | .error problem => !problem.isAbsent

def ofReadings (readings : List (String × Except FileError String)) : Files where
  read path := (Bindings.get? path readings).getD (.error .notFound)

end Files

/-- The parts of a path between strokes, as a walk from the working directory. -/
def pathParts (path : String) : List String := path.splitOn "/"

/-- Directories and files by their parts from the working directory down. -/
structure FileTree where
  files : List (List String × String)

namespace FileTree

inductive Node where
  | file (content : String)
  | directory
  | nothing

def nodeAt (tree : FileTree) (parts : List String) : Node :=
  match tree.files.find? fun (path, _) => path == parts with
  | some (_, content) => .file content
  | none => if parts.isEmpty || tree.files.any (fun (path, _) => parts.isPrefixOf path)
      then .directory else .nothing

/-- A part that names no entry of a directory. -/
def isStep (part : String) : Bool := part == "" || part == "." || part == ".."

/-- The bytes that a part of a path can have at most. -/
def partLimit : Nat := 255

/-- The bytes from which on a path is too long as a whole. -/
def pathLimit : Nat := 4096

def isTooLong (part : String) : Bool := decide (partLimit < part.utf8ByteSize)

/-- What becomes of a walk that leaves the tree: around it there are only directories without
known entries. -/
def outside (parts : List String) : FileError :=
  match parts.find? fun part => !isStep part with
  | none => .isDirectory
  | some part => if isTooLong part then .nameTooLong else .notFound

/-- Walks from a directory, through `.` and `..`. -/
def walk (tree : FileTree) : List String → List String → Except FileError (List String)
  | place, [] => .ok place
  | place, part :: rest =>
      match tree.nodeAt place with
      | .nothing => .error .notFound
      | .file _ => .error .notDirectory
      | .directory =>
          if part = "" ∨ part = "." then tree.walk place rest
          else if part = ".." then
            if place.isEmpty then .error (outside rest) else tree.walk place.dropLast rest
          else if isTooLong part then .error .nameTooLong
          else tree.walk (place ++ [part]) rest

def read (tree : FileTree) (path : String) : Except FileError String :=
  if path.toList.contains (Char.ofNat 0) then .error .zeroInPath
  else if path = "" then .error .notFound
  else if pathLimit ≤ path.utf8ByteSize then .error .nameTooLong
  else if path.startsWith "/" then .error (outside (pathParts path))
  else
    match tree.walk [] (pathParts path) with
    | .error problem => .error problem
    | .ok place =>
        match tree.nodeAt place with
        | .file content => .ok content
        | .directory => .error .isDirectory
        | .nothing => .error .notFound

def toFiles (tree : FileTree) : Files where
  read := tree.read

end FileTree

end CooperativeTasks

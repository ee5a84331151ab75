/-!
# Files

What comes of reading a file, and trees of files in which paths can be looked up without a disk.
-/

namespace Tint

/-- Why there is no text to be had from a file or from the input. -/
inductive FileError where
  | notFound
  /-- A path goes through a file as if it were a directory. -/
  | notDirectory
  | isDirectory
  | nameTooLong
  /-- The bytes are not UTF-8. -/
  | notText
  | other (reason : String)
  deriving DecidableEq, Repr

namespace FileError

/-- The wording of an error. -/
def message : FileError → String
  | notFound => "No such file or directory (os error 2)"
  | notDirectory => "Not a directory (os error 20)"
  | isDirectory => "Is a directory (os error 21)"
  | nameTooLong => "File name too long (os error 36)"
  | notText => "stream did not contain valid UTF-8"
  | other reason => reason

/-- Whether the error says that there is no file at a path. -/
def isAbsence : FileError → Bool
  | notFound | notDirectory | isDirectory | nameTooLong => true
  | notText | other _ => false

end FileError

/-- The text that bytes stand for. -/
def decodeText (bytes : ByteArray) : Except FileError String :=
  match String.fromUTF8? bytes with
  | some text => .ok text
  | none => .error .notText

/-- What a path can lead to. -/
inductive FileEntry where
  | file (content : ByteArray)
  | directory

/-- Files by the names on the way to each.  A directory is there if a file is in it, and the
directory at the root is always there. -/
structure FileTree where
  files : List (List String × ByteArray) := []

/-- The length in bytes from which on a name is too long. -/
def nameLimit : Nat := 256

/-- The length in bytes from which on a path is too long. -/
def pathLimit : Nat := 4096

namespace FileTree

/-- Files by their paths from the root. -/
def ofList (files : List (String × ByteArray)) : FileTree :=
  ⟨files.map fun (path, content) =>
    ((path.splitOn "/").filter fun name => name != "" && name != ".", content)⟩

/-- What is at a place. -/
def entry? (tree : FileTree) (place : List String) : Option FileEntry :=
  match tree.files.lookup place with
  | some content => some (.file content)
  | none =>
      if place.isEmpty || tree.files.any (fun file => place.isPrefixOf file.1) then some .directory
      else none

/-- Follows names from a place.  An empty name or a period stays where it is, and two periods go up.
Above the root there are only further directories, and of their files nothing is known; `place` is
then `none`. -/
def follow (tree : FileTree) : (place : Option (List String)) → List String →
    Except FileError FileEntry
  | none, [] => .ok .directory
  | none, name :: names =>
      if ["", ".", ".."].contains name then tree.follow none names else .error .notFound
  | some place, names =>
      match tree.entry? place, names with
      | none, _ => .error .notFound
      | some entry, [] => .ok entry
      | some (.file _), _ :: _ => .error .notDirectory
      | some .directory, name :: names =>
          if name == "" || name == "." then tree.follow (some place) names
          else if name == ".." then
            tree.follow (if place.isEmpty then none else some place.dropLast) names
          else if nameLimit ≤ name.utf8ByteSize then .error .nameTooLong
          else tree.follow (some (place ++ [name])) names

/-- What a path leads to.  A path that starts with a slash starts above the root. -/
def find (tree : FileTree) (path : String) : Except FileError FileEntry :=
  if pathLimit ≤ path.utf8ByteSize then .error .nameTooLong
  else match path.splitOn "/" with
    | [""] => .error .notFound
    | "" :: names => tree.follow none names
    | names => tree.follow (some []) names

/-- The content of the file at a path. -/
def read (tree : FileTree) (path : String) : Except FileError ByteArray :=
  match tree.find path with
  | .ok (.file content) => .ok content
  | .ok .directory => .error .isDirectory
  | .error error => .error error

end FileTree

/-- The path of a name inside a directory. -/
def joinPath (directory name : String) : String :=
  if directory.isEmpty || directory.endsWith "/" then directory ++ name
  else directory ++ "/" ++ name

end Tint

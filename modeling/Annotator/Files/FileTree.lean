import Annotator.Files.FileError
import Annotator.Files.Path

/-! A file tree holds the contents of files by place, and its directories are the ways to them. -/

namespace Annotator

/-- A place is named from the working directory, upwards by two dots, or from the root. -/
abbrev Place := List String

namespace Place

/-- The working directory. -/
def workingDirectory : Place :=
  -- No name leads away from it.
  []

/-- The root directory. -/
def root : Place :=
  -- No other place is named by a slash.
  ["/"]

/-- Places that are the working directory or above it, but not yet the root. -/
def isAbove (place : Place) : Bool :=
  -- Nothing but two dots leads there.
  place.all (· == "..")

end Place

/-- The contents of files by place. -/
structure FileTree where
  /-- Places with contents, of which the first of each place counts. -/
  files : List (Place × ByteArray) := []
  /-- Directories that need no file on the way through them. -/
  directories : List Place := []
  /-- The number of names that lead from the root to the working directory. -/
  depth : Nat := 2

namespace FileTree

/-- The content of the file at a place. -/
def file? (tree : FileTree) (place : Place) : Option ByteArray :=
  -- Places are compared name by name.
  tree.files.lookup place

/-- A place is a directory when the way to some file or directory leads through it. -/
def isDirectory (tree : FileTree) (place : Place) : Bool :=
  -- The root and everything between it and the working directory are directories too.
  place.isAbove || place == Place.root ||
    tree.directories.any (fun directory => place.isPrefixOf directory) ||
    tree.files.any fun entry => place.isPrefixOf entry.1 && place != entry.1

/-- The directory above a place. -/
def above (tree : FileTree) (place : Place) : Place :=
  -- The root is above itself, and it is as far above the working directory as that is deep.
  if place = Place.root then Place.root
  else if !place.isAbove then place.dropLast
  else if place.length + 1 < tree.depth then ".." :: place
  else Place.root

/-- One name leads from a place to the next. -/
def follow (tree : FileTree) (place : Place) (name : String) : Except FileError Place :=
  -- Only a directory leads anywhere, even back to itself.
  if !tree.isDirectory place then .error .notDirectory
  else if name == "" || name == "." then .ok place
  else if name == ".." then .ok (tree.above place)
  else if Path.nameLimit < name.utf8ByteSize then .error .nameTooLong
  else
    let next := place ++ [name]
    if (tree.file? next).isSome || tree.isDirectory next then .ok next else .error .notFound

/-- The place where a path starts, and the names that lead on from there. -/
def start (path : String) : Place × List String :=
  -- A slash at the front stands for the root.
  match Path.names path with
  | "" :: rest => (Place.root, rest)
  | names => (Place.workingDirectory, names)

/-- The place to which a path leads. -/
def resolve (tree : FileTree) (path : String) : Except FileError Place :=
  -- The names are followed one by one.
  if Path.limit < path.utf8ByteSize then .error .nameTooLong
  else
    let (place, rest) := start path
    rest.foldlM tree.follow place

/-- A path leads to a file or directory. -/
def holds (tree : FileTree) (path : String) : Bool :=
  -- It does unless following its names fails.
  (tree.resolve path).toBool

/-- Reading the file to which a path leads. -/
def read (tree : FileTree) (path : String) : Except FileError ByteArray :=
  -- A place that holds no file is a directory.
  match tree.resolve path with
  | .error error => .error error
  | .ok place =>
    match tree.file? place with
    | some content => .ok content
    | none => .error .isDirectory

/-- A file put in the place of whatever was there. -/
def put (tree : FileTree) (place : Place) (content : ByteArray) : FileTree :=
  -- All other places keep their contents.
  { tree with files := (place, content) :: tree.files.filter fun entry => entry.1 != place }

/-- A file that was put somewhere is found there. -/
@[simp] theorem file?_put (tree : FileTree) (place : Place) (content : ByteArray) :
    (tree.put place content).file? place = some content := by
  -- The new entry stands first.
  simp [file?, put]

/-- The tree without the file at a place. -/
def without (tree : FileTree) (place : Place) : FileTree :=
  -- All other places keep their contents.
  { tree with files := tree.files.filter fun entry => entry.1 != place }

/-- The place that a name has in a directory, whether or not anything is there. -/
def placeOf (tree : FileTree) (directory : Place) (name : String) : Except FileError Place :=
  -- Only a name that cannot be given to anything has no place.
  match tree.follow directory name with
  | .error .notFound => .ok (directory ++ [name])
  | found => found

/-- Directories made one in the other by names, and the place of the innermost. -/
def makeDirectories (tree : FileTree) (place : Place) (made : Bool) :
    List String → Except FileError (FileTree × Place)
  -- A file is in the way by its name where one is about to be given, and else by its nature.
  | [] => .ok (tree, place)
  | name :: rest =>
    match tree.placeOf place name with
    | .error error => .error error
    | .ok next =>
      if tree.isDirectory next then tree.makeDirectories next made rest
      else if (tree.file? next).isSome then
        .error (if made || rest.isEmpty then .taken else .notDirectory)
      else
        { tree with directories := next :: tree.directories }.makeDirectories next true rest

/-- The directory in which a path ends is made with all that lead to it. -/
def openWay (tree : FileTree) (path : String) : Except FileError (FileTree × Place) :=
  -- Names that lead nowhere are passed over.
  if Path.limit < (Path.directory path).utf8ByteSize then .error .nameTooLong
  else
    let (place, rest) := start path
    tree.makeDirectories place false (rest.dropLast.filter fun name => name != "" && name != ".")

/-- Saving a file makes the directories on the way to it and replaces its content at once. -/
def save (tree : FileTree) (path : String) (content : ByteArray) : Except FileError FileTree := do
  -- The content is first written beside the file and then takes its place.
  let (tree, directory) ← tree.openWay path
  if Path.limit < (Path.draft path).utf8ByteSize || Path.limit < path.utf8ByteSize then
    throw .nameTooLong
  let draft ← tree.placeOf directory (Path.name (Path.draft path))
  let place ← tree.placeOf directory (Path.name path)
  if tree.isDirectory draft || tree.isDirectory place then throw .isDirectory
  return (tree.without draft).put place content

end FileTree

end Annotator

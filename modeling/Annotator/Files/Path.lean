/-! Paths are names joined by slashes. -/

namespace Annotator.Path

/-- The path of a name within a directory. -/
def within (directory name : String) : String :=
  -- A slash at the end of the directory is not doubled.
  if directory.toList.getLast? = some '/' then directory ++ name else directory ++ "/" ++ name

/-- The directory in which the last name of a path stands. -/
def directory (path : String) : String :=
  -- It is empty when there is no slash.
  String.ofList ((path.toList.reverse.dropWhile (· != '/')).drop 1).reverse

/-- The last name of a path. -/
def name (path : String) : String :=
  -- It is the whole path when there is no slash.
  String.ofList (path.toList.reverse.takeWhile (· != '/')).reverse

/-- A name is limited to this many bytes. -/
def nameLimit : Nat :=
  -- Longer names are refused by every file system.
  255

/-- A path is limited to this many bytes. -/
def limit : Nat :=
  -- Longer paths are refused before any name in them is looked at.
  4095

/-- The names in a path, with an empty one wherever a slash has nothing before or behind it. -/
def names (path : String) : List String :=
  -- A path without a slash is one name.
  (path.toList.splitOn '/').map String.ofList

/-- The paths that lead step by step to a path, which comes last itself. -/
def ways (path : String) : List String :=
  -- The root has no name and needs no step.
  let names := names path
  ((List.range names.length).map fun count => "/".intercalate (names.take (count + 1))).filter
    (· != "")

/-- A name without its extension, which begins at the last dot unless the name does. -/
def stem (name : String) : String :=
  -- A name without a dot has no extension.
  match name.toList.reverse.dropWhile (· != '.') with
  | '.' :: c :: front => String.ofList (c :: front).reverse
  | _ => name

/-- The path of the draft of a file that is going to be replaced. -/
def draft (path : String) : String :=
  -- It stands beside the file under the same stem.
  String.ofList (path.toList.reverse.dropWhile (· != '/')).reverse ++ stem (name path) ++
    ".yaml.tmp"

end Annotator.Path

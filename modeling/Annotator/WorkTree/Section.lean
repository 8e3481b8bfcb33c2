import Annotator.Text.Blank
import Annotator.Text.Search

/-! The status of a work tree is written in sections, each under a heading of its own. -/

namespace Annotator

/-- A section of the status of a work tree. -/
inductive Section
  /-- Changes that the next commit takes up. -/
  | staged
  /-- Changes that the next commit leaves out. -/
  | modified
  /-- Files whose versions must still be merged. -/
  | conflicted
  /-- Files that are not under version control. -/
  | untracked
  /-- Files that are kept out of version control. -/
  | ignored
  deriving DecidableEq, Repr

namespace Section

/-- All sections. -/
def all : List Section :=
  -- No heading begins another one, so the order does not matter.
  [.staged, .modified, .conflicted, .untracked, .ignored]

/-- The heading of a section. -/
def heading : Section → String
  -- The colon belongs to the heading.
  | .staged => "Changes to be committed:"
  | .modified => "Changes not staged for commit:"
  | .conflicted => "Unmerged paths:"
  | .untracked => "Untracked files:"
  | .ignored => "Ignored files:"

/-- The section that a line opens. -/
def ofHeading? (line : List Char) : Option Section :=
  -- White space in front of a heading and text behind it are allowed.
  all.find? fun part => Text.startsWith part.heading.toList (Text.trimStart line)

/-- The name of a reader's place, which is initial before the first heading. -/
def label : Option Section → String
  -- The names are part of the output.
  | none => "Initial"
  | some .staged => "Staged"
  | some .modified => "Modified"
  | some .conflicted => "Conflicted"
  | some .untracked => "Untracked"
  | some .ignored => "Ignored"

end Section

end Annotator

import Annotator.Action.Basic
import Annotator.Settings.Basic
import Annotator.Text.Search
import Annotator.Text.ShellWords
import Annotator.Text.WordChar

/-! The status of a work tree is read only from commands that write it in the long format. -/

namespace Annotator

namespace StatusCommand

/-- A command asks for the status when it begins with the two words for it. -/
def recognizes (command : String) : Bool :=
  -- The second word must not go on.
  let phrase := "git status".toList
  Text.startsWith phrase command.toList &&
    !(command.toList.drop phrase.length).head?.any isWordChar

/-- The words of a command as a shell would split it. -/
def words (command : String) : List (List Char) :=
  -- A command with an open quotation is split at white space.
  match ShellWords.split? command.toList with
  | some words => words
  | none => Text.words command.toList

/-- Fragments of options that select another format. -/
def otherFormats : List String :=
  -- Single letters stand for short options and for words that contain them.
  ["s", "porcelain", "v", "z", "--column"]

/-- An option selects another format when one of the fragments occurs in it. -/
def leavesLongFormat (word : List Char) : Bool :=
  -- Words that do not begin with a dash are no options.
  word.head? == some '-' && otherFormats.any fun fragment => Text.contains fragment.toList word

/-- A command writes the long format unless one of its options selects another. -/
def isLongFormat (command : String) : Bool :=
  -- Every word counts, wherever it stands.
  !(words command).any leavesLongFormat

/-- A status command is accepted in a directory whose name may enter an action. -/
def accepts (settings : MatcherSettings) (command workingDir : String) : Bool :=
  -- An alias stands for a status command but must still keep the long format.
  (recognizes command || settings.isAlias command) && !hasReserved workingDir &&
    isLongFormat command

end StatusCommand

end Annotator

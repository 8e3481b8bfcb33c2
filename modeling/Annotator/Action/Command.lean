import Annotator.Action.Basic

/-! Some actions run a program on the machine of an invocation. -/

namespace Annotator

/-- A program line gives the program twice, as the file to run and as its own first argument. -/
def programLine (program : String) (arguments : List String) : List String :=
  -- The other arguments follow.
  program :: program :: arguments

namespace Action

/-- The output of a program is shown in a popup. -/
def popup (server program : String) (arguments : List String) : Action :=
  -- The server is followed by the program line.
  { name := "PopupCommand"
    args := [.value server, .list (programLine program arguments)] }

/-- A program runs in the background. -/
def background (server program : String) (arguments : List String) : Action :=
  -- The server is followed by the program line.
  { name := "RunCommand"
    args := [.value server, .list (programLine program arguments)] }

/-- A program runs in a new terminal. -/
def inTerminal (server program : String) (arguments : List String) : Action :=
  -- The profile in front of the server is left empty.
  { name := "CommandTerminal"
    args := [.value "", .value server, .list (programLine program arguments)] }

/-- A connection of a given type is opened to an object. -/
def connect (type name server : String) : Action :=
  -- The type is a code of the host.
  { name := "NewConnection"
    args := [.value type, .value name, .value server] }

end Action

end Annotator

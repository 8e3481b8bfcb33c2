import Annotator.Files.FileTree

/-! The work of a command reaches files and streams only through a program of requests for them. -/

namespace Annotator

/-- What is done to files and streams, step by step, until there is a value. -/
inductive Work (α : Type)
  /-- The value is reached. -/
  | done (value : α)
  /-- A text is written to standard output. -/
  | print (text : String) (next : Work α)
  /-- A text is written to standard error. -/
  | complain (text : String) (next : Work α)
  /-- Whether a path leads to anything is asked for. -/
  | probe (path : String) (next : Bool → Work α)
  /-- The content of a file is asked for. -/
  | read (path : String) (next : Except FileError ByteArray → Work α)
  /-- All of standard input is asked for. -/
  | readInput (next : ByteArray → Work α)
  /-- A text is saved in a file, together with the directories on the way to it. -/
  | save (path text : String) (next : Except FileError Unit → Work α)

namespace Work

/-- Work may be followed by further work that depends on its value. -/
def bind {α β : Type} : Work α → (α → Work β) → Work β
  -- The further work takes the place of the value.
  | .done value, follow => follow value
  | .print text next, follow => .print text (next.bind follow)
  | .complain text next, follow => .complain text (next.bind follow)
  | .probe path next, follow => .probe path fun answer => (next answer).bind follow
  | .read path next, follow => .read path fun answer => (next answer).bind follow
  | .readInput next, follow => .readInput fun answer => (next answer).bind follow
  | .save path text next, follow => .save path text fun answer => (next answer).bind follow

instance : Monad Work where
  pure := .done
  bind := .bind

/-- Several texts are written to standard error. -/
def complainEach : List String → Work Unit
  -- The order is kept.
  | [] => .done ()
  | text :: rest => .complain text (complainEach rest)

end Work

/-- Everything outside of a command that it can reach. -/
structure Surroundings where
  /-- The files. -/
  files : FileTree := {}
  /-- What standard input holds. -/
  input : ByteArray := .empty
  /-- What was written to standard output. -/
  printed : String := ""
  /-- What was written to standard error. -/
  complained : String := ""

namespace Work

/-- Work is carried out on surroundings that are known completely. -/
def run {α : Type} : Work α → Surroundings → α × Surroundings
  -- Each answer decides how the work goes on.
  | .done value, around => (value, around)
  | .print text next, around => next.run { around with printed := around.printed ++ text }
  | .complain text next, around =>
    next.run { around with complained := around.complained ++ text }
  | .probe path next, around => (next (around.files.holds path)).run around
  | .read path next, around => (next (around.files.read path)).run around
  | .readInput next, around => (next around.input).run { around with input := .empty }
  | .save path text next, around =>
    match around.files.save path text.toUTF8 with
    | .error error => (next (.error error)).run around
    | .ok files => (next (.ok ())).run { around with files }

end Work

end Annotator

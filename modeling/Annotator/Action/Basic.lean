import Annotator.Text.Quoted

/-! Actions are host commands: a name with ordered arguments, free of the wire delimiters. -/

namespace Annotator

/-- The delimiter between the fields of a wire form. -/
def fieldDelimiter : Char :=
  -- Fields are the name and the arguments.
  '|'

/-- The delimiter between the items of a list field. -/
def itemDelimiter : Char :=
  -- This is the unit separator control character.
  '\x1f'

/-- Reserved characters are the two delimiters. -/
def isReserved (c : Char) : Bool :=
  -- A value with either of them would be read back as several.
  c == fieldDelimiter || c == itemDelimiter

/-- A text is unsafe when it contains a reserved character. -/
def hasReserved (text : String) : Bool :=
  -- One occurrence anywhere is enough.
  text.toList.any isReserved

/-- Why an action has no wire form, or a wire form no action. -/
inductive ActionError
  /-- A value of the named action contains a reserved character. -/
  | reservedDelimiter (action value : String)
  /-- The text is not the wire form of any action. -/
  | malformed (wire : String)
  deriving DecidableEq, Repr

namespace ActionError

/-- The wording of an action error. -/
def message : ActionError → String
  -- Names and values are quoted so that invisible characters show.
  | .reservedDelimiter action value =>
    "action " ++ quoted action ++ " has a value containing a reserved delimiter: " ++ quoted value
  | .malformed wire => "malformed action string: " ++ quoted wire

end ActionError

/-- One argument of an action. -/
inductive Argument
  /-- A plain argument. -/
  | value (text : String)
  /-- A list argument. -/
  | list (items : List String)
  deriving DecidableEq, Repr, Inhabited

namespace Argument

/-- The texts an argument carries, in order. -/
def texts : Argument → List String
  -- A plain argument carries one text.
  | .value text => [text]
  | .list items => items

end Argument

/-- A host command with its ordered arguments. -/
structure Action where
  /-- The name the host dispatches on. -/
  name : String
  /-- The arguments in order. -/
  args : List Argument := []
  deriving DecidableEq, Repr, Inhabited

namespace Action

/-- The texts of an action are its name and those of its arguments. -/
def texts (action : Action) : List String :=
  -- The name comes first.
  action.name :: action.args.flatMap Argument.texts

/-- The plain argument at a position. -/
def value? (action : Action) (position : Nat) : Option String :=
  -- A list argument has no plain value.
  match action.args[position]? with
  | some (.value text) => some text
  | _ => none

/-- A valid action has a name and no reserved character in any text. -/
def validate (action : Action) : Except ActionError Unit :=
  -- The first offending text is reported, the name before the arguments.
  if action.name.isEmpty then .error (.malformed "")
  else match action.texts.find? hasReserved with
    | some text => .error (.reservedDelimiter action.name text)
    | none => .ok ()

/-- An action extended by a plain argument. -/
def withValue (action : Action) (text : String) : Action :=
  -- Arguments keep the order in which they were added.
  { action with args := action.args ++ [.value text] }

end Action

end Annotator

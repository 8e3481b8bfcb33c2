import Annotator.Action.Basic

/-! Actions travel as one line of delimited fields, where list items have their own delimiter. -/

namespace Annotator

namespace Argument

/-- The field that carries an argument. -/
def encode : Argument → List Char
  -- A plain argument is its own field.
  | .value text => text.toList
  | .list items => [itemDelimiter].intercalate (items.map String.toList)

/-- The argument that a field carries. -/
def decode (field : List Char) : Argument :=
  -- Only a field with an item delimiter is a list.
  if field.contains itemDelimiter then
    .list ((field.splitOn itemDelimiter).map String.ofList)
  else .value (String.ofList field)

end Argument

namespace Action

/-- The wire form of a valid action. -/
def encode (action : Action) : Except ActionError String :=
  -- Validity is what makes the delimiters unambiguous.
  match action.validate with
  | .error error => .error error
  | .ok () =>
    let fields := action.name.toList :: action.args.map Argument.encode
    .ok (String.ofList ([fieldDelimiter].intercalate fields))

/-- The action that a wire form carries. -/
def decode (wire : String) : Except ActionError Action :=
  -- The first field is the name, which is neither empty nor a list.
  match wire.toList.splitOn fieldDelimiter with
  | [] => .error (.malformed wire)
  | name :: fields =>
    if name.isEmpty || name.contains itemDelimiter then .error (.malformed wire)
    else .ok { name := String.ofList name, args := fields.map Argument.decode }

end Action

end Annotator

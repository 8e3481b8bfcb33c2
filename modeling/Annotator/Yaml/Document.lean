import Annotator.Yaml.Node

/-! A document to be written is a tree of texts, truth values, numbers, lists and records. -/

namespace Annotator

/-- A tree that can be written as a document. -/
inductive Document
  /-- A text. -/
  | text (value : String)
  /-- A truth value. -/
  | flag (value : Bool)
  /-- A natural number. -/
  | number (value : Nat)
  /-- A list. -/
  | list (items : List Document)
  /-- A record whose fields keep their order. -/
  | record (fields : List (String × Document))
  deriving Inhabited

namespace Document

/-- The plain scalar of a truth value. -/
def flagText (value : Bool) : String :=
  -- Truth values are written in lower case.
  if value then "true" else "false"

end Document

end Annotator

/-! Table columns are filled up with spaces to a width counted in characters. -/

namespace Annotator.Text

/-- A cell narrower than its column is filled with spaces behind the text. -/
def padRight (width : Nat) (cell : String) : String :=
  -- A cell that is too wide stays whole.
  cell ++ String.ofList (List.replicate (width - cell.length) ' ')

end Annotator.Text

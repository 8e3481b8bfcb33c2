/-! A region offers at most one drag payload for each media type, in the order of the types. -/

namespace Annotator

/-- Inserting into a sorted association list replaces the value of a present key. -/
def insertSorted (key value : String) : List (String × String) → List (String × String)
  -- The list is searched for the first key that is not smaller.
  | [] => [(key, value)]
  | (other, held) :: rest =>
    if key < other then (key, value) :: (other, held) :: rest
    else if key = other then (key, value) :: rest
    else (other, held) :: insertSorted key value rest

/-- Every key of the extended list is the new one or was there before. -/
theorem mem_insertSorted {key value : String} {pairs : List (String × String)}
    {pair : String × String} (member : pair ∈ insertSorted key value pairs) :
    pair = (key, value) ∨ pair ∈ pairs := by
  -- The three branches of the insertion are followed one by one.
  induction pairs with
  | nil => simpa [insertSorted] using member
  | cons head rest ih =>
    obtain ⟨other, held⟩ := head
    simp only [insertSorted] at member
    split at member
    · simpa using member
    · split at member
      · rcases List.mem_cons.1 member with same | old
        · exact .inl same
        · exact .inr (List.mem_cons_of_mem _ old)
      · rcases List.mem_cons.1 member with same | new
        · exact .inr (by simp [same])
        · exact (ih new).imp_right (List.mem_cons_of_mem _)

/-- Inserting keeps the keys of a list strictly ascending. -/
theorem insertSorted_ascending {key value : String} {pairs : List (String × String)}
    (sorted : pairs.Pairwise (·.1 < ·.1)) :
    (insertSorted key value pairs).Pairwise (·.1 < ·.1) := by
  -- The new key is smaller than the rest where it is placed and larger than all before it.
  induction pairs with
  | nil => simp [insertSorted]
  | cons head rest ih =>
    obtain ⟨other, held⟩ := head
    have later := List.pairwise_cons.1 sorted
    simp only [insertSorted]
    split
    · rename_i smaller
      refine List.pairwise_cons.2 ⟨fun pair member => ?_, sorted⟩
      rcases List.mem_cons.1 member with same | old
      · simpa [same] using smaller
      · exact String.lt_trans smaller (later.1 pair old)
    · rename_i notSmaller
      split
      · rename_i same
        exact List.pairwise_cons.2 ⟨fun pair member => same ▸ later.1 pair member, later.2⟩
      · rename_i different
        refine List.pairwise_cons.2 ⟨fun pair member => ?_, ih later.2⟩
        rcases mem_insertSorted member with same | old
        · rw [same]
          refine String.not_le.1 fun below => different ?_
          exact String.le_antisymm below (String.not_lt.1 notSmaller)
        · exact later.1 pair old

/-- Without payloads no media type is out of order. -/
theorem noPayloads_ascending : ([] : List (String × String)).Pairwise (·.1 < ·.1) :=
  List.Pairwise.nil

/-- Drag payloads by media type. -/
structure DragPayloads where
  /-- Media types with their payloads. -/
  pairs : List (String × String) := []
  /-- The media types are strictly ascending. -/
  ascending : pairs.Pairwise (·.1 < ·.1) := by exact noPayloads_ascending
  deriving DecidableEq

namespace DragPayloads

instance : Inhabited DragPayloads := ⟨{}⟩

/-- A payload takes the place of an earlier one of the same media type. -/
def insert (payloads : DragPayloads) (mime payload : String) : DragPayloads :=
  -- Insertion keeps the order of the media types.
  ⟨insertSorted mime payload payloads.pairs, insertSorted_ascending payloads.ascending⟩

/-- The payloads given by a list of pairs, where later pairs win. -/
def ofList (pairs : List (String × String)) : DragPayloads :=
  -- The pairs are inserted in order.
  pairs.foldl (fun payloads pair => payloads.insert pair.1 pair.2) {}

end DragPayloads

end Annotator

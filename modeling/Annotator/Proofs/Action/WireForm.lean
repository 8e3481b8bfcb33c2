import Annotator.Action.Wire
import Annotator.Proofs.Action.Reserved

/-!
The wire form of an action is read back as the action it came from, up to lists that are too short
to show in it, and whatever can be read is written again character by character.
-/

namespace Annotator

section Pieces

variable {delimiter : Char} {text piece : List Char} {c : Char}

/-- The first piece of a text is the part before the first delimiter. -/
theorem splitOn_eq_takeWhile_cons (delimiter : Char) (text : List Char) :
    ∃ pieces, text.splitOn delimiter = text.takeWhile (· != delimiter) :: pieces := by
  -- Induction on the text, as each character either ends the first piece or belongs to it.
  induction text with
  | nil => exact ⟨[], rfl⟩
  | cons c rest ih =>
    obtain ⟨pieces, split⟩ := ih
    rw [List.splitOn_cons_eq_if_modifyHead]
    by_cases same : c = delimiter
    · exact ⟨rest.splitOn delimiter, by simp [same]⟩
    · exact ⟨pieces, by simp [same, split]⟩

/-- No piece contains the delimiter. -/
theorem not_mem_of_mem_splitOn (member : piece ∈ text.splitOn delimiter) : delimiter ∉ piece := by
  -- Induction on the text, following the character that is split off or joined to a piece.
  induction text generalizing piece with
  | nil =>
    have empty : piece = [] := by simpa using member
    simp [empty]
  | cons c rest ih =>
    obtain ⟨pieces, split⟩ := splitOn_eq_takeWhile_cons delimiter rest
    rw [List.splitOn_cons_eq_if_modifyHead] at member
    by_cases same : c = delimiter
    · -- A delimiter opens the pieces of the rest with an empty one.
      have either : piece = [] ∨ piece ∈ rest.splitOn delimiter := by simpa [same] using member
      rcases either with rfl | later
      · simp
      · exact ih later
    · -- Any other character joins the first piece of the rest.
      rw [split] at member ih
      have either : piece = c :: rest.takeWhile (· != delimiter) ∨ piece ∈ pieces := by
        simpa [same] using member
      rcases either with rfl | later
      · have apart : delimiter ∉ rest.takeWhile (· != delimiter) := ih List.mem_cons_self
        simp only [List.mem_cons, not_or]
        exact ⟨fun equal => same equal.symm, apart⟩
      · exact ih (List.mem_cons_of_mem _ later)

/-- The characters of the pieces are characters of the text. -/
theorem mem_of_mem_splitOn (member : piece ∈ text.splitOn delimiter) (inside : c ∈ piece) :
    c ∈ text := by
  -- The same induction: splitting only ever drops delimiters.
  induction text generalizing piece with
  | nil =>
    have empty : piece = [] := by simpa using member
    simp [empty] at inside
  | cons first rest ih =>
    obtain ⟨pieces, split⟩ := splitOn_eq_takeWhile_cons delimiter rest
    rw [List.splitOn_cons_eq_if_modifyHead] at member
    by_cases same : first = delimiter
    · -- What a delimiter opens holds no character of its own.
      have either : piece = [] ∨ piece ∈ rest.splitOn delimiter := by simpa [same] using member
      rcases either with rfl | later
      · simp at inside
      · exact List.mem_cons_of_mem _ (ih later inside)
    · rw [split] at member ih
      have either : piece = first :: rest.takeWhile (· != delimiter) ∨ piece ∈ pieces := by
        simpa [same] using member
      rcases either with rfl | later
      · -- A character that joins the first piece stands at the front of the text.
        rcases List.mem_cons.mp inside with rfl | behind
        · exact List.mem_cons_self
        · exact List.mem_cons_of_mem _ (ih List.mem_cons_self behind)
      · exact List.mem_cons_of_mem _ (ih (List.mem_cons_of_mem _ later) inside)

/-- A character of joined pieces is the delimiter or a character of a piece. -/
theorem mem_intercalate {pieces : List (List Char)}
    (inside : c ∈ [delimiter].intercalate pieces) :
    c = delimiter ∨ ∃ piece ∈ pieces, c ∈ piece := by
  -- Induction on the pieces, each of which is joined by one delimiter to those behind it.
  induction pieces with
  | nil => simp at inside
  | cons first rest ih =>
    cases rest with
    | nil => exact .inr ⟨first, by simp, by simpa using inside⟩
    | cons second later =>
      rw [List.intercalate_cons_cons, List.mem_append, List.mem_append] at inside
      rcases inside with (early | between) | behind
      · exact .inr ⟨first, by simp, early⟩
      · exact .inl (List.mem_singleton.mp between)
      · refine (ih behind).imp_right fun ⟨piece, member, held⟩ => ?_
        exact ⟨piece, List.mem_cons_of_mem _ member, held⟩

end Pieces

/-- A text is safe to send when neither delimiter occurs in it. -/
theorem hasReserved_eq_false_iff_not_mem {text : String} :
    hasReserved text = false ↔ fieldDelimiter ∉ text.toList ∧ itemDelimiter ∉ text.toList := by
  -- The delimiters are written out as characters in what is known of them.
  rw [hasReserved_eq_false_iff_undelimited]
  constructor
  · exact fun undelimited => ⟨undelimited.noField, undelimited.noItem⟩
  · exact fun ⟨noField, noItem⟩ => ⟨noField, noItem⟩

namespace Argument

/-- An argument as its field shows it: a list of fewer than two items looks like a plain text. -/
def canonical : Argument → Argument
  -- Without an item delimiter nothing tells a list from a text.
  | .value text => .value text
  | .list [] => .value ""
  | .list [item] => .value item
  | .list (first :: second :: rest) => .list (first :: second :: rest)

variable {argument : Argument}

/-- The field of a clean argument keeps clear of the field delimiter. -/
theorem fieldDelimiter_not_mem_encode
    (clean : ∀ text ∈ argument.texts, hasReserved text = false) :
    fieldDelimiter ∉ argument.encode := by
  -- A list adds item delimiters between its items, and those are no field delimiters.
  cases argument with
  | value text =>
    have apart := hasReserved_eq_false_iff_not_mem.mp (clean text (by simp [texts]))
    exact apart.1
  | list items =>
    intro inside
    rcases mem_intercalate inside with same | ⟨piece, member, held⟩
    · exact absurd same (by decide)
    · obtain ⟨item, present, rfl⟩ := List.mem_map.mp member
      exact (hasReserved_eq_false_iff_not_mem.mp (clean item present)).1 held

/-- A field without item delimiter carries a plain argument. -/
theorem decode_of_not_mem {field : List Char} (plain : itemDelimiter ∉ field) :
    decode field = .value (String.ofList field) := by
  -- Reading asks for nothing but the item delimiter.
  simp [decode, plain]

/-- The field of a clean argument carries that argument in canonical form. -/
theorem decode_encode (clean : ∀ text ∈ argument.texts, hasReserved text = false) :
    decode argument.encode = argument.canonical := by
  -- Without a delimiter of its own, each text stands in the field as it is.
  have apart (text : String) (member : text ∈ argument.texts) : itemDelimiter ∉ text.toList :=
    (hasReserved_eq_false_iff_not_mem.mp (clean text member)).2
  -- Only a list of two or more items puts a delimiter into the field.
  match argument with
  | .value text =>
    rw [encode, decode_of_not_mem (apart text (by simp [texts])), String.ofList_toList, canonical]
  | .list [] => rfl
  | .list [item] =>
    -- A single item is written without a delimiter, so it comes back as a plain text.
    have plain : encode (.list [item]) = item.toList := by simp [encode]
    rw [plain, decode_of_not_mem (apart item (by simp [texts])), String.ofList_toList, canonical]
  | .list (first :: second :: rest) =>
    -- The delimiters of a longer list cut its field at the items again.
    have joined : itemDelimiter ∈ encode (.list (first :: second :: rest)) := by
      simp [encode, List.intercalate_cons_cons]
    have split : (encode (.list (first :: second :: rest))).splitOn itemDelimiter =
        (first :: second :: rest).map String.toList := by
      refine List.splitOn_intercalate itemDelimiter (fun piece member => ?_) (by simp)
      obtain ⟨item, present, rfl⟩ := List.mem_map.mp member
      exact apart item present
    simp [decode, joined, split, canonical]

/-- Whatever a field carries is written as that field. -/
theorem encode_decode (field : List Char) : encode (decode field) = field := by
  -- Joining the pieces of a field with the delimiter they were cut at gives the field back.
  unfold decode
  split
  · have items : ((field.splitOn itemDelimiter).map String.ofList).map String.toList =
        field.splitOn itemDelimiter := by simp
    rw [encode, items, List.intercalate_splitOn]
  · rw [encode, String.toList_ofList]

/-- What a field carries is clean when the field keeps clear of the field delimiter. -/
theorem hasReserved_of_mem_texts_decode {field : List Char} (apart : fieldDelimiter ∉ field)
    {text : String} (member : text ∈ (decode field).texts) : hasReserved text = false := by
  -- Items are pieces of the field, cut at their own delimiter and without any other.
  rw [hasReserved_eq_false_iff_not_mem]
  unfold decode at member
  split at member
  · obtain ⟨piece, present, rfl⟩ := List.mem_map.mp member
    rw [String.toList_ofList]
    exact ⟨fun inside => apart (mem_of_mem_splitOn present inside), not_mem_of_mem_splitOn present⟩
  · rename_i plain
    obtain rfl : text = String.ofList field := by simpa [texts] using member
    rw [String.toList_ofList]
    exact ⟨apart, by simpa using plain⟩

end Argument

namespace Action

/-- An action as its wire form shows it. -/
def canonical (action : Action) : Action :=
  -- The name and the number of arguments stay.
  { action with args := action.args.map Argument.canonical }

/-- The part of a wire form that names the action. -/
def nameField (wire : String) : List Char :=
  -- Without a field delimiter all of the text is the name.
  wire.toList.takeWhile (· != fieldDelimiter)

variable {action : Action} {wire : String}

/-- Writing succeeds exactly on valid actions and joins the fields. -/
theorem encode_eq_ok_iff :
    action.encode = .ok wire ↔ action.validate = .ok () ∧
      wire.toList = [fieldDelimiter].intercalate
        (action.name.toList :: action.args.map Argument.encode) := by
  -- Writing validates first, and then cannot fail.
  unfold encode
  cases action.validate with
  | error error => simp
  | ok done => simp [← String.toList_inj, eq_comm]

/-- Reading asks for a name and then takes the other fields one by one. -/
theorem decode_of_split {name : List Char} {fields : List (List Char)}
    (split : wire.toList.splitOn fieldDelimiter = name :: fields) :
    decode wire =
      if name = [] ∨ itemDelimiter ∈ name then .error (.malformed wire)
      else .ok { name := String.ofList name, args := fields.map Argument.decode } := by
  -- The first piece is the name, and everything that can be wrong is wrong with it.
  unfold decode
  rw [split]
  simp [List.isEmpty_iff]

/-- A text is the wire form of an action exactly when it begins with a proper name. -/
theorem exists_decode_eq_ok_iff :
    (∃ action, decode wire = .ok action) ↔
      nameField wire ≠ [] ∧ itemDelimiter ∉ nameField wire := by
  -- The name is the first piece of the split at the field delimiter.
  obtain ⟨fields, split⟩ := splitOn_eq_takeWhile_cons fieldDelimiter wire.toList
  rw [decode_of_split split, ← nameField]
  by_cases improper : nameField wire = [] ∨ itemDelimiter ∈ nameField wire
  · rw [if_pos improper]
    simp only [reduceCtorEq, exists_false, false_iff]
    rintro ⟨named, single⟩
    exact improper.elim named single
  · rw [if_neg improper]
    exact ⟨fun _ => not_or.mp improper, fun _ => ⟨_, rfl⟩⟩

/-- A clean action is read back from its own wire form as the form shows it. -/
theorem decode_encode (written : action.encode = .ok wire) :
    decode wire = .ok action.canonical := by
  -- The name and the arguments are cut out of the wire form again, and then read one by one.
  obtain ⟨valid, joined⟩ := encode_eq_ok_iff.mp written
  obtain ⟨named, clean⟩ := validate_eq_ok_iff.mp valid
  have cleanName : fieldDelimiter ∉ action.name.toList ∧ itemDelimiter ∉ action.name.toList :=
    hasReserved_eq_false_iff_not_mem.mp (clean action.name (by simp [texts]))
  have cleanArgument (argument : Argument) (member : argument ∈ action.args) :
      ∀ text ∈ argument.texts, hasReserved text = false := by
    intro text inside
    refine clean text (List.mem_cons_of_mem _ ?_)
    exact List.mem_flatMap.mpr ⟨argument, member, inside⟩
  -- The fields are found again because none of them contains their delimiter.
  have split : wire.toList.splitOn fieldDelimiter =
      action.name.toList :: action.args.map Argument.encode := by
    rw [joined]
    refine List.splitOn_intercalate fieldDelimiter (fun field member => ?_) (by simp)
    rcases List.mem_cons.mp member with rfl | later
    · exact cleanName.1
    · obtain ⟨argument, present, rfl⟩ := List.mem_map.mp later
      exact Argument.fieldDelimiter_not_mem_encode (cleanArgument argument present)
  have fields : (action.args.map Argument.encode).map Argument.decode =
      action.args.map Argument.canonical := by
    rw [List.map_map]
    refine List.map_congr_left fun argument member => ?_
    exact Argument.decode_encode (cleanArgument argument member)
  have proper : ¬(action.name.toList = [] ∨ itemDelimiter ∈ action.name.toList) := by
    rintro (empty | listed)
    · exact named (String.toList_eq_nil_iff.mp empty)
    · exact cleanName.2 listed
  rw [decode_of_split split, if_neg proper, fields, String.ofList_toList, canonical]

/-- Whatever is read from a wire form is written as that form. -/
theorem encode_decode (read : decode wire = .ok action) : action.encode = .ok wire := by
  -- What is read is valid and joins to the text it was read from.
  obtain ⟨fields, split⟩ := splitOn_eq_takeWhile_cons fieldDelimiter wire.toList
  have apart (field : List Char) (member : field ∈ wire.toList.splitOn fieldDelimiter) :
      fieldDelimiter ∉ field := not_mem_of_mem_splitOn member
  rw [split] at apart
  rw [decode_of_split split] at read
  split at read
  · simp at read
  · rename_i proper
    obtain ⟨named, single⟩ := not_or.mp proper
    cases read
    have joined : [fieldDelimiter].intercalate (wire.toList.splitOn fieldDelimiter) =
      wire.toList := List.intercalate_splitOn fieldDelimiter
    have written : (fields.map Argument.decode).map Argument.encode = fields := by
      rw [List.map_map]
      exact (List.map_congr_left fun field _ => Argument.encode_decode field).trans (List.map_id _)
    refine encode_eq_ok_iff.mpr ⟨validate_eq_ok_iff.mpr ⟨?_, fun text member => ?_⟩, ?_⟩
    · -- The name is not empty, since reading asks for one.
      intro empty
      have none := congrArg String.toList empty
      rw [String.toList_ofList] at none
      exact named none
    · -- No text has a delimiter, since the fields were cut at one and the items at the other.
      rcases List.mem_cons.mp member with rfl | later
      · rw [hasReserved_eq_false_iff_not_mem, String.toList_ofList]
        exact ⟨apart _ List.mem_cons_self, single⟩
      · obtain ⟨argument, present, inside⟩ := List.mem_flatMap.mp later
        obtain ⟨field, held, rfl⟩ := List.mem_map.mp present
        exact Argument.hasReserved_of_mem_texts_decode (apart field (List.mem_cons_of_mem _ held))
          inside
    · rw [written, String.toList_ofList, ← split, joined]

end Action

/--
The wire codec: exactly the actions with a name and without delimiters are written, and they are
read back in canonical form; exactly the texts that begin with a proper name are read, and they are
written back as they are. So the wire forms are the texts that can be read, and each of them
belongs to actions of one canonical form.
-/
theorem wire_form_exact :
    (∀ action : Action,
      ((∃ wire, action.encode = .ok wire) ↔
        action.name ≠ "" ∧ ∀ text ∈ action.texts,
          fieldDelimiter ∉ text.toList ∧ itemDelimiter ∉ text.toList) ∧
      ∀ wire, action.encode = .ok wire → Action.decode wire = .ok action.canonical) ∧
    (∀ wire : String,
      ((∃ action, Action.decode wire = .ok action) ↔
        Action.nameField wire ≠ [] ∧ itemDelimiter ∉ Action.nameField wire) ∧
      ∀ action, Action.decode wire = .ok action → action.encode = .ok wire) ∧
    (∀ wire, (∃ action, Action.decode wire = .ok action) ↔
      ∃ action : Action, action.encode = .ok wire) ∧
    ∀ (one other : Action) (wire : String), one.encode = .ok wire → other.encode = .ok wire →
      one.canonical = other.canonical := by
  -- Both directions are the lemmas about actions, and what is said of texts follows from the two.
  refine ⟨fun action => ⟨?_, fun wire => Action.decode_encode⟩, fun wire =>
    ⟨Action.exists_decode_eq_ok_iff, fun action => Action.encode_decode⟩, fun wire => ?_, ?_⟩
  · -- Writing asks for nothing but validity.
    simp only [← hasReserved_eq_false_iff_not_mem]
    rw [← Action.validate_eq_ok_iff]
    constructor
    · rintro ⟨wire, written⟩
      exact (Action.encode_eq_ok_iff.mp written).1
    · intro valid
      let fields := action.name.toList :: action.args.map Argument.encode
      refine ⟨String.ofList ([fieldDelimiter].intercalate fields), ?_⟩
      exact Action.encode_eq_ok_iff.mpr ⟨valid, String.toList_ofList⟩
  · constructor
    · rintro ⟨action, read⟩
      exact ⟨action, Action.encode_decode read⟩
    · rintro ⟨action, written⟩
      exact ⟨action.canonical, Action.decode_encode written⟩
  · -- Both actions are read back from the one text.
    intro one other wire written otherWritten
    have read := Action.decode_encode written
    rw [Action.decode_encode otherWritten] at read
    exact (Except.ok.inj read).symm

/-- Short lists and empty texts pass through the wire form, and the short lists come back plain. -/
theorem wire_form_exact_short_lists :
    let action : Action :=
      { name := "Run", args := [.list [], .list ["a"], .value "", .list ["", ""]] }
    let wire := "Run||a||\x1f"
    action.encode = .ok wire ∧
      Action.decode wire =
        .ok { name := "Run", args := [.value "", .value "a", .value "", .list ["", ""]] } ∧
      ∃ read, Action.decode wire = .ok read ∧ read.encode = .ok wire := by
  -- The text is computed, and what reading it gives follows from the general law.
  intro action wire
  have written : action.encode = .ok wire := by
    refine Action.encode_eq_ok_iff.mpr ⟨Action.validate_eq_ok_iff.mpr ⟨by decide, by decide⟩, ?_⟩
    decide
  have read : Action.decode wire = .ok action.canonical :=
    (wire_form_exact.1 action).2 wire written
  have again : action.canonical.encode = .ok wire := (wire_form_exact.2.1 wire).2 _ read
  exact ⟨written, read, action.canonical, read, again⟩

end Annotator

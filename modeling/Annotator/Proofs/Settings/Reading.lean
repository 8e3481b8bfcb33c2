import Annotator.Settings.Document
import Mathlib.Data.List.Forall2
import Mathlib.Data.List.Nodup

/-!
Settings are read from a node that shows their document, also when fields are missing from it that
hold their defaults.
-/

namespace Annotator

/-! ## Numbers -/

namespace Text

/-- Decimal digits extend a number to the one that they write behind it. -/
theorem extendNumber?_digits {digits : List Char} (isDigits : ∀ c ∈ digits, c.isDigit = true)
    (start : Nat) : extendNumber? 10 digits start = some (Nat.ofDigitChars 10 digits start) := by
  -- Induction on the digits, each of which is smaller than the base.
  induction digits generalizing start with
  | nil => rfl
  | cons c rest ih =>
    have isDigit : c.isDigit = true := isDigits c List.mem_cons_self
    have small : c.toNat - '0'.toNat < 10 := by
      simp only [Char.isDigit, Bool.and_eq_true, decide_eq_true_eq, UInt32.le_iff_toNat_le]
        at isDigit
      exact Nat.sub_lt_left_of_lt_add isDigit.1 (Nat.lt_succ_of_le isDigit.2)
    have later := ih (fun d member => isDigits d (List.mem_cons_of_mem c member))
      (10 * start + (c.toNat - '0'.toNat))
    simp only [extendNumber?] at later
    simp only [extendNumber?, List.foldlM_cons, digitValue?, isDigit, if_true, small,
      Option.bind_eq_bind, Option.bind_some, Nat.ofDigitChars_cons]
    rw [Nat.mul_comm start 10]
    exact later

end Text

namespace Yaml.Plain

/-- Only zero is written with a zero in front. -/
theorem toDigits_zero_front {number : Nat} {rest : List Char}
    (written : Nat.toDigits 10 number = '0' :: rest) : rest = [] := by
  -- Induction on the number, which loses its last digit.
  induction number using Nat.strongRecOn generalizing rest with
  | ind number ih =>
    by_cases small : number < 10
    · rw [Nat.toDigits_of_lt_base small] at written
      exact (List.cons.inj written).2.symm
    · rw [Nat.toDigits_of_base_le (by decide) (Nat.le_of_not_lt small)] at written
      obtain ⟨first, front, split⟩ := List.exists_cons_of_ne_nil
        (Nat.toDigits_ne_nil (n := number / 10) (b := 10))
      rw [split, List.cons_append] at written
      obtain ⟨rfl, -⟩ := List.cons.inj written
      -- The digits in front would be those of zero.
      have zero := ih (number / 10) (by omega) split
      have value : Nat.ofDigitChars 10 (Nat.toDigits 10 (number / 10)) 0 = number / 10 :=
        Nat.ofDigitChars_toDigits (by decide) (by decide)
      rw [split, zero] at value
      have : number / 10 = 0 := value.symm
      omega

/-- Text of digits has no mark of another base. -/
theorem marked?_digits {mark digits : List Char} {c : Char} (inMark : c ∈ mark)
    (isMark : c.isDigit = false) (isDigits : ∀ d ∈ digits, d.isDigit = true) :
    marked? mark digits = none := by
  -- A mark holds a character that is no digit.
  rw [marked?, if_neg]
  rw [List.isPrefixOf_iff_prefix]
  intro front
  exact Bool.noConfusion (isMark.symm.trans (isDigits c (front.subset inMark)))

/-- A number is read from its decimal digits. -/
theorem natural?_toString {bound number : Nat} (within : number ≤ bound) :
    natural? bound (toString number).toList = some number := by
  -- What is written are digits without a sign, a mark or a zero in front.
  rw [Nat.toString_eq_repr, Nat.toList_repr]
  obtain ⟨first, rest, written⟩ := List.exists_cons_of_ne_nil
    (Nat.toDigits_ne_nil (n := number) (b := 10))
  have isDigits : ∀ c ∈ Nat.toDigits 10 number, c.isDigit = true := fun c =>
    Nat.isDigit_of_mem_toDigits (by decide) (by decide)
  have read : Text.number? 10 (Nat.toDigits 10 number) = some number := by
    rw [Text.number?, if_neg (by simp [written]), Text.extendNumber?_digits isDigits,
      Nat.ofDigitChars_toDigits (by decide) (by decide)]
  have unmarked : markedNumber? (Nat.toDigits 10 number) = none := by
    rw [markedNumber?, marked?_digits (c := 'x') (by decide) (by decide) isDigits,
      marked?_digits (c := 'o') (by decide) (by decide) isDigits,
      marked?_digits (c := 'b') (by decide) (by decide) isDigits]
    rfl
  have isDigit : first.isDigit = true := isDigits first (by simp [written])
  have positive : first ≠ '+' ∧ first ≠ '-' := by
    constructor <;> rintro rfl <;> exact absurd isDigit (by decide)
  have bare : unsigned (first :: rest) = first :: rest := by
    unfold unsigned
    split
    · rename_i same
      exact absurd (List.cons.inj same).1 positive.1
    · rename_i same
      exact absurd (List.cons.inj same).1 positive.2
    · rfl
  have plain : hasLeadingZero (first :: rest) = false := by
    unfold hasLeadingZero
    rw [bare]
    split
    · rename_i digits same
      obtain ⟨rfl, rfl⟩ := List.cons.inj same
      simp [toDigits_zero_front written]
    · rfl
  unfold natural?
  rw [written] at read unmarked ⊢
  split
  · rename_i same
    exact absurd (List.cons.inj same).1 positive.1
  · simp [unmarked, plain, read, within]

end Yaml.Plain

/-! ## What a node shows -/

/-- Steps that all succeed yield the list of their values. -/
theorem mapM_of_forall₂ {α β ε : Type} {step : α → Except ε β} {inputs : List α} {values : List β}
    (each : List.Forall₂ (fun input value => step input = .ok value) inputs values) :
    inputs.mapM step = .ok values := by
  -- Induction on the pairs, as no step fails.
  induction each with
  | nil => rfl
  | cons first _ rest => simp [List.mapM_cons, first, rest, bind, Except.bind, pure, Except.pure]

namespace YamlNode

/-- A key is a scalar with the text of a name. -/
@[simp]
def isKey (name : String) : YamlNode → Bool
  -- Keys may be plain or not.
  | .scalar _ text => text == name
  | _ => false

mutual

/-- A node shows a document when it is the same tree with the same scalars. -/
@[simp]
def shows : YamlNode → Document → Bool
  -- Texts may be plain or not, and all other scalars are plain.
  | .scalar _ text, .text value => text == value
  | .scalar plain text, .flag value => plain && text == Document.flagText value
  | .scalar plain text, .number value => plain && text == toString value
  -- Behind a key without anything there may be a record without fields.
  | .scalar plain text, .record [] => plain && text.isEmpty
  | .list nodes, .list items => showsItems nodes items
  | .map pairs, .record fields => showsFields pairs fields
  | _, _ => false

/-- Nodes show the items of a list one by one. -/
@[simp]
def showsItems : List YamlNode → List Document → Bool
  -- The order is the same.
  | [], [] => true
  | node :: nodes, item :: items => node.shows item && showsItems nodes items
  | _, _ => false

/-- Pairs of nodes show the fields of a record one by one. -/
@[simp]
def showsFields : List (YamlNode × YamlNode) → List (String × Document) → Bool
  -- The order is the same.
  | [], [] => true
  | (key, node) :: pairs, (name, value) :: fields =>
    key.isKey name && node.shows value && showsFields pairs fields
  | _, _ => false

end

variable {node : YamlNode}

/-- A node is a key when it is a scalar of that text. -/
theorem isKey_iff {name : String} :
    node.isKey name = true ↔ ∃ plain, node = .scalar plain name := by
  -- One case for each kind of node.
  cases node <;> simp

/-- A text is shown by a scalar, quoted or not. -/
theorem shows_text_iff {value : String} :
    node.shows (.text value) = true ↔ ∃ plain, node = .scalar plain value := by
  -- One case for each kind of node.
  cases node <;> simp

/-- A flag is shown by a plain scalar. -/
theorem shows_flag_iff {value : Bool} :
    node.shows (.flag value) = true ↔ node = .scalar true (Document.flagText value) := by
  -- One case for each kind of node.
  cases node <;> simp

/-- A number is shown by a plain scalar of its digits. -/
theorem shows_number_iff {value : Nat} :
    node.shows (.number value) = true ↔ node = .scalar true (toString value) := by
  -- One case for each kind of node.
  cases node <;> simp

/-- Nodes show items when they do so one by one. -/
theorem showsItems_iff {nodes : List YamlNode} {items : List Document} :
    showsItems nodes items = true ↔
      List.Forall₂ (fun node item => node.shows item = true) nodes items := by
  -- Induction on the nodes along the items.
  induction nodes generalizing items with
  | nil => cases items <;> simp
  | cons node nodes ih => cases items <;> simp [ih]

/-- Pairs of nodes show fields when they do so one by one. -/
theorem showsFields_iff {pairs : List (YamlNode × YamlNode)} {fields : List (String × Document)} :
    showsFields pairs fields = true ↔
      List.Forall₂ (fun pair field => pair.1.isKey field.1 = true ∧ pair.2.shows field.2 = true)
        pairs fields := by
  -- Induction on the pairs along the fields.
  induction pairs generalizing fields with
  | nil => cases fields <;> simp
  | cons pair pairs ih => cases fields <;> simp [ih]

/-- A list is shown by a list of nodes. -/
theorem shows_list_iff {items : List Document} :
    node.shows (.list items) = true ↔
      ∃ nodes, node = .list nodes ∧
        List.Forall₂ (fun node item => node.shows item = true) nodes items := by
  -- One case for each kind of node.
  cases node <;> simp [showsItems_iff]

/-- A record is shown by a map, and an empty one also by nothing. -/
theorem shows_record_iff {fields : List (String × Document)} :
    node.shows (.record fields) = true ↔
      node.isLeftOut = true ∧ fields = [] ∨
        ∃ pairs, node = .map pairs ∧
          List.Forall₂ (fun pair field => pair.1.isKey field.1 = true ∧ pair.2.shows field.2 = true)
            pairs fields := by
  -- One case for each kind of node, and the empty record apart.
  cases node <;> cases fields <;> simp [isLeftOut, showsFields_iff]

/-- A truth value is read from the node that shows it. -/
theorem flag?_shows {value : Bool} (shown : node.shows (.flag value) = true) :
    node.flag? = .ok value := by
  -- Either flag is read from its word.
  rw [shows_flag_iff.mp shown]
  cases value <;> rfl

/-- A truth value that is given is read from the node that shows it. -/
theorem optionalFlag?_shows {value : Bool} (shown : node.shows (.flag value) = true) :
    node.optionalFlag? = .ok (some value) := by
  -- Either flag is read from its word.
  rw [shows_flag_iff.mp shown]
  cases value <;> rfl

/-- A number that a setting may have is read from the node that shows it. -/
theorem number?_shows {value : Nat} (sized : value ≤ largestNumber)
    (shown : node.shows (.number value) = true) : node.number? = .ok value := by
  -- The digits are read back.
  rw [shows_number_iff.mp shown]
  simp only [number?, Yaml.Plain.natural?_toString sized]

/-- A text is read from the node that shows it. -/
theorem text?_shows {value : String} (shown : node.shows (.text value) = true) :
    node.text? = .ok value := by
  -- Both kinds of scalars are texts.
  obtain ⟨plain, rfl⟩ := shows_text_iff.mp shown
  rfl

/-- A list of texts is read from the node that shows it. -/
theorem texts?_shows {values : List String}
    (shown : node.shows (.list (values.map .text)) = true) : node.texts? = .ok values := by
  -- The texts are read one by one.
  obtain ⟨nodes, rfl, each⟩ := shows_list_iff.mp shown
  exact mapM_of_forall₂ ((List.forall₂_map_right_iff.mp each).imp fun _ _ => text?_shows)

end YamlNode

/-! ## Fields -/

namespace Document

mutual

/-- A document without the fields at some paths. -/
@[simp]
def without (omitted : List String → Bool) : Document → Document
  -- A path is the names of the fields that lead to its own.
  | .record fields => .record (withoutFields omitted fields)
  | .text value => .text value
  | .flag value => .flag value
  | .number value => .number value
  | .list items => .list items

/-- The fields that are left of a record. -/
@[simp]
def withoutFields (omitted : List String → Bool) :
    List (String × Document) → List (String × Document)
  -- What is left of a field may lack fields further inside.
  | [] => []
  | (name, value) :: rest =>
    if omitted [name] then withoutFields omitted rest
    else (name, value.without fun path => omitted (name :: path)) :: withoutFields omitted rest

end

/-- The part of a document at a path. -/
def at? : List String → Document → Option Document
  -- Only records have parts.
  | [], document => some document
  | name :: path, .record fields => (fields.lookup name).bind (at? path)
  | _ :: _, _ => none

/-- Only parts are omitted that are what they are by default. -/
def OmitsOnly (document : Document) (default? : List String → Option Document)
    (omitted : List String → Bool) : Prop :=
  -- Paths that lead nowhere omit nothing.
  ∀ path part, omitted path = true → document.at? path = some part → default? path = some part

variable {default? : List String → Option Document} {omitted : List String → Bool}
  {fields : List (String × Document)} {name : String}

/-- A path of one name leads to the field of that name. -/
@[simp]
theorem at?_field : (record fields).at? [name] = fields.lookup name := by
  -- The path ends inside the field.
  cases found : fields.lookup name <;> simp [at?, found]

/-- What is omitted inside of a field is what it is by default there. -/
theorem OmitsOnly.inside {value : Document} (only : (record fields).OmitsOnly default? omitted)
    (there : fields.lookup name = some value) :
    value.OmitsOnly (fun path => default? (name :: path)) (fun path => omitted (name :: path)) := by
  -- A path inside the field is one of the record that begins with the name.
  intro path part gone here
  exact only (name :: path) part gone (by simpa [at?, there] using here)

/-- A field is left with what is left of its value, unless it is omitted itself. -/
theorem lookup_withoutFields :
    (withoutFields omitted fields).lookup name =
      if omitted [name] then none
      else (fields.lookup name).map (without fun path => omitted (name :: path)) := by
  -- Induction on the fields: the first of the name decides, whether it is left out or not.
  induction fields with
  | nil => simp
  | cons field rest ih =>
    obtain ⟨other, value⟩ := field
    rw [withoutFields]
    by_cases same : name = other
    · subst same
      by_cases gone : omitted [name] = true
      · simpa [gone] using ih
      · simp [gone]
    · have differs : (name == other) = false := beq_eq_false_iff_ne.mpr same
      by_cases gone : omitted [other] = true
      · rw [if_pos gone, ih, List.lookup_cons, differs]
      · rw [if_neg gone, List.lookup_cons, differs, ih, List.lookup_cons, differs]

mutual

/-- Without omissions a document is what it was. -/
theorem without_nothing : ∀ document : Document, document.without (fun _ => false) = document
  -- Only records have parts to leave out.
  | .record fields => congrArg record (withoutFields_nothing fields)
  | .text _ | .flag _ | .number _ | .list _ => rfl

/-- Without omissions all fields are what they were. -/
theorem withoutFields_nothing : ∀ fields : List (String × Document),
    withoutFields (fun _ => false) fields = fields
  -- Induction on the fields, together with the documents in them.
  | [] => rfl
  | (name, value) :: rest => by
    rw [withoutFields, if_neg Bool.false_ne_true, without_nothing value,
      withoutFields_nothing rest]

end

/-- If no field is omitted, all are left with what is left of their values. -/
theorem withoutFields_eq_map (kept : ∀ field ∈ fields, omitted [field.1] = false) :
    withoutFields omitted fields =
      fields.map fun field => (field.1, field.2.without fun path => omitted (field.1 :: path)) := by
  -- Induction on the fields, none of which is left out as a whole.
  induction fields with
  | nil => rfl
  | cons field rest ih =>
    have stays := kept field List.mem_cons_self
    rw [withoutFields, stays, if_neg Bool.false_ne_true, List.map_cons,
      ih fun other member => kept other (List.mem_cons_of_mem field member)]

/-- The names that are left keep their order. -/
theorem names_withoutFields :
    ((withoutFields omitted fields).map (·.1)).Sublist (fields.map (·.1)) := by
  -- Induction on the fields, each of which stays in its place or goes.
  induction fields with
  | nil => exact .slnil
  | cons field rest ih =>
    rw [withoutFields]
    split
    · exact ih.cons _
    · exact ih.cons_cons _

end Document

section Fields

open YamlNode

variable {node : YamlNode} {named : List (String × YamlNode)} {fields : List (String × Document)}

/-- Named nodes show the fields of a record one by one. -/
def ShowFields (named : List (String × YamlNode)) (fields : List (String × Document)) : Prop :=
  -- The names are the same.
  List.Forall₂ (fun pair field => pair.1 = field.1 ∧ pair.2.shows field.2 = true) named fields

/-- The fields of a record are read from the node that shows it. -/
theorem fields?_shows (shown : node.shows (.record fields) = true) :
    ∃ named, node.fields? = .ok named ∧ ShowFields named fields := by
  -- A map is read pair by pair, and what is left out reads as no fields.
  rcases shows_record_iff.mp shown with ⟨leftOut, rfl⟩ | ⟨pairs, rfl, each⟩
  · cases node <;> simp_all [YamlNode.fields?, isLeftOut, ShowFields]
  clear shown
  -- Induction on the pairs, whose keys are texts.
  have reads : ∃ named : List (String × YamlNode),
      List.Forall₂ (fun pair entry => pair.1.text?.map (·, pair.2) = .ok entry) pairs named ∧
        ShowFields named fields := by
    induction each with
    | nil => exact ⟨[], .nil, .nil⟩
    | @cons pair field _ _ both _ ih =>
      obtain ⟨named, read, agree⟩ := ih
      obtain ⟨plain, key⟩ := isKey_iff.mp both.1
      exact ⟨(field.1, pair.2) :: named, .cons (by rw [key]; rfl) read, .cons ⟨rfl, both.2⟩ agree⟩
  obtain ⟨named, read, agree⟩ := reads
  exact ⟨named, mapM_of_forall₂ read, agree⟩

/-- Among distinct names a field is found exactly if it is there. -/
theorem onlyField?_shows (agree : ShowFields named fields) (distinct : (fields.map (·.1)).Nodup)
    (name : String) :
    fields.lookup name = none ∧ onlyField? named name = .ok none ∨
      ∃ value node, fields.lookup name = some value ∧ onlyField? named name = .ok (some node) ∧
        node.shows value = true := by
  -- Induction on the fields, whose names differ, so that a name is found once or not at all.
  have found : fields.lookup name = none ∧ named.filter (·.1 == name) = [] ∨
      ∃ value node, fields.lookup name = some value ∧
        named.filter (·.1 == name) = [(name, node)] ∧ node.shows value = true := by
    induction agree with
    | nil => exact .inl ⟨rfl, rfl⟩
    | @cons pair field named fields same _ ih =>
      obtain ⟨other, node⟩ := pair
      obtain ⟨_, value⟩ := field
      obtain ⟨rfl, shows⟩ := same
      rw [List.map_cons, List.nodup_cons] at distinct
      by_cases here : other = name
      · subst here
        -- The name does not come again.
        rcases ih distinct.2 with ⟨-, none⟩ | ⟨again, _, there, -, -⟩
        · exact .inr ⟨value, node, by simp, by simp [none], shows⟩
        · obtain ⟨front, back, rfl, -⟩ := List.lookup_eq_some_iff.mp there
          exact absurd (by simp) distinct.1
      · have differs : (name == other) = false := beq_eq_false_iff_ne.mpr (Ne.symm here)
        have passed : (other == name) = false := beq_eq_false_iff_ne.mpr here
        rw [List.lookup_cons, differs, List.filter_cons, passed]
        exact ih distinct.2
  rcases found with ⟨absent, none⟩ | ⟨value, node, there, only, shows⟩
  · exact .inl ⟨absent, by rw [onlyField?, none]⟩
  · exact .inr ⟨value, node, there, by rw [onlyField?, only], shows⟩

/-- A field that is there has its value, and one that is not has its default. -/
theorem fieldOr_shows {α : Type} {read : YamlNode → Except MalformedSettings α}
    {default value : α} {name : String} (agree : ShowFields named fields)
    (distinct : (fields.map (·.1)).Nodup)
    (present : ∀ document node, fields.lookup name = some document →
      node.shows document = true → read node = .ok value)
    (absent : fields.lookup name = none → default = value) :
    fieldOr named name read default = .ok value := by
  -- The field is given once or not at all.
  rcases onlyField?_shows agree distinct name with ⟨missing, none⟩ |
    ⟨document, node, there, only, shows⟩
  · rw [fieldOr, none, absent missing]
  · rw [fieldOr, only]
    exact present document node there shows

/-- A field is read from what is left of a record, where its default stands in if it is omitted. -/
theorem fieldOr_without {α : Type} {read : YamlNode → Except MalformedSettings α}
    {default value : α} {name : String} {found : Option Document}
    {default? : List String → Option Document} {omitted : List String → Bool}
    (agree : ShowFields named (Document.withoutFields omitted fields))
    (distinct : (fields.map (·.1)).Nodup)
    (only : (Document.record fields).OmitsOnly default? omitted)
    (there : fields.lookup name = found)
    (present : ∀ document node, found = some document →
      node.shows (document.without fun path => omitted (name :: path)) = true →
        read node = .ok value)
    (absent : found = none ∨ found = default? [name] → default = value) :
    fieldOr named name read default = .ok value := by
  -- The field may be missing in the record itself or because it was left out.
  subst there
  refine fieldOr_shows agree (distinct.sublist Document.names_withoutFields) ?_ ?_
  · intro left node there shows
    rw [Document.lookup_withoutFields] at there
    split_ifs at there
    obtain ⟨document, found, rfl⟩ := Option.map_eq_some_iff.mp there
    exact present document node found shows
  · intro missing
    rw [Document.lookup_withoutFields] at missing
    split_ifs at missing with gone
    · cases found : fields.lookup name with
      | none => exact absent (.inl found)
      | some document =>
        have same := only [name] document gone (by rw [Document.at?_field, found])
        exact absent (.inr (found.trans same.symm))
    · exact absent (.inl (Option.map_eq_none_iff.mp missing))

/-- A field that is always given is read from what is left of a record. -/
theorem fieldOr_given {α : Type} {read : YamlNode → Except MalformedSettings α}
    {default value : α} {name : String} {document : Document}
    {default? : List String → Option Document} {omitted : List String → Bool}
    (agree : ShowFields named (Document.withoutFields omitted fields))
    (distinct : (fields.map (·.1)).Nodup)
    (only : (Document.record fields).OmitsOnly default? omitted)
    (there : fields.lookup name = some document)
    (reads : ∀ {node : YamlNode},
      node.shows (document.without fun path => omitted (name :: path)) = true →
        read node = .ok value)
    (same : some document = default? [name] → default = value) :
    fieldOr named name read default = .ok value := by
  -- The record has the field, so only leaving it out makes it missing.
  refine fieldOr_without agree distinct only there ?_ ?_
  · rintro _ node ⟨⟩ shows
    exact reads shows
  · rintro (⟨⟨⟩⟩ | equal)
    exact same equal

/-- A truth value that is given only if it is set is read from what is left of a record. -/
theorem fieldOr_override {value : Option Bool} {name : String}
    {default? : List String → Option Document} {omitted : List String → Bool}
    (agree : ShowFields named (Document.withoutFields omitted fields))
    (distinct : (fields.map (·.1)).Nodup)
    (only : (Document.record fields).OmitsOnly default? omitted)
    (there : fields.lookup name = value.map .flag) (unset : default? [name] = none) :
    fieldOr named name YamlNode.optionalFlag? none = .ok value := by
  -- An override that is not set is missing from the record, and by default none is set.
  refine fieldOr_without agree distinct only there ?_ ?_
  · intro document node given shows
    obtain ⟨set, rfl, rfl⟩ := Option.map_eq_some_iff.mp given
    exact optionalFlag?_shows shows
  · rw [unset, or_self, Option.map_eq_none_iff]
    exact Eq.symm

end Fields

/-! ## Sections -/

variable {node : YamlNode} {omitted : List String → Bool}

namespace LogLevel

/-- A level is read from the node that shows its name. -/
theorem ofNode_shows {level : LogLevel} (shown : node.shows (.text level.name) = true) :
    ofNode node = .ok level := by
  -- Levels are told apart by their names.
  have named : ofName? level.name = some level := by cases level <;> rfl
  simp only [ofNode, YamlNode.text?_shows shown, named]

/-- The names of two levels differ. -/
theorem name_injective {one other : LogLevel} (same : one.name = other.name) : one = other := by
  -- One case for each pair of levels.
  cases one <;> cases other <;> first | rfl | simp [name] at same

end LogLevel

/-- Limits are known from their document. -/
theorem Limits.document_injective {one other : Limits} (same : one.document = other.document) :
    one = other := by
  -- Both numbers stand in the document.
  cases one
  cases other
  simpa [document] using same

/-- Limits are read from what is left of their document. -/
theorem Limits.ofNode_without {limits : Limits}
    (sized : limits.tooltipChars ≤ YamlNode.largestNumber ∧
      limits.menuEntries ≤ YamlNode.largestNumber)
    (only : limits.document.OmitsOnly (({} : Limits).document.at? ·) omitted)
    (shown : node.shows (limits.document.without omitted) = true) :
    Limits.ofNode node = .ok limits := by
  -- Field by field: each is read back, or left out at its default.
  rw [Limits.document, Document.without] at shown
  obtain ⟨named, read, agree⟩ := fields?_shows shown
  have tooltipRead : fieldOr named "tooltip_max_chars" YamlNode.number? 100 =
      .ok limits.tooltipChars := by
    refine fieldOr_given agree (by simp) only rfl (YamlNode.number?_shows sized.1) ?_
    simp [Limits.document, eq_comm]
  have menuRead : fieldOr named "menu_max_entries" YamlNode.number? 25 =
      .ok limits.menuEntries := by
    refine fieldOr_given agree (by simp) only rfl (YamlNode.number?_shows sized.2) ?_
    simp [Limits.document, List.lookup_cons, eq_comm]
  simp [Limits.ofNode, read, tooltipRead, menuRead, bind, Except.bind, pure, Except.pure]

namespace MakeSettings

/-- Texts are known from their documents. -/
theorem map_text_injective {texts others : List String}
    (same : texts.map Document.text = others.map .text) : texts = others :=
  -- The items are texts one by one.
  List.map_injective_iff.mpr (fun _ _ => Document.text.inj) same

/-- The settings of builds are known from their document. -/
theorem document_injective {one other : MakeSettings} (same : one.document = other.document) :
    one = other := by
  -- Both settings stand in the document.
  cases one
  cases other
  simp only [document, Document.record.injEq, List.cons.injEq, Prod.mk.injEq, Document.text.injEq,
    Document.list.injEq, true_and, and_true] at same
  rw [same.1, map_text_injective same.2]

/-- The settings of the build matcher are read from what is left of their document. -/
theorem ofNode_without {make : MakeSettings}
    (only : make.document.OmitsOnly (({} : MakeSettings).document.at? ·) omitted)
    (shown : node.shows (make.document.without omitted) = true) :
    ofNode node = .ok make := by
  -- Field by field: each is read back, or left out at its default.
  rw [document, Document.without] at shown
  obtain ⟨named, read, agree⟩ := fields?_shows shown
  have launcherRead : fieldOr named "editor_launcher" YamlNode.text? "Default" =
      .ok make.editorLauncher := by
    refine fieldOr_given agree (by simp) only rfl YamlNode.text?_shows ?_
    simp [document, eq_comm]
  have commandsRead : fieldOr named "commands" YamlNode.texts? ["make"] = .ok make.commands := by
    refine fieldOr_given agree (by simp) only rfl YamlNode.texts?_shows ?_
    intro same
    refine (map_text_injective ?_).symm
    simpa [document, List.lookup_cons] using same
  simp [ofNode, read, launcherRead, commandsRead, bind, Except.bind, pure, Except.pure]

end MakeSettings

namespace MatcherSettings

variable {settings : MatcherSettings}

/-- The fields of a matcher that are not at their defaults are given, and the first one always. -/
theorem lookup_fields (settings : MatcherSettings) :
    settings.fields.lookup "enabled" = some (.flag settings.enabled) ∧
    settings.fields.lookup "aliases" =
      (if settings.aliases = [] then none else some (.list (settings.aliases.map .text))) ∧
    settings.fields.lookup "fast" = settings.fast.map .flag ∧
    settings.fields.lookup "finish_after_stop" = settings.finishAfterStop.map .flag := by
  -- The three settings that may be unset are written only where they are set.
  obtain ⟨enabled, aliases, fast, finishAfterStop⟩ := settings
  cases aliases <;> cases fast <;> cases finishAfterStop <;> simp [fields, List.lookup_cons]

/-- No field of a matcher is written twice. -/
theorem fields_distinct (settings : MatcherSettings) : (settings.fields.map (·.1)).Nodup := by
  -- The three settings that may be unset are written only where they are set.
  obtain ⟨enabled, aliases, fast, finishAfterStop⟩ := settings
  cases aliases <;> cases fast <;> cases finishAfterStop <;> simp [fields]

/-- The settings of a matcher are read from what is left of their document. -/
theorem ofNode_without
    (only : settings.document.OmitsOnly (({} : MatcherSettings).document.at? ·) omitted)
    (shown : node.shows (settings.document.without omitted) = true) :
    ofNode node = .ok settings := by
  -- Field by field, where aliases and overrides are only written if they are set.
  rw [document, Document.without] at shown
  obtain ⟨named, read, agree⟩ := fields?_shows shown
  obtain ⟨enabled, aliases, fast, finish⟩ := settings.lookup_fields
  obtain ⟨enabled₀, -⟩ := ({} : MatcherSettings).lookup_fields
  have distinct := settings.fields_distinct
  have enabledRead : fieldOr named "enabled" YamlNode.flag? true = .ok settings.enabled := by
    refine fieldOr_given agree distinct only enabled YamlNode.flag?_shows ?_
    simp [document, enabled₀]
  have aliasesRead : fieldOr named "aliases" YamlNode.texts? [] = .ok settings.aliases := by
    refine fieldOr_without agree distinct only aliases ?_ ?_
    · intro document node given shows
      split_ifs at given
      obtain rfl := Option.some.inj given
      exact YamlNode.texts?_shows shows
    · intro lacking
      by_contra given
      rw [if_neg (Ne.symm given)] at lacking
      simp [document, fields, List.lookup_cons] at lacking
  have unset : ∀ key ∈ ["fast", "finish_after_stop"],
      ({} : MatcherSettings).document.at? [key] = none := by
    simp [document, fields, List.lookup_cons]
  have fastRead : fieldOr named "fast" YamlNode.optionalFlag? none = .ok settings.fast :=
    fieldOr_override agree distinct only fast (unset "fast" (by simp))
  have finishRead : fieldOr named "finish_after_stop" YamlNode.optionalFlag? none =
      .ok settings.finishAfterStop :=
    fieldOr_override agree distinct only finish (unset "finish_after_stop" (by simp))
  simp [ofNode, read, enabledRead, aliasesRead, fastRead, finishRead, bind, Except.bind, pure,
    Except.pure]

end MatcherSettings

namespace MatcherTable

/-- Entries under new names are appended one by one. -/
theorem entries_foldl {table : MatcherTable} {entries : List (String × MatcherSettings)}
    (distinct : ((table.entries ++ entries).map (·.1)).Nodup) :
    (entries.foldl (fun table entry => table.insert entry.1 entry.2) table).entries =
      table.entries ++ entries := by
  -- Induction on the entries, none of which replaces an earlier one.
  induction entries generalizing table with
  | nil => simp
  | cons entry rest ih =>
    have others : table.others entry.1 = table.entries := by
      refine List.filter_eq_self.mpr fun earlier member => ?_
      rw [List.map_append, List.nodup_append] at distinct
      have differs := distinct.2.2 earlier.1 (List.mem_map_of_mem member) entry.1 (by simp)
      exact bne_iff_ne.mpr differs
    have inserted : (table.insert entry.1 entry.2).entries = table.entries ++ [entry] :=
      congrArg (· ++ [entry]) others
    rw [List.foldl_cons, ih (by simpa [inserted] using distinct), inserted, List.append_assoc,
      List.singleton_append]

/-- A table is the table of its entries. -/
theorem ofList_entries (table : MatcherTable) : ofList table.entries = table := by
  -- The names of the entries differ, so each is added at the end.
  obtain ⟨entries, distinct⟩ := table
  have same : (ofList entries).entries = entries := entries_foldl (by simpa using distinct)
  generalize ofList entries = other at same
  cases other
  congr

/-- The fields that describe the settings of matchers by name. -/
def fields (table : MatcherTable) : List (String × Document) :=
  -- Each entry has a field of its own.
  table.entries.map fun entry => (entry.1, entry.2.document)

/-- Every entry has its settings as a field. -/
theorem lookup_fields {table : MatcherTable} {entry : String × MatcherSettings}
    (member : entry ∈ table.entries) :
    table.fields.lookup entry.1 = some entry.2.document := by
  -- The names of the entries in front differ from this one.
  obtain ⟨front, back, split⟩ := List.append_of_mem member
  refine List.lookup_eq_some_iff.mpr
    ⟨front.map fun entry => (entry.1, entry.2.document),
      back.map fun entry => (entry.1, entry.2.document), by simp [fields, split], ?_⟩
  intro field earlier
  obtain ⟨other, before, rfl⟩ := List.mem_map.mp earlier
  have distinct := table.distinct
  rw [split, List.map_append, List.nodup_append] at distinct
  exact bne_iff_ne.mpr (distinct.2.2 other.1 (List.mem_map_of_mem before) entry.1 (by simp)).symm

/-- What the settings of matchers are by default at a path. -/
def defaultPart? : List String → Option Document
  -- There is no entry by default, but one that is there has defaults inside.
  | [] => some (.record [])
  | [_] => none
  | _ :: path => ({} : MatcherSettings).document.at? path

/-- The settings of matchers are read from what is left of their document. -/
theorem ofNode_without {table : MatcherTable}
    (only : (Document.record table.fields).OmitsOnly defaultPart? omitted)
    (shown : node.shows ((Document.record table.fields).without omitted) = true) :
    ofNode node = .ok table := by
  -- A table has no default entries, so none is left out as a whole.
  rw [Document.without] at shown
  obtain ⟨named, read, agree⟩ := fields?_shows shown
  have kept : ∀ entry ∈ table.entries, omitted [entry.1] = false := by
    intro entry member
    by_contra gone
    have never := only [entry.1] _ (by simpa using gone)
      (by rw [Document.at?_field, lookup_fields member])
    cases never
  have keptFields : ∀ field ∈ table.fields, omitted [field.1] = false :=
    List.forall_mem_map.mpr kept
  rw [Document.withoutFields_eq_map keptFields, fields, List.map_map, ShowFields,
    List.forall₂_map_right_iff, List.forall₂_iff_zip] at agree
  have entriesRead : named.mapM (fun field =>
      (MatcherSettings.ofNode field.2).map (field.1, ·)) = .ok table.entries := by
    refine mapM_of_forall₂ (List.forall₂_iff_zip.mpr ⟨agree.1, fun {field entry} pair => ?_⟩)
    obtain ⟨name, shows⟩ := agree.2 pair
    have member : entry ∈ table.entries := (List.of_mem_zip pair).2
    have inner : entry.2.document.OmitsOnly (({} : MatcherSettings).document.at? ·)
        (fun path => omitted (entry.1 :: path)) := by
      intro path part gone here
      cases path with
      | nil => exact absurd gone (by simp [kept entry member])
      | cons key path => exact only.inside (lookup_fields member) (key :: path) part gone here
    rw [MatcherSettings.ofNode_without inner shows, name]
    rfl
  simp [ofNode, read, entriesRead, bind, Except.bind, pure, Except.pure, ofList_entries]

end MatcherTable

namespace Settings

variable {settings : Settings}

/-- What settings are by default at a path. -/
def defaultPart? : List String → Option Document
  -- The default settings have no entry for a matcher, so entries have defaults of their own.
  | "matchers" :: path => MatcherTable.defaultPart? path
  | path => ({} : Settings).document.at? path

/-- Whether matchers wait is read from what is left of the section that says so. -/
theorem deferralOfNode_without {deferBuffered : Bool} {default? : List String → Option Document}
    (only : (Document.record [("defer_buffered_matchers", .flag deferBuffered)]).OmitsOnly
      default? omitted)
    (default : default? ["defer_buffered_matchers"] = some (.flag true))
    (shown : node.shows ((Document.record [("defer_buffered_matchers",
      .flag deferBuffered)]).without omitted) = true) :
    deferralOfNode node = .ok deferBuffered := by
  -- The one field is read back, or left out at its default.
  rw [Document.without] at shown
  obtain ⟨named, read, agree⟩ := fields?_shows shown
  have deferralRead : fieldOr named "defer_buffered_matchers" YamlNode.flag? true =
      .ok deferBuffered := by
    refine fieldOr_given agree (by simp) only rfl YamlNode.flag?_shows ?_
    simp [default]
  simp [deferralOfNode, read, deferralRead, bind, Except.bind]

/-- Settings are read from what is left of their document. -/
theorem ofNode_without
    (sized : settings.limits.tooltipChars ≤ YamlNode.largestNumber ∧
      settings.limits.menuEntries ≤ YamlNode.largestNumber)
    (only : settings.document.OmitsOnly defaultPart? omitted)
    (shown : node.shows (settings.document.without omitted) = true) :
    ofNode node = .ok settings := by
  -- Field by field: each is read back, or left out at its default.
  rw [document, Document.without] at shown
  obtain ⟨named, read, agree⟩ := fields?_shows shown
  have distinct : ∀ {a b c d e : Document}, (([("log_level", a), ("tracker", b), ("limits", c),
    ("matchers", d), ("make", e)]).map (·.1)).Nodup := by simp
  have levelRead : fieldOr named "log_level" LogLevel.ofNode .off = .ok settings.logLevel := by
    refine fieldOr_given agree distinct only rfl LogLevel.ofNode_shows ?_
    intro same
    exact LogLevel.name_injective (Document.text.inj (Option.some.inj same)).symm
  have trackerRead : fieldOr named "tracker" deferralOfNode true =
      .ok settings.deferBuffered := by
    refine fieldOr_given agree distinct only rfl
      (deferralOfNode_without (only.inside rfl) rfl) ?_
    intro same
    simpa using (Document.record.inj (Option.some.inj same)).symm
  have limitsRead : fieldOr named "limits" Limits.ofNode {} = .ok settings.limits := by
    refine fieldOr_given agree distinct only rfl
      (Limits.ofNode_without sized (only.inside rfl)) ?_
    intro same
    exact Limits.document_injective (Option.some.inj same).symm
  have matchersRead : fieldOr named "matchers" MatcherTable.ofNode {} =
      .ok settings.matchers := by
    refine fieldOr_given agree distinct only rfl
      (MatcherTable.ofNode_without (only.inside rfl)) ?_
    intro same
    have empty : settings.matchers.entries = [] :=
      List.map_eq_nil_iff.mp (Document.record.inj (Option.some.inj same))
    rw [← MatcherTable.ofList_entries settings.matchers, empty]
    rfl
  have makeRead : fieldOr named "make" MakeSettings.ofNode {} = .ok settings.make := by
    refine fieldOr_given agree distinct only rfl
      (MakeSettings.ofNode_without (only.inside rfl)) ?_
    intro same
    exact MakeSettings.document_injective (Option.some.inj same).symm
  simp [ofNode, read, levelRead, trackerRead, limitsRead, matchersRead, makeRead, bind,
    Except.bind, pure, Except.pure]

end Settings

end Annotator

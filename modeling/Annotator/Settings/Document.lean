import Annotator.Settings.Validate
import Annotator.Yaml.Document
import Annotator.Yaml.Plain

/-! Settings are kept as a document in which everything that is left out has its default. -/

namespace Annotator

/-- Why a document does not describe settings. -/
inductive MalformedSettings
  /-- A section is not a map. -/
  | expectedSection
  /-- A list is expected. -/
  | expectedList
  /-- A text is expected. -/
  | expectedText
  /-- A truth value is expected. -/
  | expectedFlag
  /-- A natural number is expected. -/
  | expectedNumber
  /-- No log level has this name. -/
  | unknownLevel (name : String)
  /-- A field is given twice. -/
  | repeatedField (name : String)
  deriving DecidableEq, Repr

namespace MalformedSettings

/-- The wording of what is wrong with a document. -/
def message : MalformedSettings → String
  -- Each cause is named in a few words.
  | .expectedSection => "invalid type: expected a map"
  | .expectedList => "invalid type: expected a sequence"
  | .expectedText => "invalid type: expected a string"
  | .expectedFlag => "invalid type: expected a boolean"
  | .expectedNumber => "invalid type: expected usize"
  | .unknownLevel name => "unknown variant \x60" ++ name ++ "\x60"
  | .repeatedField name => "duplicate field \x60" ++ name ++ "\x60"

end MalformedSettings

/-! ## Writing -/

namespace MatcherSettings

/-- The fields that describe the settings of a matcher. -/
def fields (settings : MatcherSettings) : List (String × Document) :=
  -- What is not set is left out, except for the first field.
  ("enabled", .flag settings.enabled) ::
    (if settings.aliases.isEmpty then []
      else [("aliases", .list (settings.aliases.map .text))]) ++
    (settings.fast.map fun value => ("fast", Document.flag value)).toList ++
    (settings.finishAfterStop.map fun value => ("finish_after_stop", Document.flag value)).toList

/-- The document that describes the settings of a matcher. -/
def document (settings : MatcherSettings) : Document :=
  -- It is a record of its fields.
  .record settings.fields

end MatcherSettings

namespace MakeSettings

/-- The document that describes the settings of the build matcher. -/
def document (make : MakeSettings) : Document :=
  -- Both fields are always given.
  .record
    [("editor_launcher", .text make.editorLauncher),
      ("commands", .list (make.commands.map .text))]

end MakeSettings

namespace Limits

/-- The document that describes limits. -/
def document (limits : Limits) : Document :=
  -- Both fields are always given.
  .record
    [("tooltip_max_chars", .number limits.tooltipChars),
      ("menu_max_entries", .number limits.menuEntries)]

end Limits

namespace Settings

/-- The document that describes settings. -/
def document (settings : Settings) : Document :=
  -- Every section is given.
  .record
    [("log_level", .text settings.logLevel.name),
      ("tracker", .record [("defer_buffered_matchers", .flag settings.deferBuffered)]),
      ("limits", settings.limits.document),
      ("matchers", .record (settings.matchers.entries.map fun entry =>
        (entry.1, entry.2.document))),
      ("make", settings.make.document)]

end Settings

/-! ## Reading -/

namespace YamlNode

/-- A node that was left out, as opposed to one that is explicitly null. -/
def isLeftOut : YamlNode → Bool
  -- An empty text between quotes is not left out.
  | .scalar plain text => plain && text.isEmpty
  | _ => false

/-- The text of a scalar. -/
def text? : YamlNode → Except MalformedSettings String
  -- Every scalar is a text, however it is written.
  | .scalar _ text => .ok text
  | _ => .error .expectedText

/-- The truth value of a scalar. -/
def flag? : YamlNode → Except MalformedSettings Bool
  -- Words between quotes are texts.
  | .scalar true text =>
    match Yaml.Plain.flag? text.toList with
    | some value => .ok value
    | none => .error .expectedFlag
  | _ => .error .expectedFlag

/-- The truth value of a scalar, where null stands for none. -/
def optionalFlag? (node : YamlNode) : Except MalformedSettings (Option Bool) :=
  -- A value that is left out is null too.
  match node with
  | .scalar true text =>
    if text.isEmpty || Yaml.Plain.isNull text.toList then .ok none else node.flag?.map some
  | _ => node.flag?.map some

/-- The largest number that a setting may have. -/
def largestNumber : Nat :=
  -- It has sixty-four bits.
  Nat.pow 2 64 - 1

/-- The natural number of a scalar. -/
def number? : YamlNode → Except MalformedSettings Nat
  -- Numbers between quotes are texts.
  | .scalar true text =>
    match Yaml.Plain.natural? largestNumber text.toList with
    | some value => .ok value
    | none => .error .expectedNumber
  | _ => .error .expectedNumber

/-- The texts of a list. -/
def texts? (node : YamlNode) : Except MalformedSettings (List String) :=
  -- A list that is left out is empty.
  match node with
  | .list items => items.mapM text?
  | other => if other.isLeftOut then .ok [] else .error .expectedList

/-- The fields of a map by name. -/
def fields? (node : YamlNode) : Except MalformedSettings (List (String × YamlNode)) :=
  -- A map that is left out is empty, and names are scalars.
  match node with
  | .map pairs => pairs.mapM fun pair => pair.1.text?.map (·, pair.2)
  | other => if other.isLeftOut then .ok [] else .error .expectedSection

end YamlNode

/-- The only field of a name, if there is one. -/
def onlyField? (fields : List (String × YamlNode)) (name : String) :
    Except MalformedSettings (Option YamlNode) :=
  -- A field must not be given twice.
  match fields.filter fun field => field.1 == name with
  | [] => .ok none
  | [field] => .ok (some field.2)
  | _ => .error (.repeatedField name)

/-- The value of a field, or its default. -/
def fieldOr {α : Type} (fields : List (String × YamlNode)) (name : String)
    (read : YamlNode → Except MalformedSettings α) (default : α) :
    Except MalformedSettings α :=
  -- Only a field that is absent has its default.
  match onlyField? fields name with
  | .error error => .error error
  | .ok none => .ok default
  | .ok (some node) => read node

namespace LogLevel

/-- The log level of a scalar. -/
def ofNode (node : YamlNode) : Except MalformedSettings LogLevel :=
  -- Names are compared exactly.
  match node.text? with
  | .error cause => .error cause
  | .ok name =>
    match ofName? name with
    | some level => .ok level
    | none => .error (.unknownLevel name)

end LogLevel

namespace MatcherSettings

/-- The settings of a matcher that a map describes. -/
def ofNode (node : YamlNode) : Except MalformedSettings MatcherSettings := do
  -- Unknown fields are passed over.
  let fields ← node.fields?
  let enabled ← fieldOr fields "enabled" YamlNode.flag? true
  let aliases ← fieldOr fields "aliases" YamlNode.texts? []
  let fast ← fieldOr fields "fast" YamlNode.optionalFlag? none
  let finishAfterStop ← fieldOr fields "finish_after_stop" YamlNode.optionalFlag? none
  return { enabled, aliases, fast, finishAfterStop }

end MatcherSettings

namespace MakeSettings

/-- The settings of the build matcher that a map describes. -/
def ofNode (node : YamlNode) : Except MalformedSettings MakeSettings := do
  -- Unknown fields are passed over.
  let fields ← node.fields?
  let editorLauncher ← fieldOr fields "editor_launcher" YamlNode.text? "Default"
  let commands ← fieldOr fields "commands" YamlNode.texts? ["make"]
  return { editorLauncher, commands }

end MakeSettings

namespace Limits

/-- The limits that a map describes. -/
def ofNode (node : YamlNode) : Except MalformedSettings Limits := do
  -- Unknown fields are passed over.
  let fields ← node.fields?
  let tooltipChars ← fieldOr fields "tooltip_max_chars" YamlNode.number? 100
  let menuEntries ← fieldOr fields "menu_max_entries" YamlNode.number? 25
  return { tooltipChars, menuEntries }

end Limits

namespace MatcherTable

/-- The settings of matchers that a map describes by name. -/
def ofNode (node : YamlNode) : Except MalformedSettings MatcherTable := do
  -- A name may be given again, and then its later settings count.
  let fields ← node.fields?
  let entries ← fields.mapM fun field => (MatcherSettings.ofNode field.2).map (field.1, ·)
  return .ofList entries

end MatcherTable

namespace Settings

/-- Whether matchers that are not fast wait, as a map describes it. -/
def deferralOfNode (node : YamlNode) : Except MalformedSettings Bool := do
  -- Unknown fields are passed over.
  let fields ← node.fields?
  fieldOr fields "defer_buffered_matchers" YamlNode.flag? true

/-- The settings that a map describes. -/
def ofNode (node : YamlNode) : Except MalformedSettings Settings := do
  -- Unknown fields are passed over.
  let fields ← node.fields?
  let logLevel ← fieldOr fields "log_level" LogLevel.ofNode .off
  let deferBuffered ← fieldOr fields "tracker" deferralOfNode true
  let limits ← fieldOr fields "limits" Limits.ofNode {}
  let matchers ← fieldOr fields "matchers" MatcherTable.ofNode {}
  let make ← fieldOr fields "make" MakeSettings.ofNode {}
  return { logLevel, deferBuffered, limits, matchers, make }

/-- The settings of a document, which are the defaults when there is none. -/
def ofDocument (node : Option YamlNode) : Except MalformedSettings Settings :=
  -- An empty text is no document.
  node.elim (.ok {}) ofNode

end Settings

end Annotator

import Annotator.Settings.Document
import Annotator.Text.RawLines
import Annotator.Yaml.Writer

/-! Settings are loaded from text, checked, and written back as text. -/

namespace Annotator

/-- Why settings cannot be loaded. -/
inductive SettingsError
  /-- The text cannot be had, for a reason given by the system. -/
  | unavailable (reason : String)
  /-- The text is not a YAML document. -/
  | notYaml (error : YamlError)
  /-- The document does not describe settings. -/
  | malformed (error : MalformedSettings)
  /-- The settings are invalid. -/
  | invalid (defect : InvalidSettings)
  deriving DecidableEq, Repr

namespace SettingsError

/-- The reason alone. -/
def reason : SettingsError → String
  -- Each kind of error words its own reason.
  | .unavailable reason => reason
  | .notYaml error => error.message
  | .malformed error => error.message
  | .invalid defect => defect.message

/-- The wording of an error. -/
def message (error : SettingsError) : String :=
  -- The kind of error comes first.
  let kind := match error with
    | .unavailable _ => "I/O error reading config: "
    | .notYaml _ => "YAML parse error in config: "
    | .malformed _ => "YAML parse error in config: "
    | .invalid _ => "Config validation error: "
  kind ++ error.reason

/-- The error behind an error, if it has one of its own. -/
def cause? : SettingsError → Option String
  -- Invalid settings have no deeper cause.
  | .invalid _ => none
  | error => some error.reason

end SettingsError

namespace Settings

/-- Settings are understood from a document and then checked. -/
def accept (node : Option YamlNode) : Except SettingsError Settings :=
  -- Defects are looked for only in settings that are complete.
  match ofDocument node with
  | .error error => .error (.malformed error)
  | .ok settings =>
    match settings.validate with
    | .error defect => .error (.invalid defect)
    | .ok () => .ok settings

/-- Settings of a text. -/
def ofText (text : String) : Except SettingsError Settings :=
  -- The text is read as a document first.
  match YamlNode.read? text with
  | .error error => .error (.notYaml error)
  | .ok node => accept node

/-- Settings of bytes. -/
def ofBytes (bytes : ByteArray) : Except SettingsError Settings :=
  -- The bytes are decoded first.
  match String.fromUTF8? bytes with
  | none => .error (.unavailable Text.undecodable)
  | some text => ofText text

/-- The text of settings. -/
def text (settings : Settings) : String :=
  -- It is the written form of their document.
  settings.document.write

end Settings

end Annotator

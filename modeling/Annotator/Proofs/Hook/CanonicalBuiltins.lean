import Annotator.Proofs.Action.WireForm
import Annotator.Proofs.Hook.Described

/-! The built-in matchers put no list into an action that would be too short to be read back. -/

namespace Annotator

namespace Action

variable {server program : String} {arguments : List String}

/-- A program line shows as the list it is, since it names the program twice. -/
@[simp] theorem canonical_popup :
    (popup server program arguments).canonical = popup server program arguments :=
  -- The list has two items at least.
  rfl

/-- A program line in the background shows as the list it is. -/
@[simp] theorem canonical_background :
    (background server program arguments).canonical = background server program arguments :=
  -- The list has two items at least.
  rfl

/-- A program line in a terminal shows as the list it is. -/
@[simp] theorem canonical_inTerminal :
    (inTerminal server program arguments).canonical = inTerminal server program arguments :=
  -- The empty profile is a plain argument, and the list has two items at least.
  rfl

/-- Opening a connection takes plain arguments alone. -/
@[simp] theorem canonical_connect {type name : String} :
    (connect type name server).canonical = connect type name server :=
  -- Plain arguments show as they are.
  rfl

/-- An action stays canonical when a plain argument is added. -/
@[simp] theorem canonical_withValue {action : Action} {text : String}
    (canonical : action.canonical = action) :
    (action.withValue text).canonical = action.withValue text := by
  -- The arguments in front are not touched.
  have arguments := congrArg Action.args canonical
  simp only [Action.canonical] at arguments
  simp [Action.canonical, withValue, arguments, Argument.canonical]

end Action

/-- The action that an entry runs is read back from its wire form as it is. -/
def MenuEntry.Canonical (entry : MenuEntry) : Prop :=
  -- All other entries have nothing to send.
  ∀ action, entry.action? = some action → action.canonical = action

namespace MenuEntry

/-- An entry made from an action is canonical when the action is. -/
@[simp] theorem canonical_ofAction {action : Action} {label icon tip : String} :
    (ofAction action label icon tip).Canonical ↔ action.canonical = action := by
  -- The action is the only one of the entry.
  simp [Canonical, ofAction, action?]

/-- A line between entries is canonical. -/
@[simp] theorem canonical_separator : MenuEntry.separator.Canonical := by
  -- It runs nothing.
  simp [Canonical, action?]

/-- A question is canonical. -/
@[simp] theorem canonical_confirm {prompt : String} : (MenuEntry.confirm prompt).Canonical := by
  -- It runs nothing itself.
  simp [Canonical, action?]

/-- A borrowed menu is canonical. -/
@[simp] theorem canonical_mergeSubmenu {uri label : String} :
    (MenuEntry.mergeSubmenu uri label).Canonical := by
  -- What is borrowed is not in the metadata.
  simp [Canonical, action?]

end MenuEntry

/-- Every action of the metadata is read back from its wire form as it is. -/
def Metadata.Canonical (metadata : Metadata) : Prop :=
  -- No list in them is too short to show.
  ∀ action ∈ metadata.actions, action.canonical = action

/-- Metadata is canonical when its primary action and all its entries are. -/
theorem Metadata.canonical_iff_parts {metadata : Metadata} :
    metadata.Canonical ↔
      (∀ action, metadata.primaryAction = some action → action.canonical = action) ∧
        ∀ entry ∈ metadata.menu, entry.Canonical :=
  -- The actions of the metadata are the primary one and those of the entries.
  forall_actions_iff

/-- What is offered for a container is canonical. -/
theorem Docker.canonical_container (site : Site) (name : String) :
    (describeContainer site name).Canonical := by
  -- Every entry runs a program or opens a connection.
  rw [Metadata.canonical_iff_parts]
  simp [describeContainer, infoEntries, connectAction]

/-- What is offered for an image is canonical. -/
theorem Docker.canonical_image (site : Site) (name : String) :
    (describeImage site name).Canonical := by
  -- Every entry runs a program.
  rw [Metadata.canonical_iff_parts]
  simp [describeImage, infoEntries, inspectImageAction]

/-- What is offered for a pod is canonical. -/
theorem Kubernetes.canonical_pod (site : Site) (name : String) :
    (describePod site name).Canonical := by
  -- Every entry runs a program or opens a connection.
  rw [Metadata.canonical_iff_parts]
  simp [describePod, closingEntries, connectAction]

/-- What is offered for a deployment is canonical. -/
theorem Kubernetes.canonical_deployment (site : Site) (name : String) :
    (describeDeployment site name).Canonical := by
  -- Every entry runs a program.
  rw [Metadata.canonical_iff_parts]
  simp [describeDeployment, closingEntries, describeDeploymentAction]

/-- What is offered for a machine is canonical. -/
theorem Machines.canonical_machine (site : Site) (name : String) :
    (describeMachine site name).Canonical := by
  -- Every entry runs a program or opens a connection.
  rw [Metadata.canonical_iff_parts]
  simp [describeMachine, connectAction]

/-- What is offered for a machine image is canonical. -/
theorem Machines.canonical_image (site : Site) (name : String) :
    (describeImage site name).Canonical := by
  -- Starting the machine is all that is offered.
  rw [Metadata.canonical_iff_parts]
  simp [describeImage, startAction]

namespace WorkTree

/-- What is offered for a file is canonical. -/
theorem canonical_file (site : Site) (part : Section) (file : String) :
    (describeFile site part file).Canonical := by
  -- Opening takes plain arguments, and git is run with the directory behind its program line.
  have opens : (openAction site file).canonical = openAction site file := rfl
  have runs (arguments : List String) :
      (gitAction site arguments).canonical = gitAction site arguments :=
    Action.canonical_withValue Action.canonical_background
  rw [Metadata.canonical_iff_parts]
  -- The entries about the file depend on its section.
  cases part <;>
    simp [describeFile, fileEntries, directoryEntries, opens, runs]

end WorkTree

namespace Make

variable {site : Site} {launcher : String}

/-- The entry that copies a report is canonical. -/
theorem canonical_copyEntry (id : RegionId) : (copyEntry site id).Canonical := by
  -- Both arguments are plain.
  rw [copyEntry, MenuEntry.canonical_ofAction]
  rfl

/-- What is offered for a report about a place is canonical, since a place has two numbers. -/
theorem canonical_located (id : RegionId) (kind : DiagnosticKind) (path : String)
    (place : SourcePlace) : (describeLocated site launcher id kind path place).Canonical := by
  -- The list of the action that opens has the line and the column in it.
  have opens : (openAction site launcher path place).canonical =
      openAction site launcher path place := rfl
  rw [Metadata.canonical_iff_parts]
  simp [describeLocated, opens, canonical_copyEntry]

/-- What is offered for a report without a place is canonical. -/
theorem canonical_bare (id : RegionId) (kind : DiagnosticKind) :
    (describeBare site id kind).Canonical := by
  -- Copying is all that is offered.
  rw [Metadata.canonical_iff_parts]
  simp [describeBare, canonical_copyEntry]

/-- What leads back to the first error is canonical. -/
theorem canonical_jump (firstError : RegionId) : (describeJump firstError).Canonical := by
  -- Both arguments of the action are plain.
  rw [Metadata.canonical_iff_parts]
  simp [describeJump, Action.canonical, Argument.canonical]

end Make

namespace Builtin

/-- All that built-in matchers describe is canonical. -/
theorem Describes.canonical {metadata : Metadata} (describes : Describes metadata) :
    metadata.Canonical := by
  -- One case for each description.
  cases describes with
  | container site name => exact Docker.canonical_container site name
  | image site name => exact Docker.canonical_image site name
  | pod site name => exact Kubernetes.canonical_pod site name
  | deployment site name => exact Kubernetes.canonical_deployment site name
  | machine site name => exact Machines.canonical_machine site name
  | machineImage site name => exact Machines.canonical_image site name
  | file site part file => exact WorkTree.canonical_file site part file
  | located site launcher id kind path place => exact Make.canonical_located id kind path place
  | bare site id kind => exact Make.canonical_bare id kind
  | jump firstError => exact Make.canonical_jump firstError

/-- Every matcher that a built-in factory builds offers canonical metadata, whatever its site. -/
theorem factory_offers {builtin : Builtin} (member : builtin ∈ all)
    (settings : MatcherSettings) (make : MakeSettings) {site : Site} {notes : List Note}
    {matcher : Matcher}
    (built : (builtin.factory settings make).create site = (notes, .ok matcher)) :
    matcher.machine.Offers Metadata.Canonical :=
  -- What the matchers offer is described, and what is described is canonical.
  (factory_describes member settings make built).mono fun _ describes => describes.canonical

end Builtin

end Annotator

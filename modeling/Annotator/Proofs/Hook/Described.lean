import Annotator.Builtin
import Annotator.Proofs.Hook.Offers

/-! Whatever a built-in matcher offers is one of a few descriptions. -/

namespace Annotator

/-- The metadata that built-in matchers give to their regions. -/
inductive Builtin.Describes : Metadata → Prop
  /-- A container. -/
  | container (site : Site) (name : String) : Describes (Docker.describeContainer site name)
  /-- An image of containers. -/
  | image (site : Site) (name : String) : Describes (Docker.describeImage site name)
  /-- A pod of a cluster. -/
  | pod (site : Site) (name : String) : Describes (Kubernetes.describePod site name)
  /-- A deployment in a cluster. -/
  | deployment (site : Site) (name : String) :
    Describes (Kubernetes.describeDeployment site name)
  /-- A local machine. -/
  | machine (site : Site) (name : String) : Describes (Machines.describeMachine site name)
  /-- An image of local machines. -/
  | machineImage (site : Site) (name : String) : Describes (Machines.describeImage site name)
  /-- A file of a work tree. -/
  | file (site : Site) (part : Section) (file : String) :
    Describes (WorkTree.describeFile site part file)
  /-- A report about a place in a file. -/
  | located (site : Site) (launcher : String) (id : RegionId) (kind : DiagnosticKind)
    (path : String) (place : SourcePlace) :
    Describes (Make.describeLocated site launcher id kind path place)
  /-- A report without a place. -/
  | bare (site : Site) (id : RegionId) (kind : DiagnosticKind) :
    Describes (Make.describeBare site id kind)
  /-- The way back to the first error. -/
  | jump (firstError : RegionId) : Describes (Make.describeJump firstError)

open Builtin (Describes)

/-- A listing offers for its rows what it describes. -/
theorem Listing.machine_offers {listing : Listing} {permitted : Metadata → Prop}
    (describes : ∀ site name, permitted (listing.describe site name)) (site : Site) :
    (listing.machine site).Offers permitted where
  -- The only request is the one for a row, with the description of its name.
  line view line phase := by
    unfold machine
    dsimp only
    -- Only a row asks for a region.
    cases listing.format.read phase line.text with
    | endOfTable => trivial
    | header => trivial
    | other => trivial
    | row name =>
      refine ⟨describes site name, fun answer => ?_⟩
      cases answer <;> trivial
  finish _ _ _ := trivial

/-- The status matcher offers for its files what it describes. -/
theorem WorkTree.machine_offers (site : Site) : (machine site).Offers Describes where
  -- Only a file asks for a region.
  line view line current := by
    unfold machine
    dsimp only
    cases read current line.text.toList with
    | heading part => trivial
    | other => trivial
    | file part name =>
      refine ⟨.file site part _, fun answer => ?_⟩
      cases answer <;> trivial
  finish _ _ _ := trivial

namespace Make

/-- The way back is offered as it is described. -/
theorem offerJump_offers (line : LogicalLine) (progress : Progress) :
    (offerJump line progress).Offers Describes := by
  -- It asks for one region at most, described as the way back.
  unfold offerJump
  cases progress.firstError with
  | none => trivial
  | some firstError =>
    dsimp only
    split
    · refine ⟨.jump firstError, fun answer => ?_⟩
      cases answer <;> trivial
    · trivial

/-- The build matcher offers what it describes for every line and at the end. -/
theorem machine_offers (site : Site) (launcher : String) :
    (machine site launcher).Offers Describes where
  -- Each kind of report is described, and the way back may follow one without a place.
  line view line progress := by
    dsimp only [machine]
    unfold onLine
    cases Diagnostic.ofLine? line.text.toList with
    | none => exact offerJump_offers line progress
    | some diagnostic =>
      cases diagnostic with
      | located kind place =>
        dsimp only
        split
        · trivial
        · refine fun id => ⟨.located site launcher id kind _ place, fun answer => ?_⟩
          cases answer <;> trivial
      | bare kind start =>
        refine fun id => ⟨.bare site id kind, fun answer => ?_⟩
        cases answer with
        | ok made => exact offerJump_offers line _
        | error error => trivial
  finish view totalRows progress := by
    dsimp only [machine]
    unfold onFinish
    dsimp only
    cases progress.firstError with
    | none => trivial
    | some firstError =>
      dsimp only
      split
      · refine ⟨.jump firstError, fun answer => ?_⟩
        cases answer <;> trivial
      · trivial

end Make

/-- Every matcher that a built-in factory builds offers only what it describes. -/
theorem Builtin.factory_describes {builtin : Builtin} (member : builtin ∈ all)
    (settings : MatcherSettings) (make : MakeSettings) {site : Site} {notes : List Note}
    {matcher : Matcher}
    (built : (builtin.factory settings make).create site = (notes, .ok matcher)) :
    matcher.machine.Offers Describes := by
  -- There is one case for each built-in matcher.
  simp only [all, List.mem_cons, List.not_mem_nil, or_false] at member
  rcases member with rfl | rfl | rfl | rfl | rfl | rfl | rfl | rfl <;> cases built
  · exact Listing.machine_offers .container site
  · exact Listing.machine_offers .image site
  · exact Listing.machine_offers .pod site
  · exact Listing.machine_offers .deployment site
  · exact Listing.machine_offers .machine site
  · exact Listing.machine_offers .machineImage site
  · exact WorkTree.machine_offers site
  · exact Make.machine_offers site make.editorLauncher

end Annotator

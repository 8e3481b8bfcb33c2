import Annotator.Proofs.Hook.CanonicalBuiltins
import Annotator.Proofs.Tracker.Faultless
import Annotator.Proofs.Tracker.Regime

/-! What the built-in matchers offer reaches the host as it was meant, whatever the output says. -/

namespace Annotator

/-- Under some names only regions are stored that are made from permitted metadata. -/
def RegionTable.Offers (names : List String) (permitted : Metadata → Prop)
    (table : RegionTable) : Prop :=
  -- Nothing is said about regions of other names.
  ∀ region ∈ table.regions, region.matcher ∈ names → region.MadeFrom permitted

/-- A hook that offers only what is permitted, if it has one of the names, keeps to it in the
table. -/
theorem Matcher.handle_offering {names : List String} {permitted : Metadata → Prop}
    {matcher : Matcher} {scene : Scene} {table : RegionTable} {α : Type}
    {program : Program (Reply matcher.State α)}
    (offers : scene.matcher ∈ names → program.Offers permitted)
    (stored : table.Offers names permitted) :
    (matcher.handle scene table program).2.Offers names permitted := by
  -- A region that is new was made by the matcher that acts.
  intro region member named
  have own : table.Grows (fun region => region.matcher = scene.matcher)
      (matcher.handle scene table program).2 :=
    handle_grows (fun region creates => creates.matcher) matcher table program
  rcases own.mem member with old | ⟨same, _⟩
  · exact stored region old named
  · -- The region is new, so its matcher is the one that acts.
    rcases (handle_offers (offers (same ▸ named)) table).mem member with old | ⟨made, _⟩
    · exact stored region old named
    · exact made.2

/-- Matchers of some names offer only what is permitted, and their regions are made from it. -/
def Regime.offering (names : List String) (permitted : Metadata → Prop) : Regime where
  -- Nothing is said about matchers of other names.
  holds name matcher := name ∈ names → matcher.machine.Offers permitted
  stores := RegionTable.Offers names permitted
  fresh region member := by cases member
  start _ known := known
  line _ line known stored :=
    ⟨known, Matcher.handle_offering (fun named => (known named).line _ line _) stored⟩
  finish _ totalRows known stored :=
    ⟨known, Matcher.handle_offering (fun named => (known named).finish _ totalRows _) stored⟩
  remove _ stored region member := stored region (List.mem_filter.mp member).1

namespace Registry

/-- Under built-in names only matchers that offer canonical metadata are built. -/
theorem Registered.offering_admits {registry : Registry} (registered : registry.Registered)
    {settings : Settings}
    (provided : ∀ factory ∈ (builtins settings).1.factories, factory ∈ registry.factories) :
    ∀ factory ∈ registry.factories,
      (Regime.offering (builtins settings).1.names Metadata.Canonical).Admits factory := by
  -- No other factory has the name of a built-in one, and those offer canonical metadata.
  intro factory member site notes matcher built named
  obtain ⟨builtin, known, rfl⟩ := registered.builtin_of_provided provided member named
  exact Builtin.factory_offers known _ _ built

end Registry

/-- The actions of a region that is made from canonical metadata pass through the wire form. -/
theorem Region.MadeFrom.decode_encode {region : Region} (made : region.MadeFrom Metadata.Canonical)
    {action : Action} (member : action ∈ region.metadata.actions) :
    ∃ wire, action.encode = .ok wire ∧ Action.decode wire = .ok action := by
  -- Canonical arguments are read back as they were.
  obtain ⟨given, limits, canonical, valid, same⟩ := made
  rw [same] at member
  -- Cutting the metadata took no action apart.
  have offered : action ∈ given.actions := Metadata.mem_actions_of_limited member
  have clean : action.validate = .ok () := Metadata.validate_eq_ok_iff.mp valid action offered
  let fields := action.name.toList :: action.args.map Argument.encode
  have written : action.encode = .ok (String.ofList ([fieldDelimiter].intercalate fields)) :=
    Action.encode_eq_ok_iff.mpr ⟨clean, String.toList_ofList⟩
  have read := Action.decode_encode written
  rw [canonical action offered] at read
  exact ⟨_, written, read⟩

/--
Every action of every region that a built-in matcher stores has a wire form, and the wire form is
read back as that very action, whatever the settings, the invocations and their output are.
-/
theorem stored_actions_read_back {settings : Settings} {registry : Registry}
    (registered : registry.Registered)
    (provided : ∀ factory ∈ (Registry.builtins settings).1.factories,
      factory ∈ registry.factories)
    (operations : List Operation) :
    ∀ region ∈
        ((Tracker.ofSettings registry settings).course operations).tracker.table.regions,
      region.matcher ∈ (Registry.builtins settings).1.names →
        ∀ action ∈ region.metadata.actions,
          ∃ wire, action.encode = .ok wire ∧ Action.decode wire = .ok action := by
  -- What built-in matchers offer is canonical in every course, and canonical actions read back.
  intro region member named action offered
  let regime := Regime.offering (Registry.builtins settings).1.names Metadata.Canonical
  have begun : regime.Governs (Tracker.ofSettings registry settings) :=
    regime.governs_ofRegistry registry settings.deferBuffered settings.limits
  have bounded : (Tracker.ofSettings registry settings).Bounded :=
    Tracker.bounded_ofRegistry registry settings.deferBuffered settings.limits
  have governs := begun.course bounded (registered.offering_admits provided) operations
  exact (governs.stores region member named).decode_encode offered

/-- A container whose name looks like commands is offered as one name, and one with a delimiter
is not offered at all. -/
theorem stored_actions_read_back_container :
    let operations : List Operation :=
      [.begin { command := "docker ps", server := "a,b" },
        .pushRow ⟨1⟩ "CONTAINER ID  NAMES" false, .pushRow ⟨1⟩ "4f  x|RunCommand" false,
        .pushRow ⟨1⟩ "5a  x;reboot,-y" true, .pushRow ⟨1⟩ "\\x1f" false, .finish ⟨1⟩ 0 4]
    let regions := ((Tracker.ofSettings (Registry.builtins {}).1 {}).course
      operations).tracker.table.regions
    regions.map (fun region => region.metadata.primaryAction.bind (·.value? 1)) =
        [some "x;reboot,-y\\x1f"] ∧
      ∀ region ∈ regions, region.matcher ∈ (Registry.builtins {}).1.names →
        ∀ action ∈ region.metadata.actions,
          ∃ wire, action.encode = .ok wire ∧ Action.decode wire = .ok action := by
  -- Three names hold delimiters, and only the row that wraps makes one that is clean.
  intro operations regions
  have registered : (Registry.builtins {}).1.Registered :=
    Registry.builtins_registered {}
  exact ⟨by decide +kernel, stored_actions_read_back registered (fun _ member => member) operations⟩

end Annotator

import Annotator.Build.Make
import Annotator.Listing.Docker
import Annotator.Listing.Kubernetes
import Annotator.Listing.Machines
import Annotator.Tracker.Basic
import Annotator.WorkTree.Status

/-! The built-in matchers are registered in a fixed order as far as the settings enable them. -/

namespace Annotator

/-- A built-in matcher is made from its own settings and those for builds. -/
structure Builtin where
  /-- The name of the matcher. -/
  name : String
  /-- Its factory under given settings. -/
  factory : MatcherSettings → MakeSettings → Factory

namespace Builtin

/-- The built-in matcher of a listing. -/
def ofListing (listing : Listing) : Builtin where
  name := listing.name
  factory settings _ := listing.factory settings

/-- All built-in matchers in the order of their registration. -/
def all : List Builtin :=
  -- Listings come first.
  [.ofListing Docker.containers, .ofListing Docker.images,
    .ofListing Kubernetes.pods, .ofListing Kubernetes.deployments,
    .ofListing Machines.machines, .ofListing Machines.images,
    { name := WorkTree.matcherName, factory := fun settings _ => WorkTree.factory settings },
    { name := Make.matcherName, factory := Make.factory }]

/-- The notice that a built-in matcher is left out. -/
def disabledNotice (name : String) : Notice :=
  -- Leaving it out is what the settings ask for.
  { severity := .info
    origin := "par_annotate::matchers"
    message := "Built-in matcher " ++ name ++ " disabled by config" }

/-- Registering stops at the first built-in matcher whose name is taken. -/
def registerEach (settings : Settings) (registry : Registry) :
    List Builtin → Option RegistrationError × Registry × Journal
  -- What was registered before stays registered.
  | [] => (none, registry, [])
  | builtin :: rest =>
    if settings.isEnabled builtin.name then
      match registry.register (builtin.factory (settings.matcher builtin.name) settings.make) with
      | .error error => (some error, registry, [])
      | .ok registry => registerEach settings registry rest
    else
      let (error, registry, told) := registerEach settings registry rest
      (error, registry, .noticed (disabledNotice builtin.name) :: told)

end Builtin

namespace Registry

/-- The enabled built-in matchers are added to a registry. -/
def addBuiltins (registry : Registry) (settings : Settings) :
    Option RegistrationError × Registry × Journal :=
  -- An error leaves the matchers registered before it.
  Builtin.registerEach settings registry Builtin.all

/-- The registry of the enabled built-in matchers. -/
def builtins (settings : Settings) : Registry × Journal :=
  -- The built-in names are distinct, so no registration fails.
  let (_, registry, told) := addBuiltins {} settings
  (registry, told)

end Registry

namespace Tracker

/-- A tracker with the scheduling and limits of given settings. -/
def ofSettings (registry : Registry) (settings : Settings) : Tracker :=
  -- The registry is sealed.
  .ofRegistry registry settings.deferBuffered settings.limits

end Tracker

end Annotator

import Annotator.Proofs.Registry.Resolution

/-!
Built-in matchers attach alike, and with the same matchers, however much white space is around a
command and around the aliases, and however many slashes are at the end of the directory.
-/

namespace Annotator

/-- Two settings of a matcher are the same but for white space around the aliases. -/
structure MatcherSettings.SamePadded (settings other : MatcherSettings) : Prop where
  /-- Both enable the matcher or neither does. -/
  enabled : settings.enabled = other.enabled
  /-- The aliases are the same but for white space around them, one by one. -/
  aliases : settings.aliases.Forall₂ SameCore other.aliases
  /-- The scheduling is the same. -/
  fast : settings.fast = other.fast
  /-- The finish policy is the same. -/
  finishAfterStop : settings.finishAfterStop = other.finishAfterStop

/-- Two settings are the same but for white space around the aliases. -/
structure Settings.SamePadded (settings other : Settings) : Prop where
  /-- The scheduling is the same. -/
  deferBuffered : settings.deferBuffered = other.deferBuffered
  /-- The limits are the same. -/
  limits : settings.limits = other.limits
  /-- The settings for builds are the same. -/
  make : settings.make = other.make
  /-- The same matchers are named, with settings that are the same but for that white space. -/
  matchers : settings.matchers.entries.Forall₂
    (fun entry otherEntry => entry.1 = otherEntry.1 ∧ entry.2.SamePadded otherEntry.2)
    other.matchers.entries

/-- Two invocations are the same but for the padding of command and directory. -/
structure Invocation.SamePadded (invocation other : Invocation) : Prop where
  /-- The commands are the same but for white space around them. -/
  command : SameCore invocation.command other.command
  /-- The directories are the same but for slashes at their ends. -/
  workingDir : SameDirs invocation.workingDir other.workingDir
  /-- The server session is the same. -/
  server : invocation.server = other.server
  /-- The terminal is the same. -/
  terminal : invocation.terminal = other.terminal
  /-- The machine is the same. -/
  host : invocation.host = other.host
  /-- The exit code is the same. -/
  exitCode : invocation.exitCode = other.exitCode

/-- Every invocation is the same as itself. -/
theorem Invocation.SamePadded.refl (invocation : Invocation) : invocation.SamePadded invocation :=
  -- Texts are padded from their own core.
  ⟨.refl _, .refl _, rfl, rfl, rfl, rfl⟩

/-- Two factories build the same and decide alike in directories that are the same. -/
structure Factory.SamePadded (factory other : Factory) : Prop where
  /-- The names are the same. -/
  name : factory.name = other.name
  /-- The scheduling is the same. -/
  fast : factory.fast = other.fast
  /-- The policies are the same. -/
  finishPolicy : factory.finishPolicy = other.finishPolicy
  /-- The matchers that are built are the same. -/
  create : factory.create = other.create
  /-- The decisions are the same but for slashes at the end of the directory. -/
  accepts : ∀ command {dir otherDir}, SameDirs dir otherDir →
    factory.accepts command dir = other.accepts command otherDir

namespace MatcherSettings.SamePadded

variable {settings other : MatcherSettings}

/-- Missing settings are the same as missing settings. -/
theorem default : MatcherSettings.SamePadded {} {} :=
  -- There are no aliases to compare.
  ⟨rfl, .nil, rfl, rfl⟩

/-- White space around the aliases does not decide what is an alias. -/
theorem isAlias (same : settings.SamePadded other) (command : String) :
    settings.isAlias command = other.isAlias command := by
  -- Induction on the aliases, which are compared in their trimmed form.
  have aliases := same.aliases
  unfold MatcherSettings.isAlias
  generalize settings.aliases = texts, other.aliases = others at aliases
  induction aliases with
  | nil => rfl
  | cons first _ ih => rw [List.any_cons, List.any_cons, first.trimmed_eq, ih]

/-- White space around the aliases does not decide the scheduling. -/
theorem fastOr (same : settings.SamePadded other) (own : Bool) :
    settings.fastOr own = other.fastOr own := by
  -- Padding does not touch the wish to be fast.
  rw [MatcherSettings.fastOr, MatcherSettings.fastOr, same.fast]

/-- White space around the aliases does not decide the finish policy. -/
theorem finishPolicyOr (same : settings.SamePadded other) (own : FinishPolicy) :
    settings.finishPolicyOr own = other.finishPolicyOr own := by
  -- Padding does not touch the policy.
  rw [MatcherSettings.finishPolicyOr, MatcherSettings.finishPolicyOr, same.finishAfterStop]

/-- A listing decides alike under settings that are the same but for padding. -/
theorem listing (same : settings.SamePadded other) (listing : Listing) :
    (listing.factory settings).SamePadded (listing.factory other) where
  -- The settings are used for the policy, the wish to be fast and the aliases.
  name := rfl
  fast := same.fastOr false
  finishPolicy := same.finishPolicyOr .activeOnly
  create := rfl
  accepts command _ _ _ := by
    simp only [Listing.factory, same.isAlias]

/-- The matcher of work trees decides alike under settings that are the same but for padding. -/
theorem workTree (same : settings.SamePadded other) :
    (WorkTree.factory settings).SamePadded (WorkTree.factory other) where
  name := rfl
  fast := same.fastOr false
  finishPolicy := same.finishPolicyOr .activeOnly
  create := rfl
  accepts command dir otherDir dirs := by
    -- Slashes at the end of the directory hide no reserved character.
    have reserved : hasReserved dir = hasReserved otherDir := by
      rw [← Site.hasReserved_closeDir, Site.closeDir_eq dirs, Site.hasReserved_closeDir]
    simp only [WorkTree.factory, StatusCommand.accepts, same.isAlias, reserved]

/-- The matcher of builds decides alike under settings that are the same but for padding. -/
theorem make (same : settings.SamePadded other) (make : MakeSettings) :
    (Make.factory settings make).SamePadded (Make.factory other make) where
  -- The settings are used for the policy, the wish to be fast and the aliases.
  name := rfl
  fast := same.fastOr true
  finishPolicy := same.finishPolicyOr .activeOnly
  create := rfl
  accepts command _ _ _ := by
    simp only [Make.factory, same.isAlias]

end MatcherSettings.SamePadded

/-- A built-in factory decides alike under settings that are the same but for padding. -/
theorem Builtin.factory_padded {builtin : Builtin} (known : builtin ∈ all)
    {settings other : MatcherSettings} (same : settings.SamePadded other) (make : MakeSettings) :
    (builtin.factory settings make).SamePadded (builtin.factory other make) := by
  -- Six of the eight are listings.
  simp only [all, List.mem_cons, List.not_mem_nil, or_false] at known
  rcases known with rfl | rfl | rfl | rfl | rfl | rfl | rfl | rfl
  · exact same.listing _
  · exact same.listing _
  · exact same.listing _
  · exact same.listing _
  · exact same.listing _
  · exact same.listing _
  · exact same.workTree
  · exact same.make make

namespace Settings.SamePadded

variable {settings other : Settings}

/-- The settings of each matcher are the same but for white space around the aliases. -/
theorem matcher (same : settings.SamePadded other) (name : String) :
    (settings.matcher name).SamePadded (other.matcher name) := by
  -- Induction on the tables, whose keys are the same one by one.
  have entries := same.matchers
  unfold Settings.matcher MatcherTable.find?
  generalize settings.matchers.entries = named, other.matchers.entries = others at entries
  induction entries with
  | nil => exact .default
  | @cons entry otherEntry rest otherRest first _ ih =>
    obtain ⟨key, own⟩ := entry
    obtain ⟨otherKey, otherOwn⟩ := otherEntry
    obtain ⟨rfl, alike⟩ := first
    rw [List.lookup_cons, List.lookup_cons]
    cases name == key with
    | true => exact alike
    | false => exact ih

/-- The built-in factories are the same but for the padding of aliases and directories. -/
theorem factories (same : settings.SamePadded other) :
    (Registry.builtins settings).1.factories.Forall₂ Factory.SamePadded
      (Registry.builtins other).1.factories := by
  -- The factories are built from the same list of matchers, each under its own settings.
  refine Registry.forall₂_builtins (fun name => (same.matcher name).enabled) fun builtin known => ?_
  rw [Builtin.under, Builtin.under, ← same.make]
  exact Builtin.factory_padded known (same.matcher builtin.name) settings.make

end Settings.SamePadded

namespace Registry

variable {id : InvocationId} {invocation other : Invocation}

/-- Padding does not show in the site of an invocation. -/
theorem siteOf_padded (same : invocation.SamePadded other) : siteOf invocation = siteOf other := by
  -- The site keeps the trimmed command and the closed directory.
  simp only [siteOf, Site.ofInvocation, same.command.trimmed_eq, same.server, same.terminal,
    same.host, Site.closeDir_eq same.workingDir]

/-- Factories that decide alike attach the same matcher to invocations that are the same. -/
theorem consult_padded {factory otherFactory : Factory} (alike : factory.SamePadded otherFactory)
    (same : invocation.SamePadded other) (site : Site) :
    (consult factory id invocation site).1 = (consult otherFactory id other site).1 := by
  -- The factories answer alike, and what is attached depends on their answers alone.
  unfold consult
  rw [alike.accepts site.command same.workingDir, alike.create, alike.name, alike.fast,
    alike.finishPolicy]
  cases otherFactory.accepts site.command other.workingDir with
  | error fault => rfl
  | ok wanted =>
    cases wanted with
    | false => rfl
    | true =>
      cases otherFactory.create site with
      | mk notes built => cases built <;> rfl

/-- Registries whose factories decide alike attach the same to invocations that are the same. -/
theorem resolve_padded {registry otherRegistry : Registry}
    (alike : registry.factories.Forall₂ Factory.SamePadded otherRegistry.factories)
    (same : invocation.SamePadded other) :
    (registry.resolve id invocation).1 = (otherRegistry.resolve id other).1 := by
  -- Both registries see the same site, and they ask their factories one by one.
  rw [resolve_eq, resolve_eq, siteOf_padded same]
  split
  · rfl
  · rw [consultAll_attached, consultAll_attached]
    generalize registry.factories = factories, otherRegistry.factories = others at alike
    induction alike with
    | nil => rfl
    | cons first _ ih =>
      rw [List.filterMap_cons, List.filterMap_cons, consult_padded first same, ih]

end Registry

end Annotator

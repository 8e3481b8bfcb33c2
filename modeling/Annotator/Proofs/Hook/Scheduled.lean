import Annotator.Proofs.Hook.CoupledBuiltins
import Annotator.Proofs.Region.Renumbering

/-!
A built-in matcher does the same whether it takes lines as they arrive or all of them at completion,
up to the numbers of its regions.
-/

namespace Annotator

section Renumbered

variable {pairing later : Pairing} {matcher : String} {one other : Metadata}

/-- More pairs make no fewer metadata of a matcher the same. -/
theorem Metadata.RenumberedFor.mono (within : pairing.Within later)
    (same : one.RenumberedFor matcher pairing.Paired other) :
    one.RenumberedFor matcher later.Paired other := by
  -- Builds may differ in paired numbers, and other matchers do not differ at all.
  unfold RenumberedFor at same ⊢
  split
  · rename_i build
    rw [if_pos build] at same
    exact same.mono fun _ _ paired => within paired
  · rename_i foreign
    rwa [if_neg foreign] at same

/-- Metadata of a matcher that is the same up to paired numbers is so as text. -/
theorem Metadata.RenumberedFor.same (same : one.RenumberedFor matcher pairing.Paired other) :
    pairing.SameMetadata one other := by
  -- Builds may differ in paired numbers, and other matchers do not differ at all.
  unfold RenumberedFor at same
  split at same
  · exact same.same
  · exact same ▸ .refl pairing one

end Renumbered

/--
Taking lines among others as they arrive is compared with taking them by oneself at completion.

A matcher that waits is started with the exit code, which makes no difference to builds.
-/
def Coupling.scheduled (matcher : String) : Coupling where
  host := .first
  offers pairing one other := one.RenumberedFor matcher pairing.Paired other
  errors _ _ _ := True
  starts one other := matcher ≠ Make.matcherName → one.mayHaveSucceeded = other.mayHaveSucceeded
  inStep := False
  offers_mono within same := same.mono within
  offers_validate {pairing one other} renumbered := by
    have checked := renumbered.same.validate
    generalize one.validate = answer, other.validate = otherAnswer at checked ⊢
    cases checked with
    | ok known => exact .ok known
    | error reason => exact .error trivial
  errors_refl _ _ := trivial
  starts_eq step := step.elim

open Coupling (scheduled)

/-- A listing does the same under any scheduling. -/
theorem Listing.factory_scheduled {listing : Listing} (plain : listing.name ≠ Make.matcherName)
    (settings : MatcherSettings) (site : Site) {notes : List Note} {matcher : Matcher}
    (built : (listing.factory settings).create site = (notes, .ok matcher)) :
    (scheduled listing.name).Matchers {} matcher matcher := by
  -- What a row is offered mentions no number, and listings start by the same exit code.
  cases built
  have offers (pairing : Pairing) (object : String) :
      (scheduled listing.name).offers pairing (listing.describe site object)
        (listing.describe site object) :=
    .plain plain pairing.Paired _
  exact .intro (listing.machine_coupled offers fun starts => starts plain) rfl

/-- The status matcher does the same under any scheduling. -/
theorem WorkTree.factory_scheduled (settings : MatcherSettings) (site : Site) {notes : List Note}
    {matcher : Matcher} (built : (factory settings).create site = (notes, .ok matcher)) :
    (scheduled matcherName).Matchers {} matcher matcher := by
  -- What a file is offered mentions no number, and the matcher starts by the same exit code.
  cases built
  have plain : matcherName ≠ Make.matcherName := by decide
  have offers (pairing : Pairing) (part : Section) (name : String) :
      (scheduled matcherName).offers pairing (describeFile site part name)
        (describeFile site part name) :=
    .plain plain pairing.Paired _
  exact .intro (machine_coupled offers fun starts => starts plain) rfl

namespace Make

variable {pairing : Pairing} {first second : RegionId}

/-- The entries that copy reports are the same up to the number of the report. -/
theorem copyEntry_renumbered (site : Site) (paired : pairing.Paired first second) :
    (copyEntry site first).Renumbered pairing.Paired (copyEntry site second) :=
  -- The action of the entry is the one place where the number is mentioned.
  .action (.mention (by decide) paired _) _ _ _

/-- What is offered for reports about a place is the same up to the number of the report. -/
theorem describeLocated_renumbered (site : Site) (launcher : String)
    (paired : pairing.Paired first second) (kind : DiagnosticKind) (path : String)
    (place : SourcePlace) :
    (describeLocated site launcher first kind path place).Renumbered pairing.Paired
      (describeLocated site launcher second kind path place) := by
  -- The entries in front do not mention the report.
  have opens : (openAction site launcher path place).Renumbered pairing.Paired
      (openAction site launcher path place) := .silent rfl
  refine ⟨rfl, rfl, .some opens, rfl, ?_⟩
  exact .cons (.plain rfl) (.cons (.action opens _ _ _)
    (.cons (copyEntry_renumbered site paired) .nil))

/-- What is offered for reports without a place is the same up to the number of the report. -/
theorem describeBare_renumbered (site : Site) (paired : pairing.Paired first second)
    (kind : DiagnosticKind) :
    (describeBare site first kind).Renumbered pairing.Paired (describeBare site second kind) :=
  -- The menu is the one entry that mentions the report.
  ⟨rfl, rfl, .none, rfl, .cons (copyEntry_renumbered site paired) .nil⟩

/-- The ways back are the same up to the number of the first error. -/
theorem describeJump_renumbered (paired : pairing.Paired first second) :
    (describeJump first).Renumbered pairing.Paired (describeJump second) :=
  -- The primary action is the one place where the number is mentioned.
  ⟨rfl, rfl, .some (.mention (by decide) paired _), rfl, .nil⟩

/-- What is offered under paired numbers is the same up to these numbers. -/
theorem offers_renumbered (site : Site) (launcher : String) :
    Offers (scheduled matcherName) site launcher where
  -- One law for each of the three things that the matcher offers.
  located paired kind path place :=
    (describeLocated_renumbered site launcher paired kind path place).build
  bare paired kind := (describeBare_renumbered site paired kind).build
  jump paired := (describeJump_renumbered paired).build

/-- The build matcher does the same under any scheduling. -/
theorem factory_scheduled (settings : MatcherSettings) (make : MakeSettings) (site : Site)
    {notes : List Note} {matcher : Matcher}
    (built : (factory settings make).create site = (notes, .ok matcher)) :
    (scheduled matcherName).Matchers {} matcher matcher := by
  -- A build begins without an error and without a report, and it starts after any exit code.
  cases built
  exact .intro (machine_coupled (offers_renumbered site make.editorLauncher)) ⟨.none, rfl⟩

end Make

/-- Every built-in matcher does the same under any scheduling. -/
theorem Builtin.factory_scheduled {builtin : Builtin} (known : builtin ∈ Builtin.all)
    (settings : MatcherSettings) (make : MakeSettings) (site : Site) {notes : List Note}
    {matcher : Matcher}
    (built : (builtin.factory settings make).create site = (notes, .ok matcher)) :
    (scheduled builtin.name).Matchers {} matcher matcher := by
  -- Six of the eight are listings.
  simp only [Builtin.all, List.mem_cons, List.not_mem_nil, or_false] at known
  rcases known with rfl | rfl | rfl | rfl | rfl | rfl | rfl | rfl
  · exact Listing.factory_scheduled (by decide) settings site built
  · exact Listing.factory_scheduled (by decide) settings site built
  · exact Listing.factory_scheduled (by decide) settings site built
  · exact Listing.factory_scheduled (by decide) settings site built
  · exact Listing.factory_scheduled (by decide) settings site built
  · exact Listing.factory_scheduled (by decide) settings site built
  · exact WorkTree.factory_scheduled settings site built
  · exact Make.factory_scheduled settings make site built

end Annotator

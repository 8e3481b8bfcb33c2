import Annotator.Proofs.Registry.Resolution
import Annotator.Proofs.Text.Words
import Annotator.Settings.Validate
import Mathlib.Data.List.Nodup

/-!
Aliases that are accepted attach their matcher. A command word attaches the build matcher only as
the first word of a command, so that one with white space in it attaches nothing by itself.
-/

namespace Annotator

/-- Strings are the same but for white space around them exactly if they are trimmed alike. -/
theorem sameCore_iff {one other : String} : SameCore one other ↔ trimmed one = trimmed other := by
  -- The trimmed text is what both are padded from.
  constructor
  · exact SameCore.trimmed_eq
  · intro same
    rw [trimmed, trimmed, String.ofList_inj] at same
    exact ⟨Text.trim one.toList, Text.pads_trim _, same ▸ Text.pads_trim _⟩

namespace MatcherSettings

/-- The aliases are the texts that are the same as one of them but for white space around them. -/
theorem isAlias_trimmed_iff {settings : MatcherSettings} {command : String} :
    settings.isAlias (trimmed command) = true ↔
      ∃ text ∈ settings.aliases, SameCore text command := by
  -- Aliases are trimmed before they are compared.
  simp only [isAlias, List.any_eq_true, beq_iff_eq, sameCore_iff]

end MatcherSettings

namespace Settings

variable {settings : Settings}

/-- The settings of a matcher are given under its name or are the defaults. -/
theorem matcher_cases (settings : Settings) (name : String) :
    (name, settings.matcher name) ∈ settings.matchers.entries ∨ settings.matcher name = {} := by
  -- A table is searched from its front, and what it does not list has the default settings.
  unfold matcher MatcherTable.find?
  cases found : settings.matchers.entries.lookup name with
  | none => exact .inr rfl
  | some own =>
    obtain ⟨front, back, split, -⟩ := List.lookup_eq_some_iff.mp found
    exact .inl (by rw [split]; simp)

/-- Valid settings have no blank alias and no blank command word. -/
theorem typed_of_validate (valid : settings.validate = .ok ()) :
    (∀ name, ∀ text ∈ (settings.matcher name).aliases, isBlankText text = false) ∧
      ∀ word ∈ settings.make.commands, isBlankText word = false := by
  -- The checks come one behind another, and the two about blank entries have passed.
  unfold validate at valid
  split at valid
  · cases valid
  split at valid
  · cases valid
  split at valid
  · cases valid
  rename_i unimpaired
  split at valid
  · cases valid
  split at valid
  · cases valid
  rename_i typed
  constructor
  · intro name text member
    rcases settings.matcher_cases name with given | default
    · rw [MatcherTable.badAlias?, List.findSome?_eq_none_iff] at unimpaired
      have aliases := Option.map_eq_none_iff.mp (unimpaired _ given)
      have fit := List.find?_eq_none.mp aliases text member
      rw [Bool.or_eq_true, not_or] at fit
      exact Bool.eq_false_iff.mpr fit.1
    · rw [default] at member
      cases member
  · intro word member
    rw [List.any_eq_true] at typed
    exact Bool.eq_false_iff.mpr fun blank => typed ⟨word, member, blank⟩

end Settings

namespace Make

/-- A command is recognized exactly if its first word is one of the command words. -/
theorem recognizes_trimmed_iff {make : MakeSettings} {command : String}
    (typed : isBlankText command = false) :
    recognizes make (trimmed command) = true ↔
      ∃ word ∈ make.commands, Text.FirstWord command.toList word.toList := by
  -- Both sides compare the configured words with the first word of the command.
  have pads := Text.pads_trim command.toList
  have kept : ¬ ∀ c ∈ Text.trim command.toList, isBlank c = true := by
    rw [← Text.trim_eq_nil_iff, ← pads.trim_eq, Text.trim_eq_nil_iff, ← List.all_eq_true]
    exact Bool.eq_false_iff.mp typed
  -- Trimming leaves the first word, which is the one that is compared.
  obtain ⟨first, stands⟩ := Text.exists_firstWord kept
  have compared : (Text.words (trimmed command).toList).headD [] = first := by
    rw [trimmed, String.toList_ofList, List.headD_eq_head?_getD, stands.head_words]
    rfl
  simp only [recognizes, List.any_eq_true, beq_iff_eq, compared]
  constructor
  · rintro ⟨word, member, same⟩
    exact ⟨word, member, same ▸ stands.padded pads⟩
  · rintro ⟨word, member, also⟩
    exact ⟨word, member, also.unique (stands.padded pads)⟩

end Make

namespace Builtin

variable {builtin : Builtin}

/-- A built-in matcher can always be built. -/
theorem exists_create (known : builtin ∈ all) (settings : MatcherSettings) (make : MakeSettings)
    (site : Site) :
    ∃ notes matcher, (builtin.factory settings make).create site = (notes, .ok matcher) := by
  -- Every factory builds its matcher without looking at the site.
  simp only [all, List.mem_cons, List.not_mem_nil, or_false] at known
  rcases known with rfl | rfl | rfl | rfl | rfl | rfl | rfl | rfl <;> exact ⟨_, _, rfl⟩

/-- A built-in matcher accepts its aliases wherever they are run, but for that of work trees. -/
theorem accepts_alias (known : builtin ∈ all) (other : builtin.name ≠ WorkTree.matcherName)
    {settings : MatcherSettings} (make : MakeSettings) {command : String}
    (isAlias : settings.isAlias command = true) (workingDir : String) :
    (builtin.factory settings make).accepts command workingDir = .ok true := by
  -- Six of the eight are listings.
  simp only [all, List.mem_cons, List.not_mem_nil, or_false] at known
  have listing (listing : Listing) :
      ((Builtin.ofListing listing).factory settings make).accepts command workingDir =
        .ok true := by
    simp [ofListing, Listing.factory, isAlias]
  rcases known with rfl | rfl | rfl | rfl | rfl | rfl | rfl | rfl
  · exact listing _
  · exact listing _
  · exact listing _
  · exact listing _
  · exact listing _
  · exact listing _
  · exact absurd rfl other
  · simp [Make.factory, isAlias]

end Builtin

namespace Registry

variable {settings : Settings} {builtin : Builtin} {invocation : Invocation}

/-- An enabled built-in matcher attaches exactly to the commands that it accepts trimmed. -/
theorem mem_resolve_builtins_iff (id : InvocationId) (known : builtin ∈ Builtin.all)
    (enabled : settings.isEnabled builtin.name = true)
    (typed : isBlankText invocation.command = false) :
    builtin.name ∈ ((builtins settings).1.resolve id invocation).1.map (·.name) ↔
      (builtin.under settings).accepts (trimmed invocation.command) invocation.workingDir =
        .ok true := by
  -- What is attached was accepted and built, and the built-in matchers are always built.
  rw [resolve_attached _ typed, builtins_eq]
  constructor
  · intro attached
    obtain ⟨attachment, member, named⟩ := List.mem_map.mp attached
    obtain ⟨factory, registered, consulted⟩ := List.mem_filterMap.mp member
    obtain ⟨other, listed, rfl⟩ := List.mem_map.mp registered
    obtain ⟨accepted, _, _, _, rfl⟩ := consult_eq_some_iff.mp consulted
    -- The names of the built-in matchers tell them apart.
    have isKnown : other ∈ Builtin.all := (List.mem_filter.mp listed).1
    have same : other.name = builtin.name := (Builtin.factory_name isKnown _ _).symm.trans named
    obtain rfl := List.inj_on_of_nodup_map Builtin.all_names_nodup isKnown known same
    exact accepted
  · intro accepted
    obtain ⟨notes, matcher, built⟩ := Builtin.exists_create known (settings.matcher builtin.name)
      settings.make (siteOf invocation)
    have consulted :
        (consult (builtin.under settings) id invocation (siteOf invocation)).1 = some _ :=
      consult_eq_some_iff.mpr ⟨accepted, notes, matcher, built, rfl⟩
    refine List.mem_map.mpr ⟨_, List.mem_filterMap.mpr ⟨builtin.under settings, ?_, consulted⟩,
      Builtin.factory_name known _ _⟩
    exact List.mem_map_of_mem (List.mem_filter.mpr ⟨known, enabled⟩)

/-- The build matcher attaches by the first word of a command or by an alias of its own. -/
theorem mem_resolve_make_iff (id : InvocationId)
    (enabled : settings.isEnabled Make.matcherName = true)
    (typed : isBlankText invocation.command = false) :
    Make.matcherName ∈ ((builtins settings).1.resolve id invocation).1.map (·.name) ↔
      (∃ word ∈ settings.make.commands,
        Text.FirstWord invocation.command.toList word.toList) ∨
      ∃ text ∈ (settings.matcher Make.matcherName).aliases, SameCore text invocation.command := by
  -- The build matcher attaches when it recognizes the trimmed command.
  let builtin : Builtin := { name := Make.matcherName, factory := Make.factory }
  have known : builtin ∈ Builtin.all := by simp [Builtin.all, builtin]
  have attaches := mem_resolve_builtins_iff id known enabled typed
  rw [← MatcherSettings.isAlias_trimmed_iff, ← Make.recognizes_trimmed_iff typed,
    ← Bool.or_eq_true]
  exact attaches.trans (Iff.of_eq (Except.ok.injEq _ _))

end Registry

open Registry in
/--
With valid settings every alias of an enabled built-in matcher attaches it, but for the one of work
trees, and a command word without white space in it attaches the build matcher.

Any other command word is not the first word of itself, so that as a command it attaches the build
matcher only by another command word or by an alias.
-/
theorem accepted_entries_attach {settings : Settings} (valid : settings.validate = .ok ()) :
    (∀ builtin ∈ Builtin.all, builtin.name ≠ WorkTree.matcherName →
      settings.isEnabled builtin.name = true →
      ∀ text ∈ (settings.matcher builtin.name).aliases,
      ∀ (id : InvocationId) (invocation : Invocation), invocation.command = text →
        builtin.name ∈ ((builtins settings).1.resolve id invocation).1.map (·.name)) ∧
    (settings.isEnabled Make.matcherName = true → ∀ entry ∈ settings.make.commands,
      ∀ (id : InvocationId) (invocation : Invocation), invocation.command = entry →
        let attached := ((builtins settings).1.resolve id invocation).1.map (·.name)
        ((∀ c ∈ entry.toList, isBlank c = false) → Make.matcherName ∈ attached) ∧
        (Make.matcherName ∈ attached ↔
          (∃ word ∈ settings.make.commands, Text.FirstWord entry.toList word.toList) ∨
          ∃ text ∈ (settings.matcher Make.matcherName).aliases, SameCore text entry)) := by
  -- Entries that pass the check are not blank, so the registry asks the matchers about them.
  obtain ⟨aliases, words⟩ := Settings.typed_of_validate valid
  constructor
  · rintro builtin known other enabled text member id invocation rfl
    refine (mem_resolve_builtins_iff id known enabled (aliases _ _ member)).mpr ?_
    refine Builtin.accepts_alias known other settings.make ?_ invocation.workingDir
    exact MatcherSettings.isAlias_trimmed_iff.mpr ⟨_, member, .refl _⟩
  · rintro enabled entry member id invocation rfl
    have typed := words _ member
    have attaches := mem_resolve_make_iff id enabled typed
    refine ⟨fun solid => attaches.mpr (.inl ⟨_, member, Text.firstWord_self ?_ solid⟩), attaches⟩
    intro nothing
    rw [isBlankText, nothing] at typed
    cases typed

open Registry in
/-- A padded alias attaches its matcher, and a command word attaches the build matcher. -/
theorem accepted_entries_attach_padded :
    let settings : Settings :=
      { matchers := .ofList [("docker-ps", { aliases := [" dps "] })]
        make := { commands := ["gmake"] } }
    let listing : Invocation := { command := " dps " }
    let build : Invocation := { command := "gmake" }
    settings.validate = .ok () ∧
      "docker-ps" ∈ ((builtins settings).1.resolve ⟨1⟩ listing).1.map (·.name) ∧
      "make" ∈ ((builtins settings).1.resolve ⟨2⟩ build).1.map (·.name) := by
  -- The alias is padded on both sides, and the command repeats it as it stands.
  intro settings listing build
  have valid : settings.validate = .ok () := by decide
  obtain ⟨aliases, words⟩ := accepted_entries_attach valid
  have listed : Builtin.ofListing Docker.containers ∈ Builtin.all := by simp [Builtin.all]
  have attached := aliases _ listed (by decide) (by decide) " dps " (by decide) ⟨1⟩ listing rfl
  have unbroken : "gmake".toList.any isBlank = false := by decide
  have solid : ∀ c ∈ "gmake".toList, isBlank c = false := fun c member =>
    Bool.eq_false_iff.mpr (List.any_eq_false.mp unbroken c member)
  have built := (words (by decide) "gmake" (by decide) ⟨2⟩ build rfl).1 solid
  exact ⟨valid, attached, built⟩

open Registry in
/-- White space around a command word is accepted, and then the word attaches nothing. -/
theorem accepted_entry_dead :
    let settings : Settings := { make := { commands := [" gmake "] } }
    settings.validate = .ok () ∧ settings.isEnabled Make.matcherName = true ∧
      ∀ entry ∈ settings.make.commands, ∀ (id : InvocationId) (invocation : Invocation),
        invocation.command = entry →
          Make.matcherName ∉ ((builtins settings).1.resolve id invocation).1.map (·.name) := by
  -- The command itself is trimmed, and the entry is not.
  intro settings
  have enabled : settings.isEnabled Make.matcherName = true := by decide
  refine ⟨by decide, enabled, ?_⟩
  rintro entry member id invocation rfl
  obtain command : invocation.command = " gmake " := List.mem_singleton.mp member
  rw [mem_resolve_make_iff id enabled (by rw [command]; decide), command]
  rintro (⟨word, listed, first⟩ | ⟨text, listed, _⟩)
  · -- The word that is compared has blanks, and a first word has none.
    obtain rfl : word = " gmake " := List.mem_singleton.mp listed
    exact absurd (first.solid ' ' (by decide)) (by decide)
  · exact absurd listed (by simp [settings, Settings.matcher, MatcherTable.find?])

end Annotator

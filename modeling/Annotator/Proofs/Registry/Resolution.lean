import Annotator.Proofs.Registry.Registration
import Annotator.Proofs.Text.Padding

/-!
Resolving a command consults every registered factory by itself. However a registry has been used,
it has grown at its end only, and what attaches is decided for each factory alone.
-/

namespace Annotator

/-- A site tells of an invocation without the padding of its command and of its directory. -/
structure Site.Trims (site : Site) (invocation : Invocation) : Prop where
  /-- The command was typed with no more than white space around it. -/
  padded : Text.Pads invocation.command.toList site.command.toList
  /-- None of the white space around it is left. -/
  bare : Text.Bare site.command.toList
  /-- The directory is closed by one slash in place of those at its end. -/
  baseDir : ∃ front slashes,
    invocation.workingDir.toList = front ++ List.replicate slashes '/' ∧
      front.getLast? ≠ some '/' ∧ site.baseDir.toList = front ++ ['/']
  /-- The server session is that of the invocation. -/
  server : site.server = invocation.server
  /-- The terminal is that of the invocation. -/
  terminal : site.terminal = invocation.terminal
  /-- The machine is that of the invocation. -/
  host : site.host = invocation.host

/-- A factory attaches a matcher at a site when it accepts the command and builds the matcher. -/
def Factory.Attaches (factory : Factory) (site : Site) (workingDir : String)
    (attachment : Attachment) : Prop :=
  -- The directory is shown to it as it was given.
  factory.accepts site.command workingDir = .ok true ∧
    ∃ notes matcher, factory.create site = (notes, .ok matcher) ∧
      attachment = { name := factory.name, fast := factory.fast
                     finishPolicy := factory.finishPolicy, matcher }

namespace Registry

variable {id : InvocationId} {invocation : Invocation} {site : Site}

/-- The site of an invocation tells of it without padding. -/
theorem siteOf_trims (invocation : Invocation) : (siteOf invocation).Trims invocation where
  -- The command is trimmed and the directory closed, while the rest is copied.
  padded := by
    rw [siteOf, trimmed, String.toList_ofList]
    exact Text.pads_trim _
  bare := by
    rw [siteOf, trimmed, String.toList_ofList]
    exact Text.bare_trim _
  baseDir := Site.exists_closeDir invocation.workingDir
  server := rfl
  terminal := rfl
  host := rfl

/-- Consulting a factory attaches exactly what the factory attaches by itself. -/
theorem consult_eq_some_iff {factory : Factory} {attachment : Attachment} :
    (consult factory id invocation site).1 = some attachment ↔
      factory.Attaches site invocation.workingDir attachment := by
  -- A factory attaches when it accepts the command and builds its matcher.
  constructor
  · exact consult_eq_some
  · rintro ⟨accepted, notes, matcher, built, rfl⟩
    simp only [consult, accepted, built]

/-- Consulting several factories attaches what each of them attaches, in their order. -/
theorem consultAll_attached (factories : List Factory) :
    (consultAll id invocation site factories).1 =
      factories.filterMap fun factory => (consult factory id invocation site).1 := by
  -- Induction on the factories, none of which depends on what others did.
  induction factories with
  | nil => rfl
  | cons factory rest ih =>
    change (consult factory id invocation site).1.toList ++
      (consultAll id invocation site rest).1 = _
    rw [ih, List.filterMap_cons]
    cases (consult factory id invocation site).1 with
    | none => rfl
    | some attachment => rfl

/-- A blank command attaches nothing. -/
theorem resolve_blank (registry : Registry) (blank : isBlankText invocation.command = true) :
    (registry.resolve id invocation).1 = [] := by
  -- A blank command is trimmed to nothing, about which no factory is asked.
  have empty : (siteOf invocation).command = "" := trimmed_eq_empty_iff.mpr blank
  rw [resolve_eq, if_pos (String.isEmpty_iff.mpr empty)]

/-- Any other command attaches what each factory attaches, in the order of registration. -/
theorem resolve_attached (registry : Registry) (typed : isBlankText invocation.command = false) :
    (registry.resolve id invocation).1 =
      registry.factories.filterMap fun factory =>
        (consult factory id invocation (siteOf invocation)).1 := by
  -- The trimmed command is not empty, so every factory is asked.
  have kept : (siteOf invocation).command ≠ "" := fun empty => by
    rw [trimmed_eq_empty_iff.mp empty] at typed
    cases typed
  rw [resolve_eq, if_neg (mt String.isEmpty_iff.mp kept), consultAll_attached]

end Registry

open Registry in
/--
However a registry was used, its names are distinct, its factories keep their places, and it stays
sealed once it was. Registering fails only where the registry is sealed or has the name, and then
changes nothing; built-in matchers are added up to the first one that is refused; and what attaches
to an invocation is decided for each factory alone.
-/
theorem registry_serves_in_order (early : List Use) :
    let registry := used early
    registry.names.Nodup ∧
    (∀ late, registry.factories <+: (used (early ++ late)).factories) ∧
    (registry.isSealed = true ↔ .close ∈ early) ∧
    (∀ use factory, use.factory? = some factory →
      let served := registry.use use
      (served.1 = .refused (.closed factory.name) ↔ registry.isSealed = true) ∧
        (served.1 = .refused (.duplicateName factory.name) ↔
          registry.isSealed = false ∧ factory.name ∈ registry.names) ∧
        (∀ reason, served.1 = .refused reason → served.2 = registry) ∧
        (registry.isSealed = false → factory.name ∉ registry.names →
          served = (.done, registry.extended [factory]))) ∧
    (∀ settings,
      (Builtin.enabled settings).map (·.name) = ["docker-ps", "docker-images", "kubectl-get-pods",
        "kubectl-get-deployments", "machinectl-list", "machinectl-list-images", "git-status",
        "make"].filter settings.isEnabled ∧
      ∃ added error,
        registry.Fills ((Builtin.enabled settings).map (Builtin.under settings)) added error ∧
          registry.use (.addBuiltins settings) =
            (error.elim .done .refused, registry.extended added)) ∧
    ∀ id invocation,
      (isBlankText invocation.command = true →
        registry.use (.resolve id invocation) = (.attached [], registry)) ∧
      (isBlankText invocation.command = false →
        ∃ site : Site, site.Trims invocation ∧ ∃ attach : Factory → Option Attachment,
          registry.use (.resolve id invocation) =
            (.attached (registry.factories.filterMap attach), registry) ∧
          -- What a factory attaches depends on neither the registry nor the other factories.
          ∀ factory attachment, attach factory = some attachment ↔
            factory.Attaches site invocation.workingDir attachment) := by
  -- The first parts are invariants of every history, and the others are about one more use.
  intro registry
  refine ⟨(used_registered early).names_nodup, used_prefix early, used_isSealed_iff early,
    fun use factory asked => ?_, fun settings => ⟨Builtin.enabled_names settings,
      registry.use_addBuiltins settings⟩, fun id invocation => ⟨fun blank => ?_, fun typed => ?_⟩⟩
  · rw [use_registers asked]
    dsimp only
    cases taking : registry.register factory with
    | error reason =>
      have refusal := register_error_iff.mp taking
      refine ⟨?_, ?_, fun _ _ => rfl, fun opened absent => ?_⟩
      · rcases refusal with ⟨closed, rfl⟩ | ⟨opened, present, rfl⟩
        · simp [settled, closed]
        · simp [settled, opened]
      · rcases refusal with ⟨closed, rfl⟩ | ⟨opened, present, rfl⟩
        · simp [settled, closed]
        · simp [settled, opened, present]
      · rcases refusal with ⟨closed, -⟩ | ⟨-, present, -⟩
        · cases opened.symm.trans closed
        · exact absurd present absent
    | ok next =>
      obtain ⟨opened, absent, rfl⟩ := register_eq_ok_iff.mp taking
      simp [settled, extended, opened, absent]
  · rw [use, resolve_blank registry blank]
  · refine ⟨siteOf invocation, siteOf_trims invocation,
      fun factory => (consult factory id invocation (siteOf invocation)).1, ?_,
      fun factory attachment => consult_eq_some_iff⟩
    rw [use, resolve_attached registry typed]

open Registry in
/-- A factory that crashes keeps its name and its place, and does not keep others from attaching. -/
theorem registry_serves_in_order_crashing :
    let idle : Matcher :=
      { State := Unit, state := ()
        machine :=
          { onStart := fun _ _ => ([], ⟨(), .ok true⟩)
            onLine := fun _ _ _ => .done ⟨(), .ok .proceed⟩
            onFinish := fun _ _ _ => .done ⟨(), .ok ()⟩ } }
    let crashing : Use :=
      .registerFunctions Make.matcherName (fun _ _ => .error (.crashed "boom"))
        (fun _ => ([], .ok idle)) true
    let exact : Factory :=
      { name := "uptime", accepts := fun command dir => .ok (command == "uptime" && dir == "/x//")
        create := fun _ => ([], .ok idle) }
    let early : List Use := [crashing, .addBuiltins {}, .register exact]
    let registry := used early
    let invocation : Invocation := { command := " uptime\t", workingDir := "/x//" }
    registry.names = ["make", "docker-ps", "docker-images", "kubectl-get-pods",
        "kubectl-get-deployments", "machinectl-list", "machinectl-list-images", "git-status",
        "uptime"] ∧
      (registry.use (.register exact)).1 = .refused (.duplicateName "uptime") ∧
      (registry.resolve ⟨1⟩ invocation).1.map (·.name) = ["uptime"] ∧
      ∃ site : Site, site.Trims invocation ∧ ∃ attach,
        (registry.resolve ⟨1⟩ invocation).1 = registry.factories.filterMap attach := by
  -- The factory under a name of the eight crashes, and its name keeps out the matcher proper.
  intro idle crashing exact early registry invocation
  have names : registry.names = ["make", "docker-ps", "docker-images", "kubectl-get-pods",
      "kubectl-get-deployments", "machinectl-list", "machinectl-list-images", "git-status",
      "uptime"] := by
    decide +kernel
  obtain ⟨-, -, -, registers, -, resolves⟩ := registry_serves_in_order early
  have present : "uptime" ∈ registry.names := by
    rw [names]
    decide
  obtain ⟨site, trims, attach, served, -⟩ := (resolves ⟨1⟩ invocation).2 (by decide)
  exact ⟨names, (registers (.register exact) exact rfl).2.1.mpr ⟨rfl, present⟩, by decide +kernel,
    site, trims, attach, Outcome.attached.inj (Prod.mk.inj served).1⟩

end Annotator

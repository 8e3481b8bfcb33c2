import Annotator.Builtin
import Annotator.Proofs.Tracker.Protocol
import Mathlib.Data.List.Forall2

/-!
A registry only ever grows at its end: whatever it is used for, no factory leaves its place, and
filling it with built-in matchers goes on up to the first one that is refused.
-/

namespace Annotator

namespace Registry

/-- A registry with more factories behind its own. -/
def extended (registry : Registry) (more : List Factory) : Registry :=
  -- It stays open or sealed as it was.
  { registry with factories := registry.factories ++ more }

/-- A registry without more factories is the registry itself. -/
theorem extended_nil (registry : Registry) : registry.extended [] = registry := by
  -- There is nothing to add.
  rw [extended, List.append_nil]

/-- Factories can be added in two groups. -/
theorem extended_extended (registry : Registry) (first second : List Factory) :
    (registry.extended first).extended second = registry.extended (first ++ second) := by
  -- Factories are added at the end.
  rw [extended, extended, extended, List.append_assoc]

/-- The names of added factories stand behind those that were there. -/
theorem names_extended (registry : Registry) (more : List Factory) :
    (registry.extended more).names = registry.names ++ more.map (·.name) :=
  -- Factories are added at the end.
  List.map_append

/-- A sealed registry refuses every factory, and an open one those of a name that it has. -/
theorem register_error_iff {registry : Registry} {factory : Factory} {reason : RegistrationError} :
    registry.register factory = .error reason ↔
      registry.isSealed = true ∧ reason = .closed factory.name ∨
        registry.isSealed = false ∧ factory.name ∈ registry.names ∧
          reason = .duplicateName factory.name := by
  -- A sealed registry refuses first, and only then names are compared.
  unfold register
  cases registry.isSealed with
  | true => simp [eq_comm]
  | false =>
    by_cases present : factory.name ∈ registry.names
    · simp [present, eq_comm]
    · simp [present]

/-- Wanted factories fill a registry in order, up to the first one that is refused. -/
structure Fills (registry : Registry) (wanted added : List Factory)
    (error : Option RegistrationError) : Prop where
  /-- Each factory that was added was taken behind those before it. -/
  taken : ∀ early factory late, added = early ++ factory :: late →
    (registry.extended early).register factory = .ok (registry.extended (early ++ [factory]))
  /-- All wanted factories were added, or the next one was refused for the reason reported. -/
  stops : error = none ∧ wanted = added ∨
    ∃ refused late reason, wanted = added ++ refused :: late ∧ error = some reason ∧
      (registry.extended added).register refused = .error reason

namespace Fills

variable {registry : Registry} {factory : Factory} {wanted added : List Factory}
  {error : Option RegistrationError}

/-- Where nothing is wanted nothing is added. -/
theorem nil (registry : Registry) : registry.Fills [] [] none :=
  -- Nothing is wanted, so nothing is refused.
  ⟨fun early factory late split => by simp at split, .inl ⟨rfl, rfl⟩⟩

/-- A factory that is refused is the end of filling. -/
theorem refused {reason : RegistrationError} (refusal : registry.register factory = .error reason)
    (wanted : List Factory) : registry.Fills (factory :: wanted) [] (some reason) := by
  -- The first of the wanted factories is the one that is refused.
  refine ⟨fun early factory late split => by simp at split, .inr ⟨factory, wanted, reason, rfl, rfl,
    ?_⟩⟩
  rw [extended_nil]
  exact refusal

/-- A factory that is taken is followed by what fills the registry behind it. -/
theorem cons (taking : registry.register factory = .ok (registry.extended [factory]))
    (onward : (registry.extended [factory]).Fills wanted added error) :
    registry.Fills (factory :: wanted) (factory :: added) error := by
  -- The first factory is taken, and those in front of a later one begin with it.
  obtain ⟨taken, stops⟩ := onward
  refine ⟨fun early own late split => ?_, ?_⟩
  · cases early with
    | nil =>
      obtain ⟨rfl, -⟩ := List.cons.inj split
      rw [extended_nil]
      exact taking
    | cons first early =>
      obtain ⟨rfl, behind⟩ := List.cons.inj split
      have later := taken early own late behind
      rw [extended_extended, extended_extended] at later
      exact later
  · -- Where it stops for the others it stops for all.
    rcases stops with ⟨rfl, rfl⟩ | ⟨refused, late, reason, rfl, rfl, refusal⟩
    · exact .inl ⟨rfl, rfl⟩
    · rw [extended_extended] at refusal
      exact .inr ⟨refused, late, reason, rfl, rfl, refusal⟩

/-- A registry that was filled was made by registering. -/
theorem registered (fills : registry.Fills wanted added error) (made : registry.Registered) :
    (registry.extended added).Registered := by
  -- Induction on those that were added, from their end, as each was taken by what stood before.
  obtain ⟨taken, -⟩ := fills
  induction added using List.reverseRecOn with
  | nil =>
    rw [extended_nil]
    exact made
  | append_singleton early factory ih =>
    have before : (registry.extended early).Registered := by
      refine ih fun first own late split => taken first own (late ++ [factory]) ?_
      rw [split, List.append_assoc, List.cons_append]
    exact before.register factory (taken early factory [] rfl)

/-- An open registry is filled with all wanted factories when no name occurs twice. -/
theorem all_added (fills : registry.Fills wanted added error) (opened : registry.isSealed = false)
    (distinct : (registry.names ++ wanted.map (·.name)).Nodup) :
    error = none ∧ added = wanted := by
  -- Filling stops early only at a name that is taken, and all the names differ.
  rcases fills.stops with ⟨none, all⟩ | ⟨refused, late, reason, rfl, -, refusal⟩
  · exact ⟨none, all.symm⟩
  · -- The name of the refused factory would have to be among those in front of it.
    rcases register_error_iff.mp refusal with ⟨closed, -⟩ | ⟨-, present, -⟩
    · cases opened.symm.trans closed
    · rw [names_extended] at present
      rw [List.map_append, List.map_cons, ← List.append_assoc] at distinct
      exact absurd rfl ((List.nodup_append.mp distinct).2.2 _ present _ List.mem_cons_self)

end Fills

end Registry

namespace Builtin

/-- The factory of a built-in matcher under all settings. -/
def under (settings : Settings) (builtin : Builtin) : Factory :=
  -- It is made from its own settings and those for builds.
  builtin.factory (settings.matcher builtin.name) settings.make

/-- The built-in matchers that settings enable, in the order of their registration. -/
def enabled (settings : Settings) : List Builtin :=
  -- A matcher is left out by its own settings only.
  all.filter fun builtin => settings.isEnabled builtin.name

/-- A built-in factory bears the name of the built-in matcher. -/
theorem factory_name {builtin : Builtin} (known : builtin ∈ all) (settings : MatcherSettings)
    (make : MakeSettings) : (builtin.factory settings make).name = builtin.name := by
  -- One case for each of the eight.
  simp only [all, List.mem_cons, List.not_mem_nil, or_false] at known
  rcases known with rfl | rfl | rfl | rfl | rfl | rfl | rfl | rfl <;> rfl

/-- Registering built-in matchers fills a registry with those that are enabled. -/
theorem registerEach_fills (settings : Settings) (registry : Registry) (builtins : List Builtin) :
    let made := registerEach settings registry builtins
    ∃ added, made.2.1 = registry.extended added ∧
      registry.Fills
        ((builtins.filter fun builtin => settings.isEnabled builtin.name).map (under settings))
        added made.1 := by
  -- Induction on the matchers: the disabled are passed over, and the first refusal ends it.
  induction builtins generalizing registry with
  | nil => exact ⟨[], registry.extended_nil.symm, .nil registry⟩
  | cons builtin rest ih =>
    rw [registerEach, List.filter_cons]
    by_cases enabled : settings.isEnabled builtin.name = true
    · rw [if_pos enabled, if_pos enabled, List.map_cons]
      cases taking : registry.register (builtin.factory (settings.matcher builtin.name)
          settings.make) with
      | error reason => exact ⟨[], registry.extended_nil.symm, .refused taking _⟩
      | ok next =>
        obtain ⟨-, -, rfl⟩ := Registry.register_eq_ok_iff.mp taking
        obtain ⟨added, made, fills⟩ := ih (registry.extended [builtin.under settings])
        refine ⟨builtin.under settings :: added, made.trans ?_, fills.cons taking⟩
        rw [Registry.extended_extended, List.singleton_append]
    · rw [if_neg enabled, if_neg enabled]
      exact ih registry

/-- The eight built-in matchers in the order of their registration. -/
theorem all_names :
    all.map (·.name) = ["docker-ps", "docker-images", "kubectl-get-pods",
      "kubectl-get-deployments", "machinectl-list", "machinectl-list-images", "git-status",
      "make"] :=
  -- The names stand in the list in this order.
  rfl

/-- The built-in names are distinct. -/
theorem all_names_nodup : (all.map (·.name)).Nodup := by
  -- The eight names are known.
  rw [all_names]
  decide

/-- Of the eight matchers those are wanted that the settings enable, in the same order. -/
theorem enabled_names (settings : Settings) :
    (enabled settings).map (·.name) = ["docker-ps", "docker-images", "kubectl-get-pods",
      "kubectl-get-deployments", "machinectl-list", "machinectl-list-images", "git-status",
      "make"].filter settings.isEnabled := by
  -- Only the name of a matcher decides whether it is enabled.
  rw [← all_names, List.filter_map]
  rfl

/-- The names of enabled built-in factories are distinct. -/
theorem enabled_names_nodup (settings : Settings) :
    (((enabled settings).map (under settings)).map (·.name)).Nodup := by
  -- The names of the enabled matchers are some of the eight.
  have named : ((enabled settings).map (under settings)).map (·.name) =
      (enabled settings).map (·.name) := by
    rw [List.map_map]
    exact List.map_congr_left fun builtin member =>
      factory_name (List.mem_filter.mp member).1 _ _
  rw [named]
  exact all_names_nodup.sublist (List.filter_sublist.map _)

end Builtin

namespace Registry

/-- The registry of built-in matchers holds those that are enabled and no other factory. -/
theorem builtins_eq (settings : Settings) :
    (builtins settings).1 =
      { factories := (Builtin.enabled settings).map (Builtin.under settings) } := by
  -- Nothing is refused, as the registry begins empty and the names differ.
  obtain ⟨added, made, fills⟩ := Builtin.registerEach_fills settings {} Builtin.all
  have all := (fills.all_added rfl (Builtin.enabled_names_nodup settings)).2
  rw [all] at made
  exact made

/-- Every factory of the registry of built-in matchers is one of them. -/
theorem mem_builtins {settings : Settings} {factory : Factory}
    (member : factory ∈ (builtins settings).1.factories) :
    ∃ builtin ∈ Builtin.all, factory = builtin.under settings := by
  -- The registry holds the factories of the enabled matchers.
  rw [builtins_eq] at member
  obtain ⟨builtin, enabled, same⟩ := List.mem_map.mp member
  exact ⟨builtin, (List.mem_filter.mp enabled).1, same.symm⟩

/-- The registry of built-in matchers is made by registering. -/
theorem builtins_registered (settings : Settings) : (builtins settings).1.Registered := by
  -- Filling an empty registry keeps its invariant.
  obtain ⟨added, made, fills⟩ := Builtin.registerEach_fills settings {} Builtin.all
  have registered := fills.registered .empty
  rw [← made] at registered
  exact registered

/-- Settings that enable the same matchers have related factories if each matcher has. -/
theorem forall₂_builtins {related : Factory → Factory → Prop} {one other : Settings}
    (enabled : ∀ name, one.isEnabled name = other.isEnabled name)
    (same : ∀ builtin ∈ Builtin.all, related (builtin.under one) (builtin.under other)) :
    (builtins one).1.factories.Forall₂ related (builtins other).1.factories := by
  -- The same matchers are enabled, so the factories are compared one by one.
  have alike : Builtin.enabled other = Builtin.enabled one :=
    List.filter_congr fun builtin _ => (enabled builtin.name).symm
  rw [builtins_eq, builtins_eq, alike, List.forall₂_map_left_iff, List.forall₂_map_right_iff,
    List.forall₂_same]
  exact fun builtin member => same builtin (List.mem_filter.mp member).1

/-- What a registry is used for. -/
inductive Use
  /-- A factory is registered. -/
  | register (factory : Factory)
  /-- A factory made of two functions is registered. -/
  | registerFunctions (name : String) (accepts : (command workingDir : String) → Except Fault Bool)
    (create : Site → List Note × Except String Matcher) (fast : Bool)
  /-- The enabled built-in matchers are added. -/
  | addBuiltins (settings : Settings)
  /-- The registry is sealed. -/
  | close
  /-- The matchers that attach to an invocation are asked for. -/
  | resolve (id : InvocationId) (invocation : Invocation)

/-- What a use of a registry is answered. -/
inductive Outcome
  /-- What was asked for has been done. -/
  | done
  /-- A factory was refused. -/
  | refused (reason : RegistrationError)
  /-- These matchers attach. -/
  | attached (attachments : List Attachment)

/-- The factory that a use is to register. -/
def Use.factory? : Use → Option Factory
  -- Factories made of two functions leave their policy at its default.
  | .register factory => some factory
  | .registerFunctions name accepts create fast =>
    some { name, fast, finishPolicy := .activeOnly, accepts, create }
  | _ => none

/-- The outcome of registering, with the registry that it leaves. -/
def settled (registry : Registry) : Except RegistrationError Registry → Outcome × Registry
  -- A refusal changes nothing.
  | .ok next => (.done, next)
  | .error reason => (.refused reason, registry)

/-- The outcome of a use, with the registry that it leaves. -/
def use (registry : Registry) : Use → Outcome × Registry
  -- Resolving only reads the registry.
  | .register factory => registry.settled (registry.register factory)
  | .registerFunctions name accepts create fast =>
    registry.settled (registry.registerFunctions name accepts create fast)
  | .addBuiltins settings =>
    let (error, next, _) := registry.addBuiltins settings
    (error.elim .done .refused, next)
  | .close => (.done, registry.close)
  | .resolve id invocation => (.attached (registry.resolve id invocation).1, registry)

/-- The registry that uses leave, one after the other, when it is empty at first. -/
def used (uses : List Use) : Registry :=
  -- Each use finds what the one before it left.
  uses.foldl (fun registry use => (registry.use use).2) {}

variable {registry : Registry}

/-- A use that registers a factory leads to what registering that factory leads to. -/
theorem use_registers {use : Use} {factory : Factory} (asked : use.factory? = some factory) :
    registry.use use = registry.settled (registry.register factory) := by
  -- Two of the uses ask for a registration, each with its own factory.
  cases use with
  | register own =>
    cases asked
    rfl
  | registerFunctions name accepts create fast =>
    cases asked
    rfl
  | addBuiltins settings => cases asked
  | close => cases asked
  | resolve id invocation => cases asked

/-- Adding built-in matchers fills the registry with those that are enabled. -/
theorem use_addBuiltins (registry : Registry) (settings : Settings) :
    ∃ added error,
      registry.Fills ((Builtin.enabled settings).map (Builtin.under settings)) added error ∧
      registry.use (.addBuiltins settings) =
        (error.elim .done .refused, registry.extended added) := by
  -- The matchers are registered one by one until the first refusal.
  obtain ⟨added, made, fills⟩ := Builtin.registerEach_fills settings registry Builtin.all
  exact ⟨added, _, fills, by rw [use, addBuiltins, ← made]⟩

/-- A registry takes a factory only behind its own, and goes on being made by registering. -/
theorem settled_spec (registry : Registry) (factory : Factory) :
    let next := (registry.settled (registry.register factory)).2
    registry.factories <+: next.factories ∧ next.isSealed = registry.isSealed ∧
      (registry.Registered → next.Registered) := by
  -- A refusal leaves the registry, and a registration adds one factory at its end.
  cases taking : registry.register factory with
  | error reason => exact ⟨List.prefix_rfl, rfl, id⟩
  | ok next =>
    have made := fun registered : registry.Registered => registered.register factory taking
    obtain ⟨-, -, rfl⟩ := register_eq_ok_iff.mp taking
    exact ⟨List.prefix_append _ _, rfl, made⟩

/-- A use moves no factory, and goes on with a registry that is made by registering. -/
theorem use_spec (registry : Registry) (use : Use) :
    let next := (registry.use use).2
    registry.factories <+: next.factories ∧
      (next.isSealed = true ↔ registry.isSealed = true ∨ use = .close) ∧
      (registry.Registered → next.Registered) := by
  -- One case for each use: two register, one fills, one closes and one only asks.
  cases use with
  | register factory =>
    obtain ⟨grown, unsealed, registered⟩ := registry.settled_spec factory
    exact ⟨grown, by simp [use, unsealed], registered⟩
  | registerFunctions name accepts create fast =>
    obtain ⟨grown, unsealed, registered⟩ := registry.settled_spec
      { Factory.ofFunctions name accepts create with fast }
    exact ⟨grown, by simp [use, registerFunctions, unsealed], registered⟩
  | addBuiltins settings =>
    obtain ⟨added, error, fills, same⟩ := registry.use_addBuiltins settings
    rw [same]
    exact ⟨List.prefix_append _ added, by simp [extended], fills.registered⟩
  | close => exact ⟨List.prefix_rfl, by simp [use, close], .close⟩
  | resolve id invocation =>
    exact ⟨List.prefix_rfl, by simp [use], fun registered => registered⟩

/-- One more use finds what the earlier ones left. -/
theorem used_concat (uses : List Use) (use : Use) :
    used (uses ++ [use]) = ((used uses).use use).2 :=
  -- The uses are made from the left.
  List.foldl_append

/-- Uses leave a registry that is made by registering. -/
theorem used_registered (uses : List Use) : (used uses).Registered := by
  -- Induction on the uses from their end, each of which keeps the invariant.
  induction uses using List.reverseRecOn with
  | nil => exact .empty
  | append_singleton early use ih =>
    rw [used_concat]
    exact ((used early).use_spec use).2.2 ih

/-- A registry is sealed once it was sealed, whatever it is used for afterwards. -/
theorem used_isSealed_iff (uses : List Use) : (used uses).isSealed = true ↔ .close ∈ uses := by
  -- Induction on the uses from their end, as only closing seals and nothing opens again.
  induction uses using List.reverseRecOn with
  | nil => simp [used]
  | append_singleton early use ih =>
    rw [used_concat, ((used early).use_spec use).2.1, ih, List.mem_append, List.mem_singleton,
      eq_comm]

/-- Later uses add factories behind those that earlier ones left. -/
theorem used_prefix (early late : List Use) :
    (used early).factories <+: (used (early ++ late)).factories := by
  -- Induction on the later uses from their end, none of which takes a factory away.
  induction late using List.reverseRecOn with
  | nil => exact (List.append_nil early).symm ▸ List.prefix_rfl
  | append_singleton late use ih =>
    rw [← List.append_assoc, used_concat]
    exact ih.trans ((used (early ++ late)).use_spec use).1

end Registry

end Annotator

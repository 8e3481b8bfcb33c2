import Annotator.Hook.Matcher
import Annotator.Journal
import Annotator.Text.Blank

/-! The registry holds factories in order and resolves a command to the matchers that attach. -/

namespace Annotator

/-- Why a factory cannot be registered. -/
inductive RegistrationError
  /-- A factory of this name is present. -/
  | duplicateName (name : String)
  /-- The registry no longer takes factories. -/
  | closed (name : String)
  deriving DecidableEq, Repr

namespace RegistrationError

/-- The wording of a registration error. -/
def message : RegistrationError → String
  -- Names are quoted so that invisible characters show.
  | .duplicateName name => "a matcher named " ++ quoted name ++ " is already registered"
  | .closed name => "registry is sealed; cannot register " ++ quoted name

end RegistrationError

/-- Registered factories, and whether more may come. -/
structure Registry where
  /-- The factories in registration order. -/
  factories : List Factory := []
  /-- A sealed registry takes no more factories. -/
  isSealed : Bool := false

/-- A matcher that attaches to an invocation, with the scheduling of its factory. -/
structure Attachment where
  /-- The name of the factory. -/
  name : String
  /-- Whether it takes lines as they arrive. -/
  fast : Bool
  /-- Whether it is finished after it stopped. -/
  finishPolicy : FinishPolicy
  /-- The matcher itself. -/
  matcher : Matcher

namespace Attachment

/-- A one-line description of an attachment that leaves the matcher out. -/
def summary (attachment : Attachment) : String :=
  -- The fields are written in order.
  "ResolvedMatcher \x7b name: " ++ quoted attachment.name ++
    ", fast: " ++ (if attachment.fast then "true" else "false") ++
    ", finish_policy: " ++ attachment.finishPolicy.label ++ ", .. \x7d"

end Attachment

namespace Registry

/-- The names of the registered factories. -/
def names (registry : Registry) : List String :=
  -- The order of registration is kept.
  registry.factories.map (·.name)

/-- A factory is registered unless the registry is sealed or has its name already. -/
def register (registry : Registry) (factory : Factory) : Except RegistrationError Registry :=
  -- A sealed registry is reported first.
  if registry.isSealed then .error (.closed factory.name)
  else if registry.names.contains factory.name then .error (.duplicateName factory.name)
  else .ok { registry with factories := registry.factories ++ [factory] }

/-- A factory made of two functions is registered like any other. -/
def registerFunctions (registry : Registry) (name : String)
    (accepts : (command workingDir : String) → Except Fault Bool)
    (create : Site → List Note × Except String Matcher) (fast : Bool) :
    Except RegistrationError Registry :=
  -- Its scheduling can be chosen, unlike its policy.
  registry.register { Factory.ofFunctions name accepts create with fast }

/-- Sealing closes a registry for good. -/
def close (registry : Registry) : Registry :=
  -- The factories stay as they are.
  { registry with isSealed := true }

/-- The notice that a factory failed to decide about an invocation. -/
def failureNotice (name : String) (id : InvocationId) (invocation : Invocation) (fault : Fault) :
    Notice :=
  -- The command is shown as it was typed.
  { severity := .warn
    origin := "par_annotate::registry"
    message := "Matcher " ++ name ++ " predicate failed for " ++ id.label ++
      " (" ++ quoted invocation.command ++ "): " ++ fault.message }

/-- Consulting a factory builds its matcher when it accepts the command. -/
def consult (factory : Factory) (id : InvocationId) (invocation : Invocation) (site : Site) :
    Option Attachment × Journal :=
  -- A failure of either step counts as a refusal and is noticed.
  let answer := factory.accepts site.command invocation.workingDir
  let asked : Journal :=
    [.called factory.name id (.accepts site.command invocation.workingDir) (.ofWish answer)]
  match answer with
  | .error fault =>
    (none, asked ++ [.noticed (failureNotice factory.name id invocation fault)])
  | .ok false => (none, asked)
  | .ok true =>
    let (notes, built) := factory.create site
    let told (verdict : Verdict) : Journal :=
      asked ++ .called factory.name id (.create site) verdict :: notes.map .noted
    match built with
    | .error text =>
      (none, told (.failed (.crashed text)) ++
        [.noticed (failureNotice factory.name id invocation (.crashed text))])
    | .ok matcher =>
      (some { name := factory.name, fast := factory.fast
              finishPolicy := factory.finishPolicy, matcher }, told .done)

/-- The site that factories see carries the trimmed command. -/
def siteOf (invocation : Invocation) : Site :=
  -- Padding around a command has no meaning.
  { Site.ofInvocation invocation with command := trimmed invocation.command }

/-- Consulting several factories collects what attaches, in order. -/
def consultAll (id : InvocationId) (invocation : Invocation) (site : Site) :
    List Factory → List Attachment × Journal
  -- No factory learns of the decision of another.
  | [] => ([], [])
  | factory :: rest =>
    let (attached, told) := consult factory id invocation site
    let (others, toldLater) := consultAll id invocation site rest
    (attached.toList ++ others, told ++ toldLater)

/-- The matchers that attach to an invocation. -/
def resolve (registry : Registry) (id : InvocationId) (invocation : Invocation) :
    List Attachment × Journal :=
  -- Nothing attaches to a blank command.
  let site := siteOf invocation
  if site.command.isEmpty then ([], [])
  else consultAll id invocation site registry.factories

end Registry

end Annotator

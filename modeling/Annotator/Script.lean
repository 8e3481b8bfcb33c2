import Annotator.Hook.Matcher
import Annotator.Text.Search

/-! A script is a matcher that carries out fixed acts and tells what it was given. -/

namespace Annotator

/-- When a script attaches. -/
inductive ScriptCondition
  /-- It attaches always or never. -/
  | constant (accepts : Bool)
  /-- It attaches to commands that begin with a text. -/
  | commandStarts (text : String)
  /-- It attaches to one command. -/
  | commandIs (text : String)
  /-- It attaches in directories that end in a text. -/
  | dirEnds (text : String)
  /-- It fails to decide. -/
  | fails (fault : Fault)
  deriving DecidableEq, Repr

namespace ScriptCondition

/-- Whether a script attaches to a command in a working directory. -/
def holds (condition : ScriptCondition) (command workingDir : String) : Except Fault Bool :=
  -- Texts are compared character by character.
  match condition with
  | .constant accepts => .ok accepts
  | .commandStarts text => .ok (Text.startsWith text.toList command.toList)
  | .commandIs text => .ok (command == text)
  | .dirEnds text => .ok (Text.endsWith text.toList workingDir.toList)
  | .fails fault => .error fault

end ScriptCondition

/-- One thing a script does in a hook. -/
inductive ScriptAct
  /-- A region is created on the current line, by default over all of it. -/
  | create (start stop : Option Nat) (metadata : Metadata) (tolerant : Bool)
  /-- A region is created between two positions. -/
  | createAt (start stop : Position) (metadata : Metadata) (tolerant : Bool)
  /-- The next number is reserved. -/
  | reserve
  /-- The view is looked at. -/
  | look
  /-- No further line is wanted. -/
  | stop
  /-- The hook fails. -/
  | fail (fault : Fault) (tolerant : Bool)
  deriving DecidableEq

/-- A script's acts for each hook. -/
structure Script where
  /-- The name of the matcher. -/
  name : String
  /-- When it attaches. -/
  condition : ScriptCondition := .constant true
  /-- Whether it takes lines as they arrive. -/
  fast : Bool := false
  /-- Whether it is finished after it stopped. -/
  finishPolicy : FinishPolicy := .activeOnly
  /-- The text with which building it breaks off. -/
  buildCrash : Option String := none
  /-- Whether it tells the site it was built for. -/
  tellsSite : Bool := false
  /-- Its answer when it is started. -/
  start : Except Fault Bool := .ok true
  /-- Its acts for lines of given numbers, counted from one. -/
  numbered : List (Nat × List ScriptAct) := []
  /-- Its acts for all other lines. -/
  other : List ScriptAct := []
  /-- Its acts at the end. -/
  finish : List ScriptAct := []

namespace Script

/-- The acts for a line of a given number. -/
def lineActs (script : Script) (number : Nat) : List ScriptAct :=
  -- Acts for a number come before those for every line.
  match script.numbered.find? (·.1 == number) with
  | some (_, acts) => acts
  | none => script.other

/-- Acts are carried out in order until one of them ends the hook. -/
def perform (name : String) (view : View) (length : Nat) :
    List ScriptAct → Program (Except Fault Flow)
  -- A tolerant act tells its failure and goes on, but a crash ends everything.
  | [] => .done (.ok .proceed)
  | .create start stop metadata tolerant :: rest =>
    .create (start.getD 0) (stop.getD length) metadata fun answer =>
      match answer with
      | .ok id => .tell ⟨name, .created id⟩ (perform name view length rest)
      | .error error =>
        if tolerant then
          .tell ⟨name, .failed (.rejected error)⟩ (perform name view length rest)
        else .done (.error (.rejected error))
  | .createAt start stop metadata tolerant :: rest =>
    .createAt start stop metadata fun answer =>
      match answer with
      | .ok id => .tell ⟨name, .created id⟩ (perform name view length rest)
      | .error error =>
        if tolerant then
          .tell ⟨name, .failed (.rejected error)⟩ (perform name view length rest)
        else .done (.error (.rejected error))
  | .reserve :: rest =>
    .reserve fun id => .tell ⟨name, .reserved id⟩ (perform name view length rest)
  | .look :: rest => .tell ⟨name, .viewed view⟩ (perform name view length rest)
  | .stop :: _ => .done (.ok .stop)
  | .fail fault tolerant :: rest =>
    if tolerant && !fault.isCrash then
      .tell ⟨name, .failed fault⟩ (perform name view length rest)
    else .done (.error fault)

/-- The hooks of a script, whose state is the number of lines it took. -/
def machine (script : Script) : Machine Nat where
  onStart invocation count :=
    ([⟨script.name, .started invocation.exitCode⟩], ⟨count, script.start⟩)
  onLine view line count :=
    .tell ⟨script.name, .line line.text line.startRow line.endRow⟩
      ((perform script.name view line.length (script.lineActs (count + 1))).bind fun answer =>
        .done ⟨count + 1, answer⟩)
  onFinish view totalRows count :=
    .tell ⟨script.name, .finished totalRows⟩
      ((perform script.name view 0 script.finish).bind fun answer =>
        .done ⟨count, answer.map fun _ => ()⟩)

/-- Building a script's matcher may break off, and otherwise may tell its site. -/
def create (script : Script) (site : Site) : List Note × Except String Matcher :=
  -- A crash comes before anything is told.
  match script.buildCrash with
  | some text => ([], .error text)
  | none =>
    (if script.tellsSite then [⟨script.name, .built site⟩] else [],
      .ok { State := Nat, machine := script.machine, state := 0 })

/-- The factory of a script. -/
def factory (script : Script) : Factory where
  name := script.name
  fast := script.fast
  finishPolicy := script.finishPolicy
  accepts := script.condition.holds
  create := script.create

end Script

end Annotator

import Scriptlet.Interpret
import Scriptlet.Report.Console

/-!
# Report sessions

What an embedder does with one report: run scripts under it, make failures and complain about them,
put information on the console, and ask what is noted. A request is answered with a reply and with
what it put on the console.
-/

namespace Scriptlet.Report

/-- A report in use: the failures its user made, by their places in the ledger, and the last script.
-/
structure Session where
  report : Report
  made : Array Nat
  script : Option Script

/-- What a user may ask of a session. -/
inductive Request where
  | interpret (script : Script)
  /-- Runs the last script once more. -/
  | again
  /-- Makes a failure. -/
  | make (kind : Failure.Kind) (message : String) (site : Option Node)
  /-- Complains about a failure by its number among those made; none stands for something that is no
  failure. -/
  | complain (number : Option Nat) (site : Option Node)
  | info (values : List Atom)
  | trace (caption : String) (site : Node)
  | ok
  | sick
  | issues
  | reset
  | console (outburst : Outburst)

/-- What a session answers. -/
inductive Reply where
  | run (r : Run)
  | failure (f : Failure)
  | flag (b : Bool)
  | issues (fs : List Failure)
  | nothing
  /-- The report gave up. -/
  | enough
  | fault (f : Fault)

/-- The session after a request, the reply, and what was put on the console. A run keeps its own
chatter. -/
structure Answer where
  session : Session
  reply : Reply
  chatter : String

namespace Session

/-- A session with a new report. -/
def new (verbose : Bool) (limit : Option Int) : Session :=
  ⟨.new verbose limit, #[], none⟩

/-- Runs a script under the report. -/
def run (depth : Nat) (s : Session) (script : Script) : Answer :=
  let r := Scriptlet.interpret depth s.report script
  ⟨{ s with report := r.report, script := some script }, .run r, ""⟩

/-- Complains about the failure at a place of the ledger. -/
def complain (s : Session) (place : Nat) (site : Option Node) : Answer :=
  let c := s.report.complain place site
  let reply := match c.verdict with
    | .noted =>
      match c.report.ledger[place]? with
      | some f => .failure f
      | none => .nothing
    | .enough => .enough
    | .fault f => .fault f
  ⟨{ s with report := c.report }, reply, c.chatter⟩

/-- Puts something on the console. -/
def say (s : Session) (out : Printout) : Answer :=
  let reply := match out.fault with
    | none => .nothing
    | some f => .fault f
  ⟨s, reply, out.text⟩

/-- Answers a request. Scripts are nested at most so deep. -/
def answer (depth : Nat) (s : Session) : Request → Answer
  | .interpret script => s.run depth script
  | .again =>
    match s.script with
    | some script => s.run depth script
    | none => ⟨s, .fault .misuse, ""⟩
  | .make kind message site =>
    let f : Failure := ⟨.reported kind message, site⟩
    ⟨{ s with report := s.report.enter f, made := s.made.push s.report.next }, .failure f, ""⟩
  | .complain number site =>
    match number.bind fun i => s.made[i]? with
    | some place => s.complain place site
    | none => ⟨s, .fault .misuse, ""⟩
  | .info values => s.say (s.report.info (values.map Atom.text))
  | .trace caption site => s.say (s.report.trace caption site)
  | .ok => ⟨s, .flag s.report.ok, ""⟩
  | .sick => ⟨s, .flag s.report.sick, ""⟩
  | .issues => ⟨s, .issues s.report.issues, ""⟩
  | .reset => ⟨{ s with report := s.report.reset }, .nothing, ""⟩
  | .console outburst => s.say (s.report.console outburst)

end Session

end Scriptlet.Report

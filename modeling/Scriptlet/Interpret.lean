import Scriptlet.Eval.Node
import Scriptlet.Global
import Scriptlet.Report.Basic

/-!
# Running a script

A script runs in a fresh global scope, and a report watches over it. A failure of the language is
noted before it passes on, unless the report has had enough, which then is how the run ends. Faults
and too deep a nesting pass on without a note.
-/

namespace Scriptlet

/-- How a run ends. -/
inductive Ending where
  | returned
  | failure (f : Failure)
  /-- The report gave up over a failure of this kind. -/
  | enough (kind : Failure.Kind)
  | fault (f : Fault)
  | tooDeep

/-- A run that is over: how it ended, its global scope, the state it left, and the report. -/
structure Run where
  ending : Ending
  scope : Ref
  state : State
  report : Report

/-- A depth of nesting that leaves room for thousands of calls within one another. -/
def depthLimit : Nat := 10000

/-- Takes note of a failure that ended a script. -/
def Report.conclude (r : Report) (scope : Ref) (f : Failure) (s : State) : Run :=
  let complaint := (r.enter f).complain r.next none
  let s := { s with chatter := s.chatter ++ complaint.chatter }
  match complaint.verdict with
  | .noted => ⟨.failure f, scope, s, complaint.report⟩
  | .enough => ⟨.enough f.kind, scope, s, complaint.report⟩
  | .fault fault => ⟨.fault fault, scope, s, complaint.report⟩

/-- Runs a script, nested at most so deep. The script's body has to be a block. -/
def interpret (depth : Nat) (report : Report) (script : Script) : Run :=
  let scope := Heap.empty.next
  let start : State := ⟨Global.prepare .empty, 0, [], ""⟩
  match script.body with
  | .block body _ =>
    let opening := report.info
      [.ok "Evaluating script of", .ok (Text.digits body.length), .ok "top-level instructions"]
    let start := { start with chatter := opening.text }
    match evaluate report.verbose depth script.body scope start with
    | .ok _ s => ⟨.returned, scope, s, report⟩
    | .error (.failure f) s => report.conclude scope f s
    | .error (.fault fault) s => ⟨.fault fault, scope, s, report⟩
    | .error .tooDeep s => ⟨.tooDeep, scope, s, report⟩
  | other => ⟨.fault (.noInstructions other.kind), scope, start, report⟩

end Scriptlet

import Scriptlet.Atom.Text
import Scriptlet.Failure
import Scriptlet.Node.Snippet
import Scriptlet.Printout

/-!
# Reports

A report takes note of failures, in order, and may have a limit on how many it puts up with. When it
is verbose it also puts information and traces on the console.

Failures are kept in a ledger and noted by their place in it, so that one failure may be noted
more than once, and a site that is filled in later shows wherever it is noted.
-/

namespace Scriptlet

/-- A collection of failures. -/
structure Report where
  verbose : Bool
  /-- After how many noted failures the report gives up. -/
  limit : Option Int
  /-- Every failure that the report was shown or that was made for it. -/
  ledger : Array Failure
  /-- The places of the failures noted since the last reset. -/
  noted : List Nat

namespace Report

/-- A report without entries. -/
def new (verbose : Bool) (limit : Option Int) : Report :=
  ⟨verbose, limit, #[], []⟩

/-- A report that keeps to itself and never gives up. -/
def quiet : Report := .new false none

/-- The noted failures, in order. -/
def issues (r : Report) : List Failure :=
  r.noted.filterMap fun i => r.ledger[i]?

/-- Whether nothing is noted. -/
def ok (r : Report) : Bool := r.noted.isEmpty

/-- Whether something is noted. -/
def sick (r : Report) : Bool := !r.ok

/-- The report with its notes struck. -/
def reset (r : Report) : Report := { r with noted := [] }

/-- The place that the next new failure gets in the ledger. -/
def next (r : Report) : Nat := r.ledger.size

/-- The report with one more failure in the ledger, which is not noted yet. -/
def enter (r : Report) (f : Failure) : Report := { r with ledger := r.ledger.push f }

/-- A line of information, if the report is verbose. -/
def info (r : Report) (pieces : List (Except Fault String)) : Printout :=
  if r.verbose then .line pieces else ⟨"", none⟩

/-- A node shown with a caption, if the report is verbose. -/
def trace (r : Report) (caption : String) (site : Node) : Printout :=
  if r.verbose then .line [site.illustrate caption] else ⟨"", none⟩

/-- The site of a failure shown with the kind of the failure, if it is known and the report is
verbose. -/
def traceFailure (r : Report) (f : Failure) : Printout :=
  match f.site with
  | none => ⟨"", none⟩
  | some site => r.trace f.kind.name site

/-- What comes of a complaint. -/
inductive Verdict where
  /-- The failure is noted. -/
  | noted
  /-- The failure is noted, and that makes it one too many. -/
  | enough
  /-- A fault surfaced. -/
  | fault (f : Fault)

/-- The report after a complaint, what was put on the console, and what came of it. -/
structure Complaint where
  report : Report
  chatter : String
  verdict : Verdict

/-- Whether a report with so many notes gives up. -/
def full (r : Report) : Bool :=
  r.limit = some (r.noted.length : Int)

/-- Complains about a failure of the ledger. A site given here fills in for a failure that has none;
then the failure is noted, then traced if it has a site, and last the limit is looked at. -/
def complain (r : Report) (place : Nat) (site : Option Node) : Complaint :=
  match r.ledger[place]? with
  | none => ⟨r, "", .fault .misuse⟩
  | some f =>
    let f := f.locate site
    let r := { r with ledger := r.ledger.setIfInBounds place f, noted := r.noted ++ [place] }
    let out := r.traceFailure f
    match out.fault with
    | some fault => ⟨r, out.text, .fault fault⟩
    | none => ⟨r, out.text, if r.full then .enough else .noted⟩

end Report

end Scriptlet

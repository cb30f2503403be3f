import Scriptlet.Fault
import Scriptlet.Text.Decimal

/-!
# Failures

What goes wrong in the language. A failure has a cause, from which its kind and its message follow,
and a site: the node where it happened, as far as that is known. A host routine does not know; the
call that invoked it fills the site in (`Failure.locate`), and a site that is there stays
(`Failure.locate_of_site`).
-/

namespace Scriptlet

/-- The kinds of failures. -/
inductive Failure.Kind where
  | general
  | notCallable
  | typeFailure
  | arityMismatch
  | duplicateDeclaration
  deriving DecidableEq

/-- The word for a kind of failure. -/
def Failure.Kind.name : Failure.Kind → String
  | .general => "Failure"
  | .notCallable => "NotCallable"
  | .typeFailure => "TypeFailure"
  | .arityMismatch => "ArityMismatch"
  | .duplicateDeclaration => "DuplicateDeclaration"

/-- The kind of failure that a word stands for. -/
def Failure.Kind.ofName? (s : String) : Option Failure.Kind :=
  [.general, .notCallable, .typeFailure, .arityMismatch, .duplicateDeclaration].find?
    fun kind => kind.name = s

/-- Why evaluation failed. Values that a message shows are kept as their text. -/
inductive Failure.Cause where
  /-- A call of something other than a function. -/
  | notCallable (shown : String)
  /-- A field of something other than an object. -/
  | notObject (shown : String)
  /-- A choice by something other than an integer. -/
  | notBoolean (shown : String)
  /-- A call with the wrong number of arguments. -/
  | wrongCount (name : String) (expected : Int) (got : Nat)
  /-- A declaration of a name that is bound already. -/
  | duplicate (name : String)
  /-- A host routine that gave up. -/
  | hostGaveUp
  /-- A failure made by an embedder. -/
  | reported (kind : Failure.Kind) (message : String)
  deriving DecidableEq

namespace Failure.Cause

/-- The kind of failure that a cause leads to. -/
def kind : Cause → Kind
  | notCallable _ => .notCallable
  | notObject _ => .typeFailure
  | notBoolean _ => .typeFailure
  | wrongCount .. => .arityMismatch
  | duplicate _ => .duplicateDeclaration
  | hostGaveUp => .notCallable
  | reported kind _ => kind

/-- The message of a cause. -/
def message : Cause → String
  | notCallable shown => shown ++ " is not callable"
  | notObject shown => "type error " ++ shown ++ " is not an object"
  | notBoolean shown => "Invalid boolean value " ++ shown
  | wrongCount name expected got =>
    "Invalid number of arguments for " ++ name ++ ": expected " ++ Text.decimal expected ++ ", got "
      ++ Text.digits got
  | duplicate name => name ++ " already defined"
  | hostGaveUp => "host failure"
  | reported _ message => message

end Failure.Cause

/-- A failure of evaluation. -/
structure Failure where
  cause : Failure.Cause
  site : Option Node

namespace Failure

/-- The kind of a failure. -/
def kind (f : Failure) : Kind := f.cause.kind

/-- The message of a failure, without its line. -/
def message (f : Failure) : String := f.cause.message

/-- The failure with a site for the case that it has none. -/
def locate (f : Failure) (site : Option Node) : Failure :=
  match f.site with
  | none => { f with site }
  | some _ => f

/-- A failure that is given a site keeps its cause. -/
@[simp]
theorem cause_locate (f : Failure) (site : Option Node) : (f.locate site).cause = f.cause := by
  unfold locate
  split <;> rfl

/-- A site that is there stays. -/
theorem locate_of_site {f : Failure} {n : Node} (h : f.site = some n) (site : Option Node) :
    f.locate site = f := by
  simp [locate, h]

/-- The line where a failure happened, if its site is known. A site without a line has none to tell.
-/
def line (f : Failure) : Except Fault (Option Int) :=
  match f.site with
  | none => .ok none
  | some site =>
    match site.line? with
    | some line => .ok (some line)
    | none => .error (.noLine site.kind)

/-- A failure as a sentence: its message, and the line if the site is known. -/
def text (f : Failure) : Except Fault String := do
  match ← f.line with
  | none => return f.message
  | some line =>
    let number ← Fault.written (Text.decimal? line)
    return f.message ++ " at line " ++ number

end Failure

/-- How an evaluation ends that has no value. Too deep a nesting is neither a failure of the
language nor a mistake of the host: it only says that the limit was reached. -/
inductive Error where
  | failure (f : Failure)
  | fault (f : Fault)
  | tooDeep

end Scriptlet

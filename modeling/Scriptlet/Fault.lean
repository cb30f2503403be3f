import Scriptlet.Node
import Scriptlet.Operator.Basic

/-!
# Faults

What goes wrong outside the language: operands that a host operator refuses, values without a text,
nodes that stand where none of their kind can, and misuse by an embedder. A fault has no site in the
script, and no report takes note of it. Failures of the language are in `Scriptlet.Failure`.
-/

namespace Scriptlet

/-- A mistake that surfaces from the host. -/
inductive Fault where
  /-- Arithmetic on something other than an integer, which is shown. -/
  | notInteger (shown : String)
  /-- Two values that have no order. -/
  | unordered (op : Order) (left right : Shape)
  | zeroDivisor
  /-- The text of an integer with too many digits. -/
  | longInteger
  /-- A node that cannot be shown as a snippet. -/
  | noSnippet (kind : Node.Kind)
  /-- A node that came from no line. -/
  | noLine (kind : Node.Kind)
  /-- A script whose body is not a block. -/
  | noInstructions (kind : Node.Kind)
  /-- An attempt to give the undefined value an attribute. -/
  | undefinedIsImmutable
  /-- A host routine called with too few or too many operands. -/
  | operandCount (got : Nat)
  /-- A node that is not an expression was to be evaluated. -/
  | notExpression
  /-- Something other than a runtime object, a scope or a failure was handed in as one. -/
  | misuse
  deriving DecidableEq

/-- A text that an integer may have too many digits for. -/
def Fault.written : Option String → Except Fault String
  | some text => .ok text
  | none => .error .longInteger

/-- The text of a fault, for those that have one. -/
def Fault.message? : Fault → Option String
  | notInteger shown => some (shown ++ " is not an integer")
  | unordered op left right =>
    some ("'" ++ op.sign ++ "' not supported between instances of '" ++ left.name ++ "' and '"
      ++ right.name ++ "'")
  | zeroDivisor => some "integer division or modulo by zero"
  | longInteger =>
    some ("Exceeds the limit (4300 digits) for integer string conversion; "
      ++ "use sys.set_int_max_str_digits() to increase the limit")
  | noSnippet kind => some ("'Render' object has no attribute 'visit_" ++ kind.name ++ "'")
  | noLine kind => some ("'" ++ kind.name ++ "' object has no attribute 'line'")
  | noInstructions kind => some ("'" ++ kind.name ++ "' object has no attribute 'instructions'")
  | undefinedIsImmutable => some "undefined is immutable"
  | operandCount got => some ("two operands expected, got " ++ Nat.repr got)
  | notExpression => none
  | misuse => none

end Scriptlet

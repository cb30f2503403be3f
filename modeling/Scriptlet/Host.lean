import Scriptlet.Operator.Basic

/-!
# Host routines

What the host lends to scripts. A script cannot tell the routines behind its primitives apart except
by calling them; all of them ignore the receiver of the call.
-/

namespace Scriptlet

/-- A routine of the host that a script can call. -/
inductive Host where
  /-- An operator on two values. -/
  | operator (op : Operator)
  /-- Writes its arguments as a line. -/
  | print
  /-- Answers how many arguments it got. -/
  | count
  /-- Answers its last argument. -/
  | last
  /-- Fails without knowing where. -/
  | fail
  deriving DecidableEq

end Scriptlet

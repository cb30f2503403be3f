/-!
# Operators

The eleven operators that a global scope offers, by name: arithmetic on integers, equality, and
order.
-/

namespace Scriptlet

/-- Arithmetic on two integers. -/
inductive Arithmetic where
  | add
  | sub
  | mul
  | div
  | mod
  deriving DecidableEq

/-- The four ways to ask for the order of two values. -/
inductive Order where
  | lt
  | le
  | gt
  | ge
  deriving DecidableEq

/-- The sign of an order. -/
def Order.sign : Order → String
  | .lt => "<"
  | .le => "<="
  | .gt => ">"
  | .ge => ">="

/-- Whether a question about order has the answer yes, given how two values stand. -/
def Order.holds : Order → Ordering → Bool
  | .lt, c => c.isLT
  | .le, c => c.isLE
  | .gt, c => c.isGT
  | .ge, c => c.isGE

/-- An operator on two values. -/
inductive Operator where
  | arithmetic (op : Arithmetic)
  | equal
  | unequal
  | order (op : Order)
  deriving DecidableEq

namespace Operator

/-- The sign of an operator, which is the name it is bound to. -/
def sign : Operator → String
  | arithmetic .add => "+"
  | arithmetic .sub => "-"
  | arithmetic .mul => "*"
  | arithmetic .div => "/"
  | arithmetic .mod => "%"
  | equal => "=="
  | unequal => "!="
  | order op => op.sign

/-- The operators in the order in which a global scope binds them. -/
def all : List Operator :=
  [arithmetic .add, arithmetic .sub, arithmetic .mul, arithmetic .div, arithmetic .mod,
    equal, unequal, order .lt, order .le, order .gt, order .ge]

/-- No operator is missing from the list of all. -/
theorem mem_all (op : Operator) : op ∈ all := by
  rcases op with op | _ | _ | op
  · cases op <;> simp [all]
  · simp [all]
  · simp [all]
  · cases op <;> simp [all]

/-- The operator with a given sign. -/
def ofSign? (s : String) : Option Operator :=
  all.find? fun op => op.sign = s

end Operator

end Scriptlet

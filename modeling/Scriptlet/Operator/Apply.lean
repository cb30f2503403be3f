import Scriptlet.Heap.Text

/-!
# What operators answer

Arithmetic is on integers only and looks at the left operand first; division rounds toward zero, and
the remainder takes the sign of the dividend. Comparisons answer one or zero. Any two values are
equal or not: numbers by what they count as, strings by their characters, objects by identity,
signals by what they carry. Order is between numbers, between strings, and between signals; other
pairs have none.
-/

namespace Scriptlet

namespace Arithmetic

/-- A quotient rounded toward zero: that of the absolute values, below zero if just one operand is. -/
def quotient (a b : Int) : Int :=
  let q : Int := (a.natAbs / b.natAbs : Nat)
  if a < 0 ↔ b < 0 then q else -q

/-- What a quotient rounded toward zero leaves of the dividend. -/
def remainder (a b : Int) : Int :=
  a - b * quotient a b

/-- Arithmetic on integers. -/
def compute : Arithmetic → Int → Int → Except Fault Int
  | add, a, b => .ok (a + b)
  | sub, a, b => .ok (a - b)
  | mul, a, b => .ok (a * b)
  | div, a, b => if b = 0 then .error .zeroDivisor else .ok (quotient a b)
  | mod, a, b => if b = 0 then .error .zeroDivisor else .ok (remainder a b)

end Arithmetic

namespace Atom

/-- Whether two atoms are equal. -/
def equal (a b : Atom) : Bool :=
  match a.number?, b.number? with
  | some m, some n => m = n
  | none, none => a = b
  | _, _ => false

/-- How two atoms stand, if they have an order: numbers by value, strings by code points. -/
def compare? (a b : Atom) : Option Ordering :=
  match a.number?, b.number? with
  | some m, some n => some (compare m n)
  | _, _ =>
    match a, b with
    | str s, str t => some (compare s t)
    | _, _ => none

end Atom

namespace Value

/-- Whether two values are equal. -/
def equal : Value → Value → Bool
  | atom a, atom b => a.equal b
  | ref r, ref s => r = s
  | returning _ v, returning _ w => v.equal w
  | _, _ => false

end Value

namespace Heap

/-- A value as an integer operand. -/
def integer (h : Heap) : Value → Except Fault Int
  | .atom (.int n) => .ok n
  | v => do
    let shown ← h.quoted v
    .error (.notInteger shown)

/-- The answer to a question about the order of two values. Two signals stand as what they carry,
and equal ones need no order for that. -/
def ordered (h : Heap) (op : Order) : Value → Value → Except Fault Bool
  | .returning _ v, .returning _ w => if v.equal w then .ok (op.holds .eq) else h.ordered op v w
  | .atom a, .atom b =>
    match a.compare? b with
    | some c => .ok (op.holds c)
    | none => .error (.unordered op a.shape b.shape)
  | v, w => .error (.unordered op (h.shape v) (h.shape w))

/-- What an operator answers on two values. -/
def apply (h : Heap) (op : Operator) (v w : Value) : Except Fault Value :=
  match op with
  | .arithmetic op => do
    let a ← h.integer v
    let b ← h.integer w
    let c ← op.compute a b
    return .int c
  | .equal => .ok (.ofBool (v.equal w))
  | .unequal => .ok (.ofBool !(v.equal w))
  | .order op => do
    let b ← h.ordered op v w
    return .ofBool b

end Heap

end Scriptlet

import Scriptlet.Atom

/-!
# Values

What evaluation yields: an atom, a runtime object by reference, or the signal of a `return`, which
travels up to the function call that unwraps it. Nothing keeps a signal from being stored or passed
on like any other value. Every `return` makes a signal of its own, known by its number; scripts
cannot tell two signals apart that carry the same, an embedder can.
-/

namespace Scriptlet

/-- A reference to a runtime object: its place in the heap. -/
structure Ref where
  index : Nat
  deriving DecidableEq

/-- A value at run time. -/
inductive Value where
  | atom (a : Atom)
  | ref (r : Ref)
  | returning (signal : Nat) (value : Value)
  deriving DecidableEq

namespace Value

/-- The value that stands for nothing bound and no result. -/
abbrev undefined : Value := .atom .undefined

/-- An integer as a value. -/
abbrev int (n : Int) : Value := .atom (.int n)

/-- A string as a value. -/
abbrev str (s : String) : Value := .atom (.str s)

/-- The answer of a comparison: one or zero. -/
abbrev ofBool (b : Bool) : Value := int (if b then 1 else 0)

/-- What a call yields, given what the body of the function yielded: a signal gives up its value,
one layer of it, and anything else counts as no result. -/
def result : Value → Value
  | returning _ v => v
  | _ => undefined

end Value

end Scriptlet

/-!
# Atoms

The data that a script can write down as a literal: integers, strings, the two truth values that
only a host hands in, `null`, and the one value that stands for "nothing bound" and "no result".
-/

namespace Scriptlet

/-- A value without identity or parts. -/
inductive Atom where
  | int (n : Int)
  | str (s : String)
  | bool (b : Bool)
  | null
  | undefined
  deriving DecidableEq

/-- The classes of values, as messages about operands name them. -/
inductive Shape where
  | int
  | str
  | bool
  | null
  | undefined
  | plain
  | closure
  | primitive
  | environment
  | returning
  deriving DecidableEq

/-- The word for a class of values. -/
def Shape.name : Shape → String
  | .int => "int"
  | .str => "str"
  | .bool => "bool"
  | .null => "NoneType"
  | .undefined => "Undefined"
  | .plain => "PlainObject"
  | .closure => "Closure"
  | .primitive => "Primitive"
  | .environment => "Environment"
  | .returning => "Returning"

/-- The class of an atom. -/
def Atom.shape : Atom → Shape
  | .int _ => .int
  | .str _ => .str
  | .bool _ => .bool
  | .null => .null
  | .undefined => .undefined

/-- The number an atom counts as in a comparison: a truth value is one or zero. -/
def Atom.number? : Atom → Option Int
  | .int n => some n
  | .bool b => some (if b then 1 else 0)
  | _ => none

end Scriptlet

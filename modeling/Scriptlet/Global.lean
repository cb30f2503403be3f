import Scriptlet.Heap.Basic

/-!
# The global scope

A script runs in an environment of its own that has no parent and binds, before anything else,
itself under `global`, the routine that prints, and the operators under their signs.
-/

namespace Scriptlet.Global

/-- The primitives of a global scope, in the order in which it binds them. -/
def primitives : List (String × Host × Option Int) :=
  ("print", .print, none) :: Operator.all.map fun op => (op.sign, .operator op, some 2)

/-- What a global scope binds at first, given its reference: the primitives come right after it. -/
def bindings (scope : Ref) : Fields :=
  ("global", .ref scope) :: primitives.zipIdx.map fun (entry, i) =>
    (entry.1, .ref ⟨scope.index + 1 + i⟩)

/-- The objects of a global scope, itself first. -/
def objects (scope : Ref) : List Object :=
  ⟨.environment none, bindings scope⟩ ::
    primitives.map fun (name, host, arity) => ⟨.primitive name host arity, []⟩

/-- A heap with a new global scope. -/
def prepare (h : Heap) : Heap :=
  ⟨h.objects ++ (objects h.next).toArray⟩

end Scriptlet.Global

import Scriptlet.Heap.Fields
import Scriptlet.Host
import Scriptlet.Node

/-!
# The heap of runtime objects

Every runtime object has fields in the order in which they were first bound, and a kind that never
changes: a plain object, an environment with an optional parent, a closure with its code and the
scope it was made in, or a primitive with the host routine that it runs. The heap only grows, so a
reference stays good once it is given out, and an environment is older than those it is the parent
of.

Looking a name up in an environment goes along its `scopes`, the environment itself and those around
it, to the first that binds the name; other objects have only their own fields.
-/

namespace Scriptlet

/-- What makes a runtime object what it is. -/
inductive Object.Kind where
  | plain
  | environment (parent : Option Ref)
  /-- A function of the script. The scope it was made in is an environment, unless an embedder chose
  otherwise. -/
  | closure (code : Function) (captured : Value)
  /-- A function of the host, under a name, for so many arguments or for any number. Whoever asks
  for fewer than none gets a function that no call fits. -/
  | primitive (name : String) (host : Host) (arity : Option Int)

/-- The class of the objects of a kind. -/
def Object.Kind.shape : Object.Kind → Shape
  | plain => .plain
  | environment _ => .environment
  | closure .. => .closure
  | primitive .. => .primitive

/-- A runtime object. -/
structure Object where
  kind : Object.Kind
  fields : Fields

/-- The runtime objects by their references. -/
structure Heap where
  objects : Array Object

namespace Heap

/-- The heap before anything is made. -/
def empty : Heap := ⟨#[]⟩

/-- How many objects there are. -/
def size (h : Heap) : Nat := h.objects.size

/-- The object behind a reference. -/
def get? (h : Heap) (r : Ref) : Option Object := h.objects[r.index]?

/-- The kind of the object behind a reference. -/
def kind? (h : Heap) (r : Ref) : Option Object.Kind := (h.get? r).map Object.kind

/-- The reference that the next new object gets. -/
def next (h : Heap) : Ref := ⟨h.size⟩

/-- The heap with one more object. -/
def push (h : Heap) (object : Object) : Heap := ⟨h.objects.push object⟩

/-- The heap with a field of an object bound, in its old place if it has one. -/
def register (h : Heap) (r : Ref) (name : String) (value : Value) : Heap :=
  ⟨h.objects.modify r.index fun object =>
    { object with fields := object.fields.insert name value }⟩

/-- The value of an object's own field. -/
def own? (h : Heap) (r : Ref) (name : String) : Option Value :=
  (h.get? r).bind fun object => object.fields.get? name

/-- The environment around an environment. -/
def parent? (h : Heap) (r : Ref) : Option Ref :=
  match h.kind? r with
  | some (.environment parent) => parent
  | _ => none

/-- At most so many of an object and the environments around it, inmost first. -/
def scopesWithin (h : Heap) : Nat → Ref → List Ref
  | 0, _ => []
  | n + 1, r =>
    r :: match h.parent? r with
      | some parent => h.scopesWithin n parent
      | none => []

/-- The objects in which a lookup from a reference looks, inmost first. An environment is younger
than the one around it, so there are no more of them than references up to this one. -/
def scopes (h : Heap) (r : Ref) : List Ref :=
  h.scopesWithin (r.index + 1) r

/-- The value of a name as seen from an object: the nearest binding, undefined if there is none. -/
def lookup (h : Heap) (r : Ref) (name : String) : Value :=
  ((h.scopes r).findSome? fun scope => h.own? scope name).getD .undefined

/-- A new object makes the heap larger by one. -/
theorem size_push (h : Heap) (object : Object) : (h.push object).size = h.size + 1 := by
  simp [size, push]

/-- Binding a field makes no object. -/
theorem size_register (h : Heap) (r : Ref) (name : String) (value : Value) :
    (h.register r name value).size = h.size := by
  simp [size, register]

/-- A new object is found where the heap ended before. -/
theorem get?_push_next (h : Heap) (object : Object) : (h.push object).get? h.next = some object := by
  simp [get?, push, next, size]

/-- A new object is in the place of no other. -/
theorem get?_push_of_lt {h : Heap} {r : Ref} (hr : r.index < h.size) (object : Object) :
    (h.push object).get? r = h.get? r := by
  have hr' : r.index < h.objects.size := hr
  simp [get?, push, Array.getElem?_push, Nat.ne_of_lt hr']

/-- The object whose field is bound is as it was, but for that field. -/
theorem get?_register_self (h : Heap) (r : Ref) (name : String) (value : Value) :
    (h.register r name value).get? r =
      (h.get? r).map fun object => { object with fields := object.fields.insert name value } := by
  simp [get?, register, Array.getElem?_modify]

/-- Binding a field of one object leaves the others as they are. -/
theorem get?_register_of_ne {r s : Ref} (hrs : r ≠ s) (h : Heap) (name : String) (value : Value) :
    (h.register r name value).get? s = h.get? s := by
  have hi : r.index ≠ s.index := fun hi => hrs (congrArg Ref.mk hi)
  simp [get?, register, Array.getElem?_modify, hi]

/-- Binding a field changes no kind. -/
theorem kind?_register (h : Heap) (r s : Ref) (name : String) (value : Value) :
    (h.register r name value).kind? s = h.kind? s := by
  by_cases hrs : r = s
  · subst hrs
    simp only [kind?, get?_register_self, Option.map_map]
    rfl
  · simp only [kind?, get?_register_of_ne hrs]

end Heap

end Scriptlet

import Scriptlet.Atom.Text
import Scriptlet.Heap.Basic

/-!
# The text of values

A value has a plain text, which shows strings as they are, and a quoted one. A plain object shows
all its fields, in order, by their plain texts; where it holds an object that is being shown
already, the text is cut to a mark, so the text of any value is finite. Functions show their name,
environments nothing of what they hold.
-/

namespace Scriptlet

namespace Value

/-- The quoted text of a value, given the texts of objects. -/
def quotedBy (object : Ref → Except Fault String) : Value → Except Fault String
  | atom a => a.quoted
  | ref r => object r
  | returning _ v => do
    let inner ← v.quotedBy object
    return "Returning(value=" ++ inner ++ ")"

/-- The plain text of a value, given the texts of objects. A signal quotes what it carries. -/
def textBy (object : Ref → Except Fault String) : Value → Except Fault String
  | atom a => a.text
  | v => v.quotedBy object

end Value

namespace Fields

/-- The texts of fields, in order, given the texts of objects. -/
def textsBy (object : Ref → Except Fault String) : Fields → Except Fault (List String)
  | [] => .ok []
  | (name, value) :: rest => do
    let text ← value.textBy object
    let texts ← textsBy object rest
    return (name ++ ": " ++ text) :: texts

end Fields

namespace Heap

/-- The mark for a plain object inside its own text. -/
def cut : String := "\x7b...\x7d"

/-- The text of an object inside the objects of a path, descending at most so often. -/
def objectTextWithin (h : Heap) : Nat → List Ref → Ref → Except Fault String
  | 0, _, _ => .ok cut
  | n + 1, path, r =>
    match h.get? r with
    | some ⟨.plain, fields⟩ =>
      if r ∈ path then .ok cut
      else do
        let texts ← fields.textsBy (h.objectTextWithin n (r :: path))
        return "\x7b" ++ String.intercalate ", " texts ++ "\x7d"
    | some ⟨.environment _, _⟩ => .ok "environment"
    | some ⟨.closure code _, _⟩ => .ok ("function " ++ code.title)
    | some ⟨.primitive name _ _, _⟩ => .ok ("function " ++ name)
    | none => .ok cut

/-- The text of an object. No path is longer than there are objects, so the descent never runs out
before it meets an object of its path. -/
def objectText (h : Heap) (r : Ref) : Except Fault String :=
  h.objectTextWithin (h.size + 1) [] r

/-- The plain text of a value. -/
def text (h : Heap) (v : Value) : Except Fault String :=
  v.textBy h.objectText

/-- The quoted text of a value. -/
def quoted (h : Heap) (v : Value) : Except Fault String :=
  v.quotedBy h.objectText

/-- The quoted texts of values, in order. -/
def quotedAll (h : Heap) : List Value → Except Fault (List String)
  | [] => .ok []
  | v :: rest => do
    let text ← h.quoted v
    let texts ← h.quotedAll rest
    return text :: texts

/-- The plain texts of values, in order. -/
def textAll (h : Heap) : List Value → Except Fault (List String)
  | [] => .ok []
  | v :: rest => do
    let text ← h.text v
    let texts ← h.textAll rest
    return text :: texts

/-- The class of a value. -/
def shape (h : Heap) : Value → Shape
  | .atom a => a.shape
  | .ref r => ((h.kind? r).map Object.Kind.shape).getD .plain
  | .returning .. => .returning

end Heap

end Scriptlet

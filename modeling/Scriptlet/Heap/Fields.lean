import Scriptlet.Value

/-!
# Fields

The bindings of a runtime object, in the order in which their names were first bound. Binding a name
again changes its value and keeps its place (`Fields.insert`); what is read back is what was bound
last (`Fields.get?_insert_self`), and other names are left alone (`Fields.get?_insert_of_ne`).
-/

namespace Scriptlet

/-- The bindings of an object, in the order in which their names were first bound. -/
abbrev Fields := List (String × Value)

namespace Fields

/-- The value bound to a name. -/
def get? : Fields → String → Option Value
  | [], _ => none
  | (key, value) :: rest, name => if key = name then some value else get? rest name

/-- Binds a name: in its old place if it has one, else at the end. -/
def insert : Fields → String → Value → Fields
  | [], name, value => [(name, value)]
  | (key, old) :: rest, name, value =>
    if key = name then (key, value) :: rest else (key, old) :: insert rest name value

/-- The names that are bound. -/
def names (fields : Fields) : List String :=
  fields.map Prod.fst

/-- A name that is bound has the value that it was bound to. -/
theorem get?_insert_self (fields : Fields) (name : String) (value : Value) :
    (fields.insert name value).get? name = some value := by
  induction fields with
  | nil => simp [insert, get?]
  | cons entry rest ih =>
    obtain ⟨key, old⟩ := entry
    by_cases h : key = name <;> simp [insert, get?, h, ih]

/-- Binding a name leaves the other names as they are. -/
theorem get?_insert_of_ne {name other : String} (h : name ≠ other) (fields : Fields)
    (value : Value) : (fields.insert name value).get? other = fields.get? other := by
  induction fields with
  | nil => simp [insert, get?, h]
  | cons entry rest ih =>
    obtain ⟨key, old⟩ := entry
    by_cases hk : key = name
    · subst hk
      simp [insert, get?, h]
    · simp [insert, get?, hk, ih]

end Fields

end Scriptlet

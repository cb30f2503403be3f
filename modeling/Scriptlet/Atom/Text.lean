import Scriptlet.Fault
import Scriptlet.Text.Decimal
import Scriptlet.Text.Quoted

/-!
# The text of atoms

An atom has a plain text, which is what a script prints, and a quoted text, which tells strings from
the rest. They differ on strings alone. The one atom without a text is an integer with too many
digits.
-/

namespace Scriptlet.Atom

/-- The plain text of an atom. -/
def text : Atom → Except Fault String
  | int n => Fault.written (Text.decimal? n)
  | str s => .ok s
  | bool b => .ok (if b then "True" else "False")
  | null => .ok "None"
  | undefined => .ok "undefined"

/-- The quoted text of an atom. -/
def quoted : Atom → Except Fault String
  | str s => .ok (Text.quoted s)
  | a => a.text

end Scriptlet.Atom

import Scriptlet.Fault

/-!
# Printouts

What a line for the console comes to when its pieces may turn out to have no text. A line is written
piece by piece, so what stands before the first piece without a text is out already when the fault
surfaces.
-/

namespace Scriptlet

/-- Text that was put out, and the fault that cut it short, if one did. -/
structure Printout where
  text : String
  fault : Option Fault

namespace Printout

/-- A line of pieces with blanks between them. -/
def line : List (Except Fault String) → Printout
  | [] => ⟨"\n", none⟩
  | .error fault :: _ => ⟨"", some fault⟩
  | [.ok text] => ⟨text ++ "\n", none⟩
  | .ok text :: rest =>
    let after := line rest
    ⟨text ++ " " ++ after.text, after.fault⟩

/-- One printout after another, unless the first was cut short. -/
def followedBy (first second : Printout) : Printout :=
  match first.fault with
  | none => ⟨first.text ++ second.text, second.fault⟩
  | some _ => first

end Printout

end Scriptlet

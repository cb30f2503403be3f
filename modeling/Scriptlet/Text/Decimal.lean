/-!
# Decimal text of integers

Integers are written in decimal without leading zeros, `-` in front of the negative ones. There is a
limit to that: an integer of more than `digitLimit` digits has no text (`decimal?_eq_none_iff`), be
it a value, the number of a line or the number of arguments that a routine asks for.
-/

namespace Scriptlet.Text

/-- The decimal digits of a natural number. -/
def digits (n : Nat) : String :=
  String.ofList (Nat.toDigits 10 n)

/-- An integer in decimal, of however many digits. -/
def decimal (n : Int) : String :=
  if n < 0 then "-" ++ digits n.natAbs else digits n.natAbs

/-- How many digits the text of an integer may have. -/
def digitLimit : Nat := 4300

/-- The least natural number with more digits than that. -/
def textBound : Nat := Nat.pow 10 digitLimit

/-- The text of an integer, if it has no more than `digitLimit` digits. -/
def decimal? (n : Int) : Option String :=
  if (Nat.toDigits 10 n.natAbs).length ≤ digitLimit then some (decimal n) else none

/-- Exactly the integers with more digits than that have no text. -/
theorem decimal?_eq_none_iff_length {n : Int} :
    decimal? n = none ↔ digitLimit < (digits n.natAbs).length := by
  rw [decimal?, digits, String.length_ofList, ite_eq_right_iff, ← Nat.not_le]
  simp only [reduceCtorEq, imp_false]

/-- A text moved to the right end of a column. -/
def alignRight (width : Nat) (s : String) : String :=
  String.ofList (List.replicate (width - s.length) ' ') ++ s

/-- A line number in the margin of a listing, if it has a text: six columns at least, the first for
the sign. -/
def margin? (line : Int) : Option String :=
  (decimal? line).map fun text => alignRight 6 (if line < 0 then text else " " ++ text)

/-- Exactly the lines whose numbers have no text cannot be put in a margin. -/
theorem margin?_eq_none_iff {line : Int} : margin? line = none ↔ decimal? line = none := by
  rw [margin?, Option.map_eq_none_iff]

end Scriptlet.Text

import Scriptlet.Text.Printable

/-!
# Quoted text

A string as a literal shows it: between quotes, with everything escaped that could not be told apart
or seen otherwise. The single quote delimits, unless the text holds single quotes and no double one.
-/

namespace Scriptlet.Text

/-- The last `width` hexadecimal digits of a number, in lower case. -/
def hexDigits (width : Nat) (n : Nat) : List Char :=
  match width with
  | 0 => []
  | width + 1 => hexDigits width (n / 16) ++ [Nat.digitChar (n % 16)]

/-- The quote that delimits a text: the one that saves escapes, the single one when in doubt. -/
def delimiter (s : List Char) : Char :=
  if s.contains '\x27' && !s.contains '"' then '"' else '\x27'

/-- A character inside quotes: a backslash goes before the delimiter and before itself, the three
common controls have a letter, and other characters that are not printable give their code. -/
def escapeChar (quote c : Char) : List Char :=
  if c = quote ∨ c = '\\' then ['\\', c]
  else if c = '\n' then ['\\', 'n']
  else if c = '\r' then ['\\', 'r']
  else if c = '\t' then ['\\', 't']
  else if isPrintable c then [c]
  else if c.toNat < 0x100 then '\\' :: 'x' :: hexDigits 2 c.toNat
  else if c.toNat < 0x10000 then '\\' :: 'u' :: hexDigits 4 c.toNat
  else '\\' :: 'U' :: hexDigits 8 c.toNat

/-- A text between quotes. -/
def quoted (s : String) : String :=
  let quote := delimiter s.toList
  String.ofList (quote :: s.toList.flatMap (escapeChar quote) ++ [quote])

end Scriptlet.Text

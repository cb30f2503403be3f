import Scriptlet.Atom.Text

/-!
# Snippets

There is no script text to quote from, only the tree, so a diagnostic shows a node as a snippet: one
line that resembles the script. The bodies of functions and the branches of a choice are left out. A
snippet fails at the first place, from left to right, where something other than an expression or an
integer without a text would have to be shown.
-/

namespace Scriptlet.Node

/-- Texts in a row, commas between them. -/
def commaSeparated (texts : List String) : String :=
  String.intercalate ", " texts

mutual

/-- A node as one line of script. -/
def snippet : Node → Except Fault String
  | block [] _ => .ok "\x7b\x7d"
  | block (first :: rest) _ => do
    let texts ← snippets (first :: rest)
    return "\x7b " ++ String.intercalate "; " texts ++ " \x7d"
  | literal (.str s) _ => .ok ("\"" ++ s ++ "\"")
  | literal value _ => value.text
  | call callee args _ => do
    let target ← callee.snippet
    let texts ← snippets args
    return target ++ "(" ++ commaSeparated texts ++ ")"
  | var name _ => .ok name
  | assign name value declares _ => do
    let text ← value.snippet
    return (if declares then "var " else "") ++ name ++ " = " ++ text
  | function name params _ _ =>
    let title := match name with
      | none => ""
      | some name => if name = "" then "" else " " ++ name
    .ok ("function" ++ title ++ "(" ++ commaSeparated params ++ ") \x7b...\x7d")
  | ret value _ => do
    let text ← value.snippet
    return "return " ++ text
  | cond test _ _ _ => do
    let text ← test.snippet
    return "if (" ++ text ++ ") \x7b...\x7d else \x7b...\x7d"
  | object fields _ => do
    let texts ← fieldSnippets fields
    return "\x7b" ++ commaSeparated texts ++ "\x7d"
  | field receiver name _ => do
    let owner ← receiver.snippet
    return owner ++ "." ++ name
  | setField receiver name value _ => do
    let owner ← receiver.snippet
    let text ← value.snippet
    return owner ++ "." ++ name ++ " = " ++ text
  | method receiver name args _ => do
    let owner ← receiver.snippet
    let texts ← snippets args
    return owner ++ "." ++ name ++ "(" ++ commaSeparated texts ++ ")"
  | script _ => .error (.noSnippet .script)
  | absent => .error (.noSnippet .absent)

/-- Nodes as snippets, in order. -/
def snippets : List Node → Except Fault (List String)
  | [] => .ok []
  | first :: rest => do
    let text ← first.snippet
    let texts ← snippets rest
    return text :: texts

/-- The initializers of an object as snippets, in order, each after its name. -/
def fieldSnippets : List (String × Node) → Except Fault (List String)
  | [] => .ok []
  | (name, value) :: rest => do
    let text ← value.snippet
    let texts ← fieldSnippets rest
    return (name ++ ": " ++ text) :: texts

end

/-- A node as a listing shows it: its line in the margin, its snippet, and a caption if there is
one. The line is looked for first, and written last. -/
def illustrate (site : Node) (caption : String) : Except Fault String :=
  match site.line? with
  | none => .error (.noLine site.kind)
  | some line => do
    let text ← site.snippet
    let margin ← Fault.written (Text.margin? line)
    return margin ++ " | " ++ text ++ (if caption = "" then "" else "   <-- " ++ caption)

end Scriptlet.Node
